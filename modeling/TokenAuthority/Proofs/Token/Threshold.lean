import TokenAuthority.Proofs.Token.Precedence

/-!
# Verification as time passes

Of the instant at which a token is verified only one thing matters: whether its claims have expired. So a token is
refused alike at all times, or gets one answer until a whole second and is refused as expired from then on. Main
statement: `Authority.verify_threshold`.
-/

namespace TokenAuthority

/-! ## Times that are read -/

namespace Claims

open Json

/-- The instant that the member of claims for their expiry gives. -/
def expiry? (v : Value) : Option Instant :=
  (Record.member? slots "exp" v).bind fun w => (secondsDecoder w).toOption

theorem keeps_expiresAt : Slot.Keeps slots "exp" Draft.expiresAt secondsDecoder := by
  iterate 4 refine .cons_of_ne ?_ (by decide) fun _ _ => rfl
  exact .cons_of .nil fun _ _ => rfl

/-- Claims expire at the instant that their own member gives. -/
theorem expiry?_of_decoder {v : Value} {claims : Claims} (h : decoder v = .ok claims) :
    expiry? v = some claims.expiresAt := by
  obtain ⟨draft, hread, h⟩ := Outcome.bind_eq_ok.1 h
  obtain ⟨_, _, h⟩ := Outcome.bind_eq_ok.1 h
  obtain ⟨_, _, h⟩ := Outcome.bind_eq_ok.1 h
  obtain ⟨_, _, h⟩ := Outcome.bind_eq_ok.1 h
  obtain ⟨_, _, h⟩ := Outcome.bind_eq_ok.1 h
  obtain ⟨expiresAt, hrequired, h⟩ := Outcome.bind_eq_ok.1 h
  cases h
  rw [expiry?, ← Record.get_of_read keeps_expiresAt (by decide) (by simp [slots, Slot.of]) rfl hread]
  cases hdraft : draft.expiresAt with
  | none => rw [hdraft] at hrequired; cases hrequired
  | some e => rw [hdraft] at hrequired; cases hrequired; rfl

theorem nanoseconds_of_secondsDecoder {v : Value} {t : Instant} (h : secondsDecoder v = .ok t) : t.nanoseconds = 0 := by
  obtain ⟨seconds, _, h⟩ := Outcome.bind_eq_ok.1 h
  split at h
  · rename_i hparts
    cases h
    exact (Instant.eq_of_ofParts? hparts).2
  · cases h

/-- Claims that are read expire at a whole second. -/
theorem nanoseconds_of_decoder {v : Value} {claims : Claims} (h : decoder v = .ok claims) :
    claims.expiresAt.nanoseconds = 0 := by
  obtain ⟨w, _, hw⟩ := Option.bind_eq_some_iff.1 (expiry?_of_decoder h)
  cases hread : secondsDecoder w with
  | error fault => rw [hread] at hw; cases hw
  | ok t =>
      rw [hread] at hw
      cases hw
      exact nanoseconds_of_secondsDecoder hread

end Claims

/-! ## Answers as time passes -/

namespace Authority

variable {authority : Authority} {registry : Registry} {token : String} {s : Segments} {pair : KeyPair}
  {claims : Claims}

/-- What signed claims are answered with before they expire. -/
def outcomeBefore (authority : Authority) (claims : Claims) : Except TokenError Claims :=
  if claims.issuer = authority.issuer then .ok claims else .error (.wrongIssuer authority.issuer claims.issuer)

/-- What a token is answered with as time passes: one refusal at all times, other than as expired, or until its claims
expire what they are answered with, and from then on that they have. -/
inductive Course (authority : Authority) (registry : Registry) (token : String) : Prop
  | steady (error : TokenError) (hne : error ≠ .expired)
      (h : ∀ now, authority.verify registry token now = .error error) : Course authority registry token
  | expiring (claims : Claims) (hopen : claims.issuedAt < claims.expiresAt) (hwhole : claims.expiresAt.nanoseconds = 0)
      (h : ∀ now, authority.verify registry token now =
        if now < claims.expiresAt then authority.outcomeBefore claims else .error .expired) :
      Course authority registry token

/-- Signed claims have an open window, and expire, or are refused for not having one at all times. -/
theorem course_of_said (hcomposed : s.Compose token) (hmem : pair ∈ registry.keys.pairs) (hnamed : s.NamesKey pair.kid)
    (hsigned : s.SignedUnder pair.publicKey) (hsaid : s.Says claims) : Course authority registry token := by
  have hverify (now : Instant) : authority.verify registry token now =
      (checkWindow claims now >>= fun _ => authority.outcomeBefore claims) := by
    rw [verify_of_pair hcomposed hmem hnamed, checkUnder_of_said hsigned hsaid]
    rfl
  by_cases hopen : claims.issuedAt < claims.expiresAt
  · obtain ⟨_, _, hread, _⟩ := hsaid
    refine .expiring claims hopen (Claims.nanoseconds_of_decoder hread) fun now => ?_
    rw [hverify]
    split
    · rename_i hcurrent
      rw [checkWindow_eq_ok_iff.2 ⟨hopen, hcurrent⟩]
      rfl
    · rename_i hexpired
      rw [checkWindow_of_expired hopen hexpired]
      rfl
  · refine .steady .emptyWindow (by simp) fun now => ?_
    rw [hverify, checkWindow_of_empty hopen]
    rfl

namespace Check

variable {now : Instant} {check : Check} {error : TokenError}

/-- Of the checks only that of the expiry depends on the time. -/
theorem passes_congr {now' : Instant} (hne : check ≠ .expiry) :
    check.Passes authority registry token now ↔ check.Passes authority registry token now' := by
  cases check with
  | expiry => exact absurd rfl hne
  | _ => exact Iff.rfl

/-- A token that fails a check before that of the expiry first does so at all times. -/
theorem FailsFirst.steady (h : FailsFirst authority registry token now check) (hbefore : check ∈ Check.expiry.earlier)
    (now' : Instant) : FailsFirst authority registry token now' check := by
  have hnotMem : Check.expiry ∉ check.earlier := by
    cases check with
    | expiry => exact absurd hbefore (by decide)
    | issuer => exact absurd hbefore (by decide)
    | _ => decide
  have hne : check ≠ .expiry := by
    rintro rfl
    exact absurd hbefore (by decide)
  refine ⟨fun hpasses => h.1 ((passes_congr hne).1 hpasses), fun c hc => (passes_congr ?_).1 (h.2 c hc)⟩
  rintro rfl
  exact hnotMem hc

theorem Reports.ne_expired (h : Reports authority token check error) (hne : check ≠ .expiry) : error ≠ .expired := by
  cases h with
  | expiry => exact absurd rfl hne
  | _ => simp

/-- A check that fails first is before that of the expiry, if one of those is failed. -/
theorem FailsFirst.mem_earlier {c : Check} (h : FailsFirst authority registry token now check)
    (hc : c ∈ Check.expiry.earlier) (hfails : ¬ c.Passes authority registry token now) :
    check ∈ Check.expiry.earlier := by
  cases check with
  | expiry => exact absurd (h.2 c hc) hfails
  | issuer =>
      have hmem : c ∈ Check.issuer.earlier := by
        revert hc
        cases c <;> decide
      exact absurd (h.2 c hmem) hfails
  | _ => decide

end Check

theorem course (authority : Authority) (registry : Registry) (token : String) : Course authority registry token := by
  -- Any instant will do, since the checks before that of the expiry do not depend on it.
  have now : Instant := .atSecond 0 (by decide) (by decide)
  by_cases hpasses : ∀ check ∈ Check.expiry.earlier, check.Passes authority registry token now
  · obtain ⟨s, hcomposed, pair, hmem, hnamed, hsigned⟩ := hpasses .signature (by decide)
    obtain ⟨claims, hsaid⟩ := (Check.passes_iff hcomposed).1 (hpasses .claims (by decide))
    exact course_of_said hcomposed hmem hnamed hsigned hsaid
  · push Not at hpasses
    obtain ⟨check, hcheck, hfails⟩ := hpasses
    obtain ⟨first, hfirst⟩ := Check.exists_failsFirst hfails
    obtain ⟨error, hreports⟩ := hfirst.exists_reports
    have hbefore := hfirst.mem_earlier hcheck hfails
    refine .steady error (hreports.ne_expired ?_) fun now' => verify_of_failsFirst (hfirst.steady hbefore now') hreports
    rintro rfl
    exact absurd hbefore (by decide)

theorem outcomeBefore_ne_expired (claims : Claims) : authority.outcomeBefore claims ≠ .error .expired := by
  rw [outcomeBefore]
  split <;> simp

theorem outcomeBefore_cases (authority : Authority) (claims : Claims) :
    (∃ claims', authority.outcomeBefore claims = .ok claims' ∧ claims'.expiresAt = claims.expiresAt) ∨
      ∃ issuer, issuer ≠ authority.issuer ∧
        authority.outcomeBefore claims = .error (.wrongIssuer authority.issuer issuer) := by
  by_cases hissuer : claims.issuer = authority.issuer
  · exact .inl ⟨claims, if_pos hissuer, rfl⟩
  · exact .inr ⟨claims.issuer, hissuer, if_neg hissuer⟩

theorem Course.expired_of_le (h : Course authority registry token) {t t' : Instant} (hle : t ≤ t')
    (hexpired : authority.verify registry token t = .error .expired) :
    authority.verify registry token t' = .error .expired := by
  cases h with
  | steady error hne h => exact absurd (Except.error.inj ((h t).symm.trans hexpired)) hne
  | expiring claims _ _ h =>
      have hlate : ¬ t < claims.expiresAt := by
        intro hcurrent
        rw [h, if_pos hcurrent] at hexpired
        exact outcomeBefore_ne_expired claims hexpired
      rw [h, if_neg fun hcurrent => hlate (Instant.lt_of_le_of_lt hle hcurrent)]

theorem Course.accepted_of_le (h : Course authority registry token) {t t' : Instant} (hle : t' ≤ t)
    (haccepted : authority.verify registry token t = .ok claims) :
    authority.verify registry token t' = .ok claims := by
  cases h with
  | steady error _ h => exact nomatch (h t).symm.trans haccepted
  | expiring said _ _ h =>
      have hcurrent : t < said.expiresAt := by
        by_contra hlate
        rw [h, if_neg hlate] at haccepted
        cases haccepted
      rw [h, if_pos hcurrent] at haccepted
      rw [h, if_pos (Instant.lt_of_le_of_lt hle hcurrent), haccepted]

/-- A token is refused alike at all times, other than as expired, or there is a whole second from which on it has
expired, and before which it has one answer: its claims, which expire then, or that they are of another issuer. So a
token that has expired has done so at every later instant, and one that is accepted is accepted at every earlier one. -/
theorem verify_threshold (authority : Authority) (registry : Registry) (token : String) :
    ((∃ error, error ≠ .expired ∧ ∀ now, authority.verify registry token now = .error error) ∨
      ∃ e outcome, e.nanoseconds = 0 ∧ (∃ now, now < e) ∧
        (∀ now, authority.verify registry token now = if now < e then outcome else .error .expired) ∧
        ((∃ claims, outcome = .ok claims ∧ claims.expiresAt = e) ∨
          ∃ issuer, issuer ≠ authority.issuer ∧ outcome = .error (.wrongIssuer authority.issuer issuer))) ∧
    (∀ t t', t ≤ t' → authority.verify registry token t = .error .expired →
      authority.verify registry token t' = .error .expired) ∧
    ∀ t t' claims, t' ≤ t → authority.verify registry token t = .ok claims →
      authority.verify registry token t' = .ok claims := by
  have hcourse := course authority registry token
  refine ⟨?_, fun t t' hle => hcourse.expired_of_le hle, fun t t' claims hle => hcourse.accepted_of_le hle⟩
  cases hcourse with
  | steady error hne h => exact .inl ⟨error, hne, h⟩
  | expiring claims hopen hwhole h =>
      exact .inr ⟨_, _, hwhole, ⟨_, hopen⟩, h, outcomeBefore_cases authority claims⟩

/-- The leap second before the sample claims expire. -/
def sampleLeap : Instant := ⟨59, 1500000000, by decide, by decide, by decide, by decide⟩

/-- The sample token is accepted in the leap second before its claims expire, so at all times before that, and has
expired at the start of the next second, so at all times after it. -/
theorem verify_threshold_sample : ∃ token, issue (sampleRegistry sampleKid) sampleClaims = .ok token ∧
    (∀ t, t ≤ sampleLeap → sampleAuthority.verify (sampleRegistry sampleKid) token t = .ok sampleClaims) ∧
    ∀ t, sampleClaims.expiresAt ≤ t → sampleAuthority.verify (sampleRegistry sampleKid) token t = .error .expired := by
  obtain ⟨token, hissue⟩ := exists_issue_sample
  obtain ⟨s, pair, haccepted⟩ : ∃ s pair, Accepted sampleAuthority (sampleRegistry sampleKid) token sampleLeap
      sampleClaims s pair :=
    accepted_of_issue rfl rfl rfl (by decide) hissue (by decide)
  obtain ⟨_, hexpired, hearlier⟩ := verify_threshold sampleAuthority (sampleRegistry sampleKid) token
  refine ⟨token, hissue, fun t ht => hearlier _ t _ ht (verify_of_accepted haccepted),
    fun t ht => hexpired sampleClaims.expiresAt t ht ?_⟩
  rw [haccepted.verify_eq, if_neg (by decide)]

end Authority

end TokenAuthority
