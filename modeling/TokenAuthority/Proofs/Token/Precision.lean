import TokenAuthority.Proofs.Token.Precedence

/-!
# Times that lose their fractions

Claims are sent with times in whole seconds. They are stamped at the start of a second, but expire a lifetime later,
which may lie within a second. Such claims do not come back from their token as they were minted, and neither do claims
that are stamped in a leap second. Main statement: `Authority.precision_of_stamped`.
-/

namespace TokenAuthority

/-! ## Instants -/

/-- A duration of whole seconds. -/
def Duration.IsWhole (d : Duration) : Prop := (nanosPerSecond : Int) ∣ d.nanoseconds

namespace Instant

variable {t : Instant}

theorem wholeSecond_eq_iff : t.wholeSecond = t ↔ t.nanoseconds = 0 := by
  constructor
  · intro h
    rw [← h]
    rfl
  · exact wholeSecond_of_nanoseconds

end Instant

namespace Claims

variable {subject : UserId} {roles : RoleSet} {issuer : String} {now : Instant} {lifetime : Duration} {claims : Claims}

theorem onWire_eq_iff :
    claims.onWire = claims ↔ claims.issuedAt.nanoseconds = 0 ∧ claims.expiresAt.nanoseconds = 0 := by
  rw [← Instant.wholeSecond_eq_iff, ← Instant.wholeSecond_eq_iff]
  constructor
  · intro h
    exact ⟨congrArg Claims.issuedAt h, congrArg Claims.expiresAt h⟩
  · rintro ⟨hissued, hexpires⟩
    rw [onWire, hissued, hexpires]

/-- Stamped claims have whole-second times when they are stamped for whole seconds, and not in a leap second. -/
theorem whole_of_stamp?_iff (h : stamp? subject roles issuer now lifetime = some claims) :
    (claims.issuedAt.nanoseconds = 0 ∧ claims.expiresAt.nanoseconds = 0) ↔
      now.isLeap = false ∧ lifetime.IsWhole := by
  obtain ⟨expiresAt, hadd, rfl⟩ := Option.map_eq_some_iff.1 h
  cases hleap : now.isLeap with
  | true =>
      have hstart : now.startOfSecond.nanoseconds = nanosPerSecond := by simp [Instant.startOfSecond, hleap]
      simp [hstart, nanosPerSecond]
  | false =>
      have hfraction := Instant.nanoseconds_add?_startOfSecond hleap hadd
      have hwhole : expiresAt.nanoseconds = 0 ↔ lifetime.IsWhole := by
        rw [Duration.IsWhole, Int.dvd_iff_emod_eq_zero, ← hfraction, Int.natCast_eq_zero]
      simp [Instant.nanoseconds_startOfSecond hleap, hwhole]

/-- The JSON of claims reads as the claims as they are sent. -/
theorem decodeWhole_written (claims : Claims) :
    Json.decodeWhole decoder (Json.Source.ofChars claims.toDocument.chars) = .ok claims.onWire := by
  rw [Json.decodeWhole_chars, decoder_toDocument]

end Claims

namespace Authority

variable {authority : Authority} {registry : Registry} {token : String} {now : Instant} {claims : Claims}

/-- An issued token holds as its claims are sent, or never if these expire in the second that they are issued in. -/
theorem verify_of_issue (hissuer : claims.issuer = authority.issuer) (hissue : issue registry claims = .ok token)
    (t : Instant) :
    authority.verify registry token t =
      if claims.onWire.issuedAt < claims.onWire.expiresAt then
        if t < claims.onWire.expiresAt then .ok claims.onWire else .error .expired
      else .error .emptyWindow := by
  obtain ⟨pair, hregistered, _, hsign⟩ := exists_pair_of_issue hissue
  obtain ⟨s, hcomposed, hissued⟩ := exists_issued_of_signWith hsign
  split
  · rename_i hwindow
    exact (hissued.accepted hregistered hcomposed hwindow hwindow hissuer).verify_eq t
  · rename_i hempty
    rw [verify_of_pair hcomposed hregistered hissued.named, checkUnder_of_said hissued.signed hissued.said,
      checkWindow_of_empty hempty]
    rfl

/-- Claims that are stamped come back from their JSON as they are sent: unchanged if and only if they are stamped for
whole seconds and not in a leap second. The token that is minted with them holds for the claims as they are sent. So it
gives back the claims that it was minted with, until they expire, if and only if these survive being sent. -/
theorem precision_of_stamped {user : UserId} {roles : RoleSet}
    (hstamp : Claims.stamp? user roles authority.issuer now authority.lifetime = some claims) :
    Json.decodeWhole Claims.decoder (Json.Source.ofChars claims.toDocument.chars) = .ok claims.onWire ∧
    ((claims.issuedAt.nanoseconds = 0 ∧ claims.expiresAt.nanoseconds = 0) ↔
      now.isLeap = false ∧ authority.lifetime.IsWhole) ∧
    (claims.onWire = claims ↔ now.isLeap = false ∧ authority.lifetime.IsWhole) ∧
    ∀ registry token, authority.mint registry user roles now = .ok (token, claims) →
      (∀ t, authority.verify registry token t =
        if claims.onWire.issuedAt < claims.onWire.expiresAt then
          if t < claims.onWire.expiresAt then .ok claims.onWire else .error .expired
        else .error .emptyWindow) ∧
      (claims.issuedAt < claims.expiresAt →
        ((∀ t, t < claims.expiresAt → authority.verify registry token t = .ok claims) ↔
          now.isLeap = false ∧ authority.lifetime.IsWhole)) := by
  have hwhole := Claims.whole_of_stamp?_iff hstamp
  have hwire : claims.onWire = claims ↔ now.isLeap = false ∧ authority.lifetime.IsWhole :=
    Claims.onWire_eq_iff.trans hwhole
  refine ⟨Claims.decodeWhole_written claims, hwhole, hwire, fun registry token hmint => ?_⟩
  have hverify := verify_of_issue (issuer_of_mint hmint) (stamp?_of_mint hmint).2
  refine ⟨hverify, fun hwindow => ⟨fun hholds => ?_, fun hcondition t ht => ?_⟩⟩
  · obtain ⟨s, hcomposed, hsaid⟩ := said_of_mint hmint
    obtain ⟨s', pair, haccepted⟩ := accepted_of_verify (hholds _ hwindow)
    have hsame : s' = s := haccepted.composed.eq hcomposed
    subst hsame
    exact hwire.1 (hsaid.eq haccepted.said)
  · have hsame := hwire.2 hcondition
    rw [hverify, hsame, if_pos hwindow, if_pos ht]

/-! ## Samples -/

/-- Half a second. -/
def halfSecond : Duration := ⟨500000000, by decide, by decide⟩

theorem exists_mint_half : ∃ minted, mint ⟨"medisync", halfSecond⟩ (sampleRegistry "k") ⟨7⟩ (.ofList [.user])
    (.atSecond 60 (by decide) (by decide)) = .ok minted :=
  Outcome.exists_of_isSome (by decide +kernel)

/-- A token that is minted for half a second never holds. -/
theorem precision_of_stamped_half : ∃ token claims,
    mint ⟨"medisync", halfSecond⟩ (sampleRegistry "k") ⟨7⟩ (.ofList [.user]) (.atSecond 60 (by decide) (by decide)) =
      .ok (token, claims) ∧
    claims.issuedAt < claims.expiresAt ∧
    ∀ t, verify ⟨"medisync", halfSecond⟩ (sampleRegistry "k") token t = .error .emptyWindow := by
  obtain ⟨⟨token, claims⟩, hmint⟩ := exists_mint_half
  have hstamp := (stamp?_of_mint hmint).1
  obtain ⟨_, _, _, htoken⟩ := precision_of_stamped hstamp
  obtain ⟨hverify, _⟩ := htoken _ _ hmint
  cases Option.some.inj hstamp
  refine ⟨token, _, hmint, by decide, fun t => ?_⟩
  rw [hverify, if_neg (by decide)]

/-- Claims that are stamped for a second and a half expire within a second, and do not come back from their JSON. -/
theorem fraction_of_stamped_lost : ∃ claims,
    Claims.stamp? ⟨7⟩ (.ofList [.user]) "medisync" (.atSecond 1700000000 (by decide) (by decide))
      ⟨1500000000, by decide, by decide⟩ = some claims ∧
    claims.expiresAt.nanoseconds = 500000000 ∧
    Json.decodeWhole Claims.decoder (Json.Source.ofChars claims.toDocument.chars) ≠ .ok claims := by
  refine ⟨_, rfl, by decide, ?_⟩
  rw [Claims.decodeWhole_written]
  intro h
  have hwire := Except.ok.inj h
  exact absurd (Claims.onWire_eq_iff.1 hwire).2 (by decide)

end Authority

end TokenAuthority
