import TokenAuthority.Proofs.Time.Instants
import TokenAuthority.Proofs.Token.Lifetime

/-!
# Stamped claims

Claims are stamped from the start of the second they are asked for in, and their expiry is the exact sum of that start
and the lifetime. Where there is no instant for the sum there are no claims, and then nothing is signed. Main statement:
`Authority.stamp_exact`.
-/

namespace TokenAuthority

/-- The nanoseconds from the start of 1970 to the start of the second an instant lies in, rounded toward the past. -/
def Instant.elapsedToSecond (t : Instant) : Int := t.elapsed / nanosPerSecond * nanosPerSecond

theorem Instant.inRange_elapsedToSecond {t : Instant} (h : t.isLeap = false) : InRange t.elapsedToSecond := by
  have hstart := inRange_elapsed ((isLeap_startOfSecond t).trans h)
  rwa [elapsed_startOfSecond h] at hstart

/-- What stamped claims say. Outside leap seconds the elapsed nanoseconds determine the instant. -/
structure Claims.Stamped (claims : Claims) (subject : UserId) (roles : RoleSet) (issuer : String) (start ending : Int) :
    Prop where
  subject : claims.subject = subject
  roles : claims.roles = roles
  issuer : claims.issuer = issuer
  issued_not_leap : claims.issuedAt.isLeap = false
  elapsed_issuedAt : claims.issuedAt.elapsed = start
  expires_not_leap : claims.expiresAt.isLeap = false
  elapsed_expiresAt : claims.expiresAt.elapsed = ending

namespace Claims

variable {subject : UserId} {roles : RoleSet} {issuer : String} {now : Instant} {lifetime : Duration} {claims : Claims}

theorem stamp?_eq_none_iff (hleap : now.isLeap = false) :
    stamp? subject roles issuer now lifetime = none ↔
      ¬ Instant.InRange (now.elapsedToSecond + lifetime.nanoseconds) := by
  rw [stamp?, Option.map_eq_none_iff, Instant.add?_eq_none_iff ((Instant.isLeap_startOfSecond now).trans hleap),
    Instant.elapsed_startOfSecond hleap, Instant.elapsedToSecond]

theorem stamp?_eq_some_iff (hleap : now.isLeap = false) :
    stamp? subject roles issuer now lifetime = some claims ↔
      claims.Stamped subject roles issuer now.elapsedToSecond (now.elapsedToSecond + lifetime.nanoseconds) := by
  have hstart : now.startOfSecond.isLeap = false := (Instant.isLeap_startOfSecond now).trans hleap
  have helapsed : now.startOfSecond.elapsed = now.elapsedToSecond := Instant.elapsed_startOfSecond hleap
  have hadd (e : Instant) : now.startOfSecond.add? lifetime = some e ↔
      e.isLeap = false ∧ e.elapsed = now.elapsedToSecond + lifetime.nanoseconds := by
    rw [Instant.add?_eq_some_iff hstart, helapsed]
  rw [stamp?, Option.map_eq_some_iff]
  constructor
  · rintro ⟨e, he, rfl⟩
    obtain ⟨hending, hexact⟩ := (hadd e).1 he
    exact ⟨rfl, rfl, rfl, hstart, helapsed, hending, hexact⟩
  · rintro ⟨rfl, rfl, rfl, hissued, hexact, hending, hsum⟩
    have hsame : now.startOfSecond = claims.issuedAt :=
      Instant.elapsed_injective hstart hissued (helapsed.trans hexact.symm)
    exact ⟨claims.expiresAt, (hadd _).2 ⟨hending, hsum⟩, by rw [hsame]⟩

end Claims

namespace Authority

variable {registry : Registry} {user : UserId} {roles : RoleSet} {issuer : String} {now : Instant}
  {lifetime : Duration} {claims : Claims}

theorem issue_ne_lifetimeOutOfRange : issue registry claims ≠ .error .lifetimeOutOfRange := by
  intro h
  unfold issue at h
  split at h
  · simp only [signWith] at h
    split at h <;> cases h
  · cases h

theorem mint_of_stamp? (h : Claims.stamp? user roles issuer now lifetime = some claims) :
    mint ⟨issuer, lifetime⟩ registry user roles now = (issue registry claims).map fun token => (token, claims) := by
  rw [mint, h]

theorem mint_eq_lifetimeOutOfRange_iff :
    mint ⟨issuer, lifetime⟩ registry user roles now = .error .lifetimeOutOfRange ↔
      Claims.stamp? user roles issuer now lifetime = none := by
  cases hstamp : Claims.stamp? user roles issuer now lifetime with
  | none => simp [mint, hstamp]
  | some claims =>
      rw [mint_of_stamp? hstamp]
      have hissue : issue registry claims ≠ .error .lifetimeOutOfRange := issue_ne_lifetimeOutOfRange
      cases h : issue registry claims with
      | ok token => simp [Except.map]
      | error error => simpa [Except.map, h] using hissue

/-- Outside leap seconds, claims are stamped from the start of the second, which is always an instant, and expire
exactly a lifetime later. There are none if and only if the exact sum is out of range. Minting then fails whatever the
keys are, for this reason and never else; in range it signs these claims. -/
theorem stamp_exact (user : UserId) (roles : RoleSet) (issuer : String) (lifetime : Duration)
    (hleap : now.isLeap = false) :
    (now.elapsedToSecond ≤ now.elapsed ∧ now.elapsed < now.elapsedToSecond + nanosPerSecond ∧
      Instant.InRange now.elapsedToSecond) ∧
    (Claims.stamp? user roles issuer now lifetime = none ↔
      ¬ Instant.InRange (now.elapsedToSecond + lifetime.nanoseconds)) ∧
    (∀ claims, Claims.stamp? user roles issuer now lifetime = some claims ↔
      claims.Stamped user roles issuer now.elapsedToSecond (now.elapsedToSecond + lifetime.nanoseconds)) ∧
    ∀ registry,
      (mint ⟨issuer, lifetime⟩ registry user roles now = .error .lifetimeOutOfRange ↔
        ¬ Instant.InRange (now.elapsedToSecond + lifetime.nanoseconds)) ∧
      ∀ claims : Claims,
        claims.Stamped user roles issuer now.elapsedToSecond (now.elapsedToSecond + lifetime.nanoseconds) →
        mint ⟨issuer, lifetime⟩ registry user roles now =
          (issue registry claims).map fun token => (token, claims) := by
  have hpos : (0 : Int) < nanosPerSecond := by decide
  have hnext := Int.lt_ediv_add_one_mul_self now.elapsed hpos
  rw [Int.add_mul, Int.one_mul] at hnext
  refine ⟨⟨?_, hnext, Instant.inRange_elapsedToSecond hleap⟩, Claims.stamp?_eq_none_iff hleap,
    fun claims => Claims.stamp?_eq_some_iff hleap, fun registry => ⟨?_, fun claims hstamped => ?_⟩⟩
  · exact Int.ediv_mul_le _ (Int.ne_of_gt hpos)
  · exact mint_eq_lifetimeOutOfRange_iff.trans (Claims.stamp?_eq_none_iff hleap)
  · exact mint_of_stamp? ((Claims.stamp?_eq_some_iff hleap).2 hstamped)

/-! ## Samples -/

/-- Half a second after the first instant. -/
def dawn : Instant := ⟨Instant.firstSecond, 500000000, by decide, by decide, by decide, by decide⟩

/-- The last instant. -/
def dusk : Instant where
  seconds := Instant.lastSecond
  nanoseconds := beforeEpoch.nanoseconds
  first_le := by decide
  le_last := Int.le_refl _
  nanoseconds_lt := beforeEpoch.nanoseconds_lt
  leap_at_end := fun h => absurd h (by decide)

/-- A nanosecond before 1970 claims are stamped a whole second before it. At both ends of the range the shortest and the
longest duration lead out of it; a nanosecond before the first instant is out, and what is left of the last second is
in. -/
theorem stamp_exact_ends :
    (beforeEpoch.isLeap = false ∧ dawn.isLeap = false ∧ dusk.isLeap = false) ∧
    Claims.stamp? ⟨7⟩ (.ofList []) "medisync" beforeEpoch ⟨1, by decide, by decide⟩ =
      some ⟨⟨7⟩, .ofList [], "medisync", .atSecond (-1) (by decide) (by decide),
        ⟨-1, 1, by decide, by decide, by decide, by decide⟩⟩ ∧
    Claims.stamp? ⟨7⟩ (.ofList []) "medisync" dawn .min = none ∧
    Claims.stamp? ⟨7⟩ (.ofList []) "medisync" dawn .max = none ∧
    Claims.stamp? ⟨7⟩ (.ofList []) "medisync" dawn ⟨-1, by decide, by decide⟩ = none ∧
    Claims.stamp? ⟨7⟩ (.ofList []) "medisync" dusk ⟨999999999, by decide, by decide⟩ =
      some ⟨⟨7⟩, .ofList [], "medisync", .atSecond Instant.lastSecond (by decide) (by decide), dusk⟩ ∧
    ∀ registry, mint ⟨"medisync", ⟨1000000000, by decide, by decide⟩⟩ registry ⟨7⟩ (.ofList []) dusk =
      .error .lifetimeOutOfRange := by
  obtain ⟨hepoch1970, hdawn, hdusk⟩ :
      beforeEpoch.isLeap = false ∧ dawn.isLeap = false ∧ dusk.isLeap = false := by decide
  obtain ⟨-, -, hepoch, -⟩ := stamp_exact ⟨7⟩ (.ofList []) "medisync" ⟨1, by decide, by decide⟩ hepoch1970
  obtain ⟨-, hmin, -⟩ := stamp_exact ⟨7⟩ (.ofList []) "medisync" .min hdawn
  obtain ⟨-, hmax, -⟩ := stamp_exact ⟨7⟩ (.ofList []) "medisync" .max hdawn
  obtain ⟨-, hbefore, -⟩ := stamp_exact ⟨7⟩ (.ofList []) "medisync" ⟨-1, by decide, by decide⟩ hdawn
  obtain ⟨-, -, hlast, -⟩ := stamp_exact ⟨7⟩ (.ofList []) "medisync" ⟨999999999, by decide, by decide⟩ hdusk
  obtain ⟨-, -, -, hafter⟩ := stamp_exact ⟨7⟩ (.ofList []) "medisync" ⟨1000000000, by decide, by decide⟩ hdusk
  refine ⟨⟨hepoch1970, hdawn, hdusk⟩, (hepoch _).2 ?_, hmin.2 (by decide), hmax.2 (by decide),
    hbefore.2 (by decide), (hlast _).2 ?_, fun registry => (hafter registry).1.2 (by decide)⟩
  · constructor <;> decide
  · constructor <;> decide

end Authority

end TokenAuthority
