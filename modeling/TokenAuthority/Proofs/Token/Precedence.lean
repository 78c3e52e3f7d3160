import TokenAuthority.Proofs.Token.Lifetime

/-!
# Which check refuses a token

The checks of verification have a fixed order, and a token that fails several of them is refused for the first. As the
signature comes before the payload is read, nothing can be told of a payload that is not signed. Main statement:
`Authority.verify_precedence`.
-/

namespace TokenAuthority

/-! ## What segments hold -/

namespace Segments

variable {s : Segments}

/-- A header segment that holds the JSON of a header. -/
def HasHeader (s : Segments) (header : TokenHeader) : Prop :=
  ∃ v, Holds s.header v ∧ TokenHeader.decoder v = .ok header

theorem HasHeader.eq {header header' : TokenHeader} (h : s.HasHeader header) (h' : s.HasHeader header') :
    header = header' :=
  Except.ok.inj ((Authority.readHeader_eq_ok_iff.2 h).symm.trans (Authority.readHeader_eq_ok_iff.2 h'))

theorem Says.eq {claims claims' : Claims} (h : s.Says claims) (h' : s.Says claims') : claims = claims' :=
  Except.ok.inj ((Authority.readClaims_eq_ok_iff.2 h).symm.trans (Authority.readClaims_eq_ok_iff.2 h'))

theorem namesKey_iff_hasHeader {kid : String} : s.NamesKey kid ↔ s.HasHeader ⟨KeyPair.algorithm, some kid⟩ := by
  rw [← Authority.namedKid_eq_ok_iff, Authority.namedKid_eq_ok_iff_readHeader, Authority.readHeader_eq_ok_iff]
  rfl

theorem compose_toText (hheader : '.' ∉ s.header) (hpayload : '.' ∉ s.payload) (hsignature : '.' ∉ s.signature) :
    s.Compose s.toText :=
  ⟨by rw [toText, String.toList_ofList], hheader, hpayload, hsignature⟩

end Segments

/-! ## The order of the checks -/

namespace Authority

/-- The checks of verification. -/
inductive Check
  | segments
  | header
  | algorithm
  | keyNamed
  | keyRegistered
  | signatureEncoding
  | signature
  | claims
  | window
  | expiry
  | issuer
  deriving DecidableEq

namespace Check

/-- The checks in the order in which they are made. -/
def order : List Check :=
  [.segments, .header, .algorithm, .keyNamed, .keyRegistered, .signatureEncoding, .signature, .claims, .window, .expiry,
    .issuer]

/-- The checks that are made before one. -/
def earlier (check : Check) : List Check := order.takeWhile (· ≠ check)

/-- What a check asks of the segments of a token. -/
def Holds (authority : Authority) (registry : Registry) (now : Instant) (s : Segments) : Check → Prop
  | .segments => True
  | .header => ∃ header, s.HasHeader header
  | .algorithm => ∃ header, s.HasHeader header ∧ header.algorithm = KeyPair.algorithm
  | .keyNamed => ∃ header, s.HasHeader header ∧ ∃ kid, header.kid = some kid
  | .keyRegistered => ∃ header, s.HasHeader header ∧ ∃ pair ∈ registry.keys.pairs, header.kid = some pair.kid
  | .signatureEncoding => ∃ signature, Base64.decode? Base64.url s.signature = some signature
  | .signature => ∃ pair ∈ registry.keys.pairs, s.NamesKey pair.kid ∧ s.SignedUnder pair.publicKey
  | .claims => ∃ claims, s.Says claims
  | .window => ∃ claims, s.Says claims ∧ claims.issuedAt < claims.expiresAt
  | .expiry => ∃ claims, s.Says claims ∧ now < claims.expiresAt
  | .issuer => ∃ claims, s.Says claims ∧ claims.issuer = authority.issuer

/-- A check that a token passes: it has three segments, and they satisfy the check. -/
def Passes (authority : Authority) (registry : Registry) (token : String) (now : Instant) (check : Check) : Prop :=
  ∃ s, Segments.Compose token s ∧ check.Holds authority registry now s

/-- A check that a token fails, having passed those before it. -/
def FailsFirst (authority : Authority) (registry : Registry) (token : String) (now : Instant) (check : Check) : Prop :=
  ¬ check.Passes authority registry token now ∧ ∀ c ∈ check.earlier, c.Passes authority registry token now

/-- What a token that fails a check is refused with. -/
inductive Reports (authority : Authority) (token : String) : Check → TokenError → Prop
  | segments : Reports authority token .segments (.malformed .segments)
  | headerEncoding {s : Segments} (hcomposed : s.Compose token)
      (hbytes : Base64.decode? Base64.url s.header = none) :
      Reports authority token .header (.malformed .headerEncoding)
  | headerJson {s : Segments} {bytes : List UInt8} (hcomposed : s.Compose token)
      (hbytes : Base64.decode? Base64.url s.header = some bytes) :
      Reports authority token .header (.malformed .headerJson)
  | algorithm {s : Segments} {header : TokenHeader} (hcomposed : s.Compose token) (hheader : s.HasHeader header) :
      Reports authority token .algorithm (.malformed (.algorithm header.algorithm))
  | keyNamed : Reports authority token .keyNamed (.malformed .noKid)
  | keyRegistered {kid : String} (hnamed : Names token kid) :
      Reports authority token .keyRegistered (.keyNotFound (.unknown kid))
  | signatureEncoding : Reports authority token .signatureEncoding (.malformed .encoding)
  | signature : Reports authority token .signature .signatureMismatch
  | claimsEncoding {s : Segments} (hcomposed : s.Compose token)
      (hbytes : Base64.decode? Base64.url s.payload = none) :
      Reports authority token .claims (.malformed .encoding)
  | claimsJson {s : Segments} {bytes : List UInt8} (hcomposed : s.Compose token)
      (hbytes : Base64.decode? Base64.url s.payload = some bytes) :
      Reports authority token .claims (.malformed .json)
  | window : Reports authority token .window .emptyWindow
  | expiry : Reports authority token .expiry .expired
  | issuer {s : Segments} {claims : Claims} (hcomposed : s.Compose token) (hsaid : s.Says claims) :
      Reports authority token .issuer (.wrongIssuer authority.issuer claims.issuer)

variable {authority : Authority} {registry : Registry} {token : String} {now : Instant} {s : Segments} {check : Check}

theorem passes_iff (hcomposed : s.Compose token) :
    check.Passes authority registry token now ↔ check.Holds authority registry now s := by
  constructor
  · rintro ⟨s', hcomposed', hholds⟩
    rwa [hcomposed.eq hcomposed']
  · intro hholds
    exact ⟨s, hcomposed, hholds⟩

/-- Among entries of which some fail there is a first that does. -/
theorem exists_first {α : Type} [DecidableEq α] {p : α → Prop} {l : List α} (h : ∃ a ∈ l, ¬ p a) :
    ∃ a, ¬ p a ∧ ∀ b ∈ l.takeWhile (· ≠ a), p b := by
  induction l with
  | nil => simp at h
  | cons a l ih =>
      by_cases ha : p a
      · obtain ⟨b, hb, hfails⟩ := h
        have hbl : b ∈ l := by
          rcases List.mem_cons.1 hb with rfl | hbl
          · exact absurd ha hfails
          · exact hbl
        obtain ⟨c, hc, hearlier⟩ := ih ⟨b, hbl, hfails⟩
        refine ⟨c, hc, ?_⟩
        intro d hd
        rw [List.takeWhile_cons] at hd
        split at hd
        · rcases List.mem_cons.1 hd with rfl | hd
          · exact ha
          · exact hearlier d hd
        · cases hd
      · exact ⟨a, ha, by simp⟩

theorem mem_order (check : Check) : check ∈ order := by
  cases check <;> decide

theorem exists_failsFirst (h : ¬ check.Passes authority registry token now) :
    ∃ first, FailsFirst authority registry token now first :=
  exists_first ⟨check, mem_order check, h⟩

end Check

/-! ## What each check refuses with -/

variable {authority : Authority} {registry : Registry} {token : String} {now : Instant} {s : Segments}
  {claims : Claims} {error : TokenError}

theorem readHeader_of_none (hbytes : Base64.decode? Base64.url s.header = none) :
    readHeader s = .error (.malformed .headerEncoding) := by
  simp only [readHeader, Segments.source?, hbytes, Option.map_none]

theorem readHeader_of_not_hasHeader {bytes : List UInt8} (hbytes : Base64.decode? Base64.url s.header = some bytes)
    (h : ∀ header, ¬ s.HasHeader header) : readHeader s = .error (.malformed .headerJson) := by
  cases hread : readHeader s with
  | ok header => exact absurd (readHeader_eq_ok_iff.1 hread) (h header)
  | error fault =>
      simp only [readHeader, Segments.source?, hbytes, Option.map_some] at hread
      split at hread
      · cases hread
      · exact hread.symm

theorem readClaims_of_none (hbytes : Base64.decode? Base64.url s.payload = none) :
    readClaims s = .error (.malformed .encoding) := by
  simp only [readClaims, Segments.source?, hbytes, Option.map_none]

theorem readClaims_of_not_said {bytes : List UInt8} (hbytes : Base64.decode? Base64.url s.payload = some bytes)
    (h : ∀ claims, ¬ s.Says claims) : readClaims s = .error (.malformed .json) := by
  cases hread : readClaims s with
  | ok claims => exact absurd (readClaims_eq_ok_iff.1 hread) (h claims)
  | error fault =>
      simp only [readClaims, Segments.source?, hbytes, Option.map_some] at hread
      split at hread
      · cases hread
      · exact hread.symm

theorem checkWindow_of_empty (h : ¬ claims.issuedAt < claims.expiresAt) :
    checkWindow claims now = .error .emptyWindow := by
  have hle : claims.expiresAt ≤ claims.issuedAt := h
  rw [checkWindow, Claims.checkWindow, if_pos hle]

theorem checkSignature_of_none {key : Rsa.PublicKey} (hbytes : Base64.decode? Base64.url s.signature = none) :
    checkSignature key s = .error (.malformed .encoding) := by
  simp only [checkSignature, hbytes]

theorem checkSignature_of_not_signed {key : Rsa.PublicKey} {signature : List UInt8}
    (hbytes : Base64.decode? Base64.url s.signature = some signature) (h : ¬ s.SignedUnder key) :
    checkSignature key s = .error .signatureMismatch := by
  have haccepts : ¬ key.accepts s.message signature = true := by
    intro haccepts
    exact h ⟨signature, hbytes, Rsa.PublicKey.accepts_iff.1 haccepts⟩
  simp only [checkSignature, hbytes, if_neg haccepts]

theorem namedKid_of_readHeader_error (h : readHeader s = .error error) : namedKid s = .error error := by
  rw [namedKid, h]
  rfl

theorem namedKid_of_algorithm_ne {header : TokenHeader} (hheader : s.HasHeader header)
    (h : header.algorithm ≠ KeyPair.algorithm) :
    namedKid s = .error (.malformed (.algorithm header.algorithm)) := by
  rw [namedKid, readHeader_eq_ok_iff.2 hheader]
  simp [h, bind, Except.bind, throw, throwThe, MonadExceptOf.throw]

theorem namedKid_of_kid_none {header : TokenHeader} (hheader : s.HasHeader header)
    (halgorithm : header.algorithm = KeyPair.algorithm) (h : header.kid = none) :
    namedKid s = .error (.malformed .noKid) := by
  rw [namedKid, readHeader_eq_ok_iff.2 hheader]
  simp [halgorithm, h, bind, Except.bind, throw, throwThe, MonadExceptOf.throw]

theorem verify_of_not_compose (h : ∀ s, ¬ Segments.Compose token s) :
    authority.verify registry token now = .error (.malformed .segments) := by
  have hsegments : Segments.ofText? token = none := by
    cases hsegments : Segments.ofText? token with
    | none => rfl
    | some s => exact absurd (Segments.compose_of_ofText? hsegments) (h s)
  simp only [verify, hsegments]
  rfl

theorem verify_of_namedKid_error (hcomposed : s.Compose token) (h : namedKid s = .error error) :
    authority.verify registry token now = .error error := by
  simp [verify, Segments.ofText?_of_compose hcomposed, h, bind, Except.bind]

theorem verify_of_pair {pair : KeyPair} (hcomposed : s.Compose token) (hmem : pair ∈ registry.keys.pairs)
    (hnamed : s.NamesKey pair.kid) :
    authority.verify registry token now = authority.checkUnder pair.publicKey s now :=
  verify_of_registered hcomposed hnamed (Registry.publicKey?_of_mem hmem)

theorem checkUnder_of_checkSignature_error {key : Rsa.PublicKey} (h : checkSignature key s = .error error) :
    authority.checkUnder key s now = .error error := by
  rw [checkUnder, h]
  rfl

section

variable {key : Rsa.PublicKey} (hsigned : s.SignedUnder key)
include hsigned

theorem checkUnder_of_readClaims_error (h : readClaims s = .error error) :
    authority.checkUnder key s now = .error error := by
  rw [checkUnder, checkSignature_eq_ok_iff.2 hsigned, h]
  rfl

theorem checkUnder_of_said (hsaid : s.Says claims) :
    authority.checkUnder key s now = (checkWindow claims now >>= fun _ =>
      if claims.issuer = authority.issuer then .ok claims
      else .error (.wrongIssuer authority.issuer claims.issuer)) := by
  rw [checkUnder, checkSignature_eq_ok_iff.2 hsigned, readClaims_eq_ok_iff.2 hsaid]
  rfl

end

/-! ## The first check that fails -/

namespace Check

variable {authority : Authority} {registry : Registry} {token : String} {now : Instant} {check : Check}
  {error : TokenError}

/-- The checks before one that fails first have found what it looks at. -/
theorem FailsFirst.holds {s : Segments} {c : Check} (h : FailsFirst authority registry token now check)
    (hcomposed : s.Compose token) (hc : c ∈ check.earlier) : c.Holds authority registry now s :=
  (passes_iff hcomposed).1 (h.2 c hc)

theorem FailsFirst.not_holds {s : Segments} (h : FailsFirst authority registry token now check)
    (hcomposed : s.Compose token) : ¬ check.Holds authority registry now s :=
  fun hholds => h.1 ((passes_iff hcomposed).2 hholds)

theorem FailsFirst.exists_compose (h : FailsFirst authority registry token now check) (hne : check ≠ .segments) :
    ∃ s, Segments.Compose token s := by
  have hmem : Check.segments ∈ check.earlier := by
    cases check with
    | segments => exact absurd rfl hne
    | _ => decide
  obtain ⟨s, hcomposed, _⟩ := h.2 _ hmem
  exact ⟨s, hcomposed⟩

theorem namesKey_of_holds {s : Segments} (halgorithm : Check.algorithm.Holds authority registry now s)
    {header : TokenHeader} (hheader : s.HasHeader header) {kid : String} (hkid : header.kid = some kid) :
    s.NamesKey kid := by
  obtain ⟨header', hheader', halgorithm⟩ := halgorithm
  rw [hheader'.eq hheader] at halgorithm
  rw [Segments.namesKey_iff_hasHeader, ← halgorithm, ← hkid]
  exact hheader

/-- A check that a token fails first has something to report. -/
theorem FailsFirst.exists_reports (h : FailsFirst authority registry token now check) :
    ∃ error, Reports authority token check error := by
  by_cases hsegments : check = .segments
  · subst hsegments
    exact ⟨_, .segments⟩
  obtain ⟨s, hcomposed⟩ := h.exists_compose hsegments
  cases check with
  | segments => exact absurd rfl hsegments
  | header =>
      cases hbytes : Base64.decode? Base64.url s.header with
      | none => exact ⟨_, .headerEncoding hcomposed hbytes⟩
      | some bytes => exact ⟨_, .headerJson hcomposed hbytes⟩
  | algorithm =>
      obtain ⟨header, hheader⟩ := h.holds (c := .header) hcomposed (by decide)
      exact ⟨_, .algorithm hcomposed hheader⟩
  | keyNamed => exact ⟨_, .keyNamed⟩
  | keyRegistered =>
      obtain ⟨header, hheader, kid, hkid⟩ := h.holds (c := .keyNamed) hcomposed (by decide)
      have hnamed := namesKey_of_holds (h.holds (c := .algorithm) hcomposed (by decide)) hheader hkid
      exact ⟨_, .keyRegistered ⟨s, hcomposed, hnamed⟩⟩
  | signatureEncoding => exact ⟨_, .signatureEncoding⟩
  | signature => exact ⟨_, .signature⟩
  | claims =>
      cases hbytes : Base64.decode? Base64.url s.payload with
      | none => exact ⟨_, .claimsEncoding hcomposed hbytes⟩
      | some bytes => exact ⟨_, .claimsJson hcomposed hbytes⟩
  | window => exact ⟨_, .window⟩
  | expiry => exact ⟨_, .expiry⟩
  | issuer =>
      obtain ⟨claims, hsaid⟩ := h.holds (c := .claims) hcomposed (by decide)
      exact ⟨_, .issuer hcomposed hsaid⟩

end Check

open Check

variable {authority : Authority} {registry : Registry} {token : String} {now : Instant} {check : Check}
  {error : TokenError}

/-- Past the checks of the key, the registered pair that the token names decides. -/
theorem exists_pair_of_failsFirst {s : Segments} (h : FailsFirst authority registry token now check)
    (hcomposed : s.Compose token) (hbefore : Check.algorithm ∈ check.earlier ∧ Check.keyRegistered ∈ check.earlier) :
    ∃ pair ∈ registry.keys.pairs, s.NamesKey pair.kid ∧
      authority.verify registry token now = authority.checkUnder pair.publicKey s now := by
  obtain ⟨header, hheader, pair, hmem, hkid⟩ := h.holds hcomposed hbefore.2
  have hnamed := namesKey_of_holds (h.holds hcomposed hbefore.1) hheader hkid
  exact ⟨pair, hmem, hnamed, verify_of_pair hcomposed hmem hnamed⟩

/-- A token is refused with what the first check that it fails reports. -/
theorem verify_of_failsFirst (h : FailsFirst authority registry token now check)
    (hreports : Reports authority token check error) : authority.verify registry token now = .error error := by
  cases hreports with
  | segments => exact verify_of_not_compose fun s hcomposed => h.not_holds hcomposed trivial
  | headerEncoding hcomposed hbytes =>
      exact verify_of_namedKid_error hcomposed (namedKid_of_readHeader_error (readHeader_of_none hbytes))
  | headerJson hcomposed hbytes =>
      have hnone := fun header hheader => h.not_holds hcomposed ⟨header, hheader⟩
      exact verify_of_namedKid_error hcomposed
        (namedKid_of_readHeader_error (readHeader_of_not_hasHeader hbytes hnone))
  | algorithm hcomposed hheader =>
      have hne := fun heq => h.not_holds hcomposed ⟨_, hheader, heq⟩
      exact verify_of_namedKid_error hcomposed (namedKid_of_algorithm_ne hheader hne)
  | keyNamed =>
      obtain ⟨s, hcomposed⟩ := h.exists_compose (by decide)
      obtain ⟨header, hheader, halgorithm⟩ := h.holds (c := .algorithm) hcomposed (by decide)
      have hkid : header.kid = none := by
        cases hkid : header.kid with
        | none => rfl
        | some kid => exact absurd ⟨header, hheader, kid, hkid⟩ (h.not_holds hcomposed)
      exact verify_of_namedKid_error hcomposed (namedKid_of_kid_none hheader halgorithm hkid)
  | keyRegistered hnamed =>
      obtain ⟨s, hcomposed, hnamed⟩ := hnamed
      refine verify_of_unregistered hcomposed hnamed (Registry.publicKey?_eq_none_iff.2 ?_)
      rintro pair hmem rfl
      exact h.not_holds hcomposed ⟨_, Segments.namesKey_iff_hasHeader.1 hnamed, pair, hmem, rfl⟩
  | signatureEncoding =>
      obtain ⟨s, hcomposed⟩ := h.exists_compose (by decide)
      obtain ⟨pair, _, _, hverify⟩ := exists_pair_of_failsFirst h hcomposed (by decide)
      have hbytes : Base64.decode? Base64.url s.signature = none := by
        rw [Option.eq_none_iff_forall_ne_some]
        exact fun signature hbytes => h.not_holds hcomposed ⟨signature, hbytes⟩
      rw [hverify, checkUnder_of_checkSignature_error (checkSignature_of_none hbytes)]
  | signature =>
      obtain ⟨s, hcomposed⟩ := h.exists_compose (by decide)
      obtain ⟨pair, hmem, hnamed, hverify⟩ := exists_pair_of_failsFirst h hcomposed (by decide)
      obtain ⟨signature, hbytes⟩ := h.holds (c := .signatureEncoding) hcomposed (by decide)
      have hunsigned := fun hsigned => h.not_holds hcomposed ⟨pair, hmem, hnamed, hsigned⟩
      rw [hverify, checkUnder_of_checkSignature_error (checkSignature_of_not_signed hbytes hunsigned)]
  | claimsEncoding hcomposed hbytes =>
      obtain ⟨pair, hmem, hnamed, hsigned⟩ := h.holds (c := .signature) hcomposed (by decide)
      rw [verify_of_pair hcomposed hmem hnamed, checkUnder_of_readClaims_error hsigned (readClaims_of_none hbytes)]
  | claimsJson hcomposed hbytes =>
      obtain ⟨pair, hmem, hnamed, hsigned⟩ := h.holds (c := .signature) hcomposed (by decide)
      have hnone := fun claims hsaid => h.not_holds hcomposed ⟨claims, hsaid⟩
      rw [verify_of_pair hcomposed hmem hnamed,
        checkUnder_of_readClaims_error hsigned (readClaims_of_not_said hbytes hnone)]
  | window =>
      obtain ⟨s, hcomposed⟩ := h.exists_compose (by decide)
      obtain ⟨pair, hmem, hnamed, hsigned⟩ := h.holds (c := .signature) hcomposed (by decide)
      obtain ⟨claims, hsaid⟩ := h.holds (c := .claims) hcomposed (by decide)
      have hempty := fun hopen => h.not_holds hcomposed ⟨claims, hsaid, hopen⟩
      rw [verify_of_pair hcomposed hmem hnamed, checkUnder_of_said hsigned hsaid, checkWindow_of_empty hempty]
      rfl
  | expiry =>
      obtain ⟨s, hcomposed⟩ := h.exists_compose (by decide)
      obtain ⟨pair, hmem, hnamed, hsigned⟩ := h.holds (c := .signature) hcomposed (by decide)
      obtain ⟨claims, hsaid, hopen⟩ := h.holds (c := .window) hcomposed (by decide)
      have hexpired : claims.expiresAt ≤ now := fun hcurrent => h.not_holds hcomposed ⟨claims, hsaid, hcurrent⟩
      rw [verify_of_pair hcomposed hmem hnamed, checkUnder_of_said hsigned hsaid, checkWindow_of_expired hopen hexpired]
      rfl
  | issuer hcomposed hsaid =>
      obtain ⟨pair, hmem, hnamed, hsigned⟩ := h.holds (c := .signature) hcomposed (by decide)
      obtain ⟨opened, hsaid₁, hopen⟩ := h.holds (c := .window) hcomposed (by decide)
      obtain ⟨current, hsaid₂, hcurrent⟩ := h.holds (c := .expiry) hcomposed (by decide)
      rw [hsaid₁.eq hsaid] at hopen
      rw [hsaid₂.eq hsaid] at hcurrent
      have hother := fun hissuer => h.not_holds hcomposed ⟨_, hsaid, hissuer⟩
      rw [verify_of_pair hcomposed hmem hnamed, checkUnder_of_said hsigned hsaid,
        checkWindow_eq_ok_iff.2 ⟨hopen, hcurrent⟩]
      exact if_neg hother

theorem exists_verify_of_passes (h : ∀ check : Check, check.Passes authority registry token now) :
    ∃ claims, authority.verify registry token now = .ok claims := by
  obtain ⟨s, hcomposed, _⟩ := h .segments
  have hholds (check : Check) : check.Holds authority registry now s := (passes_iff hcomposed).1 (h check)
  obtain ⟨pair, hmem, hnamed, hsigned⟩ := hholds .signature
  obtain ⟨claims, hsaid, hopen⟩ := hholds .window
  obtain ⟨current, hsaid₁, hcurrent⟩ := hholds .expiry
  obtain ⟨issued, hsaid₂, hissuer⟩ := hholds .issuer
  rw [hsaid₁.eq hsaid] at hcurrent
  rw [hsaid₂.eq hsaid] at hissuer
  exact ⟨claims, verify_of_accepted ⟨hcomposed, hnamed, hmem, hsigned, hsaid, hopen, hcurrent, hissuer⟩⟩

theorem verify_eq_error_iff : authority.verify registry token now = .error error ↔
    ∃ check, FailsFirst authority registry token now check ∧ Reports authority token check error := by
  constructor
  · intro hverify
    have hfails : ∃ check : Check, ¬ check.Passes authority registry token now := by
      by_contra hnone
      obtain ⟨claims, hok⟩ := exists_verify_of_passes fun check => not_not.1 fun hfails => hnone ⟨check, hfails⟩
      rw [hverify] at hok
      cases hok
    obtain ⟨_, hfails⟩ := hfails
    obtain ⟨first, hfirst⟩ := exists_failsFirst hfails
    obtain ⟨reported, hreports⟩ := hfirst.exists_reports
    have hsame : reported = error := Except.error.inj ((verify_of_failsFirst hfirst hreports).symm.trans hverify)
    exact ⟨first, hfirst, hsame ▸ hreports⟩
  · rintro ⟨check, hfirst, hreports⟩
    exact verify_of_failsFirst hfirst hreports

/-! ## Payloads that are not signed -/

/-- The checks of the claims come after the signature. -/
theorem passes_signature_of_verify (h : authority.verify registry token now = .error error)
    (hwindow : error = .expired ∨ error = .emptyWindow ∨ ∃ expected actual, error = .wrongIssuer expected actual) :
    Check.signature.Passes authority registry token now := by
  obtain ⟨check, hfirst, hreports⟩ := verify_eq_error_iff.1 h
  apply hfirst.2
  cases hreports with
  | window => decide
  | expiry => decide
  | issuer => decide
  | _ => simp at hwindow

/-- Tokens with one header and one signature that are not signed fail alike, whatever else they hold. -/
theorem verify_of_unsigned {header payload payload' signature : List Char} {now' : Instant}
    (hheader : '.' ∉ header) (hpayload : '.' ∉ payload) (hpayload' : '.' ∉ payload') (hsignature : '.' ∉ signature)
    (hfails : ¬ Check.signature.Passes authority registry (Segments.toText ⟨header, payload, signature⟩) now)
    (hfails' : ¬ Check.signature.Passes authority registry (Segments.toText ⟨header, payload', signature⟩) now') :
    ∃ error, authority.verify registry (Segments.toText ⟨header, payload, signature⟩) now = .error error ∧
      authority.verify registry (Segments.toText ⟨header, payload', signature⟩) now' = .error error := by
  have hcomposed := Segments.compose_toText (s := ⟨header, payload, signature⟩) hheader hpayload hsignature
  have hcomposed' := Segments.compose_toText (s := ⟨header, payload', signature⟩) hheader hpayload' hsignature
  -- The payload is not looked at for the key.
  have hsame : namedKid ⟨header, payload', signature⟩ = namedKid ⟨header, payload, signature⟩ := rfl
  cases hkid : namedKid ⟨header, payload, signature⟩ with
  | error error =>
      exact ⟨error, verify_of_namedKid_error hcomposed hkid, verify_of_namedKid_error hcomposed' (hsame.trans hkid)⟩
  | ok kid =>
      have hnamed := namedKid_eq_ok_iff.1 hkid
      have hnamed' := namedKid_eq_ok_iff.1 (hsame.trans hkid)
      by_cases hregistered : ∃ pair ∈ registry.keys.pairs, pair.kid = kid
      · obtain ⟨pair, hmem, rfl⟩ := hregistered
        rw [verify_of_pair hcomposed hmem hnamed, verify_of_pair hcomposed' hmem hnamed']
        rw [passes_iff hcomposed] at hfails
        rw [passes_iff hcomposed'] at hfails'
        cases hbytes : Base64.decode? Base64.url signature with
        | none =>
            exact ⟨_, checkUnder_of_checkSignature_error (checkSignature_of_none hbytes),
              checkUnder_of_checkSignature_error (checkSignature_of_none hbytes)⟩
        | some bytes =>
            have hunsigned := fun hsigned => hfails ⟨pair, hmem, hnamed, hsigned⟩
            have hunsigned' := fun hsigned => hfails' ⟨pair, hmem, hnamed', hsigned⟩
            exact ⟨_, checkUnder_of_checkSignature_error (checkSignature_of_not_signed hbytes hunsigned),
              checkUnder_of_checkSignature_error (checkSignature_of_not_signed hbytes hunsigned')⟩
      · have hnone : registry.publicKey? kid = none :=
          Registry.publicKey?_eq_none_iff.2 fun pair hmem heq => hregistered ⟨pair, hmem, heq⟩
        exact ⟨_, verify_of_unregistered hcomposed hnamed hnone, verify_of_unregistered hcomposed' hnamed' hnone⟩

/-- A token is refused with the error of the first check that it fails. So the window and the issuer are reported of
signed payloads only, and of tokens with one header and one signature, neither of them signed, all is reported alike. -/
theorem verify_precedence (authority : Authority) (registry : Registry) :
    (∀ token now error, authority.verify registry token now = .error error ↔
      ∃ check, FailsFirst authority registry token now check ∧ Reports authority token check error) ∧
    (∀ token now error, authority.verify registry token now = .error error →
      (error = .expired ∨ error = .emptyWindow ∨ ∃ expected actual, error = .wrongIssuer expected actual) →
      Check.signature.Passes authority registry token now) ∧
    (∀ header payload payload' signature : List Char, ∀ now now',
      '.' ∉ header → '.' ∉ payload → '.' ∉ payload' → '.' ∉ signature →
      ¬ Check.signature.Passes authority registry (Segments.toText ⟨header, payload, signature⟩) now →
      ¬ Check.signature.Passes authority registry (Segments.toText ⟨header, payload', signature⟩) now' →
      ∃ error, authority.verify registry (Segments.toText ⟨header, payload, signature⟩) now = .error error ∧
        authority.verify registry (Segments.toText ⟨header, payload', signature⟩) now' = .error error) := by
  refine ⟨fun token now error => verify_eq_error_iff, fun token now error hverify hwindow => ?_,
    fun header payload payload' signature now now' hheader hpayload hpayload' hsignature hfails hfails' => ?_⟩
  · exact passes_signature_of_verify hverify hwindow
  · exact verify_of_unsigned hheader hpayload hpayload' hsignature hfails hfails'

/-! ## A sample -/

/-- Segments that name the sample key, with the empty signature. -/
def forgedSegments (payload : List Char) : Segments :=
  ⟨Segments.ofDocument (TokenHeader.issued KeyPair.algorithm sampleKid), payload, []⟩

theorem not_passes_forged {payload : List Char} (hpayload : '.' ∉ payload) (now : Instant) :
    ¬ Check.signature.Passes sampleAuthority (sampleRegistry sampleKid) (forgedSegments payload).toText now := by
  have hcomposed : (forgedSegments payload).Compose (forgedSegments payload).toText :=
    Segments.compose_toText (Base64.dot_notMem_encode _) hpayload (by simp [forgedSegments])
  rw [Check.passes_iff hcomposed]
  rintro ⟨pair, _, _, signature, hbytes, hverifies⟩
  -- The empty signature is zero as a number, and a signature must be positive.
  cases hbytes
  exact absurd hverifies.positive (by decide)

/-- Once it has expired the sample token is refused for that, being signed; and a forged copy of it is refused like a
forged token without any claims, even if one has expired and the other has not. -/
theorem verify_precedence_sample : ∃ token,
    sampleAuthority.verify (sampleRegistry sampleKid) token sampleClaims.expiresAt = .error .expired ∧
    Check.signature.Passes sampleAuthority (sampleRegistry sampleKid) token sampleClaims.expiresAt ∧
    ∃ error, sampleAuthority.verify (sampleRegistry sampleKid)
        (forgedSegments (Segments.ofDocument sampleClaims.toDocument)).toText sampleClaims.expiresAt = .error error ∧
      sampleAuthority.verify (sampleRegistry sampleKid) (forgedSegments []).toText sampleClaims.issuedAt =
        .error error := by
  obtain ⟨token, hissue⟩ := exists_issue_sample
  obtain ⟨s, pair, haccepted⟩ : ∃ s pair, Accepted sampleAuthority (sampleRegistry sampleKid) token
      sampleClaims.issuedAt sampleClaims s pair :=
    accepted_of_issue rfl rfl rfl (by decide) hissue (by decide)
  have hexpired : sampleAuthority.verify (sampleRegistry sampleKid) token sampleClaims.expiresAt =
      .error .expired := by
    rw [haccepted.verify_eq, if_neg (by decide)]
  obtain ⟨_, hsigned, hforged⟩ := verify_precedence sampleAuthority (sampleRegistry sampleKid)
  have hpayload : '.' ∉ Segments.ofDocument sampleClaims.toDocument := Base64.dot_notMem_encode _
  refine ⟨token, hexpired, hsigned _ _ _ hexpired (.inl rfl), ?_⟩
  exact hforged _ _ _ _ _ _ (Base64.dot_notMem_encode _) hpayload (by simp) (by simp)
    (not_passes_forged hpayload _) (not_passes_forged (by simp) _)

end Authority

end TokenAuthority
