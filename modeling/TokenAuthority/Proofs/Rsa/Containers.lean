import TokenAuthority.Proofs.Encoding.Blocks
import TokenAuthority.Proofs.Encoding.Elements
import TokenAuthority.Proofs.Rsa.Signature
import TokenAuthority.Rsa.Container

/-!
# Containers of keys are exact

A private key is read from the texts that hold its numbers, in either container, and its public half reads back from the
text that is written for it. Main statements: `Rsa.PrivateKey.ofPem?_eq_some_iff`, `Rsa.Components.HeldBy.unique`,
`Rsa.PrivateKey.ofPem?_toPem`.
-/

namespace TokenAuthority.Rsa

open Der (Encloses element integer sequenceTag octetStringTag bitStringTag lengthLimit)

/-! ## Private keys -/

/-- Bytes that hold a bare private key: version zero, the key itself, and any three numbers after it. -/
def Components.Bare (c : Components) (bytes : List UInt8) : Prop :=
  ∃ x y z, Encloses sequenceTag ([0, c.modulus, c.publicExponent, c.privateExponent, c.factor1, c.factor2,
    x, y, z].flatMap integer) bytes

/-- Bytes that wrap others: after a version and the name of the algorithm, and before whatever follows. -/
def Wrapped (inner outer : List UInt8) : Prop :=
  ∃ version further, Encloses sequenceTag (integer version ++ (element sequenceTag algorithmContents ++
    (element octetStringTag inner ++ further))) outer

/-- A text that holds the numbers of a private key in one of the two containers. -/
inductive Components.HeldBy (c : Components) (text : String) : Prop
  | wrapped {outer inner : List UInt8} (hblock : Pem.Armours "PRIVATE KEY" outer text) (hwrapped : Wrapped inner outer)
      (hbare : c.Bare inner)
  | bare {bytes : List UInt8} (hblock : Pem.Armours "RSA PRIVATE KEY" bytes text) (hbare : c.Bare bytes)

variable {c c' : Components} {bytes inner outer : List UInt8} {text : String} {key : PrivateKey}

theorem Components.ofBytes?_eq_some_iff : Components.ofBytes? bytes = some c ↔ c.Bare bytes := by
  simp only [Components.ofBytes?, Option.bind_eq_bind, Option.bind_eq_some_iff]
  constructor
  · rintro ⟨contents, hcontents, ns, hns, h⟩
    rw [Der.only?_eq_some_iff] at hcontents
    obtain ⟨-, rfl⟩ := (Der.integers?_eq_some_iff (Nat.le_of_lt hcontents.1)).1 hns
    split at h
    · cases h
      exact ⟨_, _, _, hcontents⟩
    · cases h
  · rintro ⟨x, y, z, h⟩
    exact ⟨_, Der.only?_eq_some_iff.2 h, _, (Der.integers?_eq_some_iff (Nat.le_of_lt h.1)).2 ⟨rfl, rfl⟩, rfl⟩

theorem Components.Bare.unique (h : c.Bare bytes) (h' : c'.Bare bytes) : c = c' :=
  Option.some.inj ((ofBytes?_eq_some_iff.2 h).symm.trans (ofBytes?_eq_some_iff.2 h'))

theorem wrapped_of_unwrap? (h : unwrap? outer = some inner) : Wrapped inner outer := by
  simp only [unwrap?, Option.bind_eq_bind, Option.bind_eq_some_iff] at h
  obtain ⟨contents, hcontents, ⟨version, rest⟩, hversion, ⟨algorithm, rest'⟩, halgorithm, ⟨key, further⟩, hkey,
    _, -, ⟨_, _⟩, -, h⟩ := h
  rw [Der.only?_eq_some_iff] at hcontents
  obtain ⟨-, rfl⟩ := Der.integer?_eq_some_iff.1 hversion
  obtain ⟨-, hrest⟩ := Der.element?_eq_some_iff.1 halgorithm
  obtain ⟨-, hrest'⟩ := Der.element?_eq_some_iff.1 hkey
  split_ifs at h with hfits
  cases h
  refine ⟨version, further, ?_⟩
  rwa [← hfits.2.1, ← hrest', ← hrest]

theorem Wrapped.unique {inner' : List UInt8} (h : Wrapped inner outer) (h' : Wrapped inner' outer) :
    inner = inner' := by
  obtain ⟨version, further, hencloses⟩ := h
  obtain ⟨version', further', hencloses'⟩ := h'
  have hlimit := hencloses.1
  obtain ⟨-, hrest⟩ := Der.element_append_inj hlimit (hencloses.unique hencloses')
  rw [List.length_append] at hlimit
  obtain ⟨-, hrest'⟩ := Der.element_append_inj (by omega) hrest
  rw [List.length_append] at hlimit
  exact (Der.element_append_inj (by omega) hrest').1

/-- A text is of one label only: the two differ in their first letter. -/
theorem not_bare_of_wrapped (h : Pem.Armours "PRIVATE KEY" outer text) :
    ¬ Pem.Armours "RSA PRIVATE KEY" bytes text := by
  intro h'
  obtain ⟨rest, hopens⟩ := h.opens
  obtain ⟨rest', hopens'⟩ := h'.opens
  have hsame := congrArg (fun cs => cs[11]?) (hopens.unique hopens')
  rw [List.getElem?_append_left (by decide), List.getElem?_append_left (by decide)] at hsame
  exact absurd hsame (by decide)

/-- A text holds the numbers of one key only. -/
theorem Components.HeldBy.unique (h : c.HeldBy text) (h' : c'.HeldBy text) : c = c' := by
  cases h with
  | wrapped hblock hwrapped hbare =>
      cases h' with
      | wrapped hblock' hwrapped' hbare' =>
          obtain rfl := hblock.unique hblock'
          obtain rfl := hwrapped.unique hwrapped'
          exact hbare.unique hbare'
      | bare hblock' hbare' => exact absurd hblock' (not_bare_of_wrapped hblock)
  | bare hblock hbare =>
      cases h' with
      | wrapped hblock' hwrapped' hbare' => exact absurd hblock (not_bare_of_wrapped hblock')
      | bare hblock' hbare' =>
          obtain rfl := hblock.unique hblock'
          exact hbare.unique hbare'

theorem PrivateKey.ofComponents?_eq_some_iff : PrivateKey.ofComponents? c = some key ↔ key.toComponents = c := by
  unfold PrivateKey.ofComponents?
  split
  · rename_i hconsistent
    rw [Option.some.injEq]
    constructor
    · rintro rfl
      rfl
    · rintro rfl
      rfl
  · rename_i hinconsistent
    refine ⟨nofun, ?_⟩
    rintro rfl
    exact absurd key.consistent hinconsistent

/-- A private key is read from the texts that armour its numbers, bare or in a wrapping that is in order. -/
theorem PrivateKey.ofPem?_eq_some_iff : PrivateKey.ofPem? text = some key ↔
    (∃ outer inner, Pem.Armours "PRIVATE KEY" outer text ∧ unwrap? outer = some inner ∧
      key.toComponents.Bare inner) ∨
    ∃ bytes, Pem.Armours "RSA PRIVATE KEY" bytes text ∧ key.toComponents.Bare bytes := by
  have hunread {bytes : List UInt8} (h : Pem.Armours "RSA PRIVATE KEY" bytes text) :
      Pem.read? "PRIVATE KEY" text = none :=
    Option.eq_none_iff_forall_ne_some.2 fun _ hread => not_bare_of_wrapped (Pem.armours_of_read? hread) h
  simp only [PrivateKey.ofPem?, Option.orElse_eq_orElse, Option.orElse_eq_or, Option.or_eq_some_iff,
    Option.bind_eq_bind, Option.bind_eq_some_iff, Pem.read?_eq_some_iff, Components.ofBytes?_eq_some_iff,
    ofComponents?_eq_some_iff, exists_eq_right']
  constructor
  · rintro (⟨outer, hblock, inner, hunwrap, hbare⟩ | ⟨-, bytes, hblock, hbare⟩)
    · exact .inl ⟨outer, inner, hblock, hunwrap, hbare⟩
    · exact .inr ⟨bytes, hblock, hbare⟩
  · rintro (⟨outer, inner, hblock, hunwrap, hbare⟩ | ⟨bytes, hblock, hbare⟩)
    · exact .inl ⟨outer, hblock, inner, hunwrap, hbare⟩
    · exact .inr ⟨by rw [hunread hblock, Option.bind_none], bytes, hblock, hbare⟩

theorem PrivateKey.heldBy_of_ofPem? (h : PrivateKey.ofPem? text = some key) : key.toComponents.HeldBy text := by
  rcases PrivateKey.ofPem?_eq_some_iff.1 h with ⟨outer, inner, hblock, hunwrap, hbare⟩ | ⟨bytes, hblock, hbare⟩
  · exact .wrapped hblock (wrapped_of_unwrap? hunwrap) hbare
  · exact .bare hblock hbare

/-! ## Public keys -/

variable {key : PublicKey}

theorem PublicKey.ofBytes?_toBytes
    (h : (integer key.modulus).length + (integer key.exponent).length + 28 < lengthLimit) :
    PublicKey.ofBytes? key.toBytes = some key := by
  obtain ⟨numbers, hnumbers⟩ : ∃ numbers, numbers = integer key.modulus ++ integer key.exponent := ⟨_, rfl⟩
  obtain ⟨bits, hbits⟩ : ∃ bits, bits = 0 :: element sequenceTag numbers := ⟨_, rfl⟩
  obtain ⟨contents, hcontents⟩ : ∃ contents, contents =
    element sequenceTag algorithmContents ++ element bitStringTag bits := ⟨_, rfl⟩
  have hbytes : key.toBytes = element sequenceTag contents := by
    rw [hcontents, hbits, hnumbers]
    rfl
  -- Each wrapping takes six bytes at most, the bit string one more, and the algorithm 15.
  have hlength : numbers.length + 28 < lengthLimit := by rwa [hnumbers, List.length_append]
  have hlengthBits : bits.length ≤ numbers.length + 7 := by
    have hle := Der.length_element_le (show numbers.length < lengthLimit by omega) sequenceTag
    rw [hbits, List.length_cons]
    omega
  have hlengthContents : contents.length ≤ numbers.length + 28 := by
    have hle := Der.length_element_le (show bits.length < lengthLimit by omega) bitStringTag
    have halgorithm : (element sequenceTag algorithmContents).length = 15 := by decide
    rw [hcontents, List.length_append, halgorithm]
    omega
  have hread : Der.only? sequenceTag (element sequenceTag contents) = some contents :=
    Der.only?_eq_some_iff.2 ⟨by omega, rfl⟩
  have hreadAlgorithm : Der.element? sequenceTag contents = some (algorithmContents, element bitStringTag bits) :=
    Der.element?_eq_some_iff.2 ⟨by decide, hcontents⟩
  have hreadBits : Der.only? bitStringTag (element bitStringTag bits) = some (0 :: element sequenceTag numbers) :=
    Der.only?_eq_some_iff.2 ⟨by rw [← hbits]; omega, by rw [hbits]⟩
  have hreadBare : Der.only? sequenceTag (element sequenceTag numbers) = some numbers :=
    Der.only?_eq_some_iff.2 ⟨by omega, rfl⟩
  have hreadNumbers : Der.integers? 2 numbers = some [key.modulus, key.exponent] :=
    (Der.integers?_eq_some_iff (by omega)).2 ⟨rfl, by rw [hnumbers]; simp⟩
  simp only [PublicKey.ofBytes?, hbytes, hread, hreadAlgorithm, hreadBits, hreadBare, hreadNumbers,
    Option.bind_eq_bind, Option.bind_some, if_true]

theorem PublicKey.ofPem?_toPem
    (h : (integer key.modulus).length + (integer key.exponent).length + 28 < lengthLimit) :
    PublicKey.ofPem? key.toPem = some key := by
  have hread : Pem.read? "PUBLIC KEY" key.toPem = some key.toBytes :=
    Pem.read?_write "PUBLIC KEY" (List.cons_ne_nil _ _)
  rw [PublicKey.ofPem?, hread, Option.bind_eq_bind, Option.bind_some, PublicKey.ofBytes?_toBytes h]

/-- The public half of a key that fits into its container fits into its own: what the factors take there makes up for
the wrapping. -/
theorem Components.Bare.length_public {key : PrivateKey} (h : key.toComponents.Bare bytes) :
    (integer key.modulus).length + (integer key.publicExponent).length + 28 < lengthLimit := by
  obtain ⟨x, y, z, hlimit, -⟩ := h
  simp only [List.flatMap_cons, List.flatMap_nil, List.append_nil, List.length_append] at hlimit
  have hfactors := Der.width_mul_le key.factor1 key.factor2
  rw [key.factor1_mul_factor2] at hfactors
  have hexponent := Der.width_le_width (Nat.le_of_lt key.publicExponent_lt)
  have hversionLength := Der.width_add_two_le_length_integer 0
  have hmodulusLength := Der.width_add_two_le_length_integer key.modulus
  have hpublicLength := Der.width_add_two_le_length_integer key.publicExponent
  have hprivateLength := Der.width_add_two_le_length_integer key.privateExponent
  have hfactor1Length := Der.width_add_two_le_length_integer key.factor1
  have hfactor2Length := Der.width_add_two_le_length_integer key.factor2
  have hmodulusMost := Der.length_integer_le (show Der.width key.modulus < lengthLimit by omega)
  have hpublicMost := Der.length_integer_le (show Der.width key.publicExponent < lengthLimit by omega)
  have hlimitValue : lengthLimit = 4294967296 := rfl
  omega

/-- The public half of a key that is read from a text reads back from the text that is written for it. -/
theorem PrivateKey.ofPem?_toPem {key : PrivateKey} (h : PrivateKey.ofPem? text = some key) :
    PublicKey.ofPem? key.publicKey.toPem = some key.publicKey := by
  cases PrivateKey.heldBy_of_ofPem? h with
  | wrapped _ _ hbare => exact PublicKey.ofPem?_toPem hbare.length_public
  | bare _ hbare => exact PublicKey.ofPem?_toPem hbare.length_public

end TokenAuthority.Rsa
