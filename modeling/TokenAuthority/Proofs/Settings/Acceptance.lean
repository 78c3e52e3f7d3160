import TokenAuthority.Proofs.Basic
import TokenAuthority.Proofs.Text.Normal
import TokenAuthority.Settings.Basic

/-!
# Which settings are accepted

Settings are read from the trimmed values of their variables and from nothing else. They are accepted when the listen
address and the lifetime are valid, or unset, and the active key id is set; otherwise the first of the three that is at
fault is reported. Main statement: `Settings.accepted_or_first_fault`.
-/

namespace TokenAuthority.Settings

/-! ## Integers -/

/-- One decimal digit or more. -/
structure IsNumeral (ds : List Char) : Prop where
  ne_nil : ds ≠ []
  digits : ∀ c ∈ ds, c.isDigit = true

/-- A text that writes an integer: a numeral of any length, zeros in front allowed, after a sign or without one. -/
inductive Denotes : List Char → Int → Prop
  | unsigned {ds : List Char} (h : IsNumeral ds) : Denotes ds (Nat.ofDigitChars 10 ds 0)
  | plus {ds : List Char} (h : IsNumeral ds) : Denotes ('+' :: ds) (Nat.ofDigitChars 10 ds 0)
  | minus {ds : List Char} (h : IsNumeral ds) : Denotes ('-' :: ds) (-(Nat.ofDigitChars 10 ds 0 : Int))

section

variable {cs : List Char} {n m : Int} {limit : Nat} {beyond : IntegerFault}

theorem not_isNumeral_sign {c : Char} (hc : c.isDigit = false) : ¬ IsNumeral (c :: cs) := by
  intro h
  rw [h.digits c (.head _)] at hc
  cases hc

theorem denotes_plus_iff : Denotes ('+' :: cs) n ↔ IsNumeral cs ∧ (Nat.ofDigitChars 10 cs 0 : Int) = n := by
  constructor
  · intro h
    cases h with
    | unsigned h => exact absurd h (not_isNumeral_sign (by decide))
    | plus h => exact ⟨h, rfl⟩
  · rintro ⟨h, rfl⟩
    exact .plus h

theorem denotes_minus_iff : Denotes ('-' :: cs) n ↔ IsNumeral cs ∧ -(Nat.ofDigitChars 10 cs 0 : Int) = n := by
  constructor
  · intro h
    cases h with
    | unsigned h => exact absurd h (not_isNumeral_sign (by decide))
    | minus h => exact ⟨h, rfl⟩
  · rintro ⟨h, rfl⟩
    exact .minus h

theorem denotes_iff_of_unsigned (hplus : ∀ ds, cs ≠ '+' :: ds) (hminus : ∀ ds, cs ≠ '-' :: ds) :
    Denotes cs n ↔ IsNumeral cs ∧ (Nat.ofDigitChars 10 cs 0 : Int) = n := by
  constructor
  · intro h
    cases h with
    | unsigned h => exact ⟨h, rfl⟩
    | plus h => exact absurd rfl (hplus _)
    | minus h => exact absurd rfl (hminus _)
  · rintro ⟨h, rfl⟩
    exact .unsigned h

/-- A text writes one integer at most. -/
theorem Denotes.eq (h : Denotes cs n) (h' : Denotes cs m) : n = m := by
  cases h with
  | plus => exact (denotes_plus_iff.1 h').2
  | minus => exact (denotes_minus_iff.1 h').2
  | unsigned hds =>
      cases h' with
      | unsigned => rfl
      | plus => exact absurd hds (not_isNumeral_sign (by decide))
      | minus => exact absurd hds (not_isNumeral_sign (by decide))

theorem le_ofDigitChars (cs : List Char) (k : Nat) : k ≤ Nat.ofDigitChars 10 cs k := by
  rw [Nat.ofDigitChars_eq_ofDigitChars_zero]
  exact Nat.le_add_right_of_le (Nat.le_mul_of_pos_left k (Nat.pow_pos (by decide)))

/-- Digits are read up to the limit, and no number wraps around: once it is beyond the limit it stays there. -/
theorem boundedDigits_eq_ok_iff {k l : Nat} (hk : k ≤ limit) :
    boundedDigits limit beyond k cs = .ok l ↔
      (∀ c ∈ cs, c.isDigit = true) ∧ Nat.ofDigitChars 10 cs k = l ∧ l ≤ limit := by
  induction cs generalizing k with
  | nil =>
      rw [boundedDigits, Nat.ofDigitChars_nil]
      constructor
      · rintro ⟨⟩
        exact ⟨nofun, rfl, hk⟩
      · rintro ⟨_, rfl, _⟩
        rfl
  | cons c cs ih =>
      have hnext : k * 10 + (c.toNat - 48) = 10 * k + (c.toNat - '0'.toNat) := by
        rw [Nat.mul_comm]
        rfl
      rw [boundedDigits, hnext, List.forall_mem_cons, Nat.ofDigitChars_cons]
      cases hdigit : c.isDigit with
      | false => simp
      | true =>
          by_cases hbeyond : limit < 10 * k + (c.toNat - '0'.toNat)
          · have hgrown := le_ofDigitChars cs (10 * k + (c.toNat - '0'.toNat))
            rw [if_neg (by simp), if_pos hbeyond]
            constructor
            · rintro ⟨⟩
            · rintro ⟨_, rfl, hle⟩
              omega
          · rw [if_neg (by simp), if_neg hbeyond, ih (Nat.le_of_not_lt hbeyond), and_iff_right rfl]

/-- What is made of a numeral, of which there is one if all characters are digits and the number is within the limit. -/
theorem map_boundedDigits_eq_ok_iff {f : Nat → Int} (hne : cs ≠ []) :
    (boundedDigits limit beyond 0 cs).map f = .ok n ↔
      (IsNumeral cs ∧ f (Nat.ofDigitChars 10 cs 0) = n) ∧ Nat.ofDigitChars 10 cs 0 ≤ limit := by
  rw [Outcome.map_eq_ok]
  constructor
  · rintro ⟨l, hread, rfl⟩
    obtain ⟨hdigits, rfl, hle⟩ := (boundedDigits_eq_ok_iff (Nat.zero_le _)).1 hread
    exact ⟨⟨⟨hne, hdigits⟩, rfl⟩, hle⟩
  · rintro ⟨⟨hnumeral, rfl⟩, hle⟩
    exact ⟨_, (boundedDigits_eq_ok_iff (Nat.zero_le _)).2 ⟨hnumeral.digits, rfl, hle⟩, rfl⟩

end

/-- An integer is read from every text that writes one, if it fits 64 bits, and from no other text. -/
theorem readInteger_eq_ok_iff {s : String} {n : Int} :
    readInteger s = .ok n ↔ Denotes s.toList n ∧ -9223372036854775808 ≤ n ∧ n ≤ 9223372036854775807 := by
  have hnil : ¬ IsNumeral [] := fun h => h.ne_nil rfl
  have hhigh : Nat.pow 2 63 - 1 = 9223372036854775807 := by decide
  have hlow : Nat.pow 2 63 = 9223372036854775808 := by decide
  have hnegative (read : Except IntegerFault Nat) :
      (do let k ← read; pure (k : Int) : Except IntegerFault Int).map (fun k => -k) =
        read.map fun k : Nat => -(k : Int) := by
    cases read <;> rfl
  rw [readInteger, hhigh, hlow]
  generalize s.toList = cs
  split
  · rw [denotes_iff_of_unsigned (by simp) (by simp)]
    simp [hnil]
  · rw [denotes_plus_iff]
    simp [hnil]
  · rw [denotes_minus_iff]
    simp [hnil]
  · rename_i cs hne
    rw [map_boundedDigits_eq_ok_iff hne, denotes_plus_iff]
    refine and_congr_right ?_
    rintro ⟨-, rfl⟩
    simp only [Int.ofNat_eq_natCast]
    omega
  · rename_i cs hne
    rw [hnegative, map_boundedDigits_eq_ok_iff hne, denotes_minus_iff]
    refine and_congr_right ?_
    rintro ⟨-, rfl⟩
    omega
  · rename_i hnonempty _ _ hplus hminus
    rw [map_boundedDigits_eq_ok_iff hnonempty, denotes_iff_of_unsigned hplus hminus]
    refine and_congr_right ?_
    rintro ⟨-, rfl⟩
    simp only [Int.ofNat_eq_natCast]
    omega

/-! ## Variables -/

/-- The value that a variable is set to: its text without the white space at both ends, unless nothing is left. -/
def IsSet (lookup : String → Option String) (name value : String) : Prop :=
  ∃ raw, lookup name = some raw ∧ Text.trim raw = value ∧ value ≠ ""

/-- A text that is not blank, with no white space at either end. -/
structure Solid (text : String) : Prop where
  ne_empty : text ≠ ""
  trimmed : Text.Trimmed text.toList

section

variable {lookup other : String → Option String} {name value : String}

theorem value?_eq_some_iff : value? lookup name = some value ↔ IsSet lookup name value := by
  rw [value?, Option.bind_eq_some_iff]
  refine exists_congr fun raw => and_congr_right fun _ => ?_
  by_cases hblank : Text.trim raw = ""
  · simp only [hblank, if_true]
    constructor
    · rintro ⟨⟩
    · rintro ⟨rfl, hne⟩
      exact absurd rfl hne
  · simp only [hblank, if_false, Option.some.injEq]
    constructor
    · rintro rfl
      exact ⟨rfl, hblank⟩
    · exact And.left

theorem value?_eq_none_iff : value? lookup name = none ↔ ∀ value, ¬ IsSet lookup name value := by
  simp only [Option.eq_none_iff_forall_ne_some, ne_eq, value?_eq_some_iff]

theorem value?_congr (h : ∀ value, IsSet other name value ↔ IsSet lookup name value) :
    value? other name = value? lookup name := by
  refine Option.ext fun value => ?_
  rw [value?_eq_some_iff, value?_eq_some_iff, h]

theorem IsSet.eq {value' : String} (h : IsSet lookup name value) (h' : IsSet lookup name value') : value = value' :=
  Option.some.inj ((value?_eq_some_iff.2 h).symm.trans (value?_eq_some_iff.2 h'))

theorem IsSet.solid (h : IsSet lookup name value) : Solid value := by
  obtain ⟨raw, _, rfl, hne⟩ := h
  exact ⟨hne, Text.trimmed_of_trim (Text.trim_trim raw)⟩

end

/-! ## What is asked of the variables -/

/-- Where the listen address is set, it is one. -/
def AddressValid (lookup : String → Option String) : Prop :=
  ∀ value, IsSet lookup listenVariable value → ∃ address, SocketAddress.ofText? value = some address

/-- A text that writes a number of seconds that tokens may hold. -/
def IsLifetime (value : String) (n : Nat) : Prop :=
  Denotes value.toList n ∧ 1 ≤ n ∧ n ≤ 2592000

/-- Where the lifetime is set, it is one. -/
def LifetimeValid (lookup : String → Option String) : Prop :=
  ∀ value, IsSet lookup lifetimeVariable value → ∃ n, IsLifetime value n

/-- The id of the active key is set. -/
def KidSet (lookup : String → Option String) : Prop :=
  ∃ value, IsSet lookup kidVariable value

/-- The first variable at fault, with its value where it is set. A lifetime that is a number of 64 bits is told apart
from one that is not. -/
inductive FirstFault (lookup : String → Option String) : Error → Prop
  | address {value : String} (hset : IsSet lookup listenVariable value)
      (hinvalid : SocketAddress.ofText? value = none) :
      FirstFault lookup (.invalid listenVariable value .address)
  | lifetime {value : String} {reason : Reason} (haddress : AddressValid lookup)
      (hset : IsSet lookup lifetimeVariable value) (hinvalid : ∀ n, ¬ IsLifetime value n)
      (hreason : reason = .lifetimeRange ↔
        ∃ n : Int, Denotes value.toList n ∧ -9223372036854775808 ≤ n ∧ n ≤ 9223372036854775807) :
      FirstFault lookup (.invalid lifetimeVariable value reason)
  | kid (haddress : AddressValid lookup) (hlifetime : LifetimeValid lookup) (hunset : ¬ KidSet lookup) :
      FirstFault lookup (.missing kidVariable)

/-- A text that is set by a variable, or else is the one for when the variable is unset. -/
def IsGiven (lookup : String → Option String) (name unset text : String) : Prop :=
  IsSet lookup name text ∨ (text = unset ∧ ∀ value, ¬ IsSet lookup name value)

/-- The settings that variables give. -/
structure GivenBy (lookup : String → Option String) (settings : Settings) : Prop where
  listenAddress : (∃ value, IsSet lookup listenVariable value ∧
      SocketAddress.ofText? value = some settings.listenAddress) ∨
    (settings.listenAddress = .v4 [0, 0, 0, 0] 3000 ∧ ∀ value, ¬ IsSet lookup listenVariable value)
  lifetime : (∃ value, IsSet lookup lifetimeVariable value ∧ IsLifetime value settings.lifetimeSeconds) ∨
    (settings.lifetimeSeconds = 3600 ∧ ∀ value, ¬ IsSet lookup lifetimeVariable value)
  keysDirectory : IsGiven lookup keysVariable "keys" settings.keysDirectory
  activeKid : IsSet lookup kidVariable settings.activeKid
  issuer : IsGiven lookup issuerVariable "medisync" settings.issuer
  bootstrapEmail : ∀ value, settings.bootstrapEmail = some value ↔ IsSet lookup bootstrapVariable value

section

variable {lookup : String → Option String} {name unset value text : String} {settings : Settings}

theorem isGiven_value? : IsGiven lookup name unset ((value? lookup name).getD unset) := by
  cases h : value? lookup name with
  | none => exact .inr ⟨rfl, value?_eq_none_iff.1 h⟩
  | some value => exact .inl (value?_eq_some_iff.1 h)

theorem IsGiven.solid (hunset : Solid unset) (h : IsGiven lookup name unset text) : Solid text := by
  rcases h with hset | ⟨rfl, -⟩
  · exact hset.solid
  · exact hunset

/-! ## The address and the lifetime -/

theorem readListenAddress_eq_ok_iff {value? : Option String} {address : SocketAddress} :
    readListenAddress value? = .ok address ↔
      (∃ value, value? = some value ∧ SocketAddress.ofText? value = some address) ∨
      (value? = none ∧ address = .v4 [0, 0, 0, 0] 3000) := by
  cases value? with
  | none => simp [readListenAddress, eq_comm]
  | some value => cases h : SocketAddress.ofText? value <;> simp [readListenAddress, h]

theorem readListenAddress_eq_error_iff {value? : Option String} {error : Error} :
    readListenAddress value? = .error error ↔
      ∃ value, value? = some value ∧ SocketAddress.ofText? value = none ∧
        error = .invalid listenVariable value .address := by
  cases value? with
  | none => simp [readListenAddress]
  | some value => cases h : SocketAddress.ofText? value <;> simp [readListenAddress, h, eq_comm]

theorem readInteger_of_isLifetime {n : Nat} (h : IsLifetime value n) : readInteger value = .ok (n : Int) := by
  obtain ⟨hdenotes, hpos, hle⟩ := h
  exact readInteger_eq_ok_iff.2 ⟨hdenotes, by omega, by omega⟩

theorem readLifetime_eq_ok_iff {value? : Option String} {lifetime : { n : Nat // 1 ≤ n ∧ n ≤ longestLifetime }} :
    readLifetime value? = .ok lifetime ↔
      (∃ value, value? = some value ∧ IsLifetime value lifetime.val) ∨ (value? = none ∧ lifetime.val = 3600) := by
  cases value? with
  | none => simp [readLifetime, Subtype.ext_iff, eq_comm]
  | some value =>
      simp only [Option.some.injEq, exists_eq_left', reduceCtorEq, false_and, or_false, readLifetime]
      constructor
      · intro h
        split at h
        · cases h
        · rename_i n hread
          split at h
          · rename_i hrange
            cases h
            have hle : n ≤ 2592000 := hrange.2
            have hnat : (n.toNat : Int) = n := Int.toNat_of_nonneg (by omega)
            refine ⟨hnat.symm ▸ (readInteger_eq_ok_iff.1 hread).1, ?_⟩
            show 1 ≤ n.toNat ∧ n.toNat ≤ 2592000
            omega
          · cases h
      · intro h
        rw [readInteger_of_isLifetime h]
        simp only [Int.toNat_natCast]
        rw [dif_pos ⟨by exact_mod_cast lifetime.property.1, by exact_mod_cast lifetime.property.2⟩]

theorem fault_of_readLifetime {value? : Option String} {error : Error} (h : readLifetime value? = .error error) :
    ∃ value reason, value? = some value ∧ (∀ n, ¬ IsLifetime value n) ∧
      error = .invalid lifetimeVariable value reason ∧
      (reason = .lifetimeRange ↔
        ∃ n : Int, Denotes value.toList n ∧ -9223372036854775808 ≤ n ∧ n ≤ 9223372036854775807) := by
  cases value? with
  | none => cases h
  | some value =>
      have hinvalid (n : Nat) (hlifetime : IsLifetime value n) : False := by
        have hok : readLifetime (some value) = .ok ⟨n, hlifetime.2⟩ :=
          readLifetime_eq_ok_iff.2 (.inl ⟨value, rfl, hlifetime⟩)
        rw [h] at hok
        cases hok
      rw [readLifetime] at h
      split at h
      · rename_i fault hread
        cases h
        refine ⟨value, _, rfl, hinvalid, rfl, nofun, ?_⟩
        rintro ⟨n, hn⟩
        rw [readInteger_eq_ok_iff.2 hn] at hread
        cases hread
      · rename_i n hread
        split at h
        · cases h
        · cases h
          exact ⟨value, _, rfl, hinvalid, rfl, fun _ => ⟨n, readInteger_eq_ok_iff.1 hread⟩, fun _ => rfl⟩

end

/-! ## Settings -/

section

variable {lookup : String → Option String} {settings : Settings}

/-- A variable is valid where it is set if what it is set to, or else the value for when it is unset, can be read. -/
theorem forall_isSet_iff {α : Type} {name : String} {reads : String → α → Prop} {unset : α → Prop}
    (hunset : ∃ a, unset a) :
    (∀ value, IsSet lookup name value → ∃ a, reads value a) ↔
      ∃ a, (∃ value, value? lookup name = some value ∧ reads value a) ∨ (value? lookup name = none ∧ unset a) := by
  simp only [← value?_eq_some_iff]
  cases value? lookup name with
  | none => simpa using hunset
  | some value => simp

theorem addressValid_iff :
    AddressValid lookup ↔ ∃ address, readListenAddress (value? lookup listenVariable) = .ok address := by
  simp only [readListenAddress_eq_ok_iff]
  exact forall_isSet_iff ⟨_, rfl⟩

theorem lifetimeValid_iff :
    LifetimeValid lookup ↔ ∃ lifetime, readLifetime (value? lookup lifetimeVariable) = .ok lifetime := by
  have hbounded (value : String) : (∃ n, IsLifetime value n) ↔
      ∃ lifetime : { n : Nat // 1 ≤ n ∧ n ≤ longestLifetime }, IsLifetime value lifetime.val :=
    ⟨fun ⟨n, h⟩ => ⟨⟨n, h.2⟩, h⟩, fun ⟨lifetime, h⟩ => ⟨lifetime.val, h⟩⟩
  simp only [LifetimeValid, hbounded, readLifetime_eq_ok_iff]
  exact forall_isSet_iff ⟨⟨3600, by decide⟩, rfl⟩

/-- What is read is valid, and is what the variables give. -/
theorem valid_of_read (h : read lookup = .ok settings) :
    AddressValid lookup ∧ LifetimeValid lookup ∧ KidSet lookup ∧ GivenBy lookup settings := by
  obtain ⟨address, haddress, h⟩ := Outcome.bind_eq_ok.1 h
  obtain ⟨lifetime, hlifetime, h⟩ := Outcome.bind_eq_ok.1 h
  split at h
  · rename_i kid hkid
    cases h
    have hset := value?_eq_some_iff.1 hkid
    refine ⟨addressValid_iff.2 ⟨address, haddress⟩, lifetimeValid_iff.2 ⟨lifetime, hlifetime⟩, ⟨kid, hset⟩, ?_⟩
    rw [readListenAddress_eq_ok_iff] at haddress
    rw [readLifetime_eq_ok_iff] at hlifetime
    simp only [value?_eq_some_iff, value?_eq_none_iff] at haddress hlifetime
    constructor
    case listenAddress => exact haddress.imp_right And.symm
    case lifetime => exact hlifetime.imp_right And.symm
    case keysDirectory => exact isGiven_value?
    case activeKid => exact hset
    case issuer => exact isGiven_value?
    case bootstrapEmail => exact fun value => value?_eq_some_iff
  · cases h

/-- Settings that are not read are refused for the first variable at fault. -/
theorem firstFault_of_read {error : Error} (h : read lookup = .error error) : FirstFault lookup error := by
  unfold read at h
  cases haddress : readListenAddress (value? lookup listenVariable) with
  | error fault =>
      rw [haddress] at h
      cases h
      obtain ⟨value, hvalue, hinvalid, rfl⟩ := readListenAddress_eq_error_iff.1 haddress
      exact .address (value?_eq_some_iff.1 hvalue) hinvalid
  | ok address =>
      have hvalid := addressValid_iff.2 ⟨address, haddress⟩
      rw [haddress] at h
      cases hlifetime : readLifetime (value? lookup lifetimeVariable) with
      | error fault =>
          rw [hlifetime] at h
          cases h
          obtain ⟨value, reason, hvalue, hinvalid, rfl, hreason⟩ := fault_of_readLifetime hlifetime
          exact .lifetime hvalid (value?_eq_some_iff.1 hvalue) hinvalid hreason
      | ok lifetime =>
          rw [hlifetime] at h
          cases hkid : value? lookup kidVariable with
          | none =>
              rw [hkid] at h
              cases h
              refine .kid hvalid (lifetimeValid_iff.2 ⟨lifetime, hlifetime⟩) ?_
              rintro ⟨value, hset⟩
              exact value?_eq_none_iff.1 hkid value hset
          | some kid =>
              rw [hkid] at h
              cases h

theorem exists_read_iff :
    (∃ settings, read lookup = .ok settings) ↔ AddressValid lookup ∧ LifetimeValid lookup ∧ KidSet lookup := by
  constructor
  · rintro ⟨settings, h⟩
    obtain ⟨haddress, hlifetime, hkid, -⟩ := valid_of_read h
    exact ⟨haddress, hlifetime, hkid⟩
  · rintro ⟨haddress, hlifetime, hkid⟩
    cases h : read lookup with
    | ok settings => exact ⟨settings, rfl⟩
    | error error =>
        cases firstFault_of_read h with
        | address hset hinvalid =>
            obtain ⟨address, hvalid⟩ := haddress _ hset
            rw [hinvalid] at hvalid
            cases hvalid
        | lifetime _ hset hinvalid =>
            obtain ⟨n, hvalid⟩ := hlifetime _ hset
            exact absurd hvalid (hinvalid n)
        | kid _ _ hunset => exact absurd hkid hunset

theorem read_congr {other : String → Option String}
    (h : ∀ name ∈ variableNames, ∀ value, IsSet other name value ↔ IsSet lookup name value) :
    read other = read lookup := by
  have hvalue (name : String) (hname : name ∈ variableNames) : value? other name = value? lookup name :=
    value?_congr (h name hname)
  have hlisten := hvalue listenVariable (by simp [variableNames])
  have hkeys := hvalue keysVariable (by simp [variableNames])
  have hkid := hvalue kidVariable (by simp [variableNames])
  have hissuer := hvalue issuerVariable (by simp [variableNames])
  have hlifetime := hvalue lifetimeVariable (by simp [variableNames])
  have hbootstrap := hvalue bootstrapVariable (by simp [variableNames])
  simp only [read, hlisten, hkeys, hkid, hissuer, hlifetime, hbootstrap]

end

/-- Settings depend on what the variables are set to and on nothing else. They are accepted when the listen address is
unset or an address, the lifetime is unset or a number of seconds from one to thirty days, written in any number of
digits, and the active key id is set. Then they are what the variables give: their texts are not blank and have no white
space at either end, and tokens hold for whole seconds. Otherwise the first of the three variables at fault is reported,
with its value. -/
theorem accepted_or_first_fault (lookup : String → Option String) :
    (∀ other, (∀ name ∈ variableNames, ∀ value, IsSet other name value ↔ IsSet lookup name value) →
      read other = read lookup) ∧
    ((∃ settings, read lookup = .ok settings) ↔ AddressValid lookup ∧ LifetimeValid lookup ∧ KidSet lookup) ∧
    (∀ settings, read lookup = .ok settings → GivenBy lookup settings ∧
      Solid settings.keysDirectory ∧ Solid settings.activeKid ∧ Solid settings.issuer ∧
      (∀ email, settings.bootstrapEmail = some email → Solid email) ∧
      ∃ n : Nat, 1 ≤ n ∧ n ≤ 2592000 ∧ settings.lifetime.nanoseconds = n * 1000000000) ∧
    (∀ error, read lookup = .error error → FirstFault lookup error) := by
  refine ⟨fun other => read_congr, exists_read_iff, fun settings h => ?_, fun error => firstFault_of_read⟩
  obtain ⟨-, -, -, hgiven⟩ := valid_of_read h
  refine ⟨hgiven, ?_, hgiven.activeKid.solid, ?_, fun email hemail => ?_, ?_⟩
  · exact hgiven.keysDirectory.solid ⟨by decide, Text.trimmed_of_trim (by decide +kernel)⟩
  · exact hgiven.issuer.solid ⟨by decide, Text.trimmed_of_trim (by decide +kernel)⟩
  · exact ((hgiven.bootstrapEmail email).1 hemail).solid
  · exact ⟨settings.lifetimeSeconds, settings.lifetime_pos, settings.lifetime_le, rfl⟩

/-! ## A sample -/

/-- An active key id with white space around it, a blank issuer, and a lifetime. -/
def sampleLookup (lifetime name : String) : Option String :=
  if name = kidVariable then some " k\t"
  else if name = issuerVariable then some "\u3000 "
  else if name = lifetimeVariable then some lifetime
  else none

theorem isSet_sampleKid (lifetime : String) : IsSet (sampleLookup lifetime) kidVariable "k" :=
  ⟨" k\t", rfl, by decide +kernel, by decide⟩

theorem addressValid_sample (lifetime : String) : AddressValid (sampleLookup lifetime) := by
  rintro value ⟨raw, hraw, -⟩
  cases hraw

theorem isSet_sampleLifetime {lifetime value : String} (htrim : Text.trim lifetime = value) (hne : value ≠ "") :
    IsSet (sampleLookup lifetime) lifetimeVariable value :=
  ⟨lifetime, rfl, htrim, hne⟩

/-- Zeros in front and a sign make no difference to a lifetime, and a number of seconds beyond the 64th power of two is
not taken for a short lifetime. -/
theorem accepted_or_first_fault_sample :
    (∃ settings, read (sampleLookup " +0000000000000000000002592000") = .ok settings ∧
      settings.lifetimeSeconds = 2592000 ∧ settings.activeKid = "k") ∧
    (∃ reason, read (sampleLookup "18446744073709555216") =
      .error (.invalid lifetimeVariable "18446744073709555216" reason)) := by
  constructor
  · obtain ⟨-, haccepted, hgiven, -⟩ := accepted_or_first_fault (sampleLookup " +0000000000000000000002592000")
    have hset : IsSet (sampleLookup " +0000000000000000000002592000") lifetimeVariable
        "+0000000000000000000002592000" := isSet_sampleLifetime (by decide +kernel) (by decide)
    have hdenotes : Denotes "+0000000000000000000002592000".toList 2592000 :=
      denotes_plus_iff.2 ⟨⟨by decide, List.all_eq_true.1 (by decide)⟩, by decide⟩
    have hvalid : LifetimeValid (sampleLookup " +0000000000000000000002592000") := fun value hvalue =>
      ⟨2592000, hvalue.eq hset ▸ hdenotes, by decide, by decide⟩
    obtain ⟨settings, hread⟩ := haccepted.2 ⟨addressValid_sample _, hvalid, "k", isSet_sampleKid _⟩
    obtain ⟨hgiven, -⟩ := hgiven settings hread
    obtain ⟨value, hvalue, hlifetime, -⟩ := hgiven.lifetime.resolve_right fun hunset => hunset.2 _ hset
    rw [hvalue.eq hset] at hlifetime
    have hn : (settings.lifetimeSeconds : Int) = 2592000 := hlifetime.eq hdenotes
    exact ⟨settings, hread, by omega, hgiven.activeKid.eq (isSet_sampleKid _)⟩
  · obtain ⟨-, haccepted, -, hfault⟩ := accepted_or_first_fault (sampleLookup "18446744073709555216")
    have hset : IsSet (sampleLookup "18446744073709555216") lifetimeVariable "18446744073709555216" :=
      isSet_sampleLifetime (by decide +kernel) (by decide)
    have hnumeral : IsNumeral "18446744073709555216".toList := ⟨by decide, List.all_eq_true.1 (by decide)⟩
    have hinvalid : ¬ LifetimeValid (sampleLookup "18446744073709555216") := by
      intro hvalid
      obtain ⟨n, hdenotes, -, hle⟩ := hvalid _ hset
      have hn : (n : Int) = 18446744073709555216 := hdenotes.eq (.unsigned hnumeral)
      omega
    cases hread : read (sampleLookup "18446744073709555216") with
    | ok settings => exact absurd (haccepted.1 ⟨settings, hread⟩).2.1 hinvalid
    | error error =>
        cases hfault error hread with
        | address hset' hunread =>
            obtain ⟨address, hread'⟩ := addressValid_sample _ _ hset'
            rw [hunread] at hread'
            cases hread'
        | lifetime _ hset' _ _ =>
            cases hset'.eq hset
            exact ⟨_, rfl⟩
        | kid _ hvalid _ => exact absurd hvalid hinvalid

end TokenAuthority.Settings
