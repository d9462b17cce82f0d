import BareMetal.Proofs.Disc.BootHeader

/-!
# The digits of the check value

Once its fields are set, a header holds the last value that a description gives for a field, and the
template elsewhere (`heldByte`).  Its check digits are left alone when they are the digits of the
check value in either case, and are written in upper case otherwise (`build_digits`).  A second run
finds the digits of the first one, so it changes nothing (`build_again`).
-/

namespace BareMetal.Disc.BootHeader

/-! ## What stands in a header when its fields are set -/

/-- The byte at offset `o` when the fields are set: that of the last value given for the field that
covers it, or else that of the template. -/
def heldByte (template : Bytes) (values : List (Field × String)) (o : Nat) : Option UInt8 :=
  match values.reverse.find? fun p => p.1.Covers o with
  | some (f, value) => some (valueByte value (o - f.offset))
  | none => template[o]?

section

variable {template data : Bytes} {values : List (Field × String)} {o : Nat}

theorem setFields_nil (data : Bytes) : setFields data [] = data := rfl

theorem setFields_append_singleton (data : Bytes) (values : List (Field × String)) (f : Field)
    (value : String) :
    setFields data (values ++ [(f, value)]) = setField (setFields data values) f value := by
  rw [setFields, List.foldl_append]
  rfl

theorem getElem?_setFields (long : 0x100 ≤ data.size)
    (fit : ∀ p ∈ values, p.2.utf8ByteSize ≤ p.1.length) (o : Nat) :
    (setFields data values)[o]? = heldByte data values o := by
  induction values using List.reverseRecOn with
  | nil => rfl
  | append_singleton values p ih =>
    obtain ⟨f, value⟩ := p
    have fits : value.utf8ByteSize ≤ f.length := fit (f, value) (by simp)
    have fit_before : ∀ p ∈ values, p.2.utf8ByteSize ≤ p.1.length :=
      fun p mem => fit p (by simp [mem])
    have long_before := le_size_setFields long fit_before
    rw [setFields_append_singleton, heldByte, List.reverse_append, List.reverse_singleton,
      List.singleton_append]
    by_cases covers : f.Covers o
    · rw [List.find?_cons_of_pos (by simpa using covers),
        getElem?_setField_of_covers long_before fits covers]
    · rw [List.find?_cons_of_neg (by simpa using covers),
        getElem?_setField_of_not_covers long_before fits covers, ih fit_before, heldByte]

/-- Setting the same fields once more leaves what they have set. -/
theorem heldByte_of_held (held : data[o]? = heldByte template values o) :
    heldByte data values o = heldByte template values o := by
  unfold heldByte at held ⊢
  split at held <;> simp_all

theorem heldByte_of_not_covers (outside : ∀ p ∈ values, ¬ p.1.Covers o) :
    heldByte template values o = template[o]? := by
  have none : values.reverse.find? (fun p => p.1.Covers o) = none :=
    List.find?_eq_none.2 fun p mem => by simpa using outside p (List.mem_reverse.1 mem)
  rw [heldByte, none]

theorem heldByte_of_covers (covered : ∃ p ∈ values, p.1.Covers o) :
    heldByte data values o = heldByte template values o := by
  unfold heldByte
  cases found : values.reverse.find? fun p => p.1.Covers o with
  | some p => rfl
  | none =>
    obtain ⟨p, mem, covers⟩ := covered
    exact absurd covers (by simpa using List.find?_eq_none.1 found p (List.mem_reverse.2 mem))

end

/-- The digits belong to one field. -/
theorem covers_iff_of_isDigit {f : Field} {o : Nat} (digit : IsDigit o) :
    f.Covers o ↔ f = .deviceInfo := by
  have covers : Field.deviceInfo.Covers o := by
    unfold IsDigit crcOffset at digit
    simp only [Field.Covers, Field.offset, Field.length]
    omega
  exact ⟨fun other => other.eq covers, fun same => same ▸ covers⟩

/-! ## Digits that spell a value -/

/-- The upper-case digit of a value below sixteen. -/
def upperDigit (v : Nat) : UInt8 := UInt8.ofNat (if v < 10 then 0x30 + v else 0x41 + (v - 10))

/-- The lower-case digit of a value below sixteen. -/
def lowerDigit (v : Nat) : UInt8 := UInt8.ofNat (if v < 10 then 0x30 + v else 0x61 + (v - 10))

/-- The value of the digit at place `i` of four hexadecimal digits, from the left. -/
def digitValue (crc : UInt16) (i : Nat) : Nat := crc.toNat / 16 ^ (3 - i) % 16

/-- A byte is the digit at place `i`, in either case. -/
def IsDigitOf (crc : UInt16) (i : Nat) (b : Option UInt8) : Prop :=
  b = some (upperDigit (digitValue crc i)) ∨ b = some (lowerDigit (digitValue crc i))

instance (crc : UInt16) (i : Nat) (b : Option UInt8) : Decidable (IsDigitOf crc i b) :=
  inferInstanceAs (Decidable (_ ∨ _))

/-- The four bytes at the place of the digits are those of a value, in either case. -/
def Spelled (byteAt : Nat → Option UInt8) (crc : UInt16) : Prop :=
  ∀ i < 4, IsDigitOf crc i (byteAt (crcOffset + i))

/-- The bytes at the place of the digits are a plus sign and the last three digits of a value that
needs no more. -/
def SpelledWithSign (byteAt : Nat → Option UInt8) (crc : UInt16) : Prop :=
  byteAt crcOffset = some 0x2B ∧ digitValue crc 0 = 0 ∧
    ∀ i < 3, IsDigitOf crc (i + 1) (byteAt (crcOffset + (i + 1)))

theorem digit?_ofNat_eq_some_iff {b : UInt8} {v : Nat} :
    Numeral.digit? (Char.ofNat b.toNat) = some v ↔
      v < 16 ∧ (b = upperDigit v ∨ b = lowerDigit v) := by
  have codes : ∀ v < 16, UInt8.ofNat (Numeral.hexDigit v).toNat = upperDigit v ∧
      UInt8.ofNat v.digitChar.toNat = lowerDigit v := by decide
  have chars : ∀ v < 16, Numeral.hexDigit v = Char.ofNat (upperDigit v).toNat ∧
      v.digitChar = Char.ofNat (lowerDigit v).toNat := by decide
  have code_ofNat : (Char.ofNat b.toNat).toNat = b.toNat :=
    (by decide +kernel : ∀ n < 256, (Char.ofNat n).toNat = n) b.toNat b.toNat_lt
  rw [Numeral.digit?_eq_some_iff]
  refine and_congr_right fun small => ?_
  obtain ⟨upper, lower⟩ := codes v small
  obtain ⟨upper', lower'⟩ := chars v small
  constructor
  · rintro (same | same)
    · left
      rw [← upper, ← same, code_ofNat, UInt8.ofNat_toNat]
    · right
      rw [← lower, ← same, code_ofNat, UInt8.ofNat_toNat]
  · rintro (rfl | rfl)
    · exact .inl upper'.symm
    · exact .inr lower'.symm

/-- A byte as the character with its code. -/
def byteChar (b : UInt8) : Char := Char.ofNat b.toNat

theorem byteChar_eq_plus_iff {b : UInt8} : byteChar b = '+' ↔ b = 0x2B := by
  have table : ∀ n < 256, Char.ofNat n = '+' → n = 0x2B := by decide +kernel
  constructor
  · intro sign
    exact UInt8.toNat_inj.1 (table b.toNat b.toNat_lt sign)
  · rintro rfl
    rfl

theorem isDigitOf_iff {crc : UInt16} {i : Nat} {b : Option UInt8} :
    IsDigitOf crc i b ↔ (b.map byteChar).bind Numeral.digit? = some (digitValue crc i) := by
  have small : digitValue crc i < 16 := Nat.mod_lt _ (by decide)
  cases b with
  | none => simp [IsDigitOf]
  | some b =>
    rw [Option.map_some, Option.bind_some, byteChar, digit?_ofNat_eq_some_iff, IsDigitOf,
      Option.some.injEq, Option.some.injEq]
    exact (and_iff_right small).symm

theorem digitValue_zero_eq_zero_iff {crc : UInt16} : digitValue crc 0 = 0 ↔ crc.toNat < 16 ^ 3 := by
  have := crc.toNat_lt
  unfold digitValue
  omega

theorem map_ofNat_eq_some_iff {read : Option Nat} {crc : UInt16}
    (small : ∀ n, read = some n → n < 16 ^ 4) :
    read.map UInt16.ofNat = some crc ↔ read = some crc.toNat := by
  rw [Option.map_eq_some_iff]
  constructor
  · rintro ⟨n, rfl, rfl⟩
    rw [UInt16.toNat_ofNat_of_lt' (small n rfl)]
  · rintro rfl
    exact ⟨crc.toNat, rfl, UInt16.ofNat_toNat⟩

/-- The bytes at the place of the digits, as characters. -/
def digitChars (data : Bytes) : List Char := (Bytes.slice data crcOffset 4).toList.map byteChar

section

variable {data : Bytes} {crc : UInt16}

theorem storedCrc_eq_map (data : Bytes) :
    storedCrc data = (Numeral.read? 16 (digitChars data)).map UInt16.ofNat := rfl

theorem length_digitChars (long : 0x100 ≤ data.size) : (digitChars data).length = 4 := by
  rw [digitChars, List.length_map, Array.length_toList]
  exact Bytes.size_slice (by unfold crcOffset; omega)

theorem getElem?_digitChars (data : Bytes) {i : Nat} (hi : i < 4) :
    (digitChars data)[i]? = data[crcOffset + i]?.map byteChar := by
  rw [digitChars, List.getElem?_map, Array.getElem?_toList, Bytes.getElem?_slice, if_pos hi]

theorem spelled_iff (long : 0x100 ≤ data.size) : Spelled (fun o => data[o]?) crc ↔
    Numeral.ofDigits? 16 (digitChars data) = some crc.toNat := by
  rw [Numeral.ofDigits?_eq_some_iff (by decide), length_digitChars long]
  refine Iff.trans (forall₂_congr fun i hi => ?_) (and_iff_right crc.toNat_lt).symm
  rw [isDigitOf_iff, getElem?_digitChars data hi]
  rfl

theorem spelledWithSign_iff (long : 0x100 ≤ data.size) : SpelledWithSign (fun o => data[o]?) crc ↔
    ∃ digits, digits ≠ [] ∧ digitChars data = '+' :: digits ∧
      Numeral.ofDigits? 16 digits = some crc.toNat := by
  have length := length_digitChars long
  have at_place (i : Nat) (hi : i < 4) := getElem?_digitChars data hi
  obtain ⟨c, rest, chars⟩ := List.exists_cons_of_length_eq_add_one length
  rw [chars] at length at_place ⊢
  have rest_length : rest.length = 3 := Nat.succ.inj length
  have sign : data[crcOffset]? = some 0x2B ↔ c = '+' := by
    have first := at_place 0 (by decide)
    rw [List.getElem?_cons_zero, Nat.add_zero] at first
    obtain ⟨b, at_first, rfl⟩ := Option.map_eq_some_iff.1 first.symm
    rw [at_first, Option.some.injEq, byteChar_eq_plus_iff]
  have digit (i : Nat) (hi : i < 3) : IsDigitOf crc (i + 1) data[crcOffset + (i + 1)]? ↔
      rest[i]?.bind Numeral.digit? = some (crc.toNat / 16 ^ (3 - 1 - i) % 16) := by
    rw [isDigitOf_iff, ← at_place (i + 1) (by omega), List.getElem?_cons_succ, digitValue,
      Nat.sub_sub, Nat.add_comm 1 i]
  have value : Numeral.ofDigits? 16 rest = some crc.toNat ↔ digitValue crc 0 = 0 ∧
      ∀ i < 3, IsDigitOf crc (i + 1) data[crcOffset + (i + 1)]? := by
    rw [Numeral.ofDigits?_eq_some_iff (by decide), rest_length, digitValue_zero_eq_zero_iff]
    exact and_congr_right fun _ => (forall₂_congr digit).symm
  rw [SpelledWithSign, sign, ← value]
  constructor
  · rintro ⟨rfl, read⟩
    exact ⟨rest, List.ne_nil_of_length_pos (by omega), rfl, read⟩
  · rintro ⟨digits, -, same, read⟩
    obtain ⟨rfl, rfl⟩ := List.cons.inj same
    exact ⟨rfl, read⟩

/-- The check value stored in a header is that which its digits spell. -/
theorem storedCrc_eq_some_iff (long : 0x100 ≤ data.size) : storedCrc data = some crc ↔
    Spelled (fun o => data[o]?) crc ∨ SpelledWithSign (fun o => data[o]?) crc := by
  have length := length_digitChars long
  have some_char : digitChars data ≠ [] := List.ne_nil_of_length_pos (by omega)
  have small : ∀ n, Numeral.read? 16 (digitChars data) = some n → n < 16 ^ 4 := by
    intro n read
    rcases Numeral.read?_eq_some_iff.1 read with ⟨-, read⟩ | ⟨digits, -, chars, read⟩
    · exact length ▸ ((Numeral.ofDigits?_eq_some_iff (by decide)).1 read).1
    · rw [chars, List.length_cons] at length
      have lt := ((Numeral.ofDigits?_eq_some_iff (by decide)).1 read).1
      rw [Nat.succ.inj length] at lt
      exact Nat.lt_trans lt (by decide)
  rw [storedCrc_eq_map, map_ofNat_eq_some_iff small, Numeral.read?_eq_some_iff, spelled_iff long,
    spelledWithSign_iff long, and_iff_right some_char]

end

/-! ## Digits brought up to date -/

theorem toList_crcDigits (crc : UInt16) : (crcDigits crc).toList =
    (Numeral.hexDigits 4 crc.toNat).map fun c => UInt8.ofNat c.toNat := by
  apply Bytes.toList_ofText_ofList
  intro c mem
  obtain ⟨d, d_lt, rfl⟩ := Numeral.exists_of_mem_hexDigits mem
  exact (by decide : ∀ d < 16, (Numeral.hexDigit d).toNat < 128) d d_lt

/-- The digits written are those of the check value in upper case. -/
theorem getElem?_crcDigits (crc : UInt16) {i : Nat} (hi : i < 4) :
    (crcDigits crc)[i]? = some (upperDigit (digitValue crc i)) := by
  have codes : ∀ v < 16, UInt8.ofNat (Numeral.hexDigit v).toNat = upperDigit v := by decide
  have value_lt : digitValue crc i < 16 := Nat.mod_lt _ (by decide)
  rw [← Array.getElem?_toList, toList_crcDigits, List.getElem?_map,
    Numeral.getElem?_hexDigits crc.toNat_lt hi, Option.map_some]
  exact congrArg some (codes _ value_lt)

section

variable {data : Bytes} {crc : UInt16}

/-- Digits that are written are the upper-case digits of the check value. -/
theorem getElem?_splice_crcDigits (long : 0x100 ≤ data.size) {i : Nat} (hi : i < 4) :
    (Bytes.splice data crcOffset (crcDigits crc))[crcOffset + i]? =
      some (upperDigit (digitValue crc i)) := by
  have size := size_crcDigits crc
  rw [Bytes.getElem?_splice (by unfold crcOffset; omega), if_neg (by omega), if_pos (by omega),
    Nat.add_sub_cancel_left, getElem?_crcDigits crc hi]

theorem storedCrc_updateDigits (long : 0x100 ≤ data.size) :
    storedCrc (updateDigits data crc) = some crc := by
  unfold updateDigits
  split
  case isTrue stored => exact stored
  case isFalse =>
    have size := size_crcDigits crc
    have written : 0x100 ≤ (Bytes.splice data crcOffset (crcDigits crc)).size := by
      rwa [Bytes.size_splice (by unfold crcOffset; omega)]
    refine (storedCrc_eq_some_iff written).2 (.inl fun i hi => .inl ?_)
    exact getElem?_splice_crcDigits long hi

/-- Digits that are up to date stay as they are. -/
theorem updateDigits_of_stored (stored : storedCrc data = some crc) :
    updateDigits data crc = data := if_pos stored

theorem updateDigits_of_not_stored (other : storedCrc data ≠ some crc) :
    updateDigits data crc = Bytes.splice data crcOffset (crcDigits crc) := if_neg other

end

/-! ## Building twice -/

section

variable {template : Bytes} {values : List (Field × String)}

/-- A header whose fields and digits are set is what it was before or after its digits were set,
when the same fields are set once more. -/
theorem setFields_updateDigits (long : 0x100 ≤ template.size)
    (fit : ∀ p ∈ values, p.2.utf8ByteSize ≤ p.1.length) (crc : UInt16) :
    setFields (updateDigits (setFields template values) crc) values = setFields template values ∨
      setFields (updateDigits (setFields template values) crc) values =
        updateDigits (setFields template values) crc := by
  have set_long := le_size_setFields long fit
  have updated_long : 0x100 ≤ (updateDigits (setFields template values) crc).size := by
    rwa [size_updateDigits set_long]
  have off_digits (o : Nat) (other : ¬ IsDigit o) :
      (setFields (updateDigits (setFields template values) crc) values)[o]? =
        (setFields template values)[o]? := by
    rw [getElem?_setFields updated_long fit, getElem?_setFields long fit]
    apply heldByte_of_held
    rw [getElem?_updateDigits set_long other, getElem?_setFields long fit]
  -- the digits are set again when the description sets the field that they belong to
  by_cases described : ∃ p ∈ values, p.1 = .deviceInfo
  · obtain ⟨p, mem, field⟩ := described
    refine .inl (Array.ext_getElem? fun o => ?_)
    by_cases digit : IsDigit o
    · rw [getElem?_setFields updated_long fit, getElem?_setFields long fit]
      exact heldByte_of_covers ⟨p, mem, (covers_iff_of_isDigit digit).2 field⟩
    · exact off_digits o digit
  · refine .inr (Array.ext_getElem? fun o => ?_)
    by_cases digit : IsDigit o
    · rw [getElem?_setFields updated_long fit]
      exact heldByte_of_not_covers fun p mem covers =>
        described ⟨p, mem, (covers_iff_of_isDigit digit).1 covers⟩
    · rw [off_digits o digit, getElem?_updateDigits set_long digit]

variable {text : String}

theorem data_finished (template : Bytes) (values : List (Field × String)) :
    (finished template values).data =
      updateDigits (setFields template values) (finished template values).crc := by
  simp only [finished]

theorem storedCrc_finished (size : template.size = fileSize)
    (fit : ∀ p ∈ values, p.2.utf8ByteSize ≤ p.1.length) :
    storedCrc (finished template values).data = some (finished template values).crc := by
  rw [data_finished]
  exact storedCrc_updateDigits (le_size_setFields (le_size_of_eq size) fit)

/-- The check value of a finished header is that of its bytes. -/
theorem crc16_finished (size : template.size = fileSize)
    (fit : ∀ p ∈ values, p.2.utf8ByteSize ≤ p.1.length) :
    crc16 (Bytes.slice (finished template values).data checkedOffset checkedLength) =
      (finished template values).crc := by
  rw [data_finished, slice_updateDigits (le_size_setFields (le_size_of_eq size) fit)]
  simp only [finished]

/-- A header that spells its check value is finished already when its fields are set. -/
theorem finished_of_stored {data : Bytes} {crc : UInt16} (fields : setFields data values = data)
    (checked : crc16 (Bytes.slice data checkedOffset checkedLength) = crc)
    (stored : storedCrc data = some crc) :
    (finished data values).data = data ∧ (finished data values).crc = crc ∧
      (finished data values).previousCrc = some crc := by
  simpa only [finished, fields, checked, true_and] using
    ⟨updateDigits_of_stored stored, stored⟩

theorem finished_finished (size : template.size = fileSize)
    (fit : ∀ p ∈ values, p.2.utf8ByteSize ≤ p.1.length) :
    (finished (finished template values).data values).data = (finished template values).data ∧
      (finished (finished template values).data values).crc = (finished template values).crc := by
  rcases setFields_updateDigits (le_size_of_eq size) fit (finished template values).crc with
    same | same
  · rw [← data_finished] at same
    simp only [finished] at same ⊢
    rw [same]
    exact ⟨rfl, rfl⟩
  · rw [← data_finished] at same
    obtain ⟨data_eq, crc_eq, -⟩ :=
      finished_of_stored same (crc16_finished size fit) (storedCrc_finished size fit)
    exact ⟨data_eq, crc_eq⟩

/-- A header that has been built is built again from the same description, and from none, without a
change; in the latter case the digits are found to be up to date. -/
theorem build_again {built : Built} (h : build template text = .ok built) :
    (∃ again, build built.data text = .ok again ∧ again.data = built.data ∧
      again.crc = built.crc ∧ again.unset = built.unset) ∧
    ∃ again, build built.data "" = .ok again ∧ again.data = built.data ∧
      again.crc = built.crc ∧ again.crcChanged = false := by
  obtain ⟨size, values, parsed, rfl⟩ := eq_finished_of_build h
  have fit := Description.size_le_of_parse parsed
  have built_size : (finished template values).data.size = fileSize :=
    (holds_finished size fit).size
  constructor
  · obtain ⟨data_eq, crc_eq⟩ := finished_finished size fit
    refine ⟨finished (finished template values).data values, ?_, data_eq, crc_eq, rfl⟩
    rw [build_of_size built_size, parsed]
    rfl
  · obtain ⟨data_eq, crc_eq, previous_eq⟩ :=
      finished_of_stored (setFields_nil _) (crc16_finished size fit) (storedCrc_finished size fit)
    refine ⟨finished (finished template values).data [], ?_, data_eq, crc_eq, ?_⟩
    · rw [build_of_size built_size, show Description.parse "" = .ok [] by decide +kernel]
      rfl
    · rw [Built.crcChanged, previous_eq, crc_eq]
      exact bne_self_eq_false _

/-- Where the description gives the digits in lower case, they are found again by a second run. -/
theorem build_again_lower_case : ∃ built again last,
    build (Bytes.zeros 32768) "Device Info: 6a0a" = .ok built ∧
      build built.data "Device Info: 6a0a" = .ok again ∧ again.data = built.data ∧
      build built.data "" = .ok last ∧ last.data = built.data ∧ last.crcChanged = false := by
  have first : build (Bytes.zeros 32768) "Device Info: 6a0a" =
      .ok (finished (Bytes.zeros 32768) [(.deviceInfo, "6a0a")]) := by
    have parsed : Description.parse "Device Info: 6a0a" = .ok [(.deviceInfo, "6a0a")] := by
      decide +kernel
    rw [build_of_size (Bytes.size_zeros 32768), parsed]
    rfl
  obtain ⟨⟨again, again_ok, again_data, -, -⟩, last, last_ok, last_data, -, unchanged⟩ :=
    build_again first
  exact ⟨_, again, last, first, again_ok, again_data, last_ok, last_data, unchanged⟩

/-! ## The digits of a finished header -/

/-- A finished header keeps the digits that its template or its description has, where they are
those of the check value in either case.  It has the upper-case digits of the check value where
there is something else, a plus sign before three digits of that value aside. -/
theorem build_digits (size : template.size = 32768) (parsed : Description.parse text = .ok values) :
    ∃ built, build template text = .ok built ∧ crc built.data = .ok built.crc ∧
      (Spelled (heldByte template values) built.crc → ∀ i < 4,
        built.data[0x20 + i]? = heldByte template values (0x20 + i)) ∧
      (¬ Spelled (heldByte template values) built.crc →
        ¬ SpelledWithSign (heldByte template values) built.crc → ∀ i < 4,
        built.data[0x20 + i]? = some (upperDigit (digitValue built.crc i))) := by
  have fit := Description.size_le_of_parse parsed
  have long : 0x100 ≤ template.size := by omega
  have set_long := le_size_setFields long fit
  have held : (fun o => (setFields template values)[o]?) = heldByte template values :=
    funext (getElem?_setFields long fit)
  have stored_iff : storedCrc (setFields template values) = some (finished template values).crc ↔
      Spelled (heldByte template values) (finished template values).crc ∨
        SpelledWithSign (heldByte template values) (finished template values).crc := by
    rw [← held]
    exact storedCrc_eq_some_iff set_long
  refine ⟨finished template values, ?_, (holds_finished size fit).crc, fun spelled i _ => ?_,
    fun not_spelled not_signed i hi => ?_⟩
  · rw [build_of_size size, parsed]
    rfl
  · rw [data_finished, updateDigits_of_stored (stored_iff.2 (.inl spelled)),
      getElem?_setFields long fit]
  · have not_stored : storedCrc (setFields template values) ≠ some (finished template values).crc :=
      fun stored => (stored_iff.1 stored).elim not_spelled not_signed
    rw [data_finished, updateDigits_of_not_stored not_stored]
    exact getElem?_splice_crcDigits set_long hi

end

theorem crc_finished_nil (template : Bytes) : (finished template []).crc =
    crc16 (Bytes.slice template checkedOffset checkedLength) := by
  rw [finished, setFields_nil]

theorem data_finished_nil {template : Bytes}
    (stored : storedCrc template = some (finished template []).crc) :
    (finished template []).data = template := updateDigits_of_stored stored

/-- A header of zeros that spells its check value in lower case. -/
def lowerCaseTemplate : Bytes :=
  Bytes.splice (Bytes.zeros 32768) crcOffset #[0x36, 0x61, 0x30, 0x61]

theorem size_lowerCaseTemplate : lowerCaseTemplate.size = 32768 := by
  rw [lowerCaseTemplate, Bytes.size_splice (by rw [Bytes.size_zeros]; decide), Bytes.size_zeros]

theorem getElem?_lowerCaseTemplate {i : Nat} (hi : i < 4) :
    lowerCaseTemplate[0x20 + i]? = #[(0x36 : UInt8), 0x61, 0x30, 0x61][i]? := by
  have size : #[(0x36 : UInt8), 0x61, 0x30, 0x61].size = 4 := rfl
  rw [lowerCaseTemplate, Bytes.getElem?_splice (by rw [Bytes.size_zeros]; decide), crcOffset,
    if_neg (by omega), if_pos (by omega), Nat.add_sub_cancel_left]

theorem slice_lowerCaseTemplate :
    Bytes.slice lowerCaseTemplate checkedOffset checkedLength = Bytes.zeros 16 := by
  rw [lowerCaseTemplate, Bytes.slice_splice_of_apart (by rw [Bytes.size_zeros]; decide)
    (.inr (by decide))]
  apply Array.ext_getElem?
  intro i
  rw [Bytes.getElem?_slice, Bytes.getElem?_zeros, Bytes.getElem?_zeros, checkedOffset,
    checkedLength]
  split
  · rw [if_pos (by omega)]
  · rfl

theorem eq_of_build_lowerCaseTemplate {built : Built} (h : build lowerCaseTemplate "" = .ok built) :
    built = finished lowerCaseTemplate [] ∧ built.crc = 0x6A0A := by
  rw [build_of_size size_lowerCaseTemplate,
    show Description.parse "" = .ok [] by decide +kernel] at h
  obtain rfl : finished lowerCaseTemplate [] = built := Except.ok.inj h
  refine ⟨rfl, ?_⟩
  rw [crc_finished_nil, slice_lowerCaseTemplate]
  decide +kernel

theorem spelled_lowerCaseTemplate : Spelled (heldByte lowerCaseTemplate []) 0x6A0A := by
  intro i hi
  rw [heldByte_of_not_covers (by simp), crcOffset, getElem?_lowerCaseTemplate hi]
  exact (by decide : ∀ i < 4, IsDigitOf 0x6A0A i #[(0x36 : UInt8), 0x61, 0x30, 0x61][i]?) i hi

/-- Digits in lower case stay in lower case. -/
theorem build_digits_lower_case : ∃ built, build lowerCaseTemplate "" = .ok built ∧
    ∀ i < 4, built.data[0x20 + i]? = #[(0x36 : UInt8), 0x61, 0x30, 0x61][i]? := by
  have parsed : Description.parse "" = .ok [] := by decide +kernel
  obtain ⟨built, built_ok, -, kept, -⟩ := build_digits size_lowerCaseTemplate parsed
  obtain ⟨-, crc_eq⟩ := eq_of_build_lowerCaseTemplate built_ok
  refine ⟨built, built_ok, fun i hi => ?_⟩
  rw [kept (by rw [crc_eq]; exact spelled_lowerCaseTemplate) i hi,
    heldByte_of_not_covers (by simp), getElem?_lowerCaseTemplate hi]

/-- It is not so that every finished header has its digits in upper case. -/
theorem not_build_digits_upper_case : ¬ ∀ template text values,
    template.size = 32768 → Description.parse text = .ok values →
    ∃ built, build template text = .ok built ∧
      ∀ i < 4, built.data[0x20 + i]? = some (upperDigit (digitValue built.crc i)) := by
  intro always
  have parsed : Description.parse "" = .ok [] := by decide +kernel
  obtain ⟨built, built_ok, upper⟩ := always lowerCaseTemplate "" [] size_lowerCaseTemplate parsed
  obtain ⟨rfl, crc_eq⟩ := eq_of_build_lowerCaseTemplate built_ok
  have stored : storedCrc lowerCaseTemplate = some (finished lowerCaseTemplate []).crc := by
    rw [crc_eq, storedCrc_eq_some_iff (le_size_of_eq size_lowerCaseTemplate)]
    exact .inl spelled_lowerCaseTemplate
  have second := upper 1 (by decide)
  rw [data_finished_nil stored, getElem?_lowerCaseTemplate (by decide), crc_eq] at second
  exact absurd second (by decide)

end BareMetal.Disc.BootHeader
