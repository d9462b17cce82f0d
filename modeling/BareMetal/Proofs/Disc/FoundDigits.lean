import BareMetal.Proofs.Disc.CheckDigits

/-!
# The check value that is found

A header tells which check value was found in it.  The digits are read when the fields are set, so
what is found is the number in the last device info that the description gives, and in the template
only where it gives none (`build_reports_digits_found`).
-/

namespace BareMetal.Disc.BootHeader

/-- The last value that a description gives for a field, if it gives one. -/
def lastGiven (f : Field) (values : List (Field × String)) : Option String :=
  (values.reverse.find? fun p => p.1 = f).map (·.2)

/-- The byte at offset `o` of the digits that are found: that of the device info if one is given,
else that of the template. -/
def foundByte (template : Bytes) (given : Option String) (o : Nat) : Option UInt8 :=
  match given with
  | some value => some (valueByte value (o - Field.deviceInfo.offset))
  | none => template[o]?

/-- The bytes at the place of the digits are a number, and it is this one: four hexadecimal digits of
either case, or a plus sign and three of them. -/
def Reads (byteAt : Nat → Option UInt8) (crc : UInt16) : Prop :=
  Spelled byteAt crc ∨ SpelledWithSign byteAt crc

section

variable {template : Bytes} {values : List (Field × String)} {text : String}

theorem lastGiven_eq_none_iff {f : Field} :
    lastGiven f values = none ↔ ∀ value, (f, value) ∉ values := by
  rw [lastGiven, Option.map_eq_none_iff, List.find?_eq_none]
  constructor
  · intro others value mem
    exact others (f, value) (List.mem_reverse.2 mem) (decide_eq_true rfl)
  · rintro absent ⟨g, value⟩ mem same
    obtain rfl : g = f := of_decide_eq_true same
    exact absent value (List.mem_reverse.1 mem)

theorem heldByte_eq_foundByte {o : Nat} (digit : IsDigit o) :
    heldByte template values o = foundByte template (lastGiven .deviceInfo values) o := by
  have covers_iff : (fun p : Field × String => decide (p.1.Covers o)) =
      fun p => decide (p.1 = .deviceInfo) :=
    funext fun p => decide_eq_decide.2 (covers_iff_of_isDigit digit)
  rw [heldByte, lastGiven, covers_iff]
  cases found : values.reverse.find? fun p => p.1 = .deviceInfo with
  | none => rfl
  | some p =>
    obtain ⟨f, value⟩ := p
    obtain rfl : f = .deviceInfo := by simpa using List.find?_some found
    rfl

/-- Only the four bytes at the place of the digits are read. -/
theorem reads_congr {byteAt byteAt' : Nat → Option UInt8} {crc : UInt16}
    (same : ∀ o, IsDigit o → byteAt o = byteAt' o) : Reads byteAt crc ↔ Reads byteAt' crc := by
  have at_place (i : Nat) (hi : i < 4) : byteAt (crcOffset + i) = byteAt' (crcOffset + i) :=
    same _ ⟨Nat.le_add_right _ _, Nat.add_lt_add_left hi _⟩
  refine or_congr (forall₂_congr fun i hi => by rw [at_place i hi]) ?_
  refine and_congr (by rw [← Nat.add_zero crcOffset, at_place 0 (by decide)]) (and_congr_right' ?_)
  exact forall₂_congr fun i hi => by rw [at_place (i + 1) (by omega)]

/-- The digits that are found when the fields are set are those of the last device info given, or
else of the template. -/
theorem previousCrc_finished_eq_some_iff (size : template.size = fileSize)
    (fit : ∀ p ∈ values, p.2.utf8ByteSize ≤ p.1.length) (crc : UInt16) :
    (finished template values).previousCrc = some crc ↔
      Reads (foundByte template (lastGiven .deviceInfo values)) crc := by
  have long := le_size_of_eq size
  have stored : storedCrc (setFields template values) = some crc ↔
      Reads (fun o => (setFields template values)[o]?) crc :=
    storedCrc_eq_some_iff (le_size_setFields long fit)
  refine stored.trans (reads_congr fun o digit => ?_)
  rw [getElem?_setFields long fit, heldByte_eq_foundByte digit]

theorem build_of_parse (size : template.size = fileSize)
    (parsed : Description.parse text = .ok values) :
    build template text = .ok (finished template values) := by
  rw [build_of_size size, parsed]
  rfl

/-- What is reported as the check value found is the number in the last device info that the
description gives, whatever the template holds.  It is the number in the template if the description
gives no device info.  Two descriptions with the same last device info, or without any, make the
same report of one template. -/
theorem build_reports_digits_found (size : template.size = 32768)
    (parsed : Description.parse text = .ok values) :
    ∃ built, build template text = .ok built ∧
      (∀ crc, built.previousCrc = some crc ↔
        Reads (foundByte template (lastGiven .deviceInfo values)) crc) ∧
      ((∀ value, (.deviceInfo, value) ∉ values) →
        ∀ crc, built.previousCrc = some crc ↔ Reads (fun o => template[o]?) crc) ∧
      ∀ text' values', Description.parse text' = .ok values' →
        lastGiven .deviceInfo values' = lastGiven .deviceInfo values →
        ∃ built', build template text' = .ok built' ∧ built'.previousCrc = built.previousCrc := by
  have reports := previousCrc_finished_eq_some_iff size (Description.size_le_of_parse parsed)
  refine ⟨_, build_of_parse size parsed, reports, fun absent => ?_,
    fun text' values' parsed' same => ⟨_, build_of_parse size parsed', Option.ext fun crc => ?_⟩⟩
  · rwa [lastGiven_eq_none_iff.2 absent] at reports
  · rw [previousCrc_finished_eq_some_iff size (Description.size_le_of_parse parsed'), same, reports]

end

/-- A header of zeros whose digits are `0000`. -/
def zeroDigits : Bytes := Bytes.splice (Bytes.zeros 32768) crcOffset (crcDigits 0)

theorem size_zeroDigits : zeroDigits.size = fileSize := by
  rw [zeroDigits, Bytes.size_splice (by rw [Bytes.size_zeros, size_crcDigits]; decide),
    Bytes.size_zeros, fileSize]

theorem reads_zeroDigits : Reads (fun o => zeroDigits[o]?) 0 :=
  .inl fun _ hi => .inl (getElem?_splice_crcDigits (by rw [Bytes.size_zeros]; decide) hi)

theorem parse_deviceInfo :
    Description.parse "Device Info: 12Ab CD-ROM1/1" = .ok [(.deviceInfo, "12Ab CD-ROM1/1")] := rfl

theorem reads_deviceInfo :
    Reads (foundByte zeroDigits (lastGiven .deviceInfo [(.deviceInfo, "12Ab CD-ROM1/1")])) 0x12AB := by
  refine .inl fun i hi => ?_
  have digits : ∀ i < 4, IsDigitOf 0x12AB i (some (valueByte "12Ab CD-ROM1/1" i)) := by decide
  have shifted : crcOffset + i - Field.deviceInfo.offset = i := Nat.add_sub_cancel_left ..
  show IsDigitOf 0x12AB i (some (valueByte "12Ab CD-ROM1/1" (crcOffset + i - Field.deviceInfo.offset)))
  rw [shifted]
  exact digits i hi

/-- Digits that a description gives are found in place of those that the template holds. -/
theorem build_reports_digits_found_given : ∃ built,
    build zeroDigits "Device Info: 12Ab CD-ROM1/1" = .ok built ∧ built.previousCrc = some 0x12AB := by
  obtain ⟨built, built_ok, reports, -⟩ := build_reports_digits_found size_zeroDigits parse_deviceInfo
  exact ⟨built, built_ok, (reports _).2 reads_deviceInfo⟩

/-- It is neither so that the check value found is always that of the template, nor that it is the
same for all descriptions. -/
theorem not_build_reports_template :
    (¬ ∀ template text built, build template text = .ok built →
      ∀ crc, built.previousCrc = some crc ↔ Reads (fun o => template[o]?) crc) ∧
    ¬ ∀ template text text' built built', build template text = .ok built →
      build template text' = .ok built' → built'.previousCrc = built.previousCrc := by
  have parsed : Description.parse "" = .ok [] := rfl
  have fit := Description.size_le_of_parse parsed
  have given_fit := Description.size_le_of_parse parse_deviceInfo
  have reports : (finished zeroDigits []).previousCrc = some 0 :=
    (previousCrc_finished_eq_some_iff size_zeroDigits fit 0).2 reads_zeroDigits
  have given_reports : (finished zeroDigits _).previousCrc = some 0x12AB :=
    (previousCrc_finished_eq_some_iff size_zeroDigits given_fit _).2 reads_deviceInfo
  have given_ok := build_of_parse size_zeroDigits parse_deviceInfo
  refine ⟨fun always => ?_, fun always => ?_⟩
  · have same := (always _ _ _ given_ok 0).2 reads_zeroDigits
    rw [given_reports] at same
    exact absurd same (by decide)
  · have same := always _ _ _ _ _ (build_of_parse size_zeroDigits parsed) given_ok
    rw [reports, given_reports] at same
    exact absurd same (by decide)

end BareMetal.Disc.BootHeader
