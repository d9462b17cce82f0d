import BareMetal.DownloadTool.Run
import BareMetal.ObjectFile.Address
import BareMetal.Proofs.Design.AdaPackage
import BareMetal.Proofs.Text.Hexadecimal

/-!
# Addresses as texts

An address is shown to the debug server and to the monitor in hexadecimal behind `0x`, and written
into an Ada package in two groups of digits.  Wherever a hexadecimal text is read, these texts are
read as the address again (`parse_reads_spellings`).
-/

namespace BareMetal.Hexadecimal

open DownloadTool

theorem toList_addressText (a : UInt32) :
    (addressText a).toList = ['0', 'x'] ++ Numeral.hexDigits 1 a.toNat := by
  simp [addressText, Numeral.hex]

theorem parse_addressText (a : UInt32) : parse (addressText a) = .ok a := by
  have marked := Marked.lower (Numeral.hexDigits 1 a.toNat)
  rw [← toList_addressText] at marked
  rw [parse_eq_ok_iff, standsFor_iff, ← marked.eq_body, filter_hexDigits, Numeral.read?_hexDigits]

theorem hasMarker_addressText (a : UInt32) : hasMarker (addressText a).toList = true := by
  rw [toList_addressText]
  rfl

theorem parseNumber_addressText (a : UInt32) : parseNumber (addressText a) = .ok a := by
  rw [parseNumber, if_pos (hasMarker_addressText a), parse_addressText]

theorem startAddress_parse_addressText (a : UInt32) :
    StartAddress.parse (addressText a) = .ok (.address a) := by
  rw [StartAddress.parse, if_pos (hasMarker_addressText a), parse_addressText]
  rfl

/-- A text is read as a word just when it stands for that word, and is told back otherwise.  The
spellings of texts that differ in underscores only are read alike, with each mark and without one.
The texts that addresses are shown and written as are read as these addresses. -/
theorem parse_reads_spellings :
    (∀ s, (∀ a, parse s = .ok a ↔ StandsFor s.toList a.toNat) ∧
      ∀ message, parse s = .error message ↔
        message = "Invalid hex value: " ++ s ∧ ∀ n, StandsFor s.toList n → 2 ^ 32 ≤ n) ∧
    (∀ digits others : String, (∀ c ∈ digits.toList, c ∉ ['x', 'X', '$', '#']) →
      (∀ c ∈ others.toList, c ∉ ['x', 'X', '$', '#']) →
      digits.toList.filter (· ≠ '_') = others.toList.filter (· ≠ '_') →
      ∀ s ∈ spellings digits, ∀ s' ∈ spellings others, ∀ a, parse s = .ok a ↔ parse s' = .ok a) ∧
    ∀ a, parse (addressText a) = .ok a ∧ parseNumber (addressText a) = .ok a ∧
      StartAddress.parse (addressText a) = .ok (.address a) ∧
      parse (Design.AdaPackage.literal a) = .ok a := by
  refine ⟨fun s => ⟨fun a => parse_eq_ok_iff, fun message => parse_eq_error_iff⟩, ?_, fun a =>
    ⟨parse_addressText a, parseNumber_addressText a, startAddress_parse_addressText a,
      Design.AdaPackage.parse_literal a⟩⟩
  intro digits others unmarked unmarked' same s mem s' mem' a
  have strips := strips_of_mem_spellings unmarked mem
  have strips' := strips_of_mem_spellings unmarked' mem'
  rw [parse_eq_ok_iff, parse_eq_ok_iff]
  exact ⟨.congr strips strips' same, .congr strips' strips same.symm⟩

/-- Digits in lower case, in the two groups of an Ada package and in others behind a dollar sign. -/
theorem parse_reads_spellings_in_groups : parse "16#8c01_0000#" = .ok 0x8C010000 ∧
    parse "$8c_010_000" = .ok 0x8C010000 := by
  obtain ⟨-, alike, -⟩ := parse_reads_spellings
  have based : parse "16#8c01_0000#" = .ok 0x8C010000 := by decide
  have unmarked : ∀ c ∈ "8c01_0000".toList, c ∉ ['x', 'X', '$', '#'] := by simp
  have unmarked' : ∀ c ∈ "8c_010_000".toList, c ∉ ['x', 'X', '$', '#'] := by simp
  exact ⟨based, (alike _ _ unmarked unmarked' (by decide) _ (by decide) _ (by decide) _).1 based⟩

end BareMetal.Hexadecimal
