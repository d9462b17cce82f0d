import BareMetal.Proofs.Text.Digits
import BareMetal.Proofs.Text.Utf8
import BareMetal.Target.Records

/-!
# Start addresses in records

A record that ends a file holds an address behind its kind and two bytes, at a place that is counted
in bytes (`addressField?_eq_some_iff`), and none if a character lies across one of its ends
(`addressField?_of_isInside`).  It has a start address just when a numeral fills that place
(`startAddress_eq_some_iff`): digits in either case, or a plus sign and digits, which is one spelling
more than records have (`not_startAddress_of_digits_only`).
-/

namespace BareMetal.Target.Records

/-! ## Fields -/

/-- The kinds of the records that end a file, each with the number of digits in its address. -/
def endKinds : List (List Char × Nat) := [(['S', '7'], 8), (['S', '8'], 6), (['S', '9'], 4)]

theorem addressDigits?_eq_some_iff {kind : List Char} {width : Nat} :
    addressDigits? kind = some width ↔ (kind, width) ∈ endKinds := by
  unfold addressDigits? endKinds
  split
  · simp [eq_comm]
  · simp [eq_comm]
  · simp [eq_comm]
  · rename_i not_seven not_eight not_nine
    simp only [List.mem_cons, Prod.mk.injEq, List.not_mem_nil, or_false]
    refine iff_of_false nofun ?_
    rintro (⟨kind_eq, -⟩ | ⟨kind_eq, -⟩ | ⟨kind_eq, -⟩)
    · exact not_seven kind_eq
    · exact not_eight kind_eq
    · exact not_nine kind_eq

theorem length_encode_of_mem_endKinds {kind : List Char} {width : Nat}
    (mem : (kind, width) ∈ endKinds) : (Utf8.encode kind).length = 2 := by
  simp only [endKinds, List.mem_cons, Prod.mk.injEq, List.not_mem_nil, or_false] at mem
  rcases mem with ⟨rfl, -⟩ | ⟨rfl, -⟩ | ⟨rfl, -⟩ <;> decide

/-- The address of a record stands behind its kind and two bytes. -/
theorem addressField?_eq_some_iff {record field : List Char} : addressField? record = some field ↔
    ∃ kind width count rest, (kind, width) ∈ endKinds ∧ record = kind ++ count ++ field ++ rest ∧
      (Utf8.encode count).length = 2 ∧ (Utf8.encode field).length = width := by
  simp only [addressField?, Option.bind_eq_bind, Option.bind_eq_some_iff]
  constructor
  · rintro ⟨⟨kind, behind⟩, kind_taken, width, kind_eq, ⟨count, behind'⟩, count_taken,
      ⟨field', rest⟩, field_taken, field_eq⟩
    obtain rfl : field' = field := Option.some.inj field_eq
    obtain ⟨rfl, -⟩ := Utf8.takeBytes?_eq_some_iff.1 kind_taken
    obtain ⟨rfl, count_length⟩ := Utf8.takeBytes?_eq_some_iff.1 count_taken
    obtain ⟨rfl, field_length⟩ := Utf8.takeBytes?_eq_some_iff.1 field_taken
    exact ⟨kind, width, count, rest, addressDigits?_eq_some_iff.1 kind_eq,
      by simp only [List.append_assoc], count_length, field_length⟩
  · rintro ⟨kind, width, count, rest, mem, rfl, count_length, field_length⟩
    refine ⟨(kind, count ++ field ++ rest), ?_, width, addressDigits?_eq_some_iff.2 mem,
      (count, field ++ rest), ?_, (field, rest), ?_, rfl⟩
    · exact Utf8.takeBytes?_eq_some_iff.2
        ⟨by simp only [List.append_assoc], length_encode_of_mem_endKinds mem⟩
    · exact Utf8.takeBytes?_eq_some_iff.2 ⟨List.append_assoc count field rest, count_length⟩
    · exact Utf8.takeBytes?_eq_some_iff.2 ⟨rfl, field_length⟩

/-! ## Cuts -/

/-- The kind of a record tells how many digits its address has. -/
theorem width_unique {record kind kind' : List Char} {width width' : Nat}
    (mem : (kind, width) ∈ endKinds) (starts : kind <+: record)
    (mem' : (kind', width') ∈ endKinds) (starts' : kind' <+: record) : width = width' := by
  have taken (kind : List Char) (width : Nat) (mem : (kind, width) ∈ endKinds)
      (starts : kind <+: record) : ∃ rest, Text.takeBytes? 2 record = some (kind, rest) := by
    obtain ⟨rest, rfl⟩ := starts
    exact ⟨rest, Utf8.takeBytes?_eq_some_iff.2 ⟨rfl, length_encode_of_mem_endKinds mem⟩⟩
  obtain ⟨rest, first⟩ := taken kind width mem starts
  obtain ⟨rest', second⟩ := taken kind' width' mem' starts'
  obtain ⟨rfl, -⟩ := Prod.mk.inj (Option.some.inj (first.symm.trans second))
  exact Option.some.inj ((addressDigits?_eq_some_iff.2 mem).symm.trans
    (addressDigits?_eq_some_iff.2 mem'))

/-- The places at which a record is cut: around its two bytes, and behind its address. -/
def Cut (record : List Char) (n : Nat) : Prop :=
  n = 2 ∨ n = 4 ∨ ∃ kind width, (kind, width) ∈ endKinds ∧ kind <+: record ∧ n = 4 + width

/-- A record with a character across one of its cuts has no address. -/
theorem addressField?_of_isInside {record : List Char} {n : Nat} (cut : Cut record n)
    (inside : Utf8.IsInside n record) : addressField? record = none := by
  rw [Option.eq_none_iff_forall_ne_some]
  intro field stands
  obtain ⟨kind, width, count, rest, mem, record_eq, count_length, field_length⟩ :=
    addressField?_eq_some_iff.1 stands
  have kind_length := length_encode_of_mem_endKinds mem
  have starts : kind <+: record := ⟨count ++ field ++ rest, by simp [record_eq]⟩
  -- every cut is behind some of the characters of the record
  obtain ⟨front, back, cut_eq, n_eq⟩ : ∃ front back, record = front ++ back ∧
      n = (Utf8.encode front).length := by
    rcases cut with rfl | rfl | ⟨kind', width', mem', starts', rfl⟩
    · exact ⟨kind, count ++ field ++ rest, by simp [record_eq], kind_length.symm⟩
    · refine ⟨kind ++ count, field ++ rest, by simp [record_eq], ?_⟩
      rw [Utf8.encode_append, List.length_append, kind_length, count_length]
    · refine ⟨kind ++ count ++ field, rest, record_eq, ?_⟩
      rw [Utf8.encode_append, Utf8.encode_append, List.length_append, List.length_append,
        kind_length, count_length, field_length, width_unique mem' starts' mem starts]
  rw [cut_eq, n_eq] at inside
  exact Utf8.not_isInside_append front back inside

/-! ## Addresses -/

/-- A record has a start address if a numeral fills the place of its address: digits, or a plus sign
and digits. -/
theorem startAddress_eq_some_iff {record : List Char} {a : UInt32} :
    startAddress record = some a ↔ ∃ kind width count field rest, (kind, width) ∈ endKinds ∧
      record = kind ++ count ++ field ++ rest ∧ (Utf8.encode count).length = 2 ∧
      field.length = width ∧ ∃ sign digits, field = sign ++ digits ∧
        (sign = [] ∨ sign = ['+']) ∧ digits ≠ [] ∧ Numeral.Spells digits a.toNat := by
  -- the characters of a numeral are as many as its bytes
  have same_length {sign digits : List Char} (signed : sign = [] ∨ sign = ['+'])
      (spelled : Numeral.Spells digits a.toNat) :
      (Utf8.encode (sign ++ digits)).length = (sign ++ digits).length := by
    have sign_length : (Utf8.encode sign).length = sign.length := by
      rcases signed with rfl | rfl <;> rfl
    rw [Utf8.encode_append, List.length_append, List.length_append, sign_length,
      Utf8.length_encode_of_utf8Size spelled.utf8Size]
  rw [startAddress, Option.bind_eq_some_iff]
  constructor
  · rintro ⟨field, stands, read⟩
    obtain ⟨kind, width, count, rest, mem, rfl, count_length, rfl⟩ :=
      addressField?_eq_some_iff.1 stands
    obtain ⟨sign, digits, rfl, signed, some_digit, spelled⟩ :=
      Numeral.read?_eq_some_iff_spells.1 (Numeral.word32?_eq_some_iff.1 read)
    exact ⟨kind, _, count, sign ++ digits, rest, mem, rfl, count_length,
      (same_length signed spelled).symm, sign, digits, rfl, signed, some_digit, spelled⟩
  · rintro ⟨kind, width, count, field, rest, mem, rfl, count_length, rfl, sign, digits, rfl, signed,
      some_digit, spelled⟩
    refine ⟨sign ++ digits, addressField?_eq_some_iff.2 ⟨kind, _, count, rest, mem, rfl,
      count_length, same_length signed spelled⟩, ?_⟩
    exact Numeral.word32?_eq_some_iff.2
      (Numeral.read?_eq_some_iff_spells.2 ⟨sign, digits, rfl, signed, some_digit, spelled⟩)

/-- Among the records with a start address are some whose address has a digit less and a sign. -/
theorem not_startAddress_of_digits_only : ¬ ∀ (record : List Char) (a : UInt32),
    startAddress record = some a ↔ ∃ kind width count field rest, (kind, width) ∈ endKinds ∧
      record = kind ++ count ++ field ++ rest ∧ (Utf8.encode count).length = 2 ∧
      field.length = width ∧ Numeral.Spells field a.toNat := by
  intro all
  let record := "S705+0008000FA".toList
  have found : startAddress record = some 0x8000 := by decide
  obtain ⟨kind, width, count, field, rest, mem, record_eq, count_length, field_length, spelled⟩ :=
    (all record 0x8000).1 found
  have stands : addressField? record = some field := addressField?_eq_some_iff.2 ⟨kind, width,
    count, rest, mem, record_eq, count_length,
    (Utf8.length_encode_of_utf8Size spelled.utf8Size).trans field_length⟩
  have signed : addressField? record = some "+0008000".toList := by decide
  obtain rfl := Option.some.inj (stands.symm.trans signed)
  have value := Numeral.ofDigits?_eq_some_iff_spells.2 spelled
  exact absurd value (by decide)

end BareMetal.Target.Records
