import BareMetal.Bytes
import BareMetal.Text.Numeral
import Mathlib.Data.List.Forall2
import Mathlib.Data.List.Induction
import Mathlib.Data.Nat.Digits.Defs

/-!
# Digits

What stands for a number is made of digits.  The digits of a padded numeral are those of its radix,
there are as many of them as the numeral is wide unless the number is too large, and each of them is
a byte.  Digits have a value just when each of them is the digit that the value has at its place
(`ofDigits?_eq_some_iff`), and a hexadecimal numeral is read back as its number (`read?_hexDigits`).
What digits spell is said without reading them (`Spells`), and a numeral is read as what it spells
(`read?_eq_some_iff_spells`).
-/

namespace BareMetal.Numeral

theorem isSome_digit?_of_ofDigits? {radix n : Nat} {digits : List Char}
    (h : ofDigits? radix digits = some n) : ∀ c ∈ digits, (digit? c).isSome := by
  unfold ofDigits? at h
  generalize 0 = start at h
  induction digits generalizing start with
  | nil => simp
  | cons c cs ih =>
    rw [List.foldlM_cons] at h
    obtain ⟨next, first, others⟩ := Option.bind_eq_some_iff.1 h
    obtain ⟨d, digit, -⟩ := Option.bind_eq_some_iff.1 first
    exact List.forall_mem_cons.2 ⟨Option.isSome_of_eq_some digit, ih next others⟩

/-- The upper-case hexadecimal digit of a value. -/
def hexDigit (d : Nat) : Char := d.digitChar.toUpper

theorem exists_of_mem_toDigits {radix n : Nat} (h : 1 < radix) {c : Char}
    (mem : c ∈ Nat.toDigits radix n) : ∃ d < radix, c = d.digitChar := by
  induction n using Nat.strongRecOn with
  | ind n ih =>
    by_cases small : n < radix
    · rw [Nat.toDigits_of_lt_base small, List.mem_singleton] at mem
      exact ⟨n, small, mem⟩
    · have large : radix ≤ n := Nat.not_lt.1 small
      rw [Nat.toDigits_of_base_le h large, List.mem_append, List.mem_singleton] at mem
      rcases mem with before | last
      · exact ih (n / radix) (Nat.div_lt_self (by omega) h) before
      · exact ⟨n % radix, Nat.mod_lt _ (by omega), last⟩

theorem exists_of_mem_hexDigits {width n : Nat} {c : Char} (mem : c ∈ hexDigits width n) :
    ∃ d < 16, c = hexDigit d := by
  rcases List.mem_append.1 mem with zero | digit
  · exact ⟨0, by decide, (List.mem_replicate.1 zero).2⟩
  · obtain ⟨lower, lower_mem, rfl⟩ := List.mem_map.1 digit
    obtain ⟨d, d_lt, rfl⟩ := exists_of_mem_toDigits (by decide) lower_mem
    exact ⟨d, d_lt, rfl⟩

theorem notMem_hexDigits {width n : Nat} {c : Char} (h : ∀ d < 16, hexDigit d ≠ c) :
    c ∉ hexDigits width n := by
  intro mem
  obtain ⟨d, d_lt, rfl⟩ := exists_of_mem_hexDigits mem
  exact h d d_lt rfl

theorem length_hexDigits {width n : Nat} (h : n < 16 ^ (width + 1)) :
    (hexDigits (width + 1) n).length = width + 1 := by
  have := Nat.toDigits_length 16 n (width + 1) width.succ_pos h
  rw [hexDigits, zeroPad, List.length_append, List.length_replicate, List.length_map]
  omega

theorem toDigits_ne_nil {radix : Nat} (h : 1 < radix) (n : Nat) : Nat.toDigits radix n ≠ [] := by
  rcases Nat.lt_or_ge n radix with small | large
  · rw [Nat.toDigits_of_lt_base small]
    exact List.cons_ne_nil _ _
  · rw [Nat.toDigits_of_base_le h large]
    exact List.append_ne_nil_of_right_ne_nil _ (List.cons_ne_nil _ _)

theorem hexDigits_ne_nil (width n : Nat) : hexDigits width n ≠ [] := by
  rw [hexDigits, zeroPad]
  apply List.append_ne_nil_of_right_ne_nil
  exact fun none => toDigits_ne_nil (by decide) n (List.map_eq_nil_iff.1 none)

theorem utf8Size_hexDigit : ∀ d < 16, (hexDigit d).utf8Size = 1 := by decide

/-! ## Reading digits -/

theorem toNat_lt_of_digit? {c : Char} {d : Nat} (h : digit? c = some d) : c.toNat < 128 := by
  have le_of_le {last : Char} (le : c ≤ last) : c.toNat ≤ last.toNat := le
  unfold digit? at h
  split_ifs at h with decimal lower upper
  · exact Nat.lt_of_le_of_lt (le_of_le decimal.2) (by decide)
  · exact Nat.lt_of_le_of_lt (le_of_le lower.2) (by decide)
  · exact Nat.lt_of_le_of_lt (le_of_le upper.2) (by decide)

/-- A character is a digit when it is the upper-case or the lower-case digit of its value. -/
theorem digit?_eq_some_iff {c : Char} {d : Nat} :
    digit? c = some d ↔ d < 16 ∧ (c = hexDigit d ∨ c = d.digitChar) := by
  constructor
  · intro h
    have table : ∀ n < 128, ∀ d ∈ digit? (Char.ofNat n),
        d < 16 ∧ (Char.ofNat n = hexDigit d ∨ Char.ofNat n = d.digitChar) := by decide
    have entry := table c.toNat (toNat_lt_of_digit? h)
    rw [Char.ofNat_toNat] at entry
    exact entry d h
  · rintro ⟨d_lt, rfl | rfl⟩
    · exact (by decide : ∀ d < 16, digit? (hexDigit d) = some d) d d_lt
    · exact (by decide : ∀ d < 16, digit? d.digitChar = some d) d d_lt

theorem ofDigits?_append_singleton (radix : Nat) (cs : List Char) (c : Char) :
    ofDigits? radix (cs ++ [c]) = (ofDigits? radix cs).bind fun n =>
      (digit? c).bind fun d => if d < radix then some (radix * n + d) else none := by
  rw [ofDigits?, ofDigits?, List.foldlM_append]
  simp

/-- The last digit is what division by the radix leaves, and the digits before it are the
quotient. -/
theorem ofDigits?_append_singleton_eq_some_iff {radix n : Nat} (h : 0 < radix) {cs : List Char}
    {c : Char} : ofDigits? radix (cs ++ [c]) = some n ↔
      ofDigits? radix cs = some (n / radix) ∧ digit? c = some (n % radix) := by
  simp only [ofDigits?_append_singleton, Option.bind_eq_some_iff]
  constructor
  · rintro ⟨m, before, d, last, value⟩
    split_ifs at value with small
    obtain rfl := Option.some.inj value
    rw [Nat.mul_add_div h, Nat.div_eq_of_lt small, Nat.mul_add_mod, Nat.mod_eq_of_lt small]
    exact ⟨before, last⟩
  · rintro ⟨before, last⟩
    exact ⟨n / radix, before, n % radix, last, by
      rw [if_pos (Nat.mod_lt n h), Nat.div_add_mod]⟩

/-- Digits have a value just when each of them is the digit that the value has at its place. -/
theorem ofDigits?_eq_some_iff {radix n : Nat} (h : 0 < radix) {cs : List Char} :
    ofDigits? radix cs = some n ↔ n < radix ^ cs.length ∧
      ∀ i < cs.length, cs[i]?.bind digit? = some (n / radix ^ (cs.length - 1 - i) % radix) := by
  induction cs using List.reverseRecOn generalizing n with
  | nil => simp [ofDigits?, eq_comm]
  | append_singleton cs c ih =>
    have last : (cs ++ [c])[cs.length]? = some c := by simp
    have before (i : Nat) (hi : i < cs.length) : (cs ++ [c])[i]? = cs[i]? :=
      List.getElem?_append_left hi
    have place (i : Nat) (hi : i < cs.length) :
        n / radix / radix ^ (cs.length - 1 - i) = n / radix ^ (cs.length - i) := by
      have : (cs.length - 1 - i).succ = cs.length - i := by omega
      rw [Nat.div_div_eq_div_mul, ← Nat.pow_succ', this]
    rw [ofDigits?_append_singleton_eq_some_iff h, ih, List.length_append, List.length_singleton,
      Nat.div_lt_iff_lt_mul h, ← Nat.pow_succ, and_assoc]
    refine and_congr_right fun _ => ?_
    constructor
    · rintro ⟨others, digit⟩ i hi
      rcases Nat.lt_succ_iff_lt_or_eq.1 hi with inside | rfl
      · rw [before i inside, others i inside, place i inside, Nat.add_sub_cancel]
      · rw [last, Option.bind_some, digit, Nat.add_sub_cancel, Nat.sub_self, Nat.pow_zero,
          Nat.div_one]
    · intro all
      refine ⟨fun i hi => ?_, ?_⟩
      · have := all i (Nat.lt_succ_of_lt hi)
        rwa [before i hi, Nat.add_sub_cancel, ← place i hi] at this
      · have := all cs.length (Nat.lt_succ_self _)
        rwa [last, Option.bind_some, Nat.add_sub_cancel, Nat.sub_self, Nat.pow_zero,
          Nat.div_one] at this

/-- Digits behind others count for less than those by as many places as there are of them. -/
theorem ofDigits?_append {radix m n : Nat} (h : 0 < radix) {cs ds : List Char}
    (high : ofDigits? radix cs = some m) (low : ofDigits? radix ds = some n) :
    ofDigits? radix (cs ++ ds) = some (m * radix ^ ds.length + n) := by
  induction ds using List.reverseRecOn generalizing n with
  | nil =>
    obtain rfl : 0 = n := Option.some.inj low
    simpa using high
  | append_singleton ds d ih =>
    rw [ofDigits?_append_singleton_eq_some_iff h] at low
    have shifted : m * radix ^ (ds ++ [d]).length = radix * (m * radix ^ ds.length) := by
      rw [List.length_append, List.length_singleton, Nat.pow_succ]
      ring
    rw [← List.append_assoc, ofDigits?_append_singleton_eq_some_iff h, shifted,
      Nat.mul_add_div h, Nat.mul_add_mod]
    exact ⟨ih low.1, low.2⟩

theorem ofDigits?_zero_cons (radix : Nat) (cs : List Char) (h : 0 < radix) :
    ofDigits? radix ('0' :: cs) = ofDigits? radix cs := by
  have zero : digit? '0' = some 0 := rfl
  simp [ofDigits?, zero, h]

theorem ofDigits?_toDigits (n : Nat) :
    ofDigits? 16 ((Nat.toDigits 16 n).map Char.toUpper) = some n := by
  induction n using Nat.strongRecOn with
  | ind n ih =>
    by_cases small : n < 16
    · rw [Nat.toDigits_of_lt_base small, List.map_singleton]
      have last : digit? n.digitChar.toUpper = some n :=
        digit?_eq_some_iff.2 ⟨small, .inl rfl⟩
      simp [ofDigits?, last, small]
    · have large : 16 ≤ n := Nat.not_lt.1 small
      rw [Nat.toDigits_of_base_le (by decide) large, List.map_append, List.map_singleton,
        ofDigits?_append_singleton_eq_some_iff (by decide)]
      exact ⟨ih (n / 16) (Nat.div_lt_self (by omega) (by decide)),
        digit?_eq_some_iff.2 ⟨Nat.mod_lt n (by decide), .inl rfl⟩⟩

/-- A hexadecimal numeral of any width is made of the digits of its number. -/
theorem ofDigits?_hexDigits (width n : Nat) : ofDigits? 16 (hexDigits width n) = some n := by
  rw [hexDigits, zeroPad]
  generalize width - ((Nat.toDigits 16 n).map Char.toUpper).length = zeros
  induction zeros with
  | zero => exact ofDigits?_toDigits n
  | succ zeros ih =>
    rw [List.replicate_succ, List.cons_append, ofDigits?_zero_cons 16 _ (by decide), ih]

/-- The digits of a numeral that is as wide as its number needs. -/
theorem getElem?_hexDigits {width n i : Nat} (h : n < 16 ^ (width + 1)) (hi : i < width + 1) :
    (hexDigits (width + 1) n)[i]? = some (hexDigit (n / 16 ^ (width - i) % 16)) := by
  have length := length_hexDigits h
  have places := ((ofDigits?_eq_some_iff (by decide)).1 (ofDigits?_hexDigits (width + 1) n)).2
  rw [length, Nat.add_sub_cancel] at places
  obtain ⟨c, at_i, digit⟩ := Option.bind_eq_some_iff.1 (places i hi)
  obtain ⟨d, d_lt, rfl⟩ := exists_of_mem_hexDigits (List.mem_of_getElem? at_i)
  rw [digit?_eq_some_iff.2 ⟨d_lt, .inl rfl⟩] at digit
  rw [at_i, Option.some.inj digit]

theorem ofDigits?_plus_cons (radix : Nat) (cs : List Char) :
    ofDigits? radix ('+' :: cs) = none := by
  have sign : digit? '+' = none := rfl
  simp [ofDigits?, sign]

/-- A numeral is one digit or more, and there may be a plus sign before them. -/
theorem read?_eq_some_iff {radix n : Nat} {cs : List Char} : read? radix cs = some n ↔
    (cs ≠ [] ∧ ofDigits? radix cs = some n) ∨
      ∃ digits, digits ≠ [] ∧ cs = '+' :: digits ∧ ofDigits? radix digits = some n := by
  unfold read?
  split
  · simp
  · simp [ofDigits?_plus_cons]
  · rename_i digits more
    have some_digit : digits ≠ [] := by
      rintro rfl
      exact more rfl
    simp [ofDigits?_plus_cons, some_digit]
  · rename_i some_char _ no_sign
    have not_empty : cs ≠ [] := some_char
    have not_signed (digits : List Char) : cs ≠ '+' :: digits := no_sign digits
    simp [not_empty, not_signed]

/-- A hexadecimal numeral is read back as its number. -/
theorem read?_hexDigits (width n : Nat) : read? 16 (hexDigits width n) = some n :=
  read?_eq_some_iff.2 (.inl ⟨hexDigits_ne_nil width n, ofDigits?_hexDigits width n⟩)

theorem word32?_eq_some_iff {radix : Nat} {cs : List Char} {w : UInt32} :
    word32? radix cs = some w ↔ read? radix cs = some w.toNat := by
  rw [word32?, readBelow?]
  constructor
  · intro word
    obtain ⟨n, read, rfl⟩ := Option.map_eq_some_iff.1 word
    obtain ⟨read, small⟩ := Option.filter_eq_some_iff.1 read
    rw [read, UInt32.toNat_ofNat_of_lt' (of_decide_eq_true small)]
  · intro read
    rw [read, Option.filter_some, if_pos (decide_eq_true w.toNat_lt), Option.map_some,
      UInt32.ofNat_toNat]

/-! ## Numbers that digits spell -/

/-- Some characters are the hexadecimal digits of a number, each in either case, with the most
significant first. -/
def Spells (digits : List Char) (n : Nat) : Prop :=
  ∃ values, List.Forall₂ (fun c d => d < 16 ∧ (c = hexDigit d ∨ c = d.digitChar))
    digits.reverse values ∧ Nat.ofDigits 16 values = n

theorem ofDigits?_eq_some_iff_spells {digits : List Char} {n : Nat} :
    ofDigits? 16 digits = some n ↔ Spells digits n := by
  induction digits using List.reverseRecOn generalizing n with
  | nil => simp [Spells, ofDigits?]
  | append_singleton cs c ih =>
    rw [ofDigits?_append_singleton_eq_some_iff (by decide), ih, digit?_eq_some_iff, Spells, Spells,
      List.reverse_append, List.reverse_singleton, List.singleton_append]
    constructor
    · rintro ⟨⟨values, others, value⟩, last⟩
      refine ⟨n % 16 :: values, .cons last others, ?_⟩
      rw [Nat.ofDigits_cons, value]
      exact Nat.mod_add_div n 16
    · rintro ⟨values, spelled, rfl⟩
      obtain ⟨d, values, last, others, rfl⟩ := List.forall₂_cons_left_iff.1 spelled
      rw [Nat.ofDigits_cons, Nat.add_mul_mod_self_left, Nat.mod_eq_of_lt last.1,
        Nat.add_mul_div_left _ _ (by decide), Nat.div_eq_of_lt last.1, Nat.zero_add]
      exact ⟨⟨values, others, rfl⟩, last⟩

/-- Each character of a number is a digit. -/
theorem Spells.exists_digit {digits : List Char} {n : Nat} (h : Spells digits n) {c : Char}
    (mem : c ∈ digits) : ∃ d < 16, c = hexDigit d ∨ c = d.digitChar := by
  have some_digit := isSome_digit?_of_ofDigits? (ofDigits?_eq_some_iff_spells.2 h) c mem
  obtain ⟨d, digit⟩ := Option.isSome_iff_exists.1 some_digit
  exact ⟨d, digit?_eq_some_iff.1 digit⟩

theorem Spells.utf8Size {digits : List Char} {n : Nat} (h : Spells digits n) :
    ∀ c ∈ digits, c.utf8Size = 1 := by
  intro c mem
  obtain ⟨d, d_lt, rfl | rfl⟩ := h.exists_digit mem
  · exact utf8Size_hexDigit d d_lt
  · exact (by decide : ∀ d < 16, d.digitChar.utf8Size = 1) d d_lt

/-- A hexadecimal numeral is made of digits, and there may be a plus sign before them. -/
theorem read?_eq_some_iff_spells {cs : List Char} {n : Nat} : read? 16 cs = some n ↔
    ∃ sign digits, cs = sign ++ digits ∧ (sign = [] ∨ sign = ['+']) ∧ digits ≠ [] ∧
      Spells digits n := by
  rw [read?_eq_some_iff]
  constructor
  · rintro (⟨some_digit, value⟩ | ⟨digits, some_digit, rfl, value⟩)
    · exact ⟨[], cs, rfl, .inl rfl, some_digit, ofDigits?_eq_some_iff_spells.1 value⟩
    · exact ⟨['+'], digits, rfl, .inr rfl, some_digit, ofDigits?_eq_some_iff_spells.1 value⟩
  · rintro ⟨sign, digits, rfl, rfl | rfl, some_digit, spelled⟩
    · exact .inl ⟨some_digit, ofDigits?_eq_some_iff_spells.2 spelled⟩
    · exact .inr ⟨digits, some_digit, rfl, ofDigits?_eq_some_iff_spells.2 spelled⟩

end BareMetal.Numeral

namespace BareMetal.Bytes

theorem size_ofText (s : String) : (ofText s).size = s.utf8ByteSize := rfl

/-- The bytes of a text, character by character. -/
theorem ofText_ofList (cs : List Char) :
    ofText (String.ofList cs) = (cs.flatMap String.utf8EncodeChar).toArray := by
  rw [ofText, String.toUTF8, String.toByteArray_ofList, List.utf8Encode, List.data_toByteArray]

/-- A text of characters of one byte has as many bytes as characters. -/
theorem size_ofText_ofList {cs : List Char} (h : ∀ c ∈ cs, c.utf8Size = 1) :
    (ofText (String.ofList cs)).size = cs.length := by
  rw [ofText_ofList, List.size_toArray]
  induction cs with
  | nil => rfl
  | cons c rest ih =>
    rw [List.flatMap_cons, List.length_append, ih fun d mem => h d (by simp [mem]),
      String.length_utf8EncodeChar, h c (by simp), List.length_cons, Nat.add_comm]

/-- A text has no more characters than bytes. -/
theorem length_le_utf8ByteSize (s : String) : s.length ≤ s.utf8ByteSize := by
  have length_le (cs : List Char) : cs.length ≤ (cs.flatMap String.utf8EncodeChar).length := by
    induction cs with
    | nil => exact Nat.le_refl _
    | cons c rest ih =>
      rw [List.flatMap_cons, List.length_append, String.length_utf8EncodeChar, List.length_cons,
        Nat.add_comm]
      exact Nat.add_le_add c.utf8Size_pos ih
  rw [← size_ofText, ← String.ofList_toList (s := s), ofText_ofList, List.size_toArray,
    String.length_ofList]
  exact length_le s.toList

/-- The bytes of an ASCII text are the codes of its characters. -/
theorem toList_ofText_ofList {cs : List Char} (h : ∀ c ∈ cs, c.toNat < 128) :
    (ofText (String.ofList cs)).toList = cs.map fun c => UInt8.ofNat c.toNat := by
  have one_byte (c : Char) (small : c.toNat < 128) :
      String.utf8EncodeChar c = [UInt8.ofNat c.toNat] := if_pos (Nat.le_of_lt_succ small)
  rw [ofText_ofList, List.toList_toArray]
  induction cs with
  | nil => rfl
  | cons c rest ih =>
    rw [List.flatMap_cons, one_byte c (h c (by simp)), ih fun d mem => h d (by simp [mem]),
      List.map_cons, List.singleton_append]

/-- The bytes of an ASCII text are read as its characters. -/
theorem map_ofNat_ofText {s : String} (h : ∀ c ∈ s.toList, c.toNat < 128) :
    (ofText s).toList.map (fun b => Char.ofNat b.toNat) = s.toList := by
  have back (c : Char) (mem : c ∈ s.toList) : Char.ofNat (UInt8.ofNat c.toNat).toNat = c := by
    have lt : c.toNat < UInt8.size := Nat.lt_trans (h c mem) (by decide)
    rw [UInt8.toNat_ofNat_of_lt' lt, Char.ofNat_toNat]
  have codes := toList_ofText_ofList h
  rw [String.ofList_toList] at codes
  rw [codes, List.map_map]
  exact (List.map_congr_left back).trans (List.map_id _)

/-- A hexadecimal numeral that is as wide as its number needs has a byte for each digit. -/
theorem size_ofText_hexPad {width n : Nat} (h : n < 16 ^ (width + 1)) :
    (ofText (Numeral.hexPad (width + 1) n)).size = width + 1 := by
  rw [Numeral.hexPad, size_ofText_ofList, Numeral.length_hexDigits h]
  intro c mem
  obtain ⟨d, d_lt, rfl⟩ := Numeral.exists_of_mem_hexDigits mem
  exact Numeral.utf8Size_hexDigit d d_lt

end BareMetal.Bytes
