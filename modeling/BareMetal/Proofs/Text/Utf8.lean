import BareMetal.Proofs.Text.Digits
import BareMetal.Text.Split
import BareMetal.Text.Utf8

/-!
# Texts and their bytes

The bytes of a text are read back as that text (`decode?_ofText`).  A text is cut behind a number of
bytes just where a character ends (`takeBytes?_eq_some_iff`).  No character begins with a byte that
stands inside another one, so that a text found at the end of another one begins between two of its
characters (`takeBytes?_of_suffix`).
-/

namespace BareMetal.Utf8

/-! ## One character -/

theorem tail_cons {count low high code d : Nat} (small : d < 64) (from_low : low ≤ d + 128)
    (to_high : d + 128 ≤ high) (rest : List UInt8) :
    tail (count + 1) low high code (UInt8.ofNat (d + 128) :: rest) =
      tail count 0x80 0xBF (code * 64 + d) rest := by
  have byte := UInt8.toNat_ofNat_of_lt' (show d + 128 < 256 by omega)
  have digit : (d + 128) % 64 = d := by omega
  rw [tail, byte, if_pos ⟨from_low, to_high⟩, digit]

theorem sequence_of_lead {n count low high code : Nat} (byte : n < 256)
    (lead : lead? n = some (count, low, high, code)) (rest : List UInt8) :
    sequence (UInt8.ofNat n) rest = tail count low high code rest := by
  have long : ¬ n < 0x80 := by
    intro short
    simp only [lead?] at lead
    repeat (rw [if_neg (by omega)] at lead)
    cases lead
  rw [sequence, UInt8.toNat_ofNat_of_lt' byte, if_neg long, lead]

theorem lead?_two {v : Nat} (low : 0x7F < v) (high : v ≤ 0x7FF) :
    lead? (v / 64 % 32 + 192) = some (1, 0x80, 0xBF, v / 64) := by
  have code : (v / 64 % 32 + 192) % 0x20 = v / 64 := by omega
  rw [lead?, if_pos (by omega), code]

theorem lead?_three {v : Nat} (low : 0x7FF < v) (high : v ≤ 0xFFFF)
    (scalar : v < 0xD800 ∨ 0xDFFF < v) : ∃ least greatest,
    lead? (v / 4096 % 16 + 224) = some (2, least, greatest, v / 4096) ∧
      least ≤ v / 64 % 64 + 128 ∧ v / 64 % 64 + 128 ≤ greatest := by
  have code : (v / 4096 % 16 + 224) % 0x10 = v / 4096 := by omega
  rw [lead?, if_neg (by omega), code]
  by_cases first : v / 4096 % 16 + 224 = 0xE0
  · rw [if_pos first]
    exact ⟨_, _, rfl, by omega, by omega⟩
  rw [if_neg first]
  by_cases surrogate : v / 4096 % 16 + 224 = 0xED
  · rw [if_pos surrogate]
    exact ⟨_, _, rfl, by omega, by omega⟩
  rw [if_neg surrogate, if_pos (by omega)]
  exact ⟨_, _, rfl, by omega, by omega⟩

theorem lead?_four {v : Nat} (low : 0xFFFF < v) (high : v < 0x110000) : ∃ least greatest,
    lead? (v / 262144 % 8 + 240) = some (3, least, greatest, v / 262144) ∧
      least ≤ v / 4096 % 64 + 128 ∧ v / 4096 % 64 + 128 ≤ greatest := by
  have code : (v / 262144 % 8 + 240) % 0x08 = v / 262144 := by omega
  rw [lead?, if_neg (by omega), if_neg (by omega), if_neg (by omega), if_neg (by omega), code]
  by_cases first : v / 262144 % 8 + 240 = 0xF0
  · rw [if_pos first]
    exact ⟨_, _, rfl, by omega, by omega⟩
  rw [if_neg first]
  by_cases last : v / 262144 % 8 + 240 = 0xF4
  · rw [if_pos last]
    exact ⟨_, _, rfl, by omega, by omega⟩
  rw [if_neg last, if_pos (by omega)]
  exact ⟨_, _, rfl, by omega, by omega⟩

theorem sequence_utf8EncodeChar (c : Char) (rest : List UInt8) : ∃ b more,
    String.utf8EncodeChar c = b :: more ∧ sequence b (more ++ rest) = (some c, rest) := by
  have valid := c.valid
  have same : Char.ofNat c.val.toNat = c := Char.ofNat_toNat c
  simp only [UInt32.isValidChar, Nat.isValidChar] at valid
  simp only [String.utf8EncodeChar]
  generalize c.val.toNat = v at valid same
  split
  case isTrue one =>
    refine ⟨_, _, rfl, ?_⟩
    have byte := UInt8.toNat_ofNat_of_lt' (show v < 256 by omega)
    rw [sequence, byte, if_pos (by omega), same]
    rfl
  split
  case isTrue two =>
    refine ⟨_, _, rfl, ?_⟩
    rw [List.singleton_append, sequence_of_lead (by omega) (lead?_two (by omega) two),
      tail_cons (by omega) (by omega) (by omega), tail]
    have sum : v / 64 * 64 + v % 64 = v := by omega
    rw [sum, same]
  split
  case isTrue three =>
    refine ⟨_, _, rfl, ?_⟩
    obtain ⟨least, greatest, lead, from_least, to_greatest⟩ :=
      lead?_three (by omega) three (by omega)
    rw [List.cons_append, List.singleton_append, sequence_of_lead (by omega) lead,
      tail_cons (by omega) from_least to_greatest, tail_cons (by omega) (by omega) (by omega), tail]
    have sum : (v / 4096 * 64 + v / 64 % 64) * 64 + v % 64 = v := by omega
    rw [sum, same]
  case isFalse four =>
    refine ⟨_, _, rfl, ?_⟩
    obtain ⟨least, greatest, lead, from_least, to_greatest⟩ :=
      lead?_four (v := v) (by omega) (by omega)
    rw [List.cons_append, List.cons_append, List.singleton_append,
      sequence_of_lead (by omega) lead, tail_cons (by omega) from_least to_greatest,
      tail_cons (by omega) (by omega) (by omega), tail_cons (by omega) (by omega) (by omega), tail]
    have sum : ((v / 262144 * 64 + v / 4096 % 64) * 64 + v / 64 % 64) * 64 + v % 64 = v := by
      omega
    rw [sum, same]

/-- A byte inside a character, behind its first one. -/
def IsInner (b : UInt8) : Prop := 0x80 ≤ b.toNat ∧ b.toNat ≤ 0xBF

theorem isInner_ofNat (n : Nat) : IsInner (UInt8.ofNat (n % 64 + 128)) := by
  rw [IsInner, UInt8.toNat_ofNat_of_lt' (show n % 64 + 128 < 256 by omega)]
  omega

theorem isInner_of_mem_tail {c : Char} {x : UInt8} (mem : x ∈ (String.utf8EncodeChar c).tail) :
    IsInner x := by
  simp only [String.utf8EncodeChar] at mem
  split at mem
  · cases mem
  split at mem
  · obtain rfl := List.mem_singleton.1 mem
    exact isInner_ofNat _
  split at mem
  · simp only [List.tail_cons, List.mem_cons, List.not_mem_nil, or_false] at mem
    rcases mem with rfl | rfl <;> exact isInner_ofNat _
  · simp only [List.tail_cons, List.mem_cons, List.not_mem_nil, or_false] at mem
    rcases mem with rfl | rfl | rfl <;> exact isInner_ofNat _

theorem sequence_of_isInner {b : UInt8} (inner : IsInner b) (rest : List UInt8) :
    sequence b rest = (none, rest) := by
  obtain ⟨low, high⟩ := inner
  have no_lead : lead? b.toNat = none := by
    simp only [lead?]
    repeat rw [if_neg (by omega)]
  rw [sequence, if_neg (by omega), no_lead]

/-! ## Texts -/

/-- The bytes of some characters. -/
def encode (cs : List Char) : List UInt8 := cs.flatMap String.utf8EncodeChar

theorem encode_cons (c : Char) (cs : List Char) :
    encode (c :: cs) = String.utf8EncodeChar c ++ encode cs := rfl

theorem pieces_encode (cs : List Char) : pieces (encode cs) = cs.map some := by
  induction cs with
  | nil => exact pieces_nil
  | cons c rest ih =>
    obtain ⟨b, more, bytes, read⟩ := sequence_utf8EncodeChar c (encode rest)
    rw [encode_cons, bytes, List.cons_append, pieces_cons, read, ih, List.map_cons]

theorem encode_injective {cs ds : List Char} (same : encode cs = encode ds) : cs = ds := by
  have pieces_eq : cs.map some = ds.map some := by
    rw [← pieces_encode, same, pieces_encode]
  exact List.map_inj_right (fun _ _ => Option.some.inj) |>.1 pieces_eq

theorem toList_ofText (s : String) : (Bytes.ofText s).toList = encode s.toList := by
  have bytes := Bytes.ofText_ofList s.toList
  rw [String.ofList_toList] at bytes
  rw [bytes, encode]

theorem decode?_ofText (s : String) : decode? (Bytes.ofText s) = some s := by
  have all (cs : List Char) : (cs.map some).mapM id = some cs := by
    induction cs with
    | nil => rfl
    | cons c rest ih => rw [List.map_cons, List.mapM_cons, ih]; rfl
  rw [decode?, toList_ofText, pieces_encode, all, Option.map_some, String.ofList_toList]

theorem encode_append (cs ds : List Char) : encode (cs ++ ds) = encode cs ++ encode ds :=
  List.flatMap_append

theorem encode_eq_nil_iff {cs : List Char} : encode cs = [] ↔ cs = [] := by
  cases cs with
  | nil => exact iff_of_true rfl rfl
  | cons c rest =>
    rw [encode_cons, List.append_eq_nil_iff]
    exact iff_of_false (fun none => String.utf8EncodeChar_ne_nil none.1) (List.cons_ne_nil c rest)

/-- Characters of one byte are as many as their bytes. -/
theorem length_encode_of_utf8Size {cs : List Char} (h : ∀ c ∈ cs, c.utf8Size = 1) :
    (encode cs).length = cs.length := by
  rw [← Bytes.size_ofText_ofList h, ← Array.length_toList, toList_ofText, String.toList_ofList]

/-- A byte of its own stands only for its character. -/
theorem notMem_encode {b : UInt8} {cs : List Char} (small : b.toNat < 0x80)
    (outside : Char.ofNat b.toNat ∉ cs) : b ∉ encode cs := by
  induction cs with
  | nil => exact List.not_mem_nil
  | cons c rest ih =>
    rw [List.mem_cons, not_or] at outside
    rw [encode_cons, List.mem_append, not_or]
    refine ⟨fun mem => ?_, ih outside.2⟩
    obtain ⟨first, more, bytes, read⟩ := sequence_utf8EncodeChar c []
    rw [bytes] at mem
    rcases List.mem_cons.1 mem with rfl | inside
    · rw [sequence, if_pos small] at read
      exact outside.1 (Option.some.inj (congrArg Prod.fst read))
    · have inner : IsInner b := isInner_of_mem_tail (c := c) (by rwa [bytes, List.tail_cons])
      exact Nat.not_le.2 small inner.1

/-- A text is cut behind some bytes if a character ends there. -/
theorem takeBytes?_eq_some_iff {n : Nat} {cs front back : List Char} :
    Text.takeBytes? n cs = some (front, back) ↔ cs = front ++ back ∧ (encode front).length = n := by
  induction cs generalizing n front with
  | nil =>
    cases n with
    | zero =>
      rw [Text.takeBytes?, List.length_eq_zero_iff, encode_eq_nil_iff]
      simp +contextual
    | succ n =>
      refine ⟨nofun, ?_⟩
      rintro ⟨nothing, length⟩
      obtain ⟨rfl, -⟩ := List.append_eq_nil_iff.1 nothing.symm
      cases length
  | cons c rest ih =>
    cases n with
    | zero =>
      rw [Text.takeBytes?, List.length_eq_zero_iff, encode_eq_nil_iff, Option.some.injEq,
        Prod.mk.injEq]
      constructor
      · rintro ⟨rfl, rfl⟩
        exact ⟨rfl, rfl⟩
      · rintro ⟨whole, rfl⟩
        exact ⟨rfl, whole⟩
    | succ n =>
      have size := String.length_utf8EncodeChar c
      rw [Text.takeBytes?]
      constructor
      · intro taken
        split_ifs at taken with fits
        obtain ⟨⟨others, _⟩, read, same⟩ := Option.map_eq_some_iff.1 taken
        obtain ⟨rfl, rfl⟩ := Prod.mk.inj same
        obtain ⟨rfl, length⟩ := ih.1 read
        refine ⟨rfl, ?_⟩
        rw [encode_cons, List.length_append, length, size]
        omega
      · rintro ⟨whole, length⟩
        cases front with
        | nil => cases length
        | cons d others =>
          obtain ⟨rfl, rfl⟩ := List.cons.inj whole
          rw [encode_cons, List.length_append, size] at length
          rw [if_pos (by omega), ih.2 ⟨rfl, by omega⟩]
          rfl

/-- A place, counted in bytes, is behind the first byte of a character of a text and before its end. -/
def IsInside (n : Nat) (cs : List Char) : Prop :=
  ∃ before c after, cs = before ++ c :: after ∧ (encode before).length < n ∧
    n < (encode (before ++ [c])).length

theorem not_isInside_append (front back : List Char) :
    ¬ IsInside (encode front).length (front ++ back) := by
  rintro ⟨before, c, after, same, starts, ends⟩
  rcases List.append_eq_append_iff.1 same with ⟨more, rfl, -⟩ | ⟨more, rfl, behind_eq⟩
  · rw [encode_append, List.length_append] at starts
    omega
  · cases more with
    | nil =>
      rw [List.append_nil] at starts
      omega
    | cons d more =>
      obtain ⟨rfl, -⟩ := List.cons.inj behind_eq
      rw [List.append_cons before c more, encode_append (before ++ [c]), List.length_append] at ends
      omega

/-- A text at the end of another one begins between two of its characters. -/
theorem takeBytes?_of_suffix {cs ds : List Char} {n : Nat} (inside : n ≤ (encode cs).length)
    (suffix : (encode cs).drop n = encode ds) : ∃ taken, Text.takeBytes? n cs = some (taken, ds) := by
  induction cs generalizing n with
  | nil =>
    obtain rfl : n = 0 := Nat.le_zero.1 inside
    obtain rfl : [] = ds := encode_injective suffix
    exact ⟨[], rfl⟩
  | cons c rest ih =>
    cases n with
    | zero =>
      obtain rfl : c :: rest = ds := encode_injective suffix
      exact ⟨[], rfl⟩
    | succ n =>
      have size := String.length_utf8EncodeChar c
      rw [encode_cons] at inside suffix
      rw [List.length_append, size] at inside
      rw [Text.takeBytes?]
      by_cases behind : c.utf8Size ≤ n + 1
      · rw [List.drop_append, List.drop_of_length_le (by omega), List.nil_append, size] at suffix
        obtain ⟨taken, read⟩ := ih (by omega) suffix
        exact ⟨c :: taken, by rw [if_pos behind, read]; rfl⟩
      · -- the cut is inside the character, and no text begins with what follows it
        obtain ⟨b, more, bytes⟩ := List.exists_cons_of_ne_nil (String.utf8EncodeChar_ne_nil (c := c))
        have longer : n < more.length := by
          rw [bytes, List.length_cons] at size
          omega
        have inner : IsInner more[n] := isInner_of_mem_tail (c := c) (by simp [bytes])
        rw [bytes, List.cons_append, List.drop_succ_cons, List.drop_append_of_le_length (by omega),
          List.drop_eq_getElem_cons longer, List.cons_append] at suffix
        have pieces_eq := pieces_encode ds
        rw [← suffix, pieces_cons, sequence_of_isInner inner] at pieces_eq
        cases ds <;> cases pieces_eq

end BareMetal.Utf8
