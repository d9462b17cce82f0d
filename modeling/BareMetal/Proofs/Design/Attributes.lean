import BareMetal.Proofs.Design.Documents
import BareMetal.Proofs.Design.Scanning
import BareMetal.Proofs.Text.Digits
import BareMetal.Proofs.Text.Lines

/-!
# Attributes and references as they are written

The attributes of a written tag are read one by one, whatever the white space and the quotes
(`attributesFrom_inner`).  What denotes a text is read as that text (`unescape?_of_denotes`).
-/

namespace BareMetal.Design

/-! ## Attributes -/

section AttributesFrom

variable (found : List (List Char × List Char))

theorem attributesFrom_spaces {spaces : List Char} (h : IsSpaces spaces) (rest : List Char) :
    attributesFrom found .outside (spaces ++ rest) = attributesFrom found .outside rest := by
  induction spaces with
  | nil => rfl
  | cons c cs ih =>
    rw [List.cons_append, attributesFrom, if_pos (h c List.mem_cons_self)]
    exact ih fun b hb => h b (List.mem_cons_of_mem c hb)

theorem attributesFrom_inName {name : List Char} (h : ∀ c ∈ name, isNameChar c)
    (passed rest : List Char) :
    attributesFrom found (.inName passed) (name ++ rest) =
      attributesFrom found (.inName (name.reverse ++ passed)) rest := by
  induction name generalizing passed with
  | nil => rfl
  | cons c cs ih =>
    have char := h c List.mem_cons_self
    have not_space : ¬ isSpace c := by simpa using not_isSpace_of_isNameChar char
    have not_equals : c ≠ '=' := by
      rintro rfl
      simp [isNameChar] at char
    rw [List.cons_append, attributesFrom, if_neg not_equals, if_neg not_space,
      ih fun b hb => h b (List.mem_cons_of_mem c hb)]
    simp

theorem attributesFrom_name {name : List Char} (h : IsName name) (rest : List Char) :
    attributesFrom found .outside (name ++ rest) =
      attributesFrom found (.inName name.reverse) rest := by
  obtain ⟨c, cs, rfl, char⟩ := h.exists_cons
  have not_space : ¬ isSpace c := by simpa using not_isSpace_of_isNameChar char
  rw [List.cons_append, attributesFrom, if_neg not_space,
    attributesFrom_inName found fun b hb => h.chars b (List.mem_cons_of_mem c hb)]
  simp

theorem attributesFrom_afterName (name : List Char) {spaces : List Char} (h : IsSpaces spaces)
    (rest : List Char) :
    attributesFrom found (.afterName name) (spaces ++ '=' :: rest) =
      attributesFrom found (.beforeValue name) rest := by
  induction spaces with
  | nil => simp [attributesFrom, isSpace]
  | cons c cs ih =>
    rw [List.cons_append, attributesFrom, if_pos (h c List.mem_cons_self)]
    exact ih fun b hb => h b (List.mem_cons_of_mem c hb)

/-- White space may stand between a name and its equals sign. -/
theorem attributesFrom_equals (name : List Char) {spaces : List Char} (h : IsSpaces spaces)
    (rest : List Char) :
    attributesFrom found (.inName name) (spaces ++ '=' :: rest) =
      attributesFrom found (.beforeValue name.reverse) rest := by
  cases spaces with
  | nil => simp [attributesFrom]
  | cons c cs =>
    have space := h c List.mem_cons_self
    have not_equals : c ≠ '=' := by
      rintro rfl
      simp [isSpace] at space
    rw [List.cons_append, attributesFrom, if_neg not_equals, if_pos space,
      attributesFrom_afterName found _ fun b hb => h b (List.mem_cons_of_mem c hb)]

theorem attributesFrom_beforeValue (name : List Char) {spaces : List Char} (h : IsSpaces spaces)
    {quote : Char} (isQuote : quote = '"' ∨ quote = '\'') (rest : List Char) :
    attributesFrom found (.beforeValue name) (spaces ++ quote :: rest) =
      attributesFrom found (.inValue name quote []) rest := by
  induction spaces with
  | nil =>
    have not_space : ¬ isSpace quote := by rcases isQuote with rfl | rfl <;> decide
    rw [List.nil_append, attributesFrom, if_neg not_space, if_pos isQuote]
  | cons c cs ih =>
    rw [List.cons_append, attributesFrom, if_pos (h c List.mem_cons_self)]
    exact ih fun b hb => h b (List.mem_cons_of_mem c hb)

theorem attributesFrom_inValue (name : List Char) {quote : Char} {value : List Char}
    (absent : quote ∉ value) (passed rest : List Char) :
    attributesFrom found (.inValue name quote passed) (value ++ quote :: rest) =
      attributesFrom ((name, passed.reverse ++ value) :: found) .outside rest := by
  induction value generalizing passed with
  | nil => simp [attributesFrom]
  | cons c cs ih =>
    rw [List.mem_cons, not_or] at absent
    rw [List.cons_append, attributesFrom, if_neg (Ne.symm absent.1), ih absent.2]
    simp

/-- A written attribute is read as one, up to its second quote. -/
theorem attributesFrom_chars {a : WrittenAttribute} (h : a.WellFormed) (rest : List Char) :
    attributesFrom found .outside (a.chars ++ rest) =
      attributesFrom ((a.name, a.value) :: found) .outside rest := by
  have text : a.chars ++ rest = a.lead ++ (a.name ++ (a.beforeEquals ++
      '=' :: (a.afterEquals ++ a.quote :: (a.value ++ a.quote :: rest)))) := by
    simp [WrittenAttribute.chars]
  rw [text, attributesFrom_spaces found h.lead, attributesFrom_name found h.name,
    attributesFrom_equals found _ h.beforeEquals, List.reverse_reverse,
    attributesFrom_beforeValue found _ h.afterEquals h.quote,
    attributesFrom_inValue found _ h.value]
  simp

theorem attributesFrom_flatMap {as : List WrittenAttribute} (h : ∀ a ∈ as, a.WellFormed)
    (rest : List Char) :
    attributesFrom found .outside (as.flatMap WrittenAttribute.chars ++ rest) =
      attributesFrom ((as.map fun a => (a.name, a.value)).reverse ++ found) .outside rest := by
  induction as generalizing found with
  | nil => rfl
  | cons a as ih =>
    rw [List.flatMap_cons, List.append_assoc, attributesFrom_chars found (h a List.mem_cons_self),
      ih _ fun b hb => h b (List.mem_cons_of_mem a hb)]
    simp

end AttributesFrom

namespace WrittenTag

theorem attributesFrom_inner {t : WrittenTag} (h : t.WellFormed) :
    attributesFrom [] .outside t.inner = (t.pairs, true) := by
  have spaces := attributesFrom_spaces t.pairs.reverse h.space []
  rw [List.append_nil] at spaces
  rw [inner, attributesFrom_flatMap [] h.attributes, List.append_nil]
  simpa [attributesFrom_nil, pairs] using spaces

theorem attributes?_inner {t : WrittenTag} (h : t.WellFormed)
    (distinct : (t.pairs.map (·.1)).Nodup) : attributes? t.inner = some t.pairs := by
  simp only [attributes?, attributesFrom_inner h, if_pos distinct]

theorem bindsNamespaces_inner {t : WrittenTag} (h : t.WellFormed) :
    bindsNamespaces t.inner = t.attributes.all fun a => bindsWell a.name a.value := by
  simp only [bindsNamespaces, attributesFrom_inner h, pairs, List.all_map]
  rfl

end WrittenTag

/-! ## Names without a prefix -/

theorem localName_of_unprefixed {name : List Char} (h : ':' ∉ name) : localName name = name := by
  rw [localName, Text.splitOnce_eq_none_iff.2 h]

theorem bindsWell_of_keepsNamespaces {name value : List Char}
    (h : KeepsNamespaces prefixOfNamespace? name value) : bindsWell name value := by
  unfold bindsWell
  split
  · next bound found => simpa using h bound (Text.dropPrefix?_eq_some_iff.1 found)
  · rfl

theorem WrittenTag.bindsNamespaces_of_bindsWell {t : WrittenTag} (h : t.WellFormed)
    (binds : t.BindsWell prefixOfNamespace?) : bindsNamespaces t.inner := by
  rw [bindsNamespaces_inner h, List.all_eq_true]
  exact fun a ha => bindsWell_of_keepsNamespaces (binds (a.name, a.value) (List.mem_map_of_mem ha))

/-! ## References -/

theorem charOfCode?_of_isValidChar {code : Nat} (nonzero : code ≠ 0) (valid : code.isValidChar) :
    charOfCode? code = some (Char.ofNat code) := if_pos ⟨nonzero, valid⟩

namespace RefersTo

theorem reference?_eq {name : List Char} {c : Char} (h : RefersTo name c) :
    reference? name = some c := by
  cases h with
  | named mem =>
    simp only [namedChars, List.mem_cons, List.not_mem_nil, or_false, Prod.mk.injEq] at mem
    rcases mem with ⟨rfl, rfl⟩ | ⟨rfl, rfl⟩ | ⟨rfl, rfl⟩ | ⟨rfl, rfl⟩ | ⟨rfl, rfl⟩ <;>
      simp [reference?]
  | @decimal digits code number nonzero valid =>
    rw [reference?, number]
    · exact charOfCode?_of_isValidChar nonzero valid
    · rintro others rfl
      have x := Numeral.isSome_digit?_of_ofDigits? number 'x' List.mem_cons_self
      exact absurd x (by decide)
  | @hexadecimal digits code number nonzero valid =>
    rw [reference?, number]
    exact charOfCode?_of_isValidChar nonzero valid

/-- A name of a character has none of the marks around it. -/
theorem not_mark {name : List Char} {c : Char} (h : RefersTo name c) :
    ∀ c ∈ name, c ≠ ';' ∧ c ≠ '&' := by
  have digit {c : Char} (h : (Numeral.digit? c).isSome) : c ≠ ';' ∧ c ≠ '&' := by
    constructor <;> rintro rfl <;> exact absurd h (by decide)
  cases h with
  | named mem =>
    simp only [namedChars, List.mem_cons, List.not_mem_nil, or_false, Prod.mk.injEq] at mem
    rcases mem with ⟨rfl, -⟩ | ⟨rfl, -⟩ | ⟨rfl, -⟩ | ⟨rfl, -⟩ | ⟨rfl, -⟩ <;> simp
  | decimal number =>
    exact List.forall_mem_cons.2 ⟨by decide, fun c hc =>
      digit (Numeral.isSome_digit?_of_ofDigits? number c hc)⟩
  | hexadecimal number =>
    exact List.forall_mem_cons.2 ⟨by decide, List.forall_mem_cons.2 ⟨by decide, fun c hc =>
      digit (Numeral.isSome_digit?_of_ofDigits? number c hc)⟩⟩

end RefersTo

theorem unescapeFrom_name (out : List Char) {name : List Char}
    (h : ∀ c ∈ name, c ≠ ';' ∧ c ≠ '&') (passed rest : List Char) :
    unescapeFrom out (some passed) (name ++ rest) =
      unescapeFrom out (some (name.reverse ++ passed)) rest := by
  induction name generalizing passed with
  | nil => rfl
  | cons c cs ih =>
    obtain ⟨⟨not_end, not_start⟩, others⟩ := List.forall_mem_cons.1 h
    rw [List.cons_append, unescapeFrom, if_neg not_end, if_neg not_start, ih others]
    simp

theorem unescapeFrom_of_denotes {raw text : List Char} (h : Denotes raw text) (out : List Char) :
    unescapeFrom out none raw = some (out.reverse ++ text) := by
  induction h generalizing out with
  | nil => simp [unescapeFrom]
  | char plain _ ih =>
    rw [unescapeFrom, if_neg plain, ih]
    simp
  | reference known _ ih =>
    rw [List.cons_append, unescapeFrom, if_pos rfl, unescapeFrom_name out known.not_mark,
      unescapeFrom, if_pos rfl, List.append_nil, List.reverse_reverse, known.reference?_eq]
    simp [ih]

/-- What denotes a text is read as that text. -/
theorem unescape?_of_denotes {raw text : List Char} (h : Denotes raw text) :
    unescape? raw = some text := by
  rw [unescape?, unescapeFrom_of_denotes h, List.reverse_nil, List.nil_append]

end BareMetal.Design
