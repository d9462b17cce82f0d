import BareMetal.Design.Schema
import BareMetal.Proofs.Design.Written
import BareMetal.Text.Numeral
import Mathlib.Data.List.Forall2

/-!
# What libraries make of documents

A text in a document may refer to characters (`Denotes`), and the tags of a document keep to the
namespaces that are reserved (`Written.Readable`).  `Library.ReadsDocuments` states the rules by
which a library for markup reads a document as the record of a schema: one for each thing that a
schema can ask for.
-/

namespace BareMetal.Design

/-! ## References -/

/-- A character as it is written in a value. -/
def escapeChar : Char → List Char
  | '<' => "&lt;".toList
  | '>' => "&gt;".toList
  | '&' => "&amp;".toList
  | '"' => "&quot;".toList
  | '\'' => "&apos;".toList
  | c => [c]

/-- A value as it is written, with the predefined references. -/
def escape (value : List Char) : List Char := value.flatMap escapeChar

/-- The characters that have names. -/
def namedChars : List (String × Char) :=
  [("lt", '<'), ("gt", '>'), ("amp", '&'), ("quot", '"'), ("apos", '\'')]

/-- A reference to a character, by its name or its code. -/
inductive RefersTo : List Char → Char → Prop
  | named {name : String} {c : Char} : (name, c) ∈ namedChars → RefersTo name.toList c
  | decimal {digits : List Char} {code : Nat} : Numeral.ofDigits? 10 digits = some code →
      code ≠ 0 → code.isValidChar → RefersTo ('#' :: digits) (Char.ofNat code)
  | hexadecimal {digits : List Char} {code : Nat} : Numeral.ofDigits? 16 digits = some code →
      code ≠ 0 → code.isValidChar → RefersTo ('#' :: 'x' :: digits) (Char.ofNat code)

/-- What is written stands for a text: references for their characters, all else for itself. -/
inductive Denotes : List Char → List Char → Prop
  | nil : Denotes [] []
  | char {c : Char} {raw text : List Char} : c ≠ '&' → Denotes raw text →
      Denotes (c :: raw) (c :: text)
  | reference {name : List Char} {c : Char} {raw text : List Char} : RefersTo name c →
      Denotes raw text → Denotes ('&' :: name ++ ';' :: raw) (c :: text)

theorem denotes_self {raw : List Char} (h : '&' ∉ raw) : Denotes raw raw := by
  induction raw with
  | nil => exact .nil
  | cons c raw ih =>
    rw [List.mem_cons, not_or] at h
    exact .char (Ne.symm h.1) (ih h.2)

theorem denotes_escape (value : List Char) : Denotes (escape value) value := by
  induction value with
  | nil => exact .nil
  | cons c value ih =>
    have named (name : String) {c : Char} (mem : (name, c) ∈ namedChars) :
        Denotes ('&' :: name.toList ++ ';' :: escape value) (c :: value) :=
      .reference (.named mem) ih
    rw [escape, List.flatMap_cons]
    unfold escapeChar
    split
    case h_1 => exact named "lt" (by simp [namedChars])
    case h_2 => exact named "gt" (by simp [namedChars])
    case h_3 => exact named "amp" (by simp [namedChars])
    case h_4 => exact named "quot" (by simp [namedChars])
    case h_5 => exact named "apos" (by simp [namedChars])
    case h_6 not_mark _ _ => exact .char not_mark ih

/-- Neither a quote nor the start of a tag is left in a written value. -/
theorem notMem_escape {mark : Char} (isMark : mark ∈ ['"', '\'', '<']) (value : List Char) :
    mark ∉ escape value := by
  intro mem
  obtain ⟨c, -, inside⟩ := List.mem_flatMap.1 mem
  simp only [List.mem_cons, List.not_mem_nil, or_false] at isMark
  unfold escapeChar at inside
  split at inside
  case h_6 not_less _ _ not_double not_single =>
    rw [List.mem_singleton] at inside
    subst inside
    exact isMark.elim not_double fun h => h.elim not_single not_less
  all_goals rcases isMark with rfl | rfl | rfl <;> simp at inside

/-! ## What tags say -/

section

-- the prefix, `xml` or `xmlns`, that a namespace is reserved for
variable (reservedFor? : List Char → Option (List Char))

/-- If the attribute binds a prefix, this is not `xmlns`; `xml` is bound to its own namespace, any
other prefix to one that is not reserved. -/
def KeepsNamespaces (name value : List Char) : Prop :=
  ∀ bound, name = "xmlns:".toList ++ bound → bound ≠ "xmlns".toList ∧
    reservedFor? value = if bound = "xml".toList then some bound else none

theorem keepsNamespaces_of_unprefixed {name : List Char} (h : ':' ∉ name) (value : List Char) :
    KeepsNamespaces reservedFor? name value := by
  rintro bound rfl
  exact absurd (by simp) h

/-- The characters of documents: all but the control characters that are no white space. -/
def isDocumentChar (c : Char) : Bool := ' ' ≤ c || isSpace c

/-- A text that can stand in a document. -/
def IsDocumentText (text : String) : Prop := ∀ c ∈ text.toList, isDocumentChar c

instance (text : String) : Decidable (IsDocumentText text) :=
  List.decidableBAll (isDocumentChar · = true) text.toList

/-- The name of an attribute or an element that can be asked for: it has no prefix, is not that of a
namespace declaration and does not begin like those by which text is asked for. -/
structure IsFieldName (name : String) : Prop where
  isName : IsName name.toList
  unprefixed : ':' ∉ name.toList
  ordinary : name ≠ "xmlns"
  notSpecial : name.toList.head? ≠ some '$'

instance (name : String) : Decidable (IsFieldName name) :=
  decidable_of_iff
    (IsName name.toList ∧ ':' ∉ name.toList ∧ name ≠ "xmlns" ∧ name.toList.head? ≠ some '$')
    ⟨fun h => ⟨h.1, h.2.1, h.2.2.1, h.2.2.2⟩,
      fun h => ⟨h.isName, h.unprefixed, h.ordinary, h.notSpecial⟩⟩

namespace WrittenTag

/-- The attributes of a tag, by name and raw value. -/
def pairs (t : WrittenTag) : List (List Char × List Char) :=
  t.attributes.map fun a => (a.name, a.value)

/-- The attributes have distinct names without a prefix. -/
structure Plain (t : WrittenTag) : Prop where
  distinct : (t.pairs.map (·.1)).Nodup
  unprefixed : ∀ pair ∈ t.pairs, ':' ∉ pair.1

/-- The attributes keep to the reserved namespaces. -/
def BindsWell (t : WrittenTag) : Prop :=
  ∀ pair ∈ t.pairs, KeepsNamespaces reservedFor? pair.1 pair.2

theorem Plain.bindsWell {t : WrittenTag} (plain : t.Plain) : t.BindsWell reservedFor? :=
  fun pair hp => keepsNamespaces_of_unprefixed reservedFor? (plain.unprefixed pair hp) pair.2

/-- An attribute holds a text, in one of the ways to write it. -/
def Holds (t : WrittenTag) (key value : String) : Prop :=
  IsDocumentText value ∧
    ∃ raw, (key.toList, raw) ∈ t.pairs ∧ '<' ∉ raw ∧ Denotes raw value.toList

/-- An attribute holds a text, or there is no such attribute and the text is its default. -/
def Tells (t : WrittenTag) (key : String) (default : Option String) (value : String) : Prop :=
  t.Holds key value ∨ key.toList ∉ t.pairs.map (·.1) ∧ default = some value

end WrittenTag

/-! ## Documents that can be read -/

namespace Written

mutual

/-- All tags of a piece keep to the reserved namespaces, and its texts refer to characters only. -/
def Readable : Written → Prop
  | element tag content _ => tag.BindsWell reservedFor? ∧ AllReadable content
  | empty tag => tag.BindsWell reservedFor?
  | text raw => ∃ text, Denotes raw text
  | cdata _ | comment _ | instruction _ => True

/-- All of some pieces are readable. -/
def AllReadable : List Written → Prop
  | [] => True
  | piece :: rest => piece.Readable ∧ AllReadable rest

end

variable {reservedFor?}

theorem allReadable_iff {pieces : List Written} :
    AllReadable reservedFor? pieces ↔ ∀ piece ∈ pieces, piece.Readable reservedFor? := by
  induction pieces with
  | nil => simp [AllReadable]
  | cons piece pieces ih => rw [AllReadable, ih, List.forall_mem_cons]

theorem IsElement.readable_iff {piece : Written} {tag : WrittenTag} {content : List Written}
    (h : piece.IsElement tag content) :
    piece.Readable reservedFor? ↔
      tag.BindsWell reservedFor? ∧ ∀ inside ∈ content, inside.Readable reservedFor? := by
  rcases h with ⟨rfl, rfl⟩ | ⟨endSpace, rfl⟩
  · simp [Readable]
  · rw [Readable, allReadable_iff]

theorem readable_of_isMisc {piece : Written} (h : piece.isMisc) : piece.Readable reservedFor? := by
  rcases exists_of_isMisc h with ⟨raw, rfl, spaces⟩ | ⟨content, rfl⟩ | ⟨content, rfl⟩
  · rw [List.all_eq_true] at spaces
    rw [Readable]
    exact ⟨raw, denotes_self fun mem => absurd (spaces '&' mem) (by decide)⟩
  · trivial
  · trivial

variable (reservedFor?)

/-- The piece can be told from what is around it, is readable, and holds no text but white space
between elements. -/
structure IsRecord (piece : Written) (tag : WrittenTag) (content : List Written) : Prop where
  isElement : piece.IsElement tag content
  plain : tag.Plain
  readable : piece.Readable reservedFor?
  elements : ∀ inside ∈ content, inside.isMisc ∨ ∃ tag content, inside.IsElement tag content

end Written

/-- The document has a root with some attributes and some elements in it, and can be read
throughout. -/
def IsDocument (document : String) (tag : WrittenTag) (content : List Written) : Prop :=
  ∃ root, HasRoot document root ∧ root.IsRecord reservedFor? tag content

end

/-- The rules by which a library reads a document as the record of a schema. -/
structure Library.ReadsDocuments (library : Library) : Prop where
  /-- Where nothing is wanted, all that the root holds is passed over. -/
  done {α : Type} (record : α) {document : String} {tag : WrittenTag} {content : List Written} :
    IsDocument library.reservedFor? document tag content →
    library.read? (.done record) document = some record
  /-- The text of an attribute is the value that is written for it, whatever the other attributes
  are. -/
  text {α : Type} {before : Schema (String → α)} {f : String → α} {key : String}
    {default : Option String} {value : String} {document : String} {tag : WrittenTag}
    {content : List Written} :
    IsDocument library.reservedFor? document tag content → IsFieldName key → key ∉ before.keys →
    tag.Tells key default value →
    library.read? before document = some f →
    library.read? (.text before key default) document = some (f value)
  /-- The elements of a name are read in their order, each as it would be by itself, whatever else
  stands between them. -/
  members {α β : Type} {before : Schema (List β → α)} {f : List β → α} {name : String}
    {member : Schema β} {records : List β} {document : String} {tag : WrittenTag}
    {content : List Written} :
    IsDocument library.reservedFor? document tag content → IsFieldName name →
    name ∉ before.memberNames →
    (∀ piece ∈ content.filter (·.hasLocalName name.toList),
      piece.tag?.map (·.name) = some name.toList) →
    List.Forall₂
      (fun piece record => library.read? member (String.ofList piece.chars) = some record)
      (content.filter (·.hasLocalName name.toList)) records →
    library.read? before document = some f →
    library.read? (.members before name member) document = some (f records)

end BareMetal.Design
