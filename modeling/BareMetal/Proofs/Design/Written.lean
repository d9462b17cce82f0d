import BareMetal.Design.Markup

/-!
# Markup as it is written

The text of a document with all the freedom that its writer has: white space in tags, kinds of
quotes, closed tags, comments and instructions.  `Written.chars` is the text of a piece of markup,
and `Written.WellFormed` says what a piece has to be so that its text can be told from what is
around it.  `HasRoot` says of a document which piece its root is.
-/

namespace BareMetal.Design

/-- All of some characters are white space. -/
def IsSpaces (cs : List Char) : Prop := ∀ c ∈ cs, isSpace c

/-- The characters of names: neither white space nor one that means something in a tag. -/
def isNameChar (c : Char) : Bool :=
  !isSpace c && !(['<', '>', '/', '=', '"', '\'', '&', '@', '!', '?'].contains c)

/-- A name of an element or attribute, with or without a prefix. -/
structure IsName (name : List Char) : Prop where
  ne_nil : name ≠ []
  chars : ∀ c ∈ name, isNameChar c

instance (name : List Char) : Decidable (IsName name) :=
  decidable_of_iff (name ≠ [] ∧ name.all isNameChar)
    ⟨fun h => ⟨h.1, List.all_eq_true.1 h.2⟩, fun h => ⟨h.ne_nil, List.all_eq_true.2 h.chars⟩⟩

/-- An attribute with the white space around it. -/
structure WrittenAttribute where
  lead : List Char
  name : List Char
  beforeEquals : List Char
  afterEquals : List Char
  quote : Char
  value : List Char

namespace WrittenAttribute

def chars (a : WrittenAttribute) : List Char :=
  a.lead ++ a.name ++ a.beforeEquals ++ '=' :: a.afterEquals ++ a.quote :: a.value ++ [a.quote]

structure WellFormed (a : WrittenAttribute) : Prop where
  lead_ne_nil : a.lead ≠ []
  lead : IsSpaces a.lead
  name : IsName a.name
  beforeEquals : IsSpaces a.beforeEquals
  afterEquals : IsSpaces a.afterEquals
  quote : a.quote = '"' ∨ a.quote = '\''
  value : a.quote ∉ a.value

end WrittenAttribute

/-- What stands in a tag, with the white space before its end. -/
structure WrittenTag where
  name : List Char
  attributes : List WrittenAttribute := []
  space : List Char := []

namespace WrittenTag

/-- What stands behind the name. -/
def inner (t : WrittenTag) : List Char := t.attributes.flatMap WrittenAttribute.chars ++ t.space

structure WellFormed (t : WrittenTag) : Prop where
  name : IsName t.name
  attributes : ∀ a ∈ t.attributes, a.WellFormed
  space : IsSpaces t.space

end WrittenTag

/-- Some characters between two marks. -/
def between (start : String) (content : List Char) (finish : String) : List Char :=
  start.toList ++ content ++ finish.toList

/-- A piece of markup. -/
inductive Written where
  /-- An element between two tags, the second with some white space at its end. -/
  | element (tag : WrittenTag) (content : List Written) (endSpace : List Char)
  /-- An element of one closed tag. -/
  | empty (tag : WrittenTag)
  | text (raw : List Char)
  | cdata (content : List Char)
  | comment (content : List Char)
  | instruction (content : List Char)

namespace Written

mutual

/-- The text of a piece. -/
def chars : Written → List Char
  | element tag content endSpace =>
    '<' :: tag.name ++ tag.inner ++ '>' :: allChars content ++
      '<' :: '/' :: tag.name ++ endSpace ++ ['>']
  | empty tag => '<' :: tag.name ++ tag.inner ++ ['/', '>']
  | text raw => raw
  | cdata content => between "<![CDATA[" content "]]>"
  | comment content => between "<!--" content "-->"
  | instruction content => between "<?" content "?>"

/-- The text of some pieces behind each other. -/
def allChars : List Written → List Char
  | [] => []
  | piece :: rest => piece.chars ++ allChars rest

end

def isText : Written → Bool
  | text _ => true
  | _ => false

mutual

/-- The piece can be told from what is around it.  A mark that ends it does not occur before. -/
def WellFormed : Written → Prop
  | element tag content endSpace => tag.WellFormed ∧ AllWellFormed content ∧ IsSpaces endSpace
  | empty tag => tag.WellFormed
  | text raw => raw ≠ [] ∧ '<' ∉ raw
  | cdata content => ¬ "]]>".toList <:+: content
  | comment content => ¬ "-->".toList <:+: content
  | instruction content => content.head?.any isNameChar ∧ ¬ "?>".toList <:+: content

/-- All pieces are well formed, and no text stands right behind another. -/
def AllWellFormed : List Written → Prop
  | [] => True
  | piece :: rest =>
    piece.WellFormed ∧ ¬ (piece.isText ∧ rest.head?.any isText) ∧ AllWellFormed rest

end

/-- White space, a comment or an instruction: what stands around the root of a document. -/
def isMisc : Written → Bool
  | text raw => raw.all isSpace
  | comment _ | instruction _ => true
  | element _ _ _ | empty _ | cdata _ => false

theorem exists_of_isMisc {piece : Written} (h : piece.isMisc) :
    (∃ raw, piece = text raw ∧ raw.all isSpace) ∨ (∃ content, piece = comment content) ∨
      ∃ content, piece = instruction content := by
  cases piece <;> simp_all [isMisc]

/-- The piece is an element with a tag and some content. -/
def IsElement (piece : Written) (tag : WrittenTag) (content : List Written) : Prop :=
  (piece = empty tag ∧ content = []) ∨ ∃ endSpace, piece = element tag content endSpace

/-- The tag at the start of an element. -/
def tag? : Written → Option WrittenTag
  | element tag _ _ | empty tag => some tag
  | _ => none

/-- The piece is an element of a local name. -/
def hasLocalName (name : List Char) (piece : Written) : Bool :=
  piece.tag?.any fun tag => localName tag.name = name

theorem IsElement.tag?_eq {piece : Written} {tag : WrittenTag} {content : List Written}
    (h : piece.IsElement tag content) : piece.tag? = some tag := by
  rcases h with ⟨rfl, -⟩ | ⟨endSpace, rfl⟩ <;> rfl

theorem IsElement.hasLocalName_iff {piece : Written} {tag : WrittenTag} {content : List Written}
    (h : piece.IsElement tag content) {name : List Char} :
    piece.hasLocalName name ↔ localName tag.name = name := by
  simp [hasLocalName, h.tag?_eq]

theorem not_hasLocalName_of_isMisc {piece : Written} (h : piece.isMisc) (name : List Char) :
    ¬ piece.hasLocalName name := by
  rcases exists_of_isMisc h with ⟨raw, rfl, -⟩ | ⟨content, rfl⟩ | ⟨content, rfl⟩ <;>
    simp [hasLocalName, tag?]

theorem AllWellFormed.forall {pieces : List Written} (h : AllWellFormed pieces) :
    ∀ piece ∈ pieces, piece.WellFormed := by
  induction pieces with
  | nil => simp
  | cons piece pieces ih =>
    rw [AllWellFormed] at h
    exact List.forall_mem_cons.2 ⟨h.1, ih h.2.2⟩

theorem IsElement.wellFormed {piece : Written} {tag : WrittenTag} {content : List Written}
    (isElement : piece.IsElement tag content) (h : piece.WellFormed) :
    tag.WellFormed ∧ AllWellFormed content := by
  rcases isElement with ⟨rfl, rfl⟩ | ⟨endSpace, rfl⟩
  · rw [WellFormed] at h
    exact ⟨h, by simp [AllWellFormed]⟩
  · rw [WellFormed] at h
    exact ⟨h.1, h.2.1⟩

end Written

/-! ## Documents -/

/-- The document is a root with white space, comments and instructions around it.  A byte order mark
may stand at its start. -/
def HasRoot (document : String) (root : Written) : Prop :=
  ∃ (mark : List Char) (before after : List Written),
    document = String.ofList (mark ++ Written.allChars before ++ root.chars ++
      Written.allChars after) ∧
    (mark = [] ∨ mark = ['\ufeff']) ∧ Written.AllWellFormed before ∧
    Written.AllWellFormed after ∧ (∀ piece ∈ before ++ after, piece.isMisc) ∧ root.WellFormed

theorem HasRoot.wellFormed {document : String} {root : Written} (h : HasRoot document root) :
    root.WellFormed := by
  obtain ⟨_, _, _, _, _, _, _, _, root_ok⟩ := h
  exact root_ok

theorem hasRoot_chars {root : Written} (h : root.WellFormed) :
    HasRoot (String.ofList root.chars) root :=
  ⟨[], [], [], by simp [Written.allChars], .inl rfl, by simp [Written.AllWellFormed],
    by simp [Written.AllWellFormed], by simp, h⟩

end BareMetal.Design
