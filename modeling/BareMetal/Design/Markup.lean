import BareMetal.Text.Numeral
import BareMetal.Text.Split

/-!
# Markup documents

The part of XML that a design file needs.  A document is read item by item: tags, text, CDATA
sections, document types, and what is skipped (comments and processing instructions).
`Node.parse?` builds the tree of the root element; tags must nest, and nothing after the end of the
root is looked at.  Attributes and references stay as they are written until somebody asks for them:
`attributes?`, `bindsNamespaces` and `unescape?` read them.
-/

namespace BareMetal.Design

/-- The white space of markup, which is narrower than that of text. -/
def isSpace (c : Char) : Bool := c == ' ' || c == '\t' || c == '\n' || c == '\r'

/-- One piece of a document. -/
inductive Item where
  | opening (name attributes : List Char) (closed : Bool)
  | closing (name : List Char)
  | text (raw : List Char)
  | cdata (content : List Char)
  | documentType
  | skipped
  deriving DecidableEq, Repr

namespace Item

/-! ## Ends of items -/

/-- What stands before the first occurrence of `mark`, behind the characters already passed, and
what follows it. -/
def cutAt (mark passed : List Char) : List Char → Option (List Char × List Char)
  | [] => none
  | c :: cs =>
    match Text.dropPrefix? mark (c :: cs) with
    | some rest => some (passed.reverse, rest)
    | none => cutAt mark (c :: passed) cs

/-- The inside of a tag up to the `>` that stands in no quotes, and what follows. -/
def cutTag (quote : Option Char) (passed : List Char) : List Char → Option (List Char × List Char)
  | [] => none
  | c :: cs =>
    match quote with
    | some q => cutTag (if c = q then none else some q) (c :: passed) cs
    | none =>
      if c = '>' then some (passed.reverse, cs)
      else cutTag (if c = '"' ∨ c = '\'' then some c else none) (c :: passed) cs

/-- The inside of a document type up to the `>` that matches its opening, and what follows. -/
def cutBalanced (depth : Nat) (passed : List Char) : List Char → Option (List Char × List Char)
  | [] => none
  | c :: cs =>
    if c = '<' then cutBalanced (depth + 1) (c :: passed) cs
    else if c = '>' then
      match depth with
      | 0 => some (passed.reverse, cs)
      | d + 1 => cutBalanced d (c :: passed) cs
    else cutBalanced depth (c :: passed) cs

/-! ## Kinds of items -/

/-- The name of a closing tag; white space may follow it. -/
def closingName (inside : List Char) : List Char :=
  if inside.all isSpace then inside else (inside.reverse.dropWhile isSpace).reverse

/-- A tag from the characters between `<` and `>`. -/
def ofTag : List Char → Item
  | '/' :: inside => closing (closingName inside)
  | inside =>
    let closed := Text.dropSuffix? ['/'] inside
    let content := closed.getD inside
    opening (content.takeWhile (!isSpace ·)) (content.dropWhile (!isSpace ·)) closed.isSome

/-- A document type names the type behind its keyword, which may be in any case. -/
def isDocumentType (inside : List Char) : Bool :=
  (inside.take 7).map Char.toUpper == "DOCTYPE".toList && !(inside.drop 7).all isSpace

/-- The item whose `<!` has been read. -/
def readDeclaration (cs : List Char) : Option (Item × List Char) :=
  match Text.dropPrefix? "--".toList cs, Text.dropPrefix? "[CDATA[".toList cs with
  | some rest, _ => (cutAt "-->".toList [] rest).map fun (_, rest) => (skipped, rest)
  | none, some rest =>
    (cutAt "]]>".toList [] rest).map fun (content, rest) => (cdata content, rest)
  | none, none =>
    (cutBalanced 0 [] cs).bind fun (inside, rest) =>
      if isDocumentType inside then some (documentType, rest) else none

/-- The item whose `<` has been read. -/
def readMarkup : List Char → Option (Item × List Char)
  | '!' :: cs => readDeclaration cs
  | '?' :: '>' :: _ => none
  | '?' :: cs => (cutAt "?>".toList [] cs).map fun (_, rest) => (skipped, rest)
  | cs => (cutTag none [] cs).map fun (inside, rest) => (ofTag inside, rest)

/-- The first item of a document and what follows it. -/
def read? : List Char → Option (Item × List Char)
  | [] => none
  | '<' :: cs => readMarkup cs
  | c :: cs => some (text (c :: cs.takeWhile (· ≠ '<')), cs.dropWhile (· ≠ '<'))

/-! ## Reading goes forward -/

theorem length_dropPrefix? {mark cs rest : List Char} (h : Text.dropPrefix? mark cs = some rest) :
    rest.length ≤ cs.length := by
  induction mark generalizing cs with
  | nil => simp_all [Text.dropPrefix?]
  | cons m ms ih =>
    cases cs with
    | nil => simp [Text.dropPrefix?] at h
    | cons c cs =>
      simp only [Text.dropPrefix?] at h
      split at h
      · exact Nat.le_succ_of_le (ih h)
      · simp at h

theorem length_cutAt {mark passed cs before rest : List Char}
    (h : cutAt mark passed cs = some (before, rest)) : rest.length ≤ cs.length := by
  induction cs generalizing passed with
  | nil => simp [cutAt] at h
  | cons c cs ih =>
    simp only [cutAt] at h
    split at h
    · next r hr =>
      cases h
      exact length_dropPrefix? hr
    · exact Nat.le_succ_of_le (ih h)

theorem length_cutTag {quote : Option Char} {passed cs before rest : List Char}
    (h : cutTag quote passed cs = some (before, rest)) : rest.length ≤ cs.length := by
  induction cs generalizing quote passed with
  | nil => simp [cutTag] at h
  | cons c cs ih =>
    simp only [cutTag] at h
    split at h
    · exact Nat.le_succ_of_le (ih h)
    · split at h
      · simp_all
      · exact Nat.le_succ_of_le (ih h)

theorem length_cutBalanced {depth : Nat} {passed cs before rest : List Char}
    (h : cutBalanced depth passed cs = some (before, rest)) : rest.length ≤ cs.length := by
  induction cs generalizing depth passed with
  | nil => simp [cutBalanced] at h
  | cons c cs ih =>
    simp only [cutBalanced] at h
    split at h
    · exact Nat.le_succ_of_le (ih h)
    · split at h
      · split at h
        · simp_all
        · exact Nat.le_succ_of_le (ih h)
      · exact Nat.le_succ_of_le (ih h)

theorem length_readDeclaration {cs rest : List Char} {item : Item}
    (h : readDeclaration cs = some (item, rest)) : rest.length ≤ cs.length := by
  simp only [readDeclaration] at h
  split at h
  · next hr =>
    obtain ⟨⟨before, r'⟩, hcut, heq⟩ := Option.map_eq_some_iff.1 h
    cases heq
    exact Nat.le_trans (length_cutAt hcut) (length_dropPrefix? hr)
  · next hr =>
    obtain ⟨⟨before, r'⟩, hcut, heq⟩ := Option.map_eq_some_iff.1 h
    cases heq
    exact Nat.le_trans (length_cutAt hcut) (length_dropPrefix? hr)
  · obtain ⟨⟨before, r'⟩, hcut, heq⟩ := Option.bind_eq_some_iff.1 h
    split at heq
    · cases heq
      exact length_cutBalanced hcut
    · simp at heq

theorem length_readMarkup {cs rest : List Char} {item : Item}
    (h : readMarkup cs = some (item, rest)) : rest.length ≤ cs.length := by
  simp only [readMarkup] at h
  split at h
  · exact Nat.le_succ_of_le (length_readDeclaration h)
  · simp at h
  · obtain ⟨⟨before, r'⟩, hcut, heq⟩ := Option.map_eq_some_iff.1 h
    cases heq
    exact Nat.le_succ_of_le (length_cutAt hcut)
  · obtain ⟨⟨before, r'⟩, hcut, heq⟩ := Option.map_eq_some_iff.1 h
    cases heq
    exact length_cutTag hcut

theorem length_read? {cs rest : List Char} {item : Item} (h : read? cs = some (item, rest)) :
    rest.length < cs.length := by
  simp only [read?] at h
  split at h
  · simp at h
  · exact Nat.lt_succ_of_le (length_readMarkup h)
  · cases h
    exact Nat.lt_succ_of_le (List.dropWhile_suffix _).length_le

end Item

/-! ## Trees -/

/-- An element with its content, a run of text as it is written, a CDATA section, or a document
type. -/
inductive Node where
  | element (name attributes : List Char) (children : List Node)
  | text (raw : List Char)
  | cdata (content : List Char)
  | documentType
  deriving Repr

/-- An element whose end has not been read, with its children so far, latest first. -/
structure OpenElement where
  name : List Char
  attributes : List Char
  children : List Node

namespace OpenElement

def add (e : OpenElement) (child : Node) : OpenElement :=
  { e with children := child :: e.children }

def finish (e : OpenElement) : Node := .element e.name e.attributes e.children.reverse

end OpenElement

namespace Node

/-- Reads on to the end of the root inside the open elements, innermost first. -/
def parseInside (opened : List OpenElement) (cs : List Char) : Option Node :=
  match h : Item.read? cs with
  | none => none
  | some (item, rest) =>
    have := Item.length_read? h
    match item, opened with
    | .skipped, _ => parseInside opened rest
    | .documentType, [] => parseInside [] rest
    | .documentType, top :: up => parseInside (top.add .documentType :: up) rest
    | .opening name attributes false, _ => parseInside (⟨name, attributes, []⟩ :: opened) rest
    | .opening name attributes true, [] => some (.element name attributes [])
    | .opening name attributes true, top :: up =>
      parseInside (top.add (.element name attributes []) :: up) rest
    | .text raw, [] => if raw.all isSpace then parseInside [] rest else none
    | .text raw, top :: up => parseInside (top.add (.text raw) :: up) rest
    | .cdata _, [] => none
    | .cdata content, top :: up => parseInside (top.add (.cdata content) :: up) rest
    | .closing _, [] => none
    | .closing name, [top] => if name = top.name then some top.finish else none
    | .closing name, top :: parent :: up =>
      if name = top.name then parseInside (parent.add top.finish :: up) rest else none
  termination_by cs.length

/-- The root element of a document, which may start with a byte order mark. -/
def parse? (document : String) : Option Node :=
  match document.toList with
  | '\ufeff' :: cs => parseInside [] cs
  | cs => parseInside [] cs

end Node

/-! ## References -/

/-- The character of a code point other than zero. -/
def charOfCode? (n : Nat) : Option Char :=
  if n ≠ 0 ∧ n.isValidChar then some (Char.ofNat n) else none

/-- The character that a reference names, without its `&` and `;`. -/
def reference? : List Char → Option Char
  | '#' :: 'x' :: digits => (Numeral.ofDigits? 16 digits).bind charOfCode?
  | '#' :: digits => (Numeral.ofDigits? 10 digits).bind charOfCode?
  | name =>
    if name = "lt".toList then some '<'
    else if name = "gt".toList then some '>'
    else if name = "amp".toList then some '&'
    else if name = "quot".toList then some '"'
    else if name = "apos".toList then some '\''
    else none

/-- Reads on behind the text `out`, latest first; `name` is the reference that is being read. -/
def unescapeFrom (out : List Char) : Option (List Char) → List Char → Option (List Char)
  | none, [] => some out.reverse
  | none, c :: cs =>
    if c = '&' then unescapeFrom out (some []) cs else unescapeFrom (c :: out) none cs
  | some _, [] => none
  | some name, c :: cs =>
    if c = ';' then
      match reference? name.reverse with
      | some r => unescapeFrom (r :: out) none cs
      | none => none
    else if c = '&' then none
    else unescapeFrom out (some (c :: name)) cs

/-- The text with every reference replaced; none when a reference is unknown or has no end. -/
def unescape? (raw : List Char) : Option (List Char) := unescapeFrom [] none raw

/-! ## Attributes -/

/-- Where the reader of attributes stands. -/
inductive AttributeState where
  /-- Between attributes. -/
  | outside
  /-- In a name, latest character first. -/
  | inName (name : List Char)
  /-- In the white space after a name. -/
  | afterName (name : List Char)
  /-- Behind the equals sign. -/
  | beforeValue (name : List Char)
  /-- In a value, latest character first. -/
  | inValue (name : List Char) (quote : Char) (value : List Char)
  deriving DecidableEq, Repr

/-- Reads on behind the attributes `found`, latest first, up to the end or to the first attribute
that is malformed, and tells whether there is none. -/
def attributesFrom (found : List (List Char × List Char)) :
    AttributeState → List Char → List (List Char × List Char) × Bool
  | .outside, [] => (found.reverse, true)
  | _, [] => (found.reverse, false)
  | .outside, c :: cs =>
    attributesFrom found (if isSpace c then .outside else .inName [c]) cs
  | .inName name, c :: cs =>
    if c = '=' then attributesFrom found (.beforeValue name.reverse) cs
    else if isSpace c then attributesFrom found (.afterName name.reverse) cs
    else attributesFrom found (.inName (c :: name)) cs
  | .afterName name, c :: cs =>
    if isSpace c then attributesFrom found (.afterName name) cs
    else if c = '=' then attributesFrom found (.beforeValue name) cs
    else (found.reverse, false)
  | .beforeValue name, c :: cs =>
    if isSpace c then attributesFrom found (.beforeValue name) cs
    else if c = '"' ∨ c = '\'' then attributesFrom found (.inValue name c []) cs
    else (found.reverse, false)
  | .inValue name quote value, c :: cs =>
    if c = quote then attributesFrom ((name, value.reverse) :: found) .outside cs
    else attributesFrom found (.inValue name quote (c :: value)) cs

theorem attributesFrom_nil (found : List (List Char × List Char)) (s : AttributeState) :
    attributesFrom found s [] = (found.reverse, decide (s = .outside)) := by
  cases s <;> simp [attributesFrom]

/-- The attributes of a tag with their raw values; none when they are malformed or a name occurs
twice. -/
def attributes? (raw : List Char) : Option (List (List Char × List Char)) :=
  match attributesFrom [] .outside raw with
  | (found, true) => if (found.map (·.1)).Nodup then some found else none
  | (_, false) => none

/-! ## Names -/

/-- A name without its namespace prefix. -/
def localName (name : List Char) : List Char :=
  match Text.splitOnce ':' name with
  | some (_, rest) => rest
  | none => name

/-- The attribute declares a namespace and is none of the element's own. -/
def isNamespaceDeclaration (name : List Char) : Bool :=
  name.takeWhile (· ≠ ':') == "xmlns".toList

/-- The path of the namespace that belongs to the prefix `xml`. -/
def xmlNamespace : List Char := "/XML/1998/namespace".toList

/-- The path of the namespace that belongs to the prefix `xmlns`. -/
def xmlnsNamespace : List Char := "/2000/xmlns/".toList

/-- The prefix that a namespace is reserved for, as its path tells. -/
def prefixOfNamespace? (name : List Char) : Option (List Char) :=
  if Text.endsWith xmlNamespace name then some "xml".toList
  else if Text.endsWith xmlnsNamespace name then some "xmlns".toList
  else none

/-- An attribute that binds a prefix keeps to the reserved namespaces: `xml` may be bound to its own
only, `xmlns` to none, and no other prefix to one of theirs. -/
def bindsWell (name value : List Char) : Bool :=
  match Text.dropPrefix? "xmlns:".toList name with
  | some bound =>
    bound ≠ "xmlns".toList &&
      prefixOfNamespace? value = if bound = "xml".toList then some bound else none
  | none => true

/-- All attributes of a tag before the first that is malformed bind well. -/
def bindsNamespaces (raw : List Char) : Bool :=
  (attributesFrom [] .outside raw).1.all fun (name, value) => bindsWell name value

end BareMetal.Design
