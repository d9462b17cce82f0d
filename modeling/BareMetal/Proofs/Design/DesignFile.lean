import BareMetal.Design.System
import BareMetal.Proofs.Design.Reading

/-!
# Design files and the systems that they list

`IsDesign` says how a list of connections is written as a design file: as elements among others, by
attributes among others.  Every library that follows the rules for documents reads such a file as
exactly that list (`System.parse_of_isDesign`), if the elements that are passed over are readable;
it takes more than that tags nest in them (`System.not_parse_of_any_foreign`).  There is such a file
for every system whose texts can stand in a document (`System.isDesign_document`).
-/

namespace BareMetal.Design

/-! ## Members among other pieces -/

/-- Pieces among which there are members with some values, in order. -/
inductive Interleaves {α : Type} (Gap : Written → Prop) (Member : Written → α → Prop) :
    List Written → List α → Prop
  | nil : Interleaves Gap Member [] []
  | gap {piece : Written} {pieces : List Written} {xs : List α} : Gap piece →
      Interleaves Gap Member pieces xs → Interleaves Gap Member (piece :: pieces) xs
  | member {piece : Written} {x : α} {pieces : List Written} {xs : List α} : Member piece x →
      Interleaves Gap Member pieces xs → Interleaves Gap Member (piece :: pieces) (x :: xs)

namespace Interleaves

variable {α : Type} {Gap : Written → Prop} {Member : Written → α → Prop} {pieces : List Written}
  {xs : List α}

theorem forall_mem {P : Written → Prop} (h : Interleaves Gap Member pieces xs)
    (gap : ∀ piece, Gap piece → P piece) (member : ∀ piece x, Member piece x → P piece) :
    ∀ piece ∈ pieces, P piece := by
  induction h with
  | nil => simp
  | gap isGap _ ih => exact List.forall_mem_cons.2 ⟨gap _ isGap, ih⟩
  | member isMember _ ih => exact List.forall_mem_cons.2 ⟨member _ _ isMember, ih⟩

/-- The members are the pieces that can be told from the others. -/
theorem forall₂_filter {p : Written → Bool} (h : Interleaves Gap Member pieces xs)
    (gap : ∀ piece, Gap piece → ¬ p piece) (member : ∀ piece x, Member piece x → p piece) :
    List.Forall₂ Member (pieces.filter p) xs := by
  induction h with
  | nil => exact .nil
  | gap isGap _ ih => rwa [List.filter_cons_of_neg (gap _ isGap)]
  | member isMember _ ih =>
    rw [List.filter_cons_of_pos (member _ _ isMember)]
    exact .cons isMember ih

end Interleaves

/-! ## Design files -/

section IsDesign

-- the condition on elements that are passed over
variable (Foreign : Written → Prop)

/-- What stands between elements: white space, comments, instructions, and elements of other local
names than those of the members. -/
def IsGap (members : List (List Char)) (piece : Written) : Prop :=
  piece.isMisc ∨ ∃ tag content, piece.IsElement tag content ∧ localName tag.name ∉ members ∧
    Foreign piece

/-- The piece is a written parameter. -/
def IsParameter (piece : Written) (p : Parameter) : Prop :=
  ∃ tag content, piece.IsElement tag content ∧ tag.name = "parameter".toList ∧ tag.Plain ∧
    tag.Holds "name" p.name ∧ tag.Holds "value" p.value ∧
      ∀ inside ∈ content, IsGap Foreign [] inside

/-- The piece is a written connection. -/
def IsConnection (piece : Written) (c : Connection) : Prop :=
  ∃ tag content, piece.IsElement tag content ∧ tag.name = "connection".toList ∧ tag.Plain ∧
    tag.Holds "end" c.endpoint ∧
      Interleaves (IsGap Foreign ["parameter".toList]) (IsParameter Foreign) content c.parameters

/-- The document is a root element with the connections in it. -/
def IsDesign (document : String) (connections : List Connection) : Prop :=
  ∃ root tag content, HasRoot document root ∧ root.IsElement tag content ∧ tag.Plain ∧
    Interleaves (IsGap Foreign ["connection".toList]) (IsConnection Foreign) content connections

end IsDesign

open Written

/-! ## Pieces of design files -/

namespace IsGap

variable {Foreign : Written → Prop} {reservedFor? : List Char → Option (List Char)}
  {members : List (List Char)} {piece : Written}

theorem element (h : IsGap Foreign members piece) :
    piece.isMisc ∨ ∃ tag content, piece.IsElement tag content :=
  h.imp_right fun ⟨tag, content, isElement, _⟩ => ⟨tag, content, isElement⟩

theorem readable (h : IsGap (Readable reservedFor?) members piece) : piece.Readable reservedFor? :=
  h.elim readable_of_isMisc fun ⟨_, _, _, _, readable⟩ => readable

theorem not_hasLocalName {name : List Char} (h : IsGap Foreign [name] piece) :
    ¬ piece.hasLocalName name := by
  rcases h with misc | ⟨tag, content, isElement, other, -⟩
  · exact not_hasLocalName_of_isMisc misc name
  · rw [isElement.hasLocalName_iff]
    simpa using other

end IsGap

section

variable {reservedFor? : List Char → Option (List Char)}

/-- An element is a record if what it holds is readable. -/
theorem isRecord_of_isElement {piece : Written} {tag : WrittenTag} {content : List Written}
    (isElement : piece.IsElement tag content) (plain : tag.Plain)
    (inside : ∀ piece ∈ content, piece.Readable reservedFor? ∧
      (piece.isMisc ∨ ∃ tag content, piece.IsElement tag content)) :
    piece.IsRecord reservedFor? tag content where
  isElement := isElement
  plain := plain
  readable := isElement.readable_iff.2
    ⟨plain.bindsWell reservedFor?, fun piece mem => (inside piece mem).1⟩
  elements piece mem := (inside piece mem).2

theorem IsParameter.isRecord {piece : Written} {p : Parameter}
    (h : IsParameter (Readable reservedFor?) piece p) :
    ∃ tag content, piece.IsRecord reservedFor? tag content ∧ tag.name = "parameter".toList ∧
      tag.Holds "name" p.name ∧ tag.Holds "value" p.value := by
  obtain ⟨tag, content, isElement, name_eq, plain, name, value, gaps⟩ := h
  exact ⟨tag, content, isRecord_of_isElement isElement plain fun inside mem =>
    ⟨(gaps inside mem).readable, (gaps inside mem).element⟩, name_eq, name, value⟩

/-- What holds members among other pieces is a record if they are. -/
theorem isRecord_of_interleaves {α : Type} {name : List Char} {Member : Written → α → Prop}
    {piece : Written} {tag : WrittenTag} {content : List Written} {xs : List α}
    (isElement : piece.IsElement tag content) (plain : tag.Plain)
    (h : Interleaves (IsGap (Readable reservedFor?) [name]) Member content xs)
    (member : ∀ piece x, Member piece x → ∃ tag content, piece.IsRecord reservedFor? tag content) :
    piece.IsRecord reservedFor? tag content := by
  refine isRecord_of_isElement isElement plain <|
    h.forall_mem (fun _ gap => ⟨gap.readable, gap.element⟩) fun inside x isMember => ?_
  obtain ⟨tag, content, record⟩ := member inside x isMember
  exact ⟨record.readable, .inr ⟨tag, content, record.isElement⟩⟩

theorem IsConnection.isRecord {piece : Written} {c : Connection}
    (h : IsConnection (Readable reservedFor?) piece c) :
    ∃ tag content, piece.IsRecord reservedFor? tag content ∧ tag.name = "connection".toList ∧
      tag.Holds "end" c.endpoint ∧
      Interleaves (IsGap (Readable reservedFor?) ["parameter".toList])
        (IsParameter (Readable reservedFor?)) content c.parameters := by
  obtain ⟨tag, content, isElement, name_eq, plain, endpoint, parameters⟩ := h
  refine ⟨tag, content, isRecord_of_interleaves isElement plain parameters fun _ _ member => ?_,
    name_eq, endpoint, parameters⟩
  obtain ⟨tag, content, record, -⟩ := member.isRecord
  exact ⟨tag, content, record⟩

end

/-! ## Writing a system -/

/-- A field as an attribute, in the plainest form. -/
def WrittenAttribute.of (key value : String) : WrittenAttribute where
  lead := [' ']
  name := key.toList
  beforeEquals := []
  afterEquals := []
  quote := '"'
  value := escape value.toList

/-- A tag with some fields. -/
def WrittenTag.of (name : String) (fields : List (String × String)) : WrittenTag where
  name := name.toList
  attributes := fields.map fun (key, value) => .of key value
  space := []

namespace WrittenTag

variable {name : String} {fields : List (String × String)}

theorem pairs_of :
    (of name fields).pairs = fields.map fun field => (field.1.toList, escape field.2.toList) := by
  simp only [pairs, of, List.map_map]
  rfl

theorem of_wellFormed (name_ok : IsName name.toList)
    (keys_ok : ∀ field ∈ fields, IsName field.1.toList) : (of name fields).WellFormed where
  name := name_ok
  attributes a ha := by
    obtain ⟨field, mem, rfl⟩ := List.mem_map.1 ha
    exact {
      lead_ne_nil := by simp [WrittenAttribute.of]
      lead := by simp [WrittenAttribute.of, IsSpaces, isSpace]
      name := keys_ok field mem
      beforeEquals := nofun
      afterEquals := nofun
      quote := .inl rfl
      value := notMem_escape (by simp [WrittenAttribute.of]) _ }
  space := nofun

theorem of_plain (distinct : (fields.map (·.1.toList)).Nodup)
    (unprefixed : ∀ field ∈ fields, ':' ∉ field.1.toList) : (of name fields).Plain where
  distinct := by
    rw [pairs_of, List.map_map]
    exact distinct
  unprefixed pair mem := by
    rw [pairs_of] at mem
    obtain ⟨field, field_mem, rfl⟩ := List.mem_map.1 mem
    exact unprefixed field field_mem

theorem of_holds {key value : String} (text : IsDocumentText value)
    (mem : (key, value) ∈ fields) : (of name fields).Holds key value := by
  refine ⟨text, escape value.toList, ?_, notMem_escape (by simp) _, denotes_escape _⟩
  rw [pairs_of]
  exact List.mem_map_of_mem mem

end WrittenTag

def Parameter.written (p : Parameter) : Written :=
  .empty (.of "parameter" [("name", p.name), ("value", p.value)])

def Connection.written (c : Connection) : Written :=
  .element (.of "connection" [("end", c.endpoint)]) (c.parameters.map Parameter.written) []

/-- A root element with some content. -/
def rootOf (content : List Written) : Written := .element (.of "system" []) content []

/-- A design file for a system. -/
def System.document (s : System) : String :=
  String.ofList (rootOf (s.connections.map Connection.written)).chars

theorem Written.AllWellFormed.map {α : Type} {f : α → Written} (wellFormed : ∀ x, (f x).WellFormed)
    (not_text : ∀ x, ¬ (f x).isText) (xs : List α) : AllWellFormed (xs.map f) := by
  induction xs with
  | nil => simp [AllWellFormed]
  | cons x xs ih =>
    rw [List.map_cons, AllWellFormed]
    exact ⟨wellFormed x, fun both => not_text x both.1, ih⟩

theorem Interleaves.map {α : Type} {Gap : Written → Prop} {Member : Written → α → Prop}
    {f : α → Written} {xs : List α} (member : ∀ x ∈ xs, Member (f x) x) :
    Interleaves Gap Member (xs.map f) xs := by
  induction xs with
  | nil => exact .nil
  | cons x xs ih =>
    rw [List.forall_mem_cons] at member
    exact .member member.1 (ih member.2)

theorem Parameter.written_wellFormed (p : Parameter) : p.written.WellFormed := by
  have names : IsName "name".toList ∧ IsName "value".toList := by decide
  rw [written, WellFormed]
  exact WrittenTag.of_wellFormed (by decide) (by simpa using names)

theorem Connection.written_wellFormed (c : Connection) : c.written.WellFormed := by
  have names : IsName "end".toList := by decide
  rw [written, WellFormed]
  exact ⟨WrittenTag.of_wellFormed (by decide) (by simpa using names),
    .map Parameter.written_wellFormed (fun _ => Bool.false_ne_true) c.parameters, nofun⟩

section Written

variable {Foreign : Written → Prop}

theorem Parameter.isParameter_written {p : Parameter} (name : IsDocumentText p.name)
    (value : IsDocumentText p.value) : IsParameter Foreign p.written p :=
  ⟨_, [], .inl ⟨rfl, rfl⟩, rfl, WrittenTag.of_plain (by simp) (by simp),
    WrittenTag.of_holds name (by simp), WrittenTag.of_holds value (by simp), by simp⟩

/-- The texts of a connection can stand in a document. -/
def Connection.IsWritable (c : Connection) : Prop :=
  IsDocumentText c.endpoint ∧ ∀ p ∈ c.parameters, IsDocumentText p.name ∧ IsDocumentText p.value

theorem Connection.isConnection_written {c : Connection} (writable : c.IsWritable) :
    IsConnection Foreign c.written c :=
  ⟨_, _, .inr ⟨[], rfl⟩, rfl, WrittenTag.of_plain (by simp) (by simp),
    WrittenTag.of_holds writable.1 (by simp), .map fun p mem =>
      Parameter.isParameter_written (writable.2 p mem).1 (writable.2 p mem).2⟩

theorem isDesign_rootOf {document : String} {content : List Written}
    (hasRoot : HasRoot document (rootOf content)) {connections : List Connection}
    (members : Interleaves (IsGap Foreign ["connection".toList]) (IsConnection Foreign) content
      connections) : IsDesign Foreign document connections :=
  ⟨rootOf content, _, content, hasRoot, .inr ⟨[], rfl⟩, WrittenTag.of_plain (by simp) (by simp),
    members⟩

theorem rootOf_wellFormed {content : List Written} (content_ok : AllWellFormed content) :
    (rootOf content).WellFormed := by
  rw [rootOf, WellFormed]
  exact ⟨WrittenTag.of_wellFormed (by decide) (by simp), content_ok, nofun⟩

/-- Every system whose texts can stand in a document has a design file. -/
theorem System.isDesign_document {s : System} (writable : ∀ c ∈ s.connections, c.IsWritable) :
    IsDesign Foreign s.document s.connections :=
  isDesign_rootOf (hasRoot_chars (rootOf_wellFormed
      (.map Connection.written_wellFormed (fun _ => Bool.false_ne_true) s.connections)))
    (.map fun c mem => Connection.isConnection_written (writable c mem))

end Written

/-! ## Files with other elements -/

section

variable (reservedFor? : List Char → Option (List Char))

/-- An element whose text refers to no character. -/
def misreferring : Written := .element (.of "m" []) [.text "&x;".toList] []

/-- An element that binds a reserved prefix. -/
def misbinding : Written := .empty (.of "m" [("xmlns:xml", "x")])

theorem misreferring_wellFormed : misreferring.WellFormed := by
  have text_ok : "&x;".toList ≠ [] ∧ '<' ∉ "&x;".toList := by decide
  simp only [misreferring, WellFormed, AllWellFormed]
  exact ⟨WrittenTag.of_wellFormed (by decide) (by simp), ⟨text_ok, by simp, trivial⟩, nofun⟩

theorem misbinding_wellFormed : misbinding.WellFormed := by
  have name_ok : IsName "xmlns:xml".toList := by decide
  simp only [misbinding, WellFormed]
  exact WrittenTag.of_wellFormed (by decide) (by simpa using name_ok)

/-- A connection inside an element of another name. -/
def nested : Written := .element (.of "m" [("n", "&")]) [(Connection.mk "no" []).written] []

/-- A parameter and another element in a connection that has another attribute. -/
def crowded : Written :=
  .element (.of "connection" [("x", ""), ("end", "a<b")])
    [.empty (.of "parameter" [("value", "\""), ("name", "")]), .empty (.of "q" [])] []

theorem nested_wellFormed : nested.WellFormed := by
  have names : IsName "m".toList ∧ IsName "n".toList := by decide
  simp only [nested, WellFormed]
  exact ⟨WrittenTag.of_wellFormed names.1 (by simpa using names.2),
    .map Connection.written_wellFormed (fun _ => Bool.false_ne_true) [_], nofun⟩

theorem nested_readable : nested.Readable reservedFor? := by
  have plain : (WrittenTag.of "m" [("n", "&")]).Plain :=
    WrittenTag.of_plain (by simp) (by simp)
  have inner : (WrittenTag.of "connection" [("end", "no")]).Plain :=
    WrittenTag.of_plain (by simp) (by simp)
  simp only [nested, Connection.written, Readable, AllReadable, List.map_nil, and_true]
  exact ⟨plain.bindsWell reservedFor?, inner.bindsWell reservedFor?⟩

theorem crowded_wellFormed : crowded.WellFormed := by
  have keys : IsName "x".toList ∧ IsName "end".toList := by decide
  have inner_keys : IsName "value".toList ∧ IsName "name".toList := by decide
  simp only [crowded, WellFormed, AllWellFormed]
  exact ⟨WrittenTag.of_wellFormed (by decide) (by simpa using keys),
    ⟨WrittenTag.of_wellFormed (by decide) (by simpa using inner_keys), by simp [isText],
      WrittenTag.of_wellFormed (by decide) (by simp), by simp [isText], trivial⟩, nofun⟩

theorem crowded_isConnection :
    IsConnection (Readable reservedFor?) crowded ⟨"a<b", [⟨"", "\""⟩]⟩ := by
  have q_readable : (Written.empty (.of "q" [])).Readable reservedFor? :=
    (WrittenTag.of_plain (by simp) (by simp)).bindsWell reservedFor?
  refine ⟨_, _, .inr ⟨[], rfl⟩, rfl, WrittenTag.of_plain (by decide) (by simp),
    WrittenTag.of_holds (by decide) (by simp), .member ?_ (.gap ?_ .nil)⟩
  · exact ⟨_, [], .inl ⟨rfl, rfl⟩, rfl, WrittenTag.of_plain (by decide) (by simp),
      WrittenTag.of_holds (by decide) (by simp), WrittenTag.of_holds (by decide) (by simp),
      by simp⟩
  · exact .inr ⟨_, _, .inl ⟨rfl, rfl⟩, by decide, q_readable⟩

end

/-- A design file of two connections, with a comment and other elements among them. -/
def crowdedFile : String :=
  "<?xml version='1.0'?><system><!-- > -->" ++
  "<m n=\"&amp;\"><connection end=\"no\"></connection></m>" ++
  "<connection x=\"\" end=\"a&lt;b\"><parameter value=\"&quot;\" name=\"\"/><q/></connection>" ++
  "<connection end=\"a\"></connection></system>"

/-! ## Reading -/

section

variable {library : Library} (rules : library.ReadsDocuments)

include rules

/-- Members among other pieces are read one by one. -/
theorem read?_of_interleaves {α β : Type} {before : Schema (List β → α)} {f : List β → α}
    {name : String} {member : Schema β} {Member : Written → β → Prop} {document : String}
    {tag : WrittenTag} {content : List Written} {xs : List β}
    (isDocument : IsDocument library.reservedFor? document tag content) (field : IsFieldName name)
    (other : name ∉ before.memberNames) (content_ok : AllWellFormed content)
    (h : Interleaves (IsGap (Readable library.reservedFor?) [name.toList]) Member content xs)
    (record : ∀ piece x, Member piece x →
      ∃ tag content, piece.IsRecord library.reservedFor? tag content ∧ tag.name = name.toList)
    (read_one : ∀ piece x, Member piece x → piece.WellFormed →
      library.read? member (String.ofList piece.chars) = some x)
    (read : library.read? before document = some f) :
    library.read? (.members before name member) document = some (f xs) := by
  have local_name : localName name.toList = name.toList := localName_of_unprefixed field.unprefixed
  have members := h.forall₂_filter (fun _ gap => gap.not_hasLocalName) fun piece x isMember => by
    obtain ⟨tag, content, record, name_eq⟩ := record piece x isMember
    rw [record.isElement.hasLocalName_iff, name_eq, local_name]
  have all_ok : ∀ piece ∈ content.filter (·.hasLocalName name.toList), piece.WellFormed :=
    fun piece mem => content_ok.forall piece (List.mem_filter.1 mem).1
  have named := h.forall_mem
    (P := fun piece => piece.hasLocalName name.toList → piece.tag?.map (·.name) = some name.toList)
    (fun _ gap isMember => absurd isMember gap.not_hasLocalName) fun piece x isMember _ => by
      obtain ⟨tag, content, record, name_eq⟩ := record piece x isMember
      rw [record.isElement.tag?_eq, Option.map_some, name_eq]
  refine rules.members isDocument field other (fun piece mem => ?_) ?_ read
  · obtain ⟨piece_mem, isMember⟩ := List.mem_filter.1 mem
    exact named piece piece_mem isMember
  · exact ((List.forall₂_and_left _ _).2 ⟨all_ok, members⟩).imp fun piece x both =>
      read_one piece x both.2 both.1

theorem Parameter.read?_of_isParameter {piece : Written} {p : Parameter}
    (h : IsParameter (Readable library.reservedFor?) piece p) (piece_ok : piece.WellFormed) :
    library.read? Parameter.schema (String.ofList piece.chars) = some p := by
  obtain ⟨tag, content, record, -, name, value⟩ := h.isRecord
  have isDocument : IsDocument library.reservedFor? (String.ofList piece.chars) tag content :=
    ⟨piece, hasRoot_chars piece_ok, record⟩
  exact rules.text isDocument (by decide) (by decide) (.inl value)
    (rules.text isDocument (by decide) (by decide) (.inl name)
      (rules.done Parameter.mk isDocument))

theorem Connection.read?_of_isConnection {piece : Written} {c : Connection}
    (h : IsConnection (Readable library.reservedFor?) piece c) (piece_ok : piece.WellFormed) :
    library.read? Connection.schema (String.ofList piece.chars) = some c := by
  obtain ⟨tag, content, record, -, endpoint, parameters⟩ := h.isRecord
  have isDocument : IsDocument library.reservedFor? (String.ofList piece.chars) tag content :=
    ⟨piece, hasRoot_chars piece_ok, record⟩
  have read_end : library.read? (.text (.done Connection.mk) "end" (some "")) _ = _ :=
    rules.text isDocument (by decide) (by decide) (.inl endpoint)
      (rules.done Connection.mk isDocument)
  refine read?_of_interleaves rules isDocument (by decide) (by decide)
    (record.isElement.wellFormed piece_ok).2 parameters (fun piece p isMember => ?_)
    (fun piece p => Parameter.read?_of_isParameter rules) read_end
  obtain ⟨tag, content, record, name_eq, -⟩ := isMember.isRecord
  exact ⟨tag, content, record, name_eq⟩

/-- A design file is read as the list of connections that it is written for, in order and with all
texts unchanged; nothing inside other elements is taken. -/
theorem System.parse_of_isDesign {document : String} {connections : List Connection}
    (h : IsDesign (Readable library.reservedFor?) document connections) :
    parse library document = some ⟨connections⟩ := by
  obtain ⟨root, tag, content, hasRoot, isElement, plain, members⟩ := h
  have record := isRecord_of_interleaves isElement plain members fun piece c member => by
    obtain ⟨tag, content, record, -⟩ := member.isRecord
    exact ⟨tag, content, record⟩
  have isDocument : IsDocument library.reservedFor? document tag content := ⟨root, hasRoot, record⟩
  refine read?_of_interleaves rules isDocument (by decide) (by decide)
    (isElement.wellFormed hasRoot.wellFormed).2 members (fun piece c isMember => ?_)
    (fun piece c => Connection.read?_of_isConnection rules) (rules.done System.mk isDocument)
  obtain ⟨tag, content, record, name_eq, -⟩ := isMember.isRecord
  exact ⟨tag, content, record, name_eq⟩

end

theorem System.parse_of_isDesign_behind_foreign :
    markup.ReadsDocuments ∧
      IsDesign (Readable markup.reservedFor?) crowdedFile [⟨"a<b", [⟨"", "\""⟩]⟩, ⟨"a", []⟩] ∧
      parse markup crowdedFile = some ⟨[⟨"a<b", [⟨"", "\""⟩]⟩, ⟨"a", []⟩]⟩ := by
  let c : Connection := ⟨"a", []⟩
  let content : List Written := [.comment " > ".toList, nested, crowded, c.written]
  let declaration : Written := .instruction "xml version='1.0'".toList
  have comment_ok : ¬ "-->".toList <:+: " > ".toList := by decide
  have declaration_ok : declaration.WellFormed := by
    simp only [declaration, WellFormed]
    decide +kernel
  have content_ok : AllWellFormed content := by
    simp only [content, AllWellFormed, WellFormed]
    exact ⟨comment_ok, by simp [isText], nested_wellFormed, by simp [nested, isText],
      crowded_wellFormed, by simp [crowded, isText], c.written_wellFormed, by simp, trivial⟩
  have hasRoot : HasRoot (String.ofList (declaration.chars ++ (rootOf content).chars))
      (rootOf content) :=
    ⟨[], [declaration], [], by simp [allChars], .inl rfl,
      by simp [AllWellFormed, declaration_ok], by simp [AllWellFormed],
      by simp [declaration, isMisc], rootOf_wellFormed content_ok⟩
  have member : IsConnection (Readable markup.reservedFor?) c.written c :=
    c.isConnection_written ⟨by decide, by simp [c]⟩
  have gap : IsGap (Readable markup.reservedFor?) ["connection".toList] nested :=
    .inr ⟨_, _, .inr ⟨[], rfl⟩, by decide, nested_readable markup.reservedFor?⟩
  have design := isDesign_rootOf hasRoot
    (.gap (.inl rfl)
      (.gap gap (.member (crowded_isConnection markup.reservedFor?) (.member member .nil))))
  have text : String.ofList (declaration.chars ++ (rootOf content).chars) = crowdedFile := by
    decide +kernel
  rw [text] at design
  exact ⟨markup_readsDocuments, design, parse_of_isDesign markup_readsDocuments design⟩

/-- Elements that hold anything at all cannot be passed over: with a reference to no character in
one, or a reserved prefix bound, there is a library that follows the rules and does not read the
file. -/
theorem System.not_parse_of_any_foreign :
    markup.ReadsDocuments ∧
      (IsDesign (fun _ => True) "<system><connection end=\"a\"></connection><m>&x;</m></system>"
          [⟨"a", []⟩] ∧
        parse markup "<system><connection end=\"a\"></connection><m>&x;</m></system>" = none) ∧
      IsDesign (fun _ => True)
          "<system><m xmlns:xml=\"x\"/><connection end=\"a\"></connection></system>" [⟨"a", []⟩] ∧
        parse markup "<system><m xmlns:xml=\"x\"/><connection end=\"a\"></connection></system>" =
          none := by
  let c : Connection := ⟨"a", []⟩
  have member : IsConnection (fun _ => True) c.written c :=
    c.isConnection_written ⟨by decide, by simp [c]⟩
  have content_ok {m : Written} (m_ok : m.WellFormed) (not_text : ¬ m.isText) :
      AllWellFormed [c.written, m] ∧ AllWellFormed [m, c.written] := by
    simp only [AllWellFormed]
    refine ⟨⟨c.written_wellFormed, ?_, m_ok, by simp, trivial⟩,
      m_ok, ?_, c.written_wellFormed, by simp, trivial⟩
    · simp [Connection.written, isText]
    · simp [not_text]
  have behind := isDesign_rootOf (hasRoot_chars (rootOf_wellFormed
      (content_ok misreferring_wellFormed Bool.false_ne_true).1))
    (.member member (.gap (.inr ⟨_, _, .inr ⟨[], rfl⟩, by decide, trivial⟩) .nil))
  have before := isDesign_rootOf (hasRoot_chars (rootOf_wellFormed
      (content_ok misbinding_wellFormed Bool.false_ne_true).2))
    (.gap (.inr ⟨_, _, .inl ⟨rfl, rfl⟩, by decide, trivial⟩) (.member member .nil))
  have behind_text : String.ofList (rootOf [c.written, misreferring]).chars =
      "<system><connection end=\"a\"></connection><m>&x;</m></system>" := by decide +kernel
  have before_text : String.ofList (rootOf [misbinding, c.written]).chars =
      "<system><m xmlns:xml=\"x\"/><connection end=\"a\"></connection></system>" := by
    decide +kernel
  rw [behind_text] at behind
  rw [before_text] at before
  exact ⟨markup_readsDocuments, ⟨behind, by decide +kernel⟩, before, by decide +kernel⟩

end BareMetal.Design
