import BareMetal.Design.Reading
import BareMetal.Proofs.Design.Attributes

/-!
# The reader of trees reads documents

The library that reads a document into a tree follows the rules for libraries
(`markup_readsDocuments`).  It has regard to more than these rules speak of: to elements that stand
for attributes, and to what is readable before and behind the first member of a list.  None of that
makes a difference to a document that can be read throughout (`fields?_keys`, `membersFrom_eq`).
-/

namespace BareMetal.Design

/-! ## Nodes of readable pieces -/

theorem allReadable_nodes_iff {nodes : List Node} :
    allReadable nodes ↔ ∀ node ∈ nodes, node.isReadable := by
  induction nodes with
  | nil => simp [allReadable]
  | cons node nodes ih => rw [allReadable, Bool.and_eq_true, ih, List.forall_mem_cons]

theorem allReadable_append (xs ys : List Node) :
    allReadable (xs ++ ys) = (allReadable xs && allReadable ys) := by
  induction xs with
  | nil => simp [allReadable]
  | cons x xs ih => simp [allReadable, ih, Bool.and_assoc]

/-- What is readable all through can be passed over. -/
theorem Node.isPassable_of_isReadable {node : Node} (h : node.isReadable) : node.isPassable := by
  cases node with
  | element name attributes children =>
    rw [isReadable, Bool.and_eq_true, allReadable_nodes_iff] at h
    rw [isPassable, h.1, Bool.true_and]
    split
    · next inner attributes content rest found =>
      have mem : Node.element inner attributes content ∈ children :=
        (List.dropWhile_suffix _).subset (found ▸ List.mem_cons_self)
      have readable := h.2 _ mem
      rw [isReadable, Bool.and_eq_true] at readable
      exact readable.1
    · rfl
  | text raw => exact h
  | cdata content => exact h
  | documentType => exact h

namespace Written

mutual

theorem Readable.allReadable : ∀ {piece : Written}, piece.WellFormed →
    piece.Readable prefixOfNamespace? → Design.allReadable piece.node?.toList
  | element tag content endSpace, h, readable => by
    rw [WellFormed] at h
    rw [Readable] at readable
    have inside := AllReadable.allReadable h.2.1 readable.2
    simp [node?, Design.allReadable, Node.isReadable, inside,
      WrittenTag.bindsNamespaces_of_bindsWell h.1 readable.1]
  | empty tag, h, readable => by
    rw [WellFormed] at h
    rw [Readable] at readable
    simp [node?, Design.allReadable, Node.isReadable,
      WrittenTag.bindsNamespaces_of_bindsWell h readable]
  | text raw, _, readable => by
    rw [Readable] at readable
    obtain ⟨text, denotes⟩ := readable
    simp [node?, Design.allReadable, Node.isReadable, unescape?_of_denotes denotes]
  | cdata content, _, _ => by simp [node?, Design.allReadable, Node.isReadable]
  | comment content, _, _ => by simp [node?, Design.allReadable]
  | instruction content, _, _ => by simp [node?, Design.allReadable]

theorem AllReadable.allReadable : ∀ {pieces : List Written}, AllWellFormed pieces →
    AllReadable prefixOfNamespace? pieces → Design.allReadable (nodes pieces)
  | [], _, _ => by simp [nodes, Design.allReadable]
  | piece :: pieces, h, readable => by
    rw [AllWellFormed] at h
    rw [AllReadable] at readable
    rw [nodes, allReadable_append, Readable.allReadable h.1 readable.1,
      AllReadable.allReadable h.2.2 readable.2, Bool.and_true]

end

theorem IsElement.isReadable {piece : Written} {tag : WrittenTag} {content : List Written}
    (isElement : piece.IsElement tag content) (piece_ok : piece.WellFormed)
    (readable : piece.Readable prefixOfNamespace?) :
    (Node.element tag.name tag.inner (nodes content)).isReadable := by
  have all := Readable.allReadable piece_ok readable
  rw [isElement.node?_eq] at all
  simpa [Design.allReadable] using all

theorem exists_isElement_of_node? {piece : Written} {name attributes : List Char}
    {children : List Node} (h : piece.node? = some (.element name attributes children)) :
    ∃ tag content, piece.IsElement tag content ∧ name = tag.name ∧ attributes = tag.inner ∧
      children = nodes content := by
  cases piece with
  | element tag content endSpace =>
    simp only [node?, Option.some.injEq, Node.element.injEq] at h
    exact ⟨tag, content, .inr ⟨endSpace, rfl⟩, h.1.symm, h.2.1.symm, h.2.2.symm⟩
  | empty tag =>
    simp only [node?, Option.some.injEq, Node.element.injEq] at h
    exact ⟨tag, [], .inl ⟨rfl, rfl⟩, h.1.symm, h.2.1.symm, by simp [nodes, h.2.2]⟩
  | text raw => simp [node?] at h
  | cdata raw => simp [node?] at h
  | comment raw => simp [node?] at h
  | instruction raw => simp [node?] at h

theorem exists_of_mem_nodes {pieces : List Written} {node : Node} (h : node ∈ nodes pieces) :
    ∃ piece ∈ pieces, piece.node? = some node := by
  induction pieces with
  | nil => simp [nodes] at h
  | cons piece pieces ih =>
    rw [nodes, List.mem_append, Option.mem_toList] at h
    rcases h with here | later
    · exact ⟨piece, List.mem_cons_self, here⟩
    · obtain ⟨other, mem, other_eq⟩ := ih later
      exact ⟨other, List.mem_cons_of_mem piece mem, other_eq⟩

end Written

theorem mem_of_mem_localName {name : List Char} {c : Char} (h : c ∈ localName name) : c ∈ name := by
  unfold localName at h
  split at h
  · next before rest found =>
    obtain ⟨rfl, -⟩ := Text.splitOnce_eq_some_iff.1 found
    exact List.mem_append_right before (List.mem_cons_of_mem ':' h)
  · exact h

/-- An `@` is part of no name, so no element stands for an attribute. -/
theorem localName_ne_attributeTag {name : List Char} (h : IsName name) (key : String) :
    localName name ≠ attributeTag key := by
  intro same
  have char := h.chars '@' (mem_of_mem_localName (by simp [same, attributeTag]))
  simp [isNameChar] at char

open Written

section

variable {pieces : List Written} (pieces_ok : AllWellFormed pieces)

include pieces_ok

theorem isName_of_mem_nodes {name attributes : List Char} {children : List Node}
    (mem : .element name attributes children ∈ nodes pieces) : IsName name := by
  obtain ⟨piece, piece_mem, node_eq⟩ := exists_of_mem_nodes mem
  obtain ⟨tag, content, isElement, rfl, -⟩ := exists_isElement_of_node? node_eq
  exact (isElement.wellFormed (pieces_ok.forall piece piece_mem)).1.name

/-- Readable pieces are settled whatever attributes are asked for. -/
theorem isSettled_of_mem_nodes (readable : ∀ piece ∈ pieces, piece.Readable prefixOfNamespace?)
    {node : Node} (mem : node ∈ nodes pieces) (keys : List String) : isSettled keys node := by
  have all := AllReadable.allReadable pieces_ok (allReadable_iff.2 readable)
  have passable := Node.isPassable_of_isReadable (allReadable_nodes_iff.1 all node mem)
  cases node with
  | element name attributes children =>
    have not_key : ¬ keys.any fun key => localName name = attributeTag key := by
      simp [localName_ne_attributeTag (isName_of_mem_nodes pieces_ok mem)]
    rw [isSettled, if_neg not_key]
    exact passable
  | text raw => exact passable
  | cdata content => exact passable
  | documentType => exact passable

end

/-! ## Texts -/

theorem filter_eq_singleton_of_nodup {pairs : List (List Char × List Char)}
    (distinct : (pairs.map (·.1)).Nodup) {key value : List Char} (mem : (key, value) ∈ pairs) :
    (pairs.filter fun pair => pair.1 == key) = [(key, value)] := by
  induction pairs with
  | nil => simp at mem
  | cons pair pairs ih =>
    rw [List.map_cons, List.nodup_cons] at distinct
    rcases List.mem_cons.1 mem with rfl | later
    · have others : ∀ p ∈ pairs, ¬ (p.1 == key) := fun p hp same =>
        distinct.1 (List.mem_map.2 ⟨p, hp, beq_iff_eq.1 same⟩)
      simp [List.filter_eq_nil_iff.2 others]
    · have other : ¬ (pair.1 == key) := fun same =>
        distinct.1 (List.mem_map.2 ⟨(key, value), later, (beq_iff_eq.1 same).symm⟩)
      rw [List.filter_cons, if_neg other, ih distinct.2 later]

/-- A name without a prefix declares a namespace only if it is the one word for that. -/
theorem not_isNamespaceDeclaration {key : String} (field : IsFieldName key) :
    ¬ isNamespaceDeclaration key.toList := by
  have whole : key.toList.takeWhile (· ≠ ':') = key.toList :=
    List.takeWhile_eq_self_iff.2 fun c mem =>
      decide_eq_true (ne_of_mem_of_not_mem mem field.unprefixed)
  rw [isNamespaceDeclaration, whole, beq_iff_eq, String.toList_inj]
  exact field.ordinary

theorem filter_pairs {t : WrittenTag} (plain : t.Plain) {key : String} (field : IsFieldName key) :
    (t.pairs.filter fun (name, _) =>
      !isNamespaceDeclaration name && localName name == key.toList) =
        t.pairs.filter fun pair => pair.1 == key.toList := by
  refine List.filter_congr fun pair hp => ?_
  simp only [localName_of_unprefixed (plain.unprefixed pair hp)]
  by_cases same : pair.1 = key.toList
  · simp [same, not_isNamespaceDeclaration field]
  · simp [same]

/-- A text is what its attribute says, whatever else the element holds. -/
theorem fieldValue?_of_tells {t : WrittenTag} (plain : t.Plain) {key : String}
    (field : IsFieldName key) {default : Option String} {value : String}
    (tells : t.Tells key default value) {content : List Written}
    (content_ok : AllWellFormed content) :
    fieldValue? key default t.pairs (nodes content) = some value := by
  simp only [fieldValue?, filter_pairs plain field]
  rw [List.filterMap_eq_nil_iff.2 ?none_nested]
  · rcases tells with ⟨-, raw, mem, -, denotes⟩ | ⟨absent, rfl⟩
    · rw [filter_eq_singleton_of_nodup plain.distinct mem]
      simp [unescape?_of_denotes denotes]
    · rw [List.filter_eq_nil_iff.2 fun pair mem same =>
        absent (List.mem_map.2 ⟨pair, mem, beq_iff_eq.1 same⟩)]
  case none_nested =>
    intro node mem
    cases node with
    | element name attributes children =>
      exact if_neg (localName_ne_attributeTag (isName_of_mem_nodes content_ok mem) key)
    | text raw => rfl
    | cdata raw => rfl
    | documentType => rfl

/-! ## Members -/

section Members

variable {α : Type} {name : List Char} {keys : List String}
  {read? : List (List Char × List Char) → List Node → Option α}

/-- Where all is settled it does not matter which attributes are asked for. -/
theorem membersFrom_keys {children : List Node}
    (settled : ∀ node ∈ children, ∀ keys, isSettled keys node) (first : Option (List Char)) :
    membersFrom name keys read? first children = membersFrom name [] read? first children := by
  induction children generalizing first with
  | nil => rfl
  | cons node rest ih =>
    rw [List.forall_mem_cons] at settled
    have others := ih settled.2
    cases node with
    | element tag attributes inside =>
      simp only [membersFrom, others, settled.1]
    | text raw => simp only [membersFrom, others]
    | cdata content => simp only [membersFrom, others]
    | documentType => simp only [membersFrom, others]

/-- The tag of a member is sound, and the member is read as a record. -/
def ReadsAs (read? : List (List Char × List Char) → List Node → Option α) (piece : Written)
    (record : α) : Prop :=
  ∃ tag content attributes, piece.IsElement tag content ∧ bindsNamespaces tag.inner ∧
    attributes? tag.inner = some attributes ∧ read? attributes (nodes content) = some record

/-- A piece that is no member is passed over. -/
theorem membersFrom_gap {piece : Written} (piece_ok : piece.WellFormed)
    (readable : piece.Readable prefixOfNamespace?)
    (settled : ∀ node ∈ piece.node?, ∀ keys, isSettled keys node)
    (element : piece.isMisc ∨ ∃ tag content, piece.IsElement tag content)
    (other : ¬ piece.hasLocalName name) (first : Option (List Char)) (rest : List Node) :
    membersFrom name keys read? first (piece.node?.toList ++ rest) =
      membersFrom name keys read? first rest := by
  rcases element with misc | ⟨tag, content, isElement⟩
  · rcases exists_of_isMisc misc with ⟨raw, rfl, spaces⟩ | ⟨content, rfl⟩ | ⟨content, rfl⟩
    · simp [node?, membersFrom, Node.isBlank, spaces]
    · rfl
    · rfl
  · rw [isElement.hasLocalName_iff] at other
    have node_settled := settled _ isElement.node?_eq keys
    rw [isElement.node?_eq, Option.toList_some, List.singleton_append]
    simp only [membersFrom, if_neg other]
    cases first with
    | none => exact if_pos node_settled
    | some tag => exact if_pos (isElement.isReadable piece_ok readable)

/-- A list written as elements among others is read member by member. -/
theorem membersFrom_eq (keys : List String) (unprefixed : localName name = name)
    {pieces : List Written} (pieces_ok : AllWellFormed pieces)
    (readable : ∀ piece ∈ pieces, piece.Readable prefixOfNamespace?)
    (elements : ∀ piece ∈ pieces, piece.isMisc ∨ ∃ tag content, piece.IsElement tag content)
    (named : ∀ piece ∈ pieces.filter (·.hasLocalName name), piece.tag?.map (·.name) = some name)
    {records : List α}
    (reads : List.Forall₂ (ReadsAs read?) (pieces.filter (·.hasLocalName name)) records)
    (first : Option (List Char)) (same : first.all (· = name)) :
    membersFrom name keys read? first (nodes pieces) = some records := by
  -- from the first member on, the reader holds the name that the others must have
  induction pieces generalizing records first with
  | nil =>
    cases reads
    simp [nodes, membersFrom]
  | cons piece pieces ih =>
    have settled : ∀ node ∈ piece.node?, ∀ keys, isSettled keys node := fun node mem =>
      isSettled_of_mem_nodes pieces_ok readable
        (by rw [nodes, List.mem_append, Option.mem_toList]; exact .inl mem)
    rw [AllWellFormed] at pieces_ok
    rw [List.forall_mem_cons] at readable elements
    have others := @ih pieces_ok.2.2 readable.2 elements.2
    rw [nodes]
    by_cases member : piece.hasLocalName name
    · rw [List.filter_cons_of_pos (by exact member)] at named reads
      rw [List.forall_mem_cons] at named
      obtain ⟨record, records, ⟨tag, content, attributes, isElement, binds, read_tag, read⟩, behind,
        rfl⟩ := List.forall₂_cons_left_iff.1 reads
      have tag_eq : tag.name = name := by
        have := named.1
        rw [isElement.tag?_eq, Option.map_some, Option.some.injEq] at this
        exact this
      have rest_read := others named.2 behind (some name) (by simp)
      rw [isElement.node?_eq, Option.toList_some, List.singleton_append]
      simp only [membersFrom, tag_eq, if_pos unprefixed, binds, same, read_tag]
      simp [read, rest_read]
    · rw [List.filter_cons_of_neg (by exact member)] at named reads
      rw [membersFrom_gap pieces_ok.1 readable.1 settled elements.1 member]
      exact others named reads first same

end Members

/-! ## Records -/

theorem fields?_keys {α : Type} (schema : Schema α) {attributes : List (List Char × List Char)}
    {children : List Node} (settled : ∀ node ∈ children, ∀ keys, isSettled keys node)
    (keys : List String) :
    schema.fields? keys attributes children = schema.fields? [] attributes children := by
  induction schema with
  | done record => rfl
  | text before key default ih => simp only [Schema.fields?, ih]
  | members before name member ih _ => simp only [Schema.fields?, ih, membersFrom_keys settled]

theorem ofElement?_eq {α : Type} (schema : Schema α) {attributes : List (List Char × List Char)}
    {children : List Node} (settled : ∀ node ∈ children, ∀ keys, isSettled keys node) :
    schema.ofElement? attributes children = schema.fields? [] attributes children := by
  have settles : schema.settles children := by
    rw [Schema.settles, Bool.or_eq_true, List.all_eq_true]
    exact .inr fun node mem => settled node mem _
  rw [Schema.ofElement?, if_pos settles, fields?_keys schema settled]

theorem ofRoot?_eq_some_iff {α : Type} {schema : Schema α} {name attributes : List Char}
    {children : List Node} {record : α} :
    schema.ofRoot? (.element name attributes children) = some record ↔
      ∃ pairs, attributes? attributes = some pairs ∧ bindsNamespaces attributes ∧
        schema.ofElement? pairs children = some record := by
  simp only [Schema.ofRoot?, bind, Option.bind_eq_some_iff]
  constructor
  · rintro ⟨pairs, read_tag, found, read, result⟩
    split at result
    · next binds =>
      cases result
      exact ⟨pairs, read_tag, binds, read⟩
    · cases result
  · rintro ⟨pairs, read_tag, binds, read⟩
    exact ⟨pairs, read_tag, record, read, if_pos binds⟩

section

variable {α : Type} {document : String} {root : Written} {tag : WrittenTag} {content : List Written}

theorem read?_of_hasRoot (h : HasRoot document root) (isElement : root.IsElement tag content)
    (schema : Schema α) : markup.read? schema document =
      schema.ofRoot? (.element tag.name tag.inner (nodes content)) := by
  obtain ⟨mark, before, after, rfl, isMark, before_ok, -, misc, root_ok⟩ := h
  have before_misc : ∀ piece ∈ before, piece.isMisc := fun piece mem =>
    misc piece (List.mem_append_left after mem)
  show (Node.parse? _).bind schema.ofRoot? = _
  rw [parse?_of_written isMark before_ok before_misc root_ok isElement, Option.bind_some]

/-- A document is read from what its root says and holds. -/
theorem read?_of_isDocument (h : IsDocument markup.reservedFor? document tag content)
    (schema : Schema α) :
    markup.read? schema document = schema.fields? [] tag.pairs (nodes content) := by
  obtain ⟨root, hasRoot, record⟩ := h
  obtain ⟨tag_ok, content_ok⟩ := record.isElement.wellFormed hasRoot.wellFormed
  obtain ⟨binds, readable⟩ := record.isElement.readable_iff.1 record.readable
  have settled {node : Node} (mem : node ∈ nodes content) (keys : List String) :
      isSettled keys node := isSettled_of_mem_nodes content_ok readable mem keys
  rw [read?_of_hasRoot hasRoot record.isElement]
  refine Option.ext fun result => ?_
  rw [ofRoot?_eq_some_iff, ← ofElement?_eq schema fun node mem => settled mem]
  constructor
  · rintro ⟨pairs, read_tag, -, read⟩
    rw [WrittenTag.attributes?_inner tag_ok record.plain.distinct] at read_tag
    exact Option.some.inj read_tag ▸ read
  · exact fun read => ⟨_, WrittenTag.attributes?_inner tag_ok record.plain.distinct,
      WrittenTag.bindsNamespaces_of_bindsWell tag_ok binds, read⟩

/-- An element inside a document is read as it would be by itself. -/
theorem readsAs_of_read? (isElement : root.IsElement tag content) (root_ok : root.WellFormed)
    {member : Schema α} {record : α}
    (read : markup.read? member (String.ofList root.chars) = some record) :
    ReadsAs member.ofElement? root record := by
  rw [read?_of_hasRoot (hasRoot_chars root_ok) isElement, ofRoot?_eq_some_iff] at read
  obtain ⟨pairs, read_tag, binds, read⟩ := read
  exact ⟨tag, content, pairs, isElement, binds, read_tag, read⟩

end

theorem markup_readsDocuments : markup.ReadsDocuments where
  done record _ _ _ isDocument := by
    rw [read?_of_isDocument isDocument]
    rfl
  text {α before f key default value document tag content} isDocument field _ tells read := by
    rw [read?_of_isDocument isDocument] at read ⊢
    obtain ⟨root, hasRoot, record⟩ := isDocument
    have content_ok := (record.isElement.wellFormed hasRoot.wellFormed).2
    rw [Schema.fields?, read, fieldValue?_of_tells record.plain field tells content_ok]
    rfl
  members {α β before f name member records document tag content} isDocument field _ named reads
      read := by
    rw [read?_of_isDocument isDocument] at read ⊢
    obtain ⟨root, hasRoot, record⟩ := isDocument
    have content_ok := (record.isElement.wellFormed hasRoot.wellFormed).2
    have readable := (record.isElement.readable_iff.1 record.readable).2
    have each : List.Forall₂ (ReadsAs member.ofElement?)
        (content.filter (·.hasLocalName name.toList)) records := by
      have members_ok : ∀ piece ∈ content.filter (·.hasLocalName name.toList),
          piece.WellFormed ∧ ∃ tag content, piece.IsElement tag content := by
        intro piece mem
        obtain ⟨piece_mem, local_name⟩ := List.mem_filter.1 mem
        exact ⟨content_ok.forall piece piece_mem, (record.elements piece piece_mem).resolve_left
          fun misc => not_hasLocalName_of_isMisc misc _ local_name⟩
      refine ((List.forall₂_and_left _ _).2 ⟨members_ok, reads⟩).imp ?_
      rintro piece x ⟨⟨piece_ok, inner, inside, isElement⟩, read_one⟩
      exact readsAs_of_read? isElement piece_ok read_one
    have all := membersFrom_eq [] (localName_of_unprefixed field.unprefixed) content_ok readable
      record.elements named each none rfl
    rw [Schema.fields?, read]
    show (membersFrom _ _ member.ofElement? _ _).bind _ = _
    rw [all]
    rfl

end BareMetal.Design
