import BareMetal.Proofs.Design.Written
import BareMetal.Proofs.Text.Lines

/-!
# Written markup read piece by piece

Each piece of written markup is read as the item that it is, whatever follows it, and the text of a
whole document as the tree of its root (`parse?_of_written`).  What a tag holds is passed over up to
its end, as quotes come in pairs there (`Passes`); a comment ends at the first mark that ends one
(`cutAt_append`).
-/

namespace BareMetal.Design

/-! ## Marks that end a piece -/

namespace Item

theorem cutAt_of_prefix {mark passed rest : List Char} (h : mark ≠ []) :
    cutAt mark passed (mark ++ rest) = some (passed.reverse, rest) := by
  obtain ⟨m, ms, rfl⟩ := List.exists_cons_of_ne_nil h
  have found := Text.dropPrefix?_append (m :: ms) rest
  rw [List.cons_append] at found ⊢
  rw [cutAt, found]

/-- A mark whose last character stands nowhere else in it cannot begin before its own text and end
in it. -/
theorem dropPrefix?_before_mark {start : List Char} {last : Char} (single : last ∉ start)
    {c : Char} {content : List Char} (absent : ¬ start ++ [last] <:+: c :: content)
    (rest : List Char) :
    Text.dropPrefix? (start ++ [last]) (c :: content ++ (start ++ [last]) ++ rest) = none := by
  rw [Option.eq_none_iff_forall_ne_some]
  intro after found
  rw [Text.dropPrefix?_eq_some_iff, List.append_assoc, List.append_eq_append_iff] at found
  rcases found with ⟨overlap, mark_eq, rest_eq⟩ | ⟨behind, content_eq, -⟩
  -- the mark found ends inside the one written, so its last character stands in that one's start
  · rcases List.eq_nil_or_concat overlap with rfl | ⟨before, b, rfl⟩
    · exact absent ⟨[], [], by simpa using mark_eq⟩
    · rw [List.concat_eq_append, ← List.append_assoc] at mark_eq
      obtain ⟨start_eq, last_eq⟩ := List.append_inj' mark_eq rfl
      have short : before.length < start.length := by
        rw [start_eq, List.length_append, List.length_cons]
        omega
      have at_before := congrArg (·[before.length]?) rest_eq
      simp only [List.concat_eq_append, List.append_assoc, List.getElem?_append_left short,
        List.getElem?_append_right (Nat.le_refl before.length), Nat.sub_self, List.singleton_append,
        List.getElem?_cons_zero] at at_before
      exact single (List.singleton_inj.1 last_eq ▸ List.mem_of_getElem? at_before)
  · exact absent (content_eq ▸ (List.prefix_append _ _).isInfix)

theorem cutAt_append (start : List Char) (last : Char) (single : last ∉ start)
    {content : List Char} (absent : ¬ start ++ [last] <:+: content) (passed rest : List Char) :
    cutAt (start ++ [last]) passed (content ++ (start ++ [last]) ++ rest) =
      some (passed.reverse ++ content, rest) := by
  induction content generalizing passed with
  | nil => rw [List.nil_append, cutAt_of_prefix (by simp), List.append_nil]
  | cons c content ih =>
    have none_here := dropPrefix?_before_mark single absent rest
    have absent' : ¬ start ++ [last] <:+: content := fun inside =>
      absent (inside.trans (List.suffix_cons c content).isInfix)
    have step := ih absent' (c :: passed)
    rw [List.cons_append, List.cons_append] at none_here ⊢
    rw [cutAt, none_here, step, List.reverse_cons, List.append_assoc, List.singleton_append]

/-! ## Insides of tags -/

/-- The reader of a tag gets past some characters, and is in no quotes behind them. -/
def Passes (cs : List Char) : Prop :=
  ∀ passed rest, cutTag none passed (cs ++ rest) = cutTag none (cs.reverse ++ passed) rest

namespace Passes

theorem nil : Passes [] := fun _ _ => rfl

theorem append {cs ds : List Char} (hc : Passes cs) (hd : Passes ds) : Passes (cs ++ ds) := by
  intro passed rest
  rw [List.append_assoc, hc, hd, List.reverse_append, List.append_assoc]

theorem flatMap {α : Type} {f : α → List Char} {xs : List α} (h : ∀ x ∈ xs, Passes (f x)) :
    Passes (xs.flatMap f) := by
  induction xs with
  | nil => exact nil
  | cons x xs ih =>
    exact (h x List.mem_cons_self).append (ih fun y hy => h y (List.mem_cons_of_mem x hy))

theorem singleton {c : Char} (h : c ∉ ['>', '"', '\'']) : Passes [c] := by
  intro passed rest
  simp only [List.mem_cons, List.not_mem_nil, or_false, not_or] at h
  simp [cutTag, h]

theorem of_forall {cs : List Char} (h : ∀ c ∈ cs, c ∉ ['>', '"', '\'']) : Passes cs := by
  have pieces := flatMap (f := fun c => [c]) fun c hc => singleton (h c hc)
  simpa using pieces

theorem inQuotes {quote : Char} {value : List Char} (h : quote ∉ value) (passed rest : List Char) :
    cutTag (some quote) passed (value ++ quote :: rest) =
      cutTag none (quote :: value.reverse ++ passed) rest := by
  induction value generalizing passed with
  | nil => simp [cutTag]
  | cons c value ih =>
    rw [List.mem_cons, not_or] at h
    obtain ⟨other, absent⟩ := h
    rw [List.cons_append, cutTag, if_neg (Ne.symm other), ih absent]
    simp

theorem quoted {quote : Char} {value : List Char} (isQuote : quote = '"' ∨ quote = '\'')
    (h : quote ∉ value) : Passes (quote :: value ++ [quote]) := by
  intro passed rest
  have open_quote : quote ≠ '>' := by rcases isQuote with rfl | rfl <;> decide
  rw [List.append_assoc, List.cons_append, cutTag, if_neg open_quote, if_pos isQuote,
    List.singleton_append, inQuotes h]
  simp

theorem spaces {cs : List Char} (h : IsSpaces cs) : Passes cs := by
  refine of_forall fun c hc => ?_
  have space := h c hc
  rintro quote
  simp only [List.mem_cons, List.not_mem_nil, or_false] at quote
  rcases quote with rfl | rfl | rfl <;> simp [isSpace] at space

theorem name {cs : List Char} (h : IsName cs) : Passes cs := by
  refine of_forall fun c hc => ?_
  have char := h.chars c hc
  rintro quote
  simp only [List.mem_cons, List.not_mem_nil, or_false] at quote
  rcases quote with rfl | rfl | rfl <;> simp [isNameChar] at char

theorem cutTag_eq {inside : List Char} (h : Passes inside) (rest : List Char) :
    cutTag none [] (inside ++ '>' :: rest) = some (inside, rest) := by
  rw [h]
  simp [cutTag]

end Passes

theorem passes_chars {a : WrittenAttribute} (h : a.WellFormed) : Passes a.chars := by
  have equals : Passes ['='] := Passes.singleton (by decide)
  have pieces := ((((Passes.spaces h.lead).append (.name h.name)).append
    (.spaces h.beforeEquals)).append equals).append ((Passes.spaces h.afterEquals).append
      (.quoted h.quote h.value))
  simpa [WrittenAttribute.chars] using pieces

theorem passes_tag {t : WrittenTag} (h : t.WellFormed) : Passes (t.name ++ t.inner) :=
  (Passes.name h.name).append
    ((Passes.flatMap fun a ha => passes_chars (h.attributes a ha)).append (.spaces h.space))

end Item

namespace WrittenTag

/-- Behind the name of a tag stands white space, if anything. -/
theorem head?_inner {t : WrittenTag} (h : t.WellFormed) : t.inner.head?.all isSpace := by
  cases attributes_eq : t.attributes with
  | nil =>
    cases space_eq : t.space with
    | nil => simp [inner, attributes_eq, space_eq]
    | cons c cs => simp [inner, attributes_eq, space_eq, h.space c (by simp [space_eq])]
  | cons a as =>
    have wellFormed := h.attributes a (by simp [attributes_eq])
    obtain ⟨c, cs, lead_eq⟩ := List.exists_cons_of_ne_nil wellFormed.lead_ne_nil
    simp [inner, attributes_eq, WrittenAttribute.chars, lead_eq,
      wellFormed.lead c (by simp [lead_eq])]

/-- The last character in a tag is white space, a quote, or the last one of its name. -/
theorem exists_concat {t : WrittenTag} (h : t.WellFormed) :
    ∃ before last, t.name ++ t.inner = before ++ [last] ∧ last ≠ '/' := by
  rcases List.eq_nil_or_concat t.space with space_eq | ⟨cs, c, space_eq⟩
  · rcases List.eq_nil_or_concat t.attributes with attributes_eq | ⟨as, a, attributes_eq⟩
    · obtain ⟨before, last, name_eq⟩ := (List.eq_nil_or_concat t.name).resolve_left h.name.ne_nil
      refine ⟨before, last, by simp [inner, attributes_eq, space_eq, name_eq], ?_⟩
      have char := h.name.chars last (by simp [name_eq])
      rintro rfl
      simp [isNameChar] at char
    · refine ⟨t.name ++ as.flatMap WrittenAttribute.chars ++ (a.lead ++ a.name ++ a.beforeEquals ++
        '=' :: a.afterEquals ++ a.quote :: a.value), a.quote, ?_, ?_⟩
      · simp [inner, attributes_eq, space_eq, WrittenAttribute.chars]
      · rcases (h.attributes a (by simp [attributes_eq])).quote with quote_eq | quote_eq <;>
          simp [quote_eq]
  · refine ⟨t.name ++ t.attributes.flatMap WrittenAttribute.chars ++ cs, c, ?_, ?_⟩
    · simp [inner, space_eq]
    · have space := h.space c (by simp [space_eq])
      rintro rfl
      simp [isSpace] at space

theorem getLast?_ne_slash {t : WrittenTag} (h : t.WellFormed) :
    (t.name ++ t.inner).getLast? ≠ some '/' := by
  obtain ⟨before, last, tag_eq, other⟩ := exists_concat h
  simpa [tag_eq] using other

end WrittenTag

theorem not_isSpace_of_isNameChar {c : Char} (h : isNameChar c) : !isSpace c := by
  simp only [isNameChar, Bool.and_eq_true] at h
  exact h.1

theorem takeWhile_name {name rest : List Char} (hn : IsName name)
    (hr : rest.head?.all isSpace) : (name ++ rest).takeWhile (!isSpace ·) = name := by
  rw [List.takeWhile_append_of_pos fun c hc => not_isSpace_of_isNameChar (hn.chars c hc)]
  cases rest with
  | nil => simp
  | cons c cs => simp_all

theorem dropWhile_name {name rest : List Char} (hn : IsName name)
    (hr : rest.head?.all isSpace) : (name ++ rest).dropWhile (!isSpace ·) = rest := by
  rw [List.dropWhile_append_of_pos fun c hc => not_isSpace_of_isNameChar (hn.chars c hc)]
  cases rest with
  | nil => simp
  | cons c cs => simp_all

theorem IsName.exists_cons {name : List Char} (h : IsName name) :
    ∃ c cs, name = c :: cs ∧ isNameChar c := by
  obtain ⟨c, cs, rfl⟩ := List.exists_cons_of_ne_nil h.ne_nil
  exact ⟨c, cs, rfl, h.chars c List.mem_cons_self⟩

namespace Item

/-! ## Items -/

theorem ofTag_of_isNameChar {c : Char} (h : isNameChar c) (cs : List Char) :
    ofTag (c :: cs) =
      let closed := Text.dropSuffix? ['/'] (c :: cs)
      let content := closed.getD (c :: cs)
      opening (content.takeWhile (!isSpace ·)) (content.dropWhile (!isSpace ·)) closed.isSome := by
  rw [ofTag]
  rintro inside ⟨⟩
  simp [isNameChar] at h

theorem ofTag_opening {t : WrittenTag} (h : t.WellFormed) :
    ofTag (t.name ++ t.inner) = opening t.name t.inner false := by
  obtain ⟨c, cs, name_eq, char⟩ := h.name.exists_cons
  have not_closed := Text.dropSuffix?_of_getLast? (WrittenTag.getLast?_ne_slash h)
  have behind := WrittenTag.head?_inner h
  have item := ofTag_of_isNameChar char (cs ++ t.inner)
  rw [← List.cons_append, ← name_eq, not_closed] at item
  simpa only [Option.getD_none, Option.isSome_none, takeWhile_name h.name behind,
    dropWhile_name h.name behind] using item

theorem ofTag_closed {t : WrittenTag} (h : t.WellFormed) :
    ofTag (t.name ++ t.inner ++ ['/']) = opening t.name t.inner true := by
  obtain ⟨c, cs, name_eq, char⟩ := h.name.exists_cons
  have behind := WrittenTag.head?_inner h
  have item := ofTag_of_isNameChar char (cs ++ t.inner ++ ['/'])
  rw [← List.cons_append, ← List.cons_append, ← name_eq, Text.dropSuffix?_concat] at item
  simpa only [Option.getD_some, Option.isSome_some, takeWhile_name h.name behind,
    dropWhile_name h.name behind] using item

theorem ofTag_closing {name space : List Char} (hn : IsName name) (hs : IsSpaces space) :
    ofTag ('/' :: name ++ space) = closing name := by
  obtain ⟨c, cs, name_eq, char⟩ := hn.exists_cons
  have not_blank : ¬ (name ++ space).all isSpace := by
    have first := not_isSpace_of_isNameChar char
    simp_all
  have last : name.reverse.dropWhile isSpace = name.reverse := by
    obtain ⟨before, b, name_eq⟩ := (List.eq_nil_or_concat name).resolve_left hn.ne_nil
    have char := not_isSpace_of_isNameChar (hn.chars b (by simp [name_eq]))
    rw [Bool.not_eq_true'] at char
    rw [name_eq, List.concat_eq_append, List.reverse_concat, List.dropWhile_cons, char,
      if_neg Bool.false_ne_true]
  rw [List.cons_append, ofTag, closingName, if_neg not_blank, List.reverse_append,
    List.dropWhile_append_of_pos fun c hc => hs c (List.mem_reverse.1 hc), last,
    List.reverse_reverse]

/-- Markup that starts neither with `!` nor with `?` is a tag. -/
theorem read?_tag {c : Char} {cs : List Char} (passes : Passes (c :: cs)) (declaration : c ≠ '!')
    (instruction : c ≠ '?') (rest : List Char) :
    read? ('<' :: c :: cs ++ '>' :: rest) = some (ofTag (c :: cs), rest) := by
  have cut := passes.cutTag_eq rest
  rw [List.cons_append] at cut
  rw [List.cons_append, List.cons_append, read?, readMarkup, cut]
  · rfl
  all_goals simp_all

theorem read?_name {c : Char} {cs : List Char} (passes : Passes (c :: cs)) (char : isNameChar c)
    (rest : List Char) : read? ('<' :: c :: cs ++ '>' :: rest) = some (ofTag (c :: cs), rest) :=
  read?_tag passes (by rintro rfl; simp [isNameChar] at char)
    (by rintro rfl; simp [isNameChar] at char) rest

theorem read?_opening {t : WrittenTag} (h : t.WellFormed) (rest : List Char) :
    read? ('<' :: t.name ++ t.inner ++ '>' :: rest) =
      some (opening t.name t.inner false, rest) := by
  obtain ⟨c, cs, name_eq, char⟩ := h.name.exists_cons
  have tag := passes_tag h
  rw [← ofTag_opening h]
  rw [name_eq] at tag ⊢
  exact read?_name tag char rest

theorem read?_closed {t : WrittenTag} (h : t.WellFormed) (rest : List Char) :
    read? ('<' :: t.name ++ t.inner ++ ['/', '>'] ++ rest) =
      some (opening t.name t.inner true, rest) := by
  obtain ⟨c, cs, name_eq, char⟩ := h.name.exists_cons
  have tag := (passes_tag h).append (Passes.singleton (c := '/') (by decide))
  rw [← ofTag_closed h]
  rw [name_eq] at tag ⊢
  simpa using read?_name tag char rest

theorem read?_closing {name space : List Char} (hn : IsName name) (hs : IsSpaces space)
    (rest : List Char) :
    read? ('<' :: '/' :: name ++ space ++ '>' :: rest) = some (closing name, rest) := by
  have tag := ((Passes.singleton (c := '/') (by decide)).append (.name hn)).append (.spaces hs)
  rw [← ofTag_closing hn hs]
  exact read?_tag tag (by decide) (by decide) rest

theorem read?_text {raw rest : List Char} (ne_nil : raw ≠ []) (absent : '<' ∉ raw)
    (next : rest.head? = some '<') : read? (raw ++ rest) = some (text raw, rest) := by
  obtain ⟨c, cs, rfl⟩ := List.exists_cons_of_ne_nil ne_nil
  obtain ⟨after, rfl⟩ := List.head?_eq_some_iff.1 next
  have inside : ∀ b ∈ cs, decide (b ≠ '<') := fun b hb =>
    decide_eq_true (by rintro rfl; exact absent (List.mem_cons_of_mem c hb))
  rw [List.cons_append, read?, List.takeWhile_append_of_pos inside,
    List.dropWhile_append_of_pos inside]
  · simp
  · rintro rfl
    exact absent List.mem_cons_self

theorem read?_comment {content : List Char} (absent : ¬ "-->".toList <:+: content)
    (rest : List Char) :
    read? (between "<!--" content "-->" ++ rest) = some (skipped, rest) := by
  have cut := cutAt_append ['-', '-'] '>' (by decide) absent [] rest
  simp_all [between, read?, readMarkup, readDeclaration, Text.dropPrefix?]

theorem read?_cdata {content : List Char} (absent : ¬ "]]>".toList <:+: content)
    (rest : List Char) :
    read? (between "<![CDATA[" content "]]>" ++ rest) = some (cdata content, rest) := by
  have cut := cutAt_append [']', ']'] '>' (by decide) absent [] rest
  simp_all [between, read?, readMarkup, readDeclaration, Text.dropPrefix?]

theorem read?_instruction {content : List Char} (head : content.head?.any isNameChar)
    (absent : ¬ "?>".toList <:+: content) (rest : List Char) :
    read? (between "<?" content "?>" ++ rest) = some (skipped, rest) := by
  have cut := cutAt_append ['?'] '>' (by decide) absent [] rest
  obtain ⟨c, cs, rfl⟩ : ∃ c cs, content = c :: cs := by
    cases content with
    | nil => simp at head
    | cons c cs => exact ⟨c, cs, rfl⟩
  have not_end : c ≠ '>' := by
    rintro rfl
    simp [isNameChar] at head
  simp_all [between, read?, readMarkup]

end Item

/-! ## Trees -/

namespace Written

mutual

/-- The node that a piece stands for; comments and instructions are none. -/
def node? : Written → Option Node
  | element tag content _ => some (.element tag.name tag.inner (nodes content))
  | empty tag => some (.element tag.name tag.inner [])
  | text raw => some (.text raw)
  | cdata content => some (.cdata content)
  | comment _ | instruction _ => none

/-- The nodes that some pieces stand for. -/
def nodes : List Written → List Node
  | [] => []
  | piece :: rest => piece.node?.toList ++ nodes rest

end

theorem IsElement.node?_eq {piece : Written} {tag : WrittenTag} {content : List Written}
    (h : piece.IsElement tag content) :
    piece.node? = some (.element tag.name tag.inner (nodes content)) := by
  rcases h with ⟨rfl, rfl⟩ | ⟨endSpace, rfl⟩
  · simp only [node?, nodes]
  · simp only [node?]

end Written

namespace OpenElement

theorem foldl_add (nodes : List Node) (e : OpenElement) :
    nodes.foldl add e = { e with children := nodes.reverse ++ e.children } := by
  induction nodes generalizing e with
  | nil => rfl
  | cons node nodes ih => simp [ih, add]

theorem finish_foldl_add (name attributes : List Char) (nodes : List Node) :
    (nodes.foldl add ⟨name, attributes, []⟩).finish = .element name attributes nodes := by
  simp [foldl_add, finish]

end OpenElement

namespace Node

/-- What is done with an item, once it has been read. -/
theorem parseInside_of_read? {opened : List OpenElement} {cs rest : List Char} {item : Item}
    (h : Item.read? cs = some (item, rest)) :
    parseInside opened cs =
      match item, opened with
      | .skipped, _ => parseInside opened rest
      | .documentType, [] => parseInside [] rest
      | .documentType, top :: up => parseInside (top.add .documentType :: up) rest
      | .opening name attributes false, _ => parseInside (⟨name, attributes, []⟩ :: opened) rest
      | .opening name attributes true, [] => some (.element name attributes [])
      | .opening name attributes true, top :: up =>
        parseInside (top.add (.element name attributes []) :: up) rest
      | .text raw, [] => if raw.all isSpace then parseInside [] rest else none
      | .text raw, top :: up => parseInside (top.add (.text raw) :: up) rest
      | .cdata _, [] => none
      | .cdata content, top :: up => parseInside (top.add (.cdata content) :: up) rest
      | .closing _, [] => none
      | .closing name, [top] => if name = top.name then some top.finish else none
      | .closing name, top :: parent :: up =>
        if name = top.name then parseInside (parent.add top.finish :: up) rest else none := by
  rw [parseInside]
  split
  · simp_all
  · next item' rest' h' =>
    obtain ⟨rfl, rfl⟩ := Prod.mk.inj (Option.some.inj (h.symm.trans h'))
    rfl

end Node

namespace Written

theorem head?_chars {piece : Written} (h : ¬ piece.isText) (rest : List Char) :
    (piece.chars ++ rest).head? = some '<' := by
  cases piece with
  | text raw => exact absurd rfl h
  | element tag content endSpace => simp [chars]
  | empty tag => simp [chars]
  | cdata content => simp [chars, between]
  | comment content => simp [chars, between]
  | instruction content => simp [chars, between]

theorem head?_allChars {pieces : List Written} (h : ¬ pieces.head?.any isText) {rest : List Char}
    (next : rest.head? = some '<') : (allChars pieces ++ rest).head? = some '<' := by
  cases pieces with
  | nil => simpa [allChars] using next
  | cons piece pieces =>
    rw [allChars, List.append_assoc]
    exact head?_chars (by simpa using h) _

theorem chars_element_append (tag : WrittenTag) (content : List Written)
    (endSpace rest : List Char) :
    (element tag content endSpace).chars ++ rest = '<' :: tag.name ++ tag.inner ++
      '>' :: (allChars content ++ ('<' :: '/' :: tag.name ++ endSpace ++ '>' :: rest)) := by
  simp [chars]

mutual

/-- Inside an element a piece becomes its next child. -/
theorem parseInside_chars : ∀ {piece : Written}, piece.WellFormed →
    ∀ (top : OpenElement) (up : List OpenElement) {rest : List Char},
      (piece.isText → rest.head? = some '<') →
        Node.parseInside (top :: up) (piece.chars ++ rest) =
          Node.parseInside (piece.node?.toList.foldl OpenElement.add top :: up) rest
  | element tag content endSpace, h, top, up, rest, _ => by
    rw [WellFormed] at h
    obtain ⟨tag_ok, content_ok, space_ok⟩ := h
    rw [chars_element_append, Node.parseInside_of_read? (Item.read?_opening tag_ok _)]
    simp only
    -- with its own element open, the content becomes the children of that element
    rw [parseInside_allChars content_ok _ (top :: up) (by simp),
      Node.parseInside_of_read? (Item.read?_closing tag_ok.name space_ok rest)]
    simp only [OpenElement.finish_foldl_add, node?]
    simp [OpenElement.foldl_add]
  | empty tag, h, top, up, rest, _ => by
    rw [WellFormed] at h
    rw [chars, Node.parseInside_of_read? (Item.read?_closed h rest)]
    simp [node?]
  | text raw, h, top, up, rest, next => by
    rw [WellFormed] at h
    rw [chars, Node.parseInside_of_read? (Item.read?_text h.1 h.2 (next rfl))]
    simp [node?]
  | cdata content, h, top, up, rest, _ => by
    rw [WellFormed] at h
    rw [chars, Node.parseInside_of_read? (Item.read?_cdata h rest)]
    simp [node?]
  | comment content, h, top, up, rest, _ => by
    rw [WellFormed] at h
    rw [chars, Node.parseInside_of_read? (Item.read?_comment h rest)]
    simp [node?]
  | instruction content, h, top, up, rest, _ => by
    rw [WellFormed] at h
    rw [chars, Node.parseInside_of_read? (Item.read?_instruction h.1 h.2 rest)]
    simp [node?]

/-- Inside an element pieces become its next children. -/
theorem parseInside_allChars : ∀ {pieces : List Written}, AllWellFormed pieces →
    ∀ (top : OpenElement) (up : List OpenElement) {rest : List Char}, rest.head? = some '<' →
      Node.parseInside (top :: up) (allChars pieces ++ rest) =
        Node.parseInside ((nodes pieces).foldl OpenElement.add top :: up) rest
  | [], _, top, up, rest, _ => by simp [allChars, nodes]
  | piece :: pieces, h, top, up, rest, next => by
    rw [AllWellFormed] at h
    obtain ⟨piece_ok, apart, pieces_ok⟩ := h
    have after (isText : piece.isText) : (allChars pieces ++ rest).head? = some '<' :=
      head?_allChars (fun second => apart ⟨isText, second⟩) next
    rw [allChars, List.append_assoc, parseInside_chars piece_ok top up after,
      parseInside_allChars pieces_ok _ up next, nodes, List.foldl_append]

end

/-- Before the root, white space, comments and instructions are passed over. -/
theorem parseInside_misc {pieces : List Written} (wellFormed : AllWellFormed pieces)
    (misc : ∀ piece ∈ pieces, piece.isMisc) {rest : List Char} (next : rest.head? = some '<') :
    Node.parseInside [] (allChars pieces ++ rest) = Node.parseInside [] rest := by
  induction pieces with
  | nil => simp [allChars]
  | cons piece pieces ih =>
    rw [AllWellFormed] at wellFormed
    obtain ⟨piece_ok, apart, pieces_ok⟩ := wellFormed
    have step := ih pieces_ok fun p hp => misc p (List.mem_cons_of_mem piece hp)
    have after (isText : piece.isText) : (allChars pieces ++ rest).head? = some '<' :=
      head?_allChars (fun second => apart ⟨isText, second⟩) next
    rw [allChars, List.append_assoc]
    rcases exists_of_isMisc (misc piece List.mem_cons_self) with
      ⟨raw, rfl, spaces⟩ | ⟨content, rfl⟩ | ⟨content, rfl⟩
    · rw [WellFormed] at piece_ok
      rw [chars, Node.parseInside_of_read? (Item.read?_text piece_ok.1 piece_ok.2 (after rfl))]
      exact (if_pos spaces).trans step
    · rw [WellFormed] at piece_ok
      rw [chars, Node.parseInside_of_read? (Item.read?_comment piece_ok _)]
      exact step
    · rw [WellFormed] at piece_ok
      rw [chars, Node.parseInside_of_read? (Item.read?_instruction piece_ok.1 piece_ok.2 _)]
      exact step

/-- The end of the root ends the document. -/
theorem parseInside_root {root : Written} (wellFormed : root.WellFormed) {tag : WrittenTag}
    {content : List Written} (isElement : root.IsElement tag content) (rest : List Char) :
    Node.parseInside [] (root.chars ++ rest) =
      some (.element tag.name tag.inner (nodes content)) := by
  rcases isElement with ⟨rfl, rfl⟩ | ⟨endSpace, rfl⟩
  · rw [WellFormed] at wellFormed
    rw [chars, Node.parseInside_of_read? (Item.read?_closed wellFormed rest), nodes]
  · rw [WellFormed] at wellFormed
    obtain ⟨tag_ok, content_ok, space_ok⟩ := wellFormed
    rw [chars_element_append, Node.parseInside_of_read? (Item.read?_opening tag_ok _)]
    simp only
    rw [parseInside_allChars content_ok _ [] (by simp),
      Node.parseInside_of_read? (Item.read?_closing tag_ok.name space_ok rest)]
    simp only [OpenElement.finish_foldl_add]
    simp [OpenElement.foldl_add]

theorem head?_ne_mark {pieces : List Written} (wellFormed : AllWellFormed pieces)
    (misc : ∀ piece ∈ pieces, piece.isMisc) {rest : List Char} (next : rest.head? = some '<') :
    (allChars pieces ++ rest).head? ≠ some '\ufeff' := by
  by_cases starts : pieces.head?.any isText
  · obtain ⟨raw, others, rfl⟩ : ∃ raw others, pieces = text raw :: others := by
      cases pieces with
      | nil => simp at starts
      | cons piece others => cases piece <;> simp_all [isText]
    have spaces := misc (text raw) List.mem_cons_self
    rw [AllWellFormed, WellFormed] at wellFormed
    obtain ⟨c, cs, rfl⟩ := List.exists_cons_of_ne_nil wellFormed.1.1
    simp only [allChars, chars, List.cons_append, List.head?_cons, ne_eq, Option.some.injEq]
    rintro rfl
    simp [isMisc, isSpace] at spaces
  · simp [head?_allChars starts next]

/-- A document is read as the tree of its root.  A byte order mark and what surrounds the root
leave no trace. -/
theorem parse?_of_written {mark : List Char} (isMark : mark = [] ∨ mark = ['\ufeff'])
    {before : List Written} (before_ok : AllWellFormed before)
    (misc : ∀ piece ∈ before, piece.isMisc) {root : Written} (root_ok : root.WellFormed)
    {tag : WrittenTag} {content : List Written} (isElement : root.IsElement tag content)
    (after : List Char) :
    Node.parse? (String.ofList (mark ++ allChars before ++ root.chars ++ after)) =
      some (.element tag.name tag.inner (nodes content)) := by
  have not_text : ¬ root.isText := by
    rcases isElement with ⟨rfl, -⟩ | ⟨endSpace, rfl⟩ <;> simp [isText]
  have next := head?_chars not_text after
  have tree := (parseInside_misc before_ok misc next).trans
    (parseInside_root root_ok isElement after)
  have unmarked := head?_ne_mark before_ok misc next
  rw [Node.parse?, String.toList_ofList]
  rcases isMark with rfl | rfl
  · simp only [List.nil_append, List.append_assoc]
    split
    · next cs cs_eq => simp [cs_eq] at unmarked
    · exact tree
  · simpa using tree

end Written

end BareMetal.Design
