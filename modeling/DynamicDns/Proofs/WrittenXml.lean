import DynamicDns.Proofs.XmlText

/-!
# Written XML documents

A document that is written from elements is read as its tree: its elements one for one, in their order,
whatever white space stands between them, with or without a declaration before them.
-/

namespace DynamicDns.Xml

/-! ## Elements -/

/-- An element as a document has it, with the white space before each of its elements and before its
end. -/
inductive Element where
  /-- A tag that is start and end. -/
  | empty (name : Name)
  | leaf (name : Name) (text : Escaped)
  | node (name : Name) (content : List (Space × Element)) (last : Space)

namespace Element

def name : Element → Name
  | .empty name => name
  | .leaf name _ => name
  | .node name _ _ => name

mutual

def chars : Element → List Char
  | .empty name => '<' :: (name.chars ++ '/' :: ['>'])
  | .leaf name text =>
    '<' :: (name.chars ++ '>' :: (text.raw ++ '<' :: '/' :: (name.chars ++ ['>'])))
  | .node name content last =>
    '<' :: (name.chars ++ '>' :: (contentChars content ++
      (last.chars ++ '<' :: '/' :: (name.chars ++ ['>']))))

def contentChars : List (Space × Element) → List Char
  | [] => []
  | (space, e) :: rest => space.chars ++ (chars e ++ contentChars rest)

end

mutual

/-- What is read between the start and the end of an element. -/
def events : Element → List Event
  | .empty _ => []
  | .leaf _ text => text.events
  | .node _ content _ => contentEvents content

def contentEvents : List (Space × Element) → List Event
  | [] => []
  | (_, e) :: rest => .start e.name.chars [] :: (events e ++ .finish :: contentEvents rest)

end

mutual

/-- What the tree has below an element. -/
def children : Element → List Node
  | .empty _ => []
  | .leaf _ text => text.nodes
  | .node _ content _ => contentNodes content

def contentNodes : List (Space × Element) → List Node
  | [] => []
  | (_, e) :: rest => .element e.name.chars [] (children e) true :: contentNodes rest

end

def toNode (e : Element) : Node := .element e.name.chars [] e.children true

variable (name : Name) (rest : List Char)

theorem chars_empty_append :
    (empty name).chars ++ rest = '<' :: (name.chars ++ '/' :: '>' :: rest) := by
  simp [chars]

theorem chars_leaf_append (text : Escaped) : (leaf name text).chars ++ rest =
    '<' :: (name.chars ++ '>' :: (text.raw ++ '<' :: '/' :: (name.chars ++ '>' :: rest))) := by
  simp [chars]

theorem chars_node_append (content : List (Space × Element)) (last : Space) :
    (node name content last).chars ++ rest = '<' :: (name.chars ++ '>' :: (contentChars content ++
      (last.chars ++ '<' :: '/' :: (name.chars ++ '>' :: rest)))) := by
  simp [chars]

theorem contentChars_cons_append (space : Space) (e : Element) (content : List (Space × Element)) :
    contentChars ((space, e) :: content) ++ rest =
      space.chars ++ (e.chars ++ (contentChars content ++ rest)) := by
  simp [contentChars]

theorem contentNodes_eq_map (content : List (Space × Element)) :
    contentNodes content = content.map fun part ↦ part.2.toNode := by
  induction content with
  | nil => rfl
  | cons part content ih => rw [contentNodes, ih, List.map_cons, toNode]

end Element

/-! ## Tags -/

variable {opened : List (List Char)} {s rest : List Char}

theorem tagContent?_append (h : ∀ c ∈ s, c ≠ '>' ∧ c ≠ '"' ∧ c ≠ '\'') (rest : List Char) :
    tagContent? none (s ++ '>' :: rest) = some (s, rest) := by
  induction s with
  | nil => rfl
  | cons c s ih =>
    obtain ⟨hend, hdouble, hsingle⟩ := h c List.mem_cons_self
    have hs := ih fun d hd ↦ h d (List.mem_cons_of_mem c hd)
    rw [List.cons_append, tagContent?, if_neg hend, if_neg (not_or.2 ⟨hdouble, hsingle⟩), hs]
    rfl

namespace Name

theorem tagContent?_chars (name : Name) (rest : List Char) :
    tagContent? none (name.chars ++ '>' :: rest) = some (name.chars, rest) :=
  tagContent?_append (fun _ hc ↦ ⟨name.ne hc (by decide), name.ne hc (by decide),
    name.ne hc (by decide)⟩) rest

theorem tagContent?_slash (name : Name) (rest : List Char) :
    tagContent? none (name.chars ++ '/' :: '>' :: rest) = some (name.chars ++ ['/'], rest) := by
  have hslash : name.chars ++ '/' :: '>' :: rest = (name.chars ++ ['/']) ++ '>' :: rest :=
    (List.append_assoc name.chars ['/'] ('>' :: rest)).symm
  rw [hslash]
  refine tagContent?_append (fun c hc ↦ ?_) rest
  rcases List.mem_append.1 hc with hc | hc
  · exact ⟨name.ne hc (by decide), name.ne hc (by decide), name.ne hc (by decide)⟩
  · obtain rfl := List.mem_singleton.1 hc
    decide

theorem takeWhile_chars (name : Name) : name.chars.takeWhile (!isSpace ·) = name.chars := by
  rw [List.takeWhile_eq_self_iff]
  intro c hc
  rw [name.isSpace_eq_false hc]
  rfl

theorem dropSpaceAtEnd_chars (name : Name) : dropSpaceAtEnd name.chars = name.chars := by
  have hend : name.chars.reverse.dropWhile isSpace = name.chars.reverse :=
    List.dropWhile_eq_self_iff.2 fun _ ↦ Bool.eq_false_iff.1
      (name.isSpace_eq_false (List.mem_reverse.1 (List.getElem_mem _)))
  rw [dropSpaceAtEnd, hend, List.reverse_reverse]

theorem endName_chars (name : Name) : endName name.chars = name.chars := by
  unfold endName
  split_ifs
  · rfl
  · exact name.dropSpaceAtEnd_chars

/-- Markup that begins with a name is a start tag or an empty-element tag. -/
theorem markup?_chars (name : Name) (s : List Char) :
    markup? opened (name.chars ++ s) = startTag? opened (name.chars ++ s) := by
  obtain ⟨c, chars, hchars⟩ := List.exists_cons_of_ne_nil name.ne_nil
  have hc : c ∈ name.chars := hchars ▸ List.mem_cons_self
  have hbang := name.ne hc (d := '!') (by decide)
  have hslash := name.ne hc (d := '/') (by decide)
  have hquestion := name.ne hc (d := '?') (by decide)
  rw [hchars, List.cons_append]
  simp [markup?, hbang, hslash, hquestion]

theorem startTag?_chars (name : Name) (rest : List Char) :
    startTag? opened (name.chars ++ '>' :: rest) =
      some ⟨[.start name.chars []], name.chars :: opened, rest⟩ := by
  have hlast : (name.chars.getLast? == some '/') = false := by
    rw [beq_eq_false_iff_ne]
    intro hslash
    exact name.ne (List.mem_of_getLast? hslash) (by decide) rfl
  simp [startTag?, name.tagContent?_chars, hlast, name.takeWhile_chars]

theorem startTag?_slash (name : Name) (rest : List Char) :
    startTag? opened (name.chars ++ '/' :: '>' :: rest) =
      some ⟨[.start name.chars [], .finish name.chars], opened, rest⟩ := by
  simp [startTag?, name.tagContent?_slash, name.takeWhile_chars]

theorem endTag?_chars (name : Name) (rest : List Char) :
    endTag? (name.chars :: opened) (name.chars ++ '>' :: rest) =
      some ⟨[.finish name.chars], opened, rest⟩ := by
  simp [endTag?, name.tagContent?_chars, name.endName_chars]

end Name

/-! ## Tokens -/

theorem tokensFrom_of_markup? {m : Markup} (h : markup? opened s = some m) :
    tokensFrom opened ('<' :: s) = m.tokens ++ tokensFrom m.opened m.rest := by
  rw [tokensFrom]
  split
  · next hnone => exact absurd (h.symm.trans hnone) (by simp)
  · next hsome =>
    obtain rfl := Option.some.inj (h.symm.trans hsome)
    rfl

theorem tokensFrom_start (name : Name) (rest : List Char) :
    tokensFrom opened ('<' :: (name.chars ++ '>' :: rest)) =
      .start name.chars [] :: tokensFrom (name.chars :: opened) rest :=
  tokensFrom_of_markup? ((name.markup?_chars _).trans (name.startTag?_chars rest))

theorem tokensFrom_empty (name : Name) (rest : List Char) :
    tokensFrom opened ('<' :: (name.chars ++ '/' :: '>' :: rest)) =
      .start name.chars [] :: .finish name.chars :: tokensFrom opened rest :=
  tokensFrom_of_markup? ((name.markup?_chars _).trans (name.startTag?_slash rest))

theorem tokensFrom_finish (name : Name) (rest : List Char) :
    tokensFrom (name.chars :: opened) ('<' :: '/' :: (name.chars ++ '>' :: rest)) =
      .finish name.chars :: tokensFrom opened rest := by
  have hmarkup : markup? (name.chars :: opened) ('/' :: (name.chars ++ '>' :: rest)) =
      some ⟨[.finish name.chars], opened, rest⟩ := name.endTag?_chars rest
  exact tokensFrom_of_markup? hmarkup

/-- The token of a text, if it has a character. -/
def textTokens (raw : List Char) : List Token := if raw.isEmpty then [] else [.text raw]

theorem tokensFrom_text (h : '<' ∉ s) (rest : List Char) :
    tokensFrom opened (s ++ '<' :: rest) = textTokens s ++ tokensFrom opened ('<' :: rest) := by
  cases s with
  | nil => rfl
  | cons c s =>
    obtain ⟨hc, hs⟩ := not_or.1 (List.mem_cons.not.1 h)
    have hraw : (s ++ '<' :: rest).takeWhile (· != '<') = s := by
      rw [List.takeWhile_append_of_pos]
      · simp
      · rintro d hd
        exact bne_iff_ne.2 fun hlt ↦ hs (hlt ▸ hd)
    -- The equation of `tokensFrom` for texts asks for a first character that is no `<`.
    have hunfold (t : List Char) : tokensFrom opened (c :: t) =
        .text (c :: t.takeWhile (· != '<')) ::
          tokensFrom opened (t.drop (t.takeWhile (· != '<')).length) := by
      rw [tokensFrom]
      exact fun hlt ↦ hc hlt.symm
    rw [List.cons_append, hunfold, hraw, List.drop_left]
    rfl

/-! ## Events -/

/-- The events of a document from here on, inside the elements that are open. -/
def eventsOf (opened : List (List Char)) (s : List Char) : List Event :=
  eventsFrom [] (tokensFrom opened s)

theorem eventsOf_start (name : Name) (rest : List Char) :
    eventsOf opened ('<' :: (name.chars ++ '>' :: rest)) =
      .start name.chars [] :: eventsOf (name.chars :: opened) rest := by
  rw [eventsOf, tokensFrom_start]
  rfl

theorem eventsOf_empty (name : Name) (rest : List Char) :
    eventsOf opened ('<' :: (name.chars ++ '/' :: '>' :: rest)) =
      .start name.chars [] :: .finish :: eventsOf opened rest := by
  rw [eventsOf, tokensFrom_empty]
  rfl

theorem eventsOf_finish (name : Name) (rest : List Char) :
    eventsOf (name.chars :: opened) ('<' :: '/' :: (name.chars ++ '>' :: rest)) =
      .finish :: eventsOf opened rest := by
  rw [eventsOf, tokensFrom_finish]
  rfl

/-- A start tag or an end tag, which ends the text before it. -/
inductive IsTag : Token → Prop where
  | start (name attributes : List Char) : IsTag (.start name attributes)
  | finish (name : List Char) : IsTag (.finish name)

/-- Whether there is a tag next. -/
def AtTag (opened : List (List Char)) (s : List Char) : Prop :=
  ∃ rest tag tokens, s = '<' :: rest ∧ IsTag tag ∧ tokensFrom opened s = tag :: tokens

theorem atTag_chars (e : Element) (rest : List Char) : AtTag opened (e.chars ++ rest) := by
  cases e with
  | empty name =>
    rw [Element.chars_empty_append]
    exact ⟨_, _, _, rfl, .start _ _, tokensFrom_empty name rest⟩
  | leaf name text =>
    rw [Element.chars_leaf_append]
    exact ⟨_, _, _, rfl, .start _ _, tokensFrom_start name _⟩
  | node name content last =>
    rw [Element.chars_node_append]
    exact ⟨_, _, _, rfl, .start _ _, tokensFrom_start name _⟩

theorem atTag_finish (name : Name) (rest : List Char) :
    AtTag (name.chars :: opened) ('<' :: '/' :: (name.chars ++ '>' :: rest)) :=
  ⟨_, _, _, rfl, .finish _, tokensFrom_finish name rest⟩

/-- A text up to the next tag is an event of its own. -/
theorem eventsOf_text (h : '<' ∉ s) (hrest : AtTag opened rest) :
    eventsOf opened (s ++ rest) = runEvents (textTokens s) ++ eventsOf opened rest := by
  obtain ⟨more, tag, tokens, rfl, htag, htokens⟩ := hrest
  have hrun (run : List Token) :
      eventsFrom run (tag :: tokens) = runEvents run ++ eventsFrom [] (tag :: tokens) := by
    cases htag <;> rfl
  rw [eventsOf, tokensFrom_text h, eventsOf, htokens, ← hrun, textTokens]
  split_ifs
  · rfl
  · rfl

/-- A text without a character that is no white space is no event. -/
theorem runEvents_textTokens (s : List Char) :
    runEvents (textTokens s) = if (trimmed s).isEmpty then []
      else [.text ((Reference.resolve (trimmed s)).map String.ofList)] := by
  by_cases hs : s.isEmpty = true
  · rw [List.isEmpty_iff.1 hs]
    rfl
  · have hrun : trimRun [.text s] = if (trimStart s).isEmpty then [] else [.text (trimStart s)] := rfl
    rw [textTokens, if_neg hs, runEvents, List.reverse_singleton, hrun, trimmed]
    by_cases hstart : (trimStart s).isEmpty = true
    · rw [if_pos hstart, List.isEmpty_iff.1 hstart]
      rfl
    · rw [if_neg hstart]

theorem Escaped.runEvents_raw (text : Escaped) : runEvents (textTokens text.raw) = text.events := by
  rw [runEvents_textTokens, text.exists_eq_append_core.1]
  rfl

theorem Space.runEvents_chars (space : Space) : runEvents (textTokens space.chars) = [] := by
  have hstart : trimStart space.chars = [] :=
    List.dropWhile_eq_nil_iff.2 space.isSpace
  rw [runEvents_textTokens, trimmed, hstart]
  rfl

theorem Space.not_mem (space : Space) : '<' ∉ space.chars :=
  fun hmem ↦ absurd (space.isSpace _ hmem) (by decide)

namespace Element

mutual

/-- The events of an element come before those of what follows it. -/
theorem eventsOf_chars (e : Element) (opened : List (List Char)) (rest : List Char) :
    eventsOf opened (e.chars ++ rest) =
      .start e.name.chars [] :: (e.events ++ .finish :: eventsOf opened rest) := by
  match e with
  | .empty name =>
    rw [chars_empty_append, eventsOf_empty]
    rfl
  | .leaf name text =>
    rw [chars_leaf_append, eventsOf_start, eventsOf_text text.not_mem (atTag_finish name rest),
      text.runEvents_raw, eventsOf_finish]
    rfl
  | .node name content last =>
    rw [chars_node_append, eventsOf_start, eventsOf_contentChars content _ last (atTag_finish name rest),
      eventsOf_finish]
    rfl

theorem eventsOf_contentChars (content : List (Space × Element)) (opened : List (List Char))
    (last : Space) {rest : List Char} (hrest : AtTag opened rest) :
    eventsOf opened (contentChars content ++ (last.chars ++ rest)) =
      contentEvents content ++ eventsOf opened rest := by
  match content with
  | [] =>
    rw [contentChars, List.nil_append, eventsOf_text last.not_mem hrest, last.runEvents_chars]
    rfl
  | (space, e) :: content =>
    rw [contentChars_cons_append, eventsOf_text space.not_mem (atTag_chars e _),
      space.runEvents_chars, List.nil_append, eventsOf_chars e,
      eventsOf_contentChars content opened last hrest, contentEvents, List.cons_append,
      List.append_assoc, List.cons_append]

end

end Element

/-! ## The tree -/

namespace Node.Frame

/-- The frame with more nodes read. -/
def addAll (nodes : List Node) (f : Frame) : Frame := { f with before := nodes.reverse ++ f.before }

theorem addAll_cons (node : Node) (nodes : List Node) (f : Frame) :
    f.addAll (node :: nodes) = (f.add node).addAll nodes := by
  simp [addAll, add]

theorem toNode_addAll (name attributes : List Char) (nodes : List Node) (closed : Bool) :
    ((Frame.mk name attributes []).addAll nodes).toNode closed =
      .element name attributes nodes closed := by
  simp [addAll, toNode]

end Node.Frame

open Node (readFrom Frame)

theorem Escaped.readFrom_events (text : Escaped) (inner : Frame) (outer : List Frame)
    (rest : List Event) :
    readFrom inner outer (text.events ++ rest) = readFrom (inner.addAll text.nodes) outer rest := by
  unfold Escaped.events Escaped.nodes
  split_ifs
  · rfl
  · rfl

namespace Element

mutual

/-- What is read inside an element are its children. -/
theorem readFrom_events (e : Element) (inner : Frame) (outer : List Frame) (rest : List Event) :
    readFrom inner outer (e.events ++ rest) = readFrom (inner.addAll e.children) outer rest := by
  match e with
  | .empty _ => rfl
  | .leaf _ text => exact text.readFrom_events inner outer rest
  | .node _ content _ => exact readFrom_contentEvents content inner outer rest

theorem readFrom_contentEvents (content : List (Space × Element)) (inner : Frame)
    (outer : List Frame) (rest : List Event) :
    readFrom inner outer (contentEvents content ++ rest) =
      readFrom (inner.addAll (contentNodes content)) outer rest := by
  match content with
  | [] => rfl
  | (_, e) :: content =>
    rw [contentEvents, List.cons_append, List.append_assoc, List.cons_append, readFrom,
      readFrom_events e, readFrom, Frame.toNode_addAll, readFrom_contentEvents content,
      contentNodes, Frame.addAll_cons]

end

end Element

/-! ## Documents -/

/-- What stands in the declaration of a document, after the name `xml`. -/
structure Declaration where
  content : List Char
  not_mem : '?' ∉ content

def Declaration.chars (d : Declaration) : List Char :=
  '<' :: '?' :: 'x' :: 'm' :: 'l' :: (d.content ++ ['?', '>'])

structure Document where
  declaration : Option Declaration
  before : Space
  root : Element
  after : Space

theorem cutAt?_question (h : '?' ∉ s) (rest : List Char) :
    cutAt? ['?', '>'] (s ++ '?' :: '>' :: rest) = some (s, rest) := by
  induction s with
  | nil => rfl
  | cons c s ih =>
    obtain ⟨hc, hs⟩ := not_or.1 (List.mem_cons.not.1 h)
    have hmark : List.isPrefixOf ['?', '>'] (c :: (s ++ '?' :: '>' :: rest)) = false := by
      simp [List.isPrefixOf, hc]
    rw [List.cons_append, cutAt?, hmark, ih hs]
    rfl

/-- A declaration leaves no event. -/
theorem Declaration.eventsOf_chars (d : Declaration) (rest : List Char) :
    eventsOf opened (d.chars ++ rest) = eventsOf opened rest := by
  have hname : '?' ∉ 'x' :: 'm' :: 'l' :: d.content := by simpa using d.not_mem
  have hcut := cutAt?_question hname rest
  have hmarkup : markup? opened ('?' :: 'x' :: 'm' :: 'l' :: (d.content ++ '?' :: '>' :: rest)) =
      some ⟨[], opened, rest⟩ := by
    rw [List.cons_append, List.cons_append, List.cons_append] at hcut
    rw [markup?, instruction?, hcut]
    · rfl
    · simp
  have hchars : d.chars ++ rest =
      '<' :: '?' :: 'x' :: 'm' :: 'l' :: (d.content ++ '?' :: '>' :: rest) := by
    simp [Declaration.chars]
  rw [hchars, eventsOf, tokensFrom_of_markup? hmarkup]
  rfl

namespace Document

def prolog (d : Document) : List Char := d.declaration.elim [] Declaration.chars

def text (d : Document) : String :=
  String.ofList (d.prolog ++ (d.before.chars ++ (d.root.chars ++ d.after.chars)))

theorem tokens_of_head? (h : s.head? ≠ some '\ufeff') : tokens s = tokensFrom [] s := by
  unfold tokens
  split
  · exact absurd rfl h
  · rfl

/-- A document does not begin with a byte order mark. -/
theorem tokens_text (d : Document) :
    tokens d.text.toList =
      tokensFrom [] (d.prolog ++ (d.before.chars ++ (d.root.chars ++ d.after.chars))) := by
  rw [text, String.toList_ofList]
  apply tokens_of_head?
  have htag : AtTag [] (d.root.chars ++ d.after.chars) := atTag_chars d.root d.after.chars
  obtain ⟨rest, -, -, hroot, -⟩ := htag
  rw [hroot, prolog]
  cases d.declaration with
  | some declaration => simp [Declaration.chars]
  | none =>
    cases hbefore : d.before.chars with
    | nil => simp
    | cons c chars =>
      have hspace := d.before.isSpace c (hbefore ▸ List.mem_cons_self)
      simpa using Reference.ne_of_isSpace hspace (d := '\ufeff') (by decide)

/-- The tree of a document is that of its root element. -/
theorem read_text (d : Document) : read d.text = some d.root.toNode := by
  have hprolog (s : List Char) : eventsOf [] (d.prolog ++ s) = eventsOf [] s := by
    rw [prolog]
    cases d.declaration with
    | none => rfl
    | some declaration => exact declaration.eventsOf_chars s
  have hevents := hprolog (d.before.chars ++ (d.root.chars ++ d.after.chars))
  rw [eventsOf_text d.before.not_mem (atTag_chars d.root _), d.before.runEvents_chars,
    List.nil_append, d.root.eventsOf_chars, eventsOf] at hevents
  rw [read, tokens_text, hevents, Node.root?, d.root.readFrom_events, readFrom,
    Frame.toNode_addAll]
  rfl

end Document

end DynamicDns.Xml
