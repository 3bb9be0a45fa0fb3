import DynamicDns.Text.Blank

/-! # The tokens of an XML document

A document is cut into tags, texts and character data up to the first place where it is not well
formed; `junk` stands there. End tags have to match start tags, and an empty-element tag counts as a
start and an end. Comments, processing instructions and the declaration leave no token. The end of a
document may be missing.
-/

namespace DynamicDns.Xml

inductive Token where
  /-- A start tag with what follows the name in it. -/
  | start (name attributes : List Char)
  | finish (name : List Char)
  /-- Text as it stands, with its references. -/
  | text (raw : List Char)
  /-- The content of a character data section. -/
  | data (raw : List Char)
  /-- A document type declaration. -/
  | doctype
  | junk
  deriving DecidableEq, Repr

/-- The white space of XML. -/
def isSpace (c : Char) : Bool := c == ' ' || c == '\t' || c == '\n' || c == '\r'

/-- What comes before the first occurrence of a mark, and what comes after it. -/
def cutAt? (mark : List Char) : List Char → Option (List Char × List Char)
  | [] => none
  | c :: rest =>
    if mark.isPrefixOf (c :: rest) then some ([], (c :: rest).drop mark.length)
    else (cutAt? mark rest).map fun (before, after) => (c :: before, after)

/-- The content of a tag up to the sign that ends it; quoted signs do not end it. -/
def tagContent? : Option Char → List Char → Option (List Char × List Char)
  | _, [] => none
  | none, c :: rest =>
    if c = '>' then some ([], rest)
    else
      (tagContent? (if c = '"' ∨ c = '\'' then some c else none) rest).map
        fun (before, after) => (c :: before, after)
  | some q, c :: rest =>
    (tagContent? (if c = q then none else some q) rest).map
      fun (before, after) => (c :: before, after)

/-- The content of a document type declaration; signs inside it are balanced. -/
def doctypeContent? : Nat → List Char → Option (List Char × List Char)
  | _, [] => none
  | depth, c :: rest =>
    if c = '>' ∧ depth = 0 then some ([], rest)
    else
      let depth := if c = '<' then depth + 1 else if c = '>' then depth - 1 else depth
      (doctypeContent? depth rest).map fun (before, after) => (c :: before, after)

/-- The token of a declaration, if it leaves one, after the two signs with which it begins. -/
def declaration? : List Char → Option (Option Token × List Char)
  | '-' :: '-' :: rest => (cutAt? ['-', '-', '>'] rest).map fun (_, after) => (none, after)
  | '[' :: 'C' :: 'D' :: 'A' :: 'T' :: 'A' :: '[' :: rest =>
    (cutAt? [']', ']', '>'] rest).map fun (raw, after) => (some (.data raw), after)
  | s =>
    if (s.take 7).map Char.toUpper == "DOCTYPE".toList then
      match doctypeContent? 0 (s.drop 7) with
      | some (content, after) =>
        if content.all isSpace then none else some (some .doctype, after)
      | none => none
    else none

/-- A processing instruction or the declaration of the document, which leave no token. -/
def instruction? : List Char → Option (List Char)
  | '>' :: _ => none
  | s => (cutAt? ['?', '>'] s).map Prod.snd

def dropSpaceAtEnd (s : List Char) : List Char := (s.reverse.dropWhile isSpace).reverse

/-- What a piece of markup leaves: tokens, the elements that are open then, and the rest. -/
structure Markup where
  tokens : List Token
  opened : List (List Char)
  rest : List Char

/-- The name in an end tag, without the white space after it. White space alone stays as it is. -/
def endName (content : List Char) : List Char :=
  if content.all isSpace then content else dropSpaceAtEnd content

/-- An end tag, which has to name the innermost open element. -/
def endTag? (opened : List (List Char)) (s : List Char) : Option Markup :=
  match tagContent? none s, opened with
  | some (content, rest), name :: outer =>
    if endName content = name then some ⟨[.finish name], outer, rest⟩ else none
  | _, _ => none

/-- A start tag or an empty-element tag. -/
def startTag? (opened : List (List Char)) (s : List Char) : Option Markup :=
  match tagContent? none s with
  | none => none
  | some (content, rest) =>
    let isEmpty := content.getLast? == some '/'
    let inner := if isEmpty then content.dropLast else content
    let name := inner.takeWhile (!isSpace ·)
    let start := Token.start name (inner.drop name.length)
    if isEmpty then some ⟨[start, .finish name], opened, rest⟩
    else some ⟨[start], name :: opened, rest⟩

/-- The markup after the sign with which it begins. -/
def markup? (opened : List (List Char)) (s : List Char) : Option Markup :=
  match s with
  | [] => none
  | '!' :: s => (declaration? s).map fun (t, rest) => ⟨t.toList, opened, rest⟩
  | '/' :: s => endTag? opened s
  | '?' :: s => (instruction? s).map fun rest => ⟨[], opened, rest⟩
  | s => startTag? opened s

theorem length_cutAt? {mark s before rest : List Char} (h : cutAt? mark s = some (before, rest)) :
    rest.length ≤ s.length := by
  induction s generalizing before rest with
  | nil => cases h
  | cons c r ih =>
    unfold cutAt? at h
    split at h
    · cases h
      exact List.length_drop ▸ Nat.sub_le _ _
    · obtain ⟨⟨before, after⟩, hcut, ⟨⟩⟩ := Option.map_eq_some_iff.1 h
      exact Nat.le_succ_of_le (ih hcut)

theorem length_tagContent? {q : Option Char} {s before rest : List Char}
    (h : tagContent? q s = some (before, rest)) : rest.length < s.length := by
  induction s generalizing q before rest with
  | nil => simp [tagContent?] at h
  | cons c r ih =>
    cases q with
    | none =>
      unfold tagContent? at h
      split at h
      · cases h
        exact Nat.lt_succ_self _
      · obtain ⟨⟨before, after⟩, hcontent, ⟨⟩⟩ := Option.map_eq_some_iff.1 h
        exact Nat.lt_succ_of_lt (ih hcontent)
    | some q =>
      unfold tagContent? at h
      obtain ⟨⟨before, after⟩, hcontent, ⟨⟩⟩ := Option.map_eq_some_iff.1 h
      exact Nat.lt_succ_of_lt (ih hcontent)

theorem length_doctypeContent? {depth : Nat} {s before rest : List Char}
    (h : doctypeContent? depth s = some (before, rest)) : rest.length < s.length := by
  induction s generalizing depth before rest with
  | nil => simp [doctypeContent?] at h
  | cons c r ih =>
    unfold doctypeContent? at h
    split at h
    · cases h
      exact Nat.lt_succ_self _
    · obtain ⟨⟨before, after⟩, hcontent, ⟨⟩⟩ := Option.map_eq_some_iff.1 h
      exact Nat.lt_succ_of_lt (ih hcontent)

theorem length_declaration? {s rest : List Char} {t : Option Token}
    (h : declaration? s = some (t, rest)) : rest.length ≤ s.length := by
  unfold declaration? at h
  split at h
  · obtain ⟨⟨before, after⟩, hcut, ⟨⟩⟩ := Option.map_eq_some_iff.1 h
    have hrest := length_cutAt? hcut
    simp only [List.length_cons]
    omega
  · obtain ⟨⟨raw, after⟩, hcut, ⟨⟩⟩ := Option.map_eq_some_iff.1 h
    have hrest := length_cutAt? hcut
    simp only [List.length_cons]
    omega
  · split at h
    · split at h
      · next hcontent =>
        have hrest := length_doctypeContent? hcontent
        rw [List.length_drop] at hrest
        split at h
        · cases h
        · cases h
          omega
      · cases h
    · cases h

theorem length_instruction? {s rest : List Char} (h : instruction? s = some rest) :
    rest.length ≤ s.length := by
  unfold instruction? at h
  split at h
  · cases h
  · obtain ⟨⟨before, after⟩, hcut, rfl⟩ := Option.map_eq_some_iff.1 h
    exact length_cutAt? hcut

theorem length_endTag? {opened : List (List Char)} {s : List Char} {m : Markup}
    (h : endTag? opened s = some m) : m.rest.length < s.length := by
  unfold endTag? at h
  split at h
  · next hcontent =>
    split at h
    · cases h
      exact length_tagContent? hcontent
    · cases h
  · cases h

theorem length_startTag? {opened : List (List Char)} {s : List Char} {m : Markup}
    (h : startTag? opened s = some m) : m.rest.length < s.length := by
  unfold startTag? at h
  split at h
  · cases h
  · next hcontent =>
    have hrest := length_tagContent? hcontent
    simp only at h
    split at h
    · cases h
      exact hrest
    · cases h
      exact hrest

theorem length_markup? {opened : List (List Char)} {s : List Char} {m : Markup}
    (h : markup? opened s = some m) : m.rest.length ≤ s.length := by
  unfold markup? at h
  split at h
  · cases h
  · obtain ⟨⟨t, r⟩, hdeclaration, rfl⟩ := Option.map_eq_some_iff.1 h
    exact Nat.le_succ_of_le (length_declaration? hdeclaration)
  · exact Nat.le_succ_of_le (Nat.le_of_lt (length_endTag? h))
  · obtain ⟨r, hinstruction, rfl⟩ := Option.map_eq_some_iff.1 h
    exact Nat.le_succ_of_le (length_instruction? hinstruction)
  · exact Nat.le_of_lt (length_startTag? h)

/-- The tokens from here on, inside the elements that are open. -/
def tokensFrom (opened : List (List Char)) (s : List Char) : List Token :=
  match s with
  | [] => []
  | '<' :: rest =>
    match _h : markup? opened rest with
    | none => [.junk]
    | some m => m.tokens ++ tokensFrom m.opened m.rest
  | c :: rest =>
    let raw := rest.takeWhile (· != '<')
    .text (c :: raw) :: tokensFrom opened (rest.drop raw.length)
termination_by s.length
decreasing_by
  · have := length_markup? (by assumption)
    simp only [List.length_cons]
    omega
  · simp only [List.length_drop, List.length_cons]
    omega

/-- The tokens of a document; a byte order mark is no part of it. -/
def tokens (document : List Char) : List Token :=
  match document with
  | '\ufeff' :: rest => tokensFrom [] rest
  | s => tokensFrom [] s

end DynamicDns.Xml
