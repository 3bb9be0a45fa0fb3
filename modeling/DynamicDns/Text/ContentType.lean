/-! # Content types

A content type is two tokens with a slash between them and parameters after semicolons. A value is a
token, or it stands in quotes, in which nothing is escaped. A content type that is not well formed has
no parameters at all.
-/

namespace DynamicDns.Text.ContentType

/-- The characters of a token of RFC 9110. -/
def isTokenChar (c : Char) : Bool :=
  c.isAlphanum || "!#$%&'*+-.^_|~".toList.contains c || c.toNat == 0x60

/-- The characters that may stand in quotes. -/
def isQuotedChar (c : Char) : Bool := 31 < c.toNat && c.toNat != 127

/-- The end of a value: nothing, or a semicolon, after which the rest stands. -/
def rest? : List Char → Option (List Char)
  | [] => some []
  | c :: rest => if c = ';' then some rest else none

/-- The value with which a text begins, and what stands behind its end. A value in quotes is not empty,
so its first character may even be a quote; a token may only be empty at the end of the text. -/
def value? : List Char → Option (List Char × List Char)
  | '"' :: c :: s =>
    let more := s.takeWhile fun d => d != '"' && isQuotedChar d
    match s.drop more.length with
    | '"' :: after =>
      if isQuotedChar c then
        (rest? (after.dropWhile (· == ' '))).map fun rest => (c :: more, rest)
      else none
    | _ => none
  | s =>
    let value := s.takeWhile isTokenChar
    let after := s.drop value.length
    if value.isEmpty && !after.isEmpty then none
    else (rest? after).map fun rest => (value, rest)

theorem length_rest? {s rest : List Char} (h : rest? s = some rest) : rest.length ≤ s.length := by
  cases s with
  | nil =>
    cases h
    exact Nat.le_refl _
  | cons c s =>
    simp only [rest?] at h
    split at h
    · cases h
      exact Nat.le_succ _
    · cases h

theorem length_value? {s value rest : List Char} (h : value? s = some (value, rest)) :
    rest.length ≤ s.length := by
  unfold value? at h
  split at h
  · next c s =>
    simp only at h
    split at h
    · next after hafter =>
      split at h
      · obtain ⟨r, hrest, ⟨⟩⟩ := Option.map_eq_some_iff.1 h
        have hlength := length_rest? hrest
        have hspaces := (List.dropWhile_suffix (· == ' ') (l := after)).length_le
        have hquoted := congrArg List.length hafter
        simp only [List.length_drop, List.length_cons] at hquoted ⊢
        omega
      · cases h
    · cases h
  · simp only at h
    split at h
    · cases h
    · obtain ⟨r, hrest, ⟨⟩⟩ := Option.map_eq_some_iff.1 h
      have hlength := length_rest? hrest
      rw [List.length_drop] at hlength
      omega

/-- The parameters after a semicolon, with their names and values. Spaces may stand before each. -/
def parameters? (s : List Char) : Option (List (List Char × List Char)) :=
  let start := s.dropWhile (· == ' ')
  let name := start.takeWhile isTokenChar
  match _h : start.drop name.length with
  | [] => if name.isEmpty then some [] else none
  | c :: written =>
    if c != '=' || name.isEmpty then none
    else
      match _hvalue : value? written with
      | some (value, rest) => (parameters? rest).map ((name, value) :: ·)
      | none => none
termination_by s.length
decreasing_by
  have hspaces := (List.dropWhile_suffix (· == ' ') (l := s)).length_le
  have hwritten := congrArg List.length _h
  have hrest := length_value? _hvalue
  simp only [List.length_drop, List.length_cons, start] at hwritten hspaces
  omega

/-- The characters of a header that can be read as text. -/
def isVisible (c : Char) : Bool := (32 ≤ c.toNat && c.toNat < 127) || c == '\t'

/-- A header without the spaces and tabs at its ends. -/
def trim (s : List Char) : List Char :=
  let isSpace (c : Char) : Bool := c == ' ' || c == '\t'
  ((s.dropWhile isSpace).reverse.dropWhile isSpace).reverse

/-- The parameters of a content type that is well formed and has some. -/
def ofHeader? (header : String) : Option (List (List Char × List Char)) :=
  let s := trim header.toList
  let kind := s.takeWhile isTokenChar
  match s.drop kind.length with
  | '/' :: s =>
    let subtype := s.takeWhile isTokenChar
    match s.drop subtype.length with
    | ';' :: rest =>
      if kind.isEmpty || subtype.isEmpty || !(trim header.toList).all isVisible then none
      else parameters? rest
    | _ => none
  | _ => none

/-- The first `charset` parameter, by whatever case its name is written. -/
def charset? (header : String) : Option String :=
  ((ofHeader? header).getD []).findSome? fun (name, value) =>
    if name.map Char.toLower = "charset".toList then some (String.ofList value) else none

end DynamicDns.Text.ContentType
