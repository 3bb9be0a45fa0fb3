import DynamicDns.Xml.Node
import Mathlib.Data.List.TakeWhile
import Mathlib.Tactic.SplitIfs

/-!
# Texts in XML documents

Every text can be written in a document, and it does not matter by which references it is escaped. What is
read of it is the text itself, white space at its ends apart: trimming what is written and resolving its
references comes to the same as trimming what it means.
-/

namespace DynamicDns.Xml

/-! ## References -/

namespace Reference

theorem resolve_cons {c : Char} (hc : c ≠ '&') (s : List Char) :
    resolve (c :: s) = (resolve s).map (c :: ·) := by
  rw [resolve, resolveFrom, if_neg hc]
  rfl

/-- Every text can be escaped: what `escape` writes is read back. -/
theorem resolve_escape (s : List Char) : resolve (escape s) = some s := by
  induction s with
  | nil => rfl
  | cons c s ih =>
    have hescape : escape (c :: s) = escapeChar c ++ escape s := List.flatMap_cons
    have hchar : resolve (escapeChar c ++ escape s) = (resolve (escape s)).map (c :: ·) := by
      unfold escapeChar
      split_ifs with hlt hgt hamp hapos hquot
      · rw [hlt]; rfl
      · rw [hgt]; rfl
      · rw [hamp]; rfl
      · rw [hapos]; rfl
      · rw [hquot]; rfl
      · exact resolve_cons hamp _
    rw [hescape, hchar, ih]
    rfl

/-- No escaped text begins a tag. -/
theorem not_mem_escape (s : List Char) : '<' ∉ escape s := by
  rw [escape, List.mem_flatMap]
  rintro ⟨c, -, hmem⟩
  unfold escapeChar at hmem
  split_ifs at hmem with hlt hgt hamp hapos hquot
  · exact absurd hmem (by decide)
  · exact absurd hmem (by decide)
  · exact absurd hmem (by decide)
  · exact absurd hmem (by decide)
  · exact absurd hmem (by decide)
  · exact hlt (List.mem_singleton.1 hmem).symm

variable {space : List Char}

theorem ne_of_isSpace {c d : Char} (hc : isSpace c = true) (hd : isSpace d = false) : c ≠ d := by
  rintro rfl
  rw [hc] at hd
  cases hd

theorem resolve_space_append (hspace : ∀ c ∈ space, isSpace c = true) (s : List Char) :
    resolve (space ++ s) = (resolve s).map (space ++ ·) := by
  induction space with
  | nil => simp
  | cons c space ih =>
    have hc := ne_of_isSpace (hspace c List.mem_cons_self) (d := '&') (by decide)
    rw [List.cons_append, resolve_cons hc, ih fun d hd ↦ hspace d (List.mem_cons_of_mem c hd),
      Option.map_map]
    rfl

/-- A reference that the end of a text leaves open is not ended by white space. -/
theorem resolveFrom_some_space (hspace : ∀ c ∈ space, isSpace c = true) (name : List Char) :
    resolveFrom (some name) space = none := by
  induction space generalizing name with
  | nil => rfl
  | cons c space ih =>
    have hc := hspace c List.mem_cons_self
    rw [resolveFrom, if_neg (ne_of_isSpace hc (by decide)), if_neg (ne_of_isSpace hc (by decide))]
    exact ih (fun d hd ↦ hspace d (List.mem_cons_of_mem c hd)) _

theorem resolveFrom_append_space (hspace : ∀ c ∈ space, isSpace c = true)
    (name : Option (List Char)) (s : List Char) :
    resolveFrom name (s ++ space) = (resolveFrom name s).map (· ++ space) := by
  induction s generalizing name with
  | nil =>
    cases name with
    | none =>
      have hresolve := resolve_space_append hspace []
      rw [List.append_nil] at hresolve
      exact hresolve.trans (by simp [resolve, resolveFrom])
    | some name => exact resolveFrom_some_space hspace name
  | cons c s ih =>
    cases name with
    | none =>
      rw [List.cons_append, resolveFrom, resolveFrom]
      split_ifs with hc
      · exact ih (some [])
      · rw [ih none, Option.map_map, Option.map_map]
        rfl
    | some name =>
      rw [List.cons_append, resolveFrom, resolveFrom]
      split_ifs with hend hbegin
      · cases character? name.reverse with
        | none => rfl
        | some d =>
          simp only [ih none, Option.map_map]
          rfl
      · rfl
      · exact ih (some (c :: name))

end Reference

/-! ## Names, white space and texts -/

/-- A character that neither ends a name nor makes a tag one of another kind. -/
def isNameChar (c : Char) : Bool := !isSpace c && !"<>/!?\"'".toList.contains c

/-- A name that can stand in a tag. -/
structure Name where
  chars : List Char
  ne_nil : chars ≠ []
  all_isNameChar : chars.all isNameChar = true

/-- White space between elements. -/
structure Space where
  chars : List Char
  all_isSpace : chars.all isSpace = true

/-- No white space. -/
def Space.none : Space := ⟨[], rfl⟩

theorem Space.isSpace (space : Space) : ∀ c ∈ space.chars, Xml.isSpace c = true :=
  List.all_eq_true.1 space.all_isSpace

/-- A text as it stands in a document, and what it means. -/
structure Escaped where
  raw : List Char
  value : List Char
  not_mem : '<' ∉ raw
  resolve_eq : Reference.resolve raw = some value

/-- The usual way to write a text. -/
def Escaped.ofChars (value : List Char) : Escaped where
  raw := Reference.escape value
  value := value
  not_mem := Reference.not_mem_escape value
  resolve_eq := Reference.resolve_escape value

namespace Name

theorem isNameChar (name : Name) : ∀ c ∈ name.chars, Xml.isNameChar c = true :=
  List.all_eq_true.1 name.all_isNameChar

theorem ne (name : Name) {c d : Char} (hc : c ∈ name.chars) (hd : Xml.isNameChar d = false) :
    c ≠ d := by
  rintro rfl
  rw [name.isNameChar c hc] at hd
  cases hd

theorem isSpace_eq_false (name : Name) {c : Char} (hc : c ∈ name.chars) : isSpace c = false := by
  obtain ⟨hspace, -⟩ := Bool.and_eq_true_iff.1 (name.isNameChar c hc)
  simpa using hspace

end Name

/-- The text without the white space at its ends. -/
def trimmed (raw : List Char) : List Char := dropSpaceAtEnd (trimStart raw)

/-- Only white space is cut off. -/
theorem exists_eq_append_trimmed (raw : List Char) :
    ∃ front back : Space, raw = front.chars ++ trimmed raw ++ back.chars := by
  have hspace (s : List Char) : (s.takeWhile isSpace).all isSpace = true :=
    List.all_eq_true.2 fun c hc ↦ List.mem_takeWhile_imp hc
  refine ⟨⟨raw.takeWhile isSpace, hspace raw⟩,
    ⟨((trimStart raw).reverse.takeWhile isSpace).reverse, ?_⟩, ?_⟩
  · rw [List.all_reverse]
    exact hspace _
  have hback : trimmed raw ++ ((trimStart raw).reverse.takeWhile isSpace).reverse =
      trimStart raw := by
    rw [trimmed, dropSpaceAtEnd, ← List.reverse_append, List.takeWhile_append_dropWhile,
      List.reverse_reverse]
  rw [List.append_assoc, hback, trimStart, List.takeWhile_append_dropWhile]

/-- Characters that stand for themselves in a text. -/
structure IsPlain (c : Char) : Prop where
  isSpace_eq_false : isSpace c = false
  ne_lt : c ≠ '<'
  ne_amp : c ≠ '&'

theorem resolve_of_plain {s : List Char} (hplain : ∀ c ∈ s, IsPlain c) :
    Reference.resolve s = some s := by
  induction s with
  | nil => rfl
  | cons c s ih =>
    rw [Reference.resolve_cons (hplain c List.mem_cons_self).ne_amp,
      ih fun d hd ↦ hplain d (List.mem_cons_of_mem c hd)]
    rfl

theorem trimmed_of_plain {s : List Char} (hplain : ∀ c ∈ s, IsPlain c) : trimmed s = s := by
  have hstart : trimStart s = s := List.dropWhile_eq_self_iff.2 fun _ ↦
    Bool.eq_false_iff.1 (hplain _ (List.getElem_mem _)).isSpace_eq_false
  have hend : s.reverse.dropWhile isSpace = s.reverse := List.dropWhile_eq_self_iff.2 fun _ ↦
    Bool.eq_false_iff.1 (hplain _ (List.mem_reverse.1 (List.getElem_mem _))).isSpace_eq_false
  rw [trimmed, hstart, dropSpaceAtEnd, hend, List.reverse_reverse]

namespace Escaped

/-- What is read of a text. -/
def core (text : Escaped) : List Char := (Reference.resolve (trimmed text.raw)).getD []

/-- What is read of a text is its value, white space at the ends apart. -/
theorem exists_eq_append_core (text : Escaped) :
    Reference.resolve (trimmed text.raw) = some text.core ∧
      ∃ front back : Space, text.value = front.chars ++ text.core ++ back.chars := by
  obtain ⟨front, back, hraw⟩ := exists_eq_append_trimmed text.raw
  have hvalue := text.resolve_eq
  rw [hraw, Reference.resolve, Reference.resolveFrom_append_space back.isSpace, ← Reference.resolve,
    Reference.resolve_space_append front.isSpace, Option.map_map] at hvalue
  obtain ⟨core, hcore, hvalue⟩ := Option.map_eq_some_iff.1 hvalue
  have heq : text.core = core := by rw [Escaped.core, hcore, Option.getD_some]
  exact ⟨heq ▸ hcore, front, back, by rw [heq, ← hvalue]; rfl⟩

/-- A text that is written as it stands. -/
def ofPlain (s : List Char) (hplain : ∀ c ∈ s, IsPlain c) : Escaped where
  raw := s
  value := s
  not_mem := fun hmem ↦ (hplain _ hmem).ne_lt rfl
  resolve_eq := resolve_of_plain hplain

theorem core_ofPlain {s : List Char} (hplain : ∀ c ∈ s, IsPlain c) :
    (ofPlain s hplain).core = s := by
  rw [core, ofPlain, trimmed_of_plain hplain, resolve_of_plain hplain, Option.getD_some]

/-- What the tree has of a text. -/
def nodes (text : Escaped) : List Node :=
  if (trimmed text.raw).isEmpty then [] else [.text (some (String.ofList text.core))]

def events (text : Escaped) : List Event :=
  if (trimmed text.raw).isEmpty then [] else [.text (some (String.ofList text.core))]

end Escaped

end DynamicDns.Xml
