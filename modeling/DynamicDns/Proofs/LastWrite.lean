import Mathlib.Data.List.Basic

/-!
# The last write counts

A store is written step by step, and some steps write nothing. If every step that does replaces what the
store holds for one key and leaves what it holds for the others, then in the end the store holds for each
key what was written last, or what it held before if nothing was.
-/

namespace DynamicDns.LastWrite

variable {σ α β κ γ ρ : Type} {Writes : α → β → Prop} {key : β → κ} {step : α} {steps : List α} {k : κ} {b : β}

/-- No step writes for the key. -/
def Leave (Writes : α → β → Prop) (key : β → κ) (k : κ) (steps : List α) : Prop :=
  ∀ step ∈ steps, ∀ b, Writes step b → key b ≠ k

/-- The last of the steps that write for the key of an entry writes this entry. -/
def IsLast (Writes : α → β → Prop) (key : β → κ) (b : β) (steps : List α) : Prop :=
  ∃ before step after, steps = before ++ step :: after ∧ Writes step b ∧
    Leave Writes key (key b) after

theorem leave_cons : Leave Writes key k (step :: steps) ↔
    (∀ b, Writes step b → key b ≠ k) ∧ Leave Writes key k steps :=
  List.forall_mem_cons

theorem isLast_cons : IsLast Writes key b (step :: steps) ↔
    IsLast Writes key b steps ∨ Writes step b ∧ Leave Writes key (key b) steps := by
  constructor
  · rintro ⟨before, writer, after, hsplit, hwrites, hafter⟩
    cases before with
    | nil =>
      cases hsplit
      exact .inr ⟨hwrites, hafter⟩
    | cons first before =>
      cases hsplit
      exact .inl ⟨before, writer, after, rfl, hwrites, hafter⟩
  · rintro (⟨before, writer, after, rfl, hwrites, hafter⟩ | ⟨hwrites, hafter⟩)
    · exact ⟨step :: before, writer, after, rfl, hwrites, hafter⟩
    · exact ⟨[], step, steps, rfl, hwrites, hafter⟩

/-- Either nothing was written for a key, or something was written last. -/
theorem not_leave_iff : ¬ Leave Writes key k steps ↔ ∃ b, key b = k ∧ IsLast Writes key b steps := by
  induction steps with
  | nil => simp [Leave, IsLast]
  | cons step later ih =>
    simp only [leave_cons, isLast_cons]
    grind

/-- A step writes one entry, whose value takes the place of what the store holds for its key, or writes none
and leaves everything. -/
inductive Replaces [DecidableEq κ] (Writes : α → β → Prop) (key : β → κ) (value : β → γ)
    (get : σ → κ → γ) (next : σ → α → σ) (s : σ) (step : α) : Prop
  | writes {b : β} (written : ∀ b', Writes step b' ↔ b' = b)
    (get_next : ∀ k, get (next s step) k = if key b = k then value b else get s k)
  | leaves (unwritten : ∀ b, ¬ Writes step b) (get_next : ∀ k, get (next s step) k = get s k)

section Replaces

variable [DecidableEq κ] {value : β → γ} {get : σ → κ → γ} {next : σ → α → σ}

/-- A store keeps for a key what nothing was written for. -/
theorem get_foldl_of_leave (h : ∀ s step, Replaces Writes key value get next s step) (s : σ)
    (hleave : Leave Writes key k steps) : get (steps.foldl next s) k = get s k := by
  induction steps generalizing s with
  | nil => rfl
  | cons step later ih =>
    obtain ⟨hstep, hlater⟩ := leave_cons.1 hleave
    rw [List.foldl_cons, ih _ hlater]
    cases h s step with
    | @writes b written get_next => rw [get_next, if_neg (hstep b ((written b).2 rfl))]
    | leaves _ get_next => exact get_next k

/-- In the end a store holds for a key what was written last. -/
theorem get_foldl_of_isLast (h : ∀ s step, Replaces Writes key value get next s step) (s : σ)
    (hlast : IsLast Writes key b steps) : get (steps.foldl next s) (key b) = value b := by
  obtain ⟨before, step, after, rfl, hwrites, hafter⟩ := hlast
  rw [List.foldl_append, List.foldl_cons, get_foldl_of_leave h _ hafter]
  cases h (before.foldl next s) step with
  | @writes b' written get_next =>
    obtain rfl := (written b).1 hwrites
    rw [get_next, if_pos rfl]
  | leaves unwritten _ => exact absurd hwrites (unwritten b)

end Replaces

/-- What a store with at most one entry for each key holds in the end. -/
theorem get_foldl_eq_some_iff [DecidableEq κ] {get : σ → κ → Option β} {next : σ → α → σ}
    (h : ∀ s step, Replaces Writes key some get next s step) (s : σ) :
    get (steps.foldl next s) k = some b ↔
      key b = k ∧ IsLast Writes key b steps ∨ Leave Writes key k steps ∧ get s k = some b := by
  by_cases hleave : Leave Writes key k steps
  · have hnot : ¬ (key b = k ∧ IsLast Writes key b steps) := fun hlast ↦
      not_leave_iff.2 ⟨b, hlast⟩ hleave
    rw [get_foldl_of_leave h s hleave, or_iff_right hnot, and_iff_right hleave]
  · obtain ⟨last, rfl, hlast⟩ := not_leave_iff.1 hleave
    rw [get_foldl_of_isLast h s hlast, or_iff_left fun hkept ↦ hleave hkept.1]
    constructor
    · rintro ⟨⟩
      exact ⟨rfl, hlast⟩
    · rintro ⟨hkey, hb⟩
      rw [← get_foldl_of_isLast h s hlast, ← hkey]
      exact get_foldl_of_isLast h s hb

/-! ## Steps with results -/

variable {perform : α → StateM σ ρ}

/-- The state that a step leaves, whatever its result. -/
def leaves (perform : α → StateM σ ρ) (s : σ) (step : α) : σ := ((perform step).run s).2

theorem run_mapM_cons (perform : α → StateM σ ρ) (step : α) (later : List α) (s : σ) :
    ((step :: later).mapM perform).run s =
      let first := (perform step).run s
      let rest := (later.mapM perform).run first.2
      (first.1 :: rest.1, rest.2) := by
  rw [List.mapM_cons]
  rfl

theorem run_mapM_snd (perform : α → StateM σ ρ) (steps : List α) (s : σ) :
    ((steps.mapM perform).run s).2 = steps.foldl (leaves perform) s := by
  induction steps generalizing s with
  | nil => rfl
  | cons step later ih =>
    rw [run_mapM_cons, List.foldl_cons, leaves]
    exact ih _

end DynamicDns.LastWrite
