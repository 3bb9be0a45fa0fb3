import Mathlib.Data.List.Forall2

/-!
# Results that may be errors

Decoders and requests are put together from parts each of which may fail. A result of the whole comes
from results of the parts, and an error of the whole is the error of one part.
-/

namespace DynamicDns.Result

variable {ε ε' α β γ : Type}

theorem bind_eq_ok_iff {x : Except ε α} {f : α → Except ε β} {b : β} :
    x >>= f = .ok b ↔ ∃ a, x = .ok a ∧ f a = .ok b := by
  cases x with
  | error e =>
    constructor
    · intro h
      cases h
    · intro h
      rcases h with ⟨a, h, -⟩
      cases h
  | ok a =>
    constructor
    · intro h
      exact ⟨a, rfl, h⟩
    · intro h
      rcases h with ⟨a', h, hf⟩
      cases h
      exact hf

theorem bind_eq_error_iff {x : Except ε α} {f : α → Except ε β} {e : ε} :
    x >>= f = .error e ↔ x = .error e ∨ ∃ a, x = .ok a ∧ f a = .error e := by
  cases x with
  | error e' =>
    constructor
    · intro h
      cases h
      exact .inl rfl
    · intro h
      rcases h with h | ⟨a, h, -⟩
      · cases h
        rfl
      · cases h
  | ok a =>
    constructor
    · intro h
      exact .inr ⟨a, rfl, h⟩
    · intro h
      rcases h with h | ⟨a', h, hf⟩
      · cases h
      · cases h
        exact hf

/-- What is put together from two results. -/
theorem bind_both_eq_ok_iff {x : Except ε α} {y : Except ε β} {f : α → β → γ} {c : γ} :
    (do
      let a ← x
      let b ← y
      .ok (f a b)) = .ok c ↔ ∃ a b, x = .ok a ∧ y = .ok b ∧ c = f a b := by
  constructor
  · intro h
    obtain ⟨a, ha, h⟩ := bind_eq_ok_iff.1 h
    obtain ⟨b, hb, h⟩ := bind_eq_ok_iff.1 h
    exact ⟨a, b, ha, hb, (Except.ok.inj h).symm⟩
  · rintro ⟨a, b, rfl, rfl, rfl⟩
    rfl

theorem map_eq_ok_iff {x : Except ε α} {f : α → β} {b : β} :
    x.map f = .ok b ↔ ∃ a, x = .ok a ∧ f a = b := by
  cases x with
  | error e => simp [Except.map]
  | ok a => simp [Except.map]

theorem map_eq_error_iff {x : Except ε α} {f : α → β} {e : ε} :
    x.map f = .error e ↔ x = .error e := by
  cases x with
  | error e => simp [Except.map]
  | ok a => simp [Except.map]

theorem mapError_eq_ok_iff {x : Except ε α} {f : ε → ε'} {a : α} :
    x.mapError f = .ok a ↔ x = .ok a := by
  cases x with
  | error e => exact ⟨nofun, nofun⟩
  | ok b =>
    constructor
    · intro h
      cases h
      rfl
    · intro h
      cases h
      rfl

theorem mapError_eq_error_iff {x : Except ε α} {f : ε → ε'} {e' : ε'} :
    x.mapError f = .error e' ↔ ∃ e, x = .error e ∧ f e = e' := by
  cases x with
  | error e =>
    constructor
    · intro h
      exact ⟨e, rfl, Except.error.inj h⟩
    · intro h
      rcases h with ⟨e', h, rfl⟩
      cases h
      rfl
  | ok b => exact ⟨nofun, nofun⟩

theorem eq_ok_of_toOption {x : Except ε α} {a : α} (h : x.toOption = some a) : x = .ok a := by
  cases x with
  | error e => cases h
  | ok b => exact congrArg Except.ok (Option.some.inj h)

theorem eq_error_of_match {x : Except ε α} {e : ε}
    (h : (match x with | .ok _ => none | .error e' => some e') = some e) : x = .error e := by
  cases x with
  | error e' => exact congrArg Except.error (Option.some.inj h)
  | ok a => cases h

/-- A good result with a property, for values that cannot be compared. -/
theorem exists_ok_of_any {p : α → Bool} {x : Except ε α} (h : x.toOption.any p = true) :
    ∃ a, x = .ok a ∧ p a = true := by
  cases x with
  | error e => cases h
  | ok a => exact ⟨a, rfl, h⟩

/-! ## Lists of results -/

section MapM

variable {f : α → Except ε β} {inputs : List α}

theorem mapM_eq_ok_iff {outputs : List β} :
    inputs.mapM f = .ok outputs ↔ List.Forall₂ (fun x y ↦ f x = .ok y) inputs outputs := by
  induction inputs generalizing outputs with
  | nil =>
    rw [List.forall₂_nil_left_iff]
    exact ⟨fun h ↦ (Except.ok.inj h).symm, fun h ↦ h ▸ rfl⟩
  | cons x inputs ih =>
    simp only [List.mapM_cons, List.forall₂_cons_left_iff, ← ih]
    exact bind_both_eq_ok_iff

/-- The error of a list of results is that of the first one that is an error. -/
theorem mapM_eq_error_iff {e : ε} :
    inputs.mapM f = .error e ↔ ∃ before x after, inputs = before ++ x :: after ∧
      (∀ y ∈ before, ∃ b, f y = .ok b) ∧ f x = .error e := by
  induction inputs with
  | nil =>
    constructor
    · nofun
    · rintro ⟨before, x, after, hinputs, -, -⟩
      exact absurd hinputs (List.append_ne_nil_of_right_ne_nil before (List.cons_ne_nil x after)).symm
  | cons x inputs ih =>
    rw [List.mapM_cons, bind_eq_error_iff]
    constructor
    · rintro (hx | ⟨y, hy, h⟩)
      · exact ⟨[], x, inputs, rfl, List.forall_mem_nil _, hx⟩
      · rcases bind_eq_error_iff.1 h with hrest | ⟨ys, -, h⟩
        · obtain ⟨before, x', after, rfl, hbefore, hx'⟩ := ih.1 hrest
          exact ⟨x :: before, x', after, rfl, List.forall_mem_cons.2 ⟨⟨y, hy⟩, hbefore⟩, hx'⟩
        · cases h
    · rintro ⟨before, x', after, hinputs, hbefore, hx'⟩
      cases before with
      | nil =>
        cases hinputs
        exact .inl hx'
      | cons first before =>
        cases hinputs
        obtain ⟨⟨y, hy⟩, hbefore⟩ := List.forall_mem_cons.1 hbefore
        exact .inr ⟨y, hy, bind_eq_error_iff.2 (.inl (ih.2 ⟨before, x', after, rfl, hbefore, hx'⟩))⟩

/-- An error of a list of results is the error of one of them. -/
theorem exists_error_of_mapM {e : ε} (h : inputs.mapM f = .error e) :
    ∃ x ∈ inputs, f x = .error e := by
  obtain ⟨before, x, after, rfl, -, hx⟩ := mapM_eq_error_iff.1 h
  exact ⟨x, List.mem_append_right before List.mem_cons_self, hx⟩

/-- What stands in one of two lists that are related entry by entry has its match in the other. -/
theorem exists_mem_of_forall₂ {R : α → β → Prop} {xs : List α} {ys : List β}
    (h : List.Forall₂ R xs ys) {x : α} (hx : x ∈ xs) : ∃ y ∈ ys, R x y := by
  induction h with
  | nil => cases hx
  | cons hy _ ih =>
    rcases List.mem_cons.1 hx with rfl | hx
    · exact ⟨_, List.mem_cons_self, hy⟩
    · obtain ⟨y, hmem, hrelated⟩ := ih hx
      exact ⟨y, List.mem_cons_of_mem _ hmem, hrelated⟩

end MapM

/-! ## Errors of one sort -/

/-- Whatever error the result is, it has the property. -/
def ErrorsAre (p : ε → Prop) (x : Except ε α) : Prop := ∀ e, x = .error e → p e

section ErrorsAre

variable {p : ε → Prop} {q : ε' → Prop}

theorem errorsAre_ok (a : α) : ErrorsAre p (.ok a : Except ε α) := nofun

theorem errorsAre_error {e : ε} (h : p e) : ErrorsAre p (.error e : Except ε α) := by
  intro e' he
  cases he
  exact h

theorem ErrorsAre.mono {p' : ε → Prop} {x : Except ε α} (hx : ErrorsAre p x)
    (h : ∀ e, p e → p' e) : ErrorsAre p' x := fun e he ↦ h e (hx e he)

theorem ErrorsAre.bind {x : Except ε α} {f : α → Except ε β} (hx : ErrorsAre p x)
    (hf : ∀ a, x = .ok a → ErrorsAre p (f a)) : ErrorsAre p (x >>= f) := by
  intro e he
  rcases bind_eq_error_iff.1 he with hfirst | ⟨a, ha, hthen⟩
  · exact hx e hfirst
  · exact hf a ha e hthen

/-- Errors that are given a name of their own. -/
theorem errorsAre_mapError {x : Except ε α} {f : ε → ε'} (hf : ∀ e, q (f e)) :
    ErrorsAre q (x.mapError f) := by
  intro e' he'
  obtain ⟨e, -, rfl⟩ := mapError_eq_error_iff.1 he'
  exact hf e

theorem ErrorsAre.map {x : Except ε α} (hx : ErrorsAre p x) (f : α → β) :
    ErrorsAre p (x.map f) := by
  intro e he
  exact hx e (map_eq_error_iff.1 he)

theorem errorsAre_mapM {f : α → Except ε β} {inputs : List α}
    (h : ∀ x ∈ inputs, ErrorsAre p (f x)) : ErrorsAre p (inputs.mapM f) := by
  intro e he
  obtain ⟨x, hx, herror⟩ := exists_error_of_mapM he
  exact h x hx e herror

end ErrorsAre

end DynamicDns.Result
