import DynamicDns.Json.Field
import DynamicDns.Proofs.Result

/-!
# Where decoded values come from

A decoder of a structure passes over what it does not ask for. A field that may be set once is set by
the only member with its name, and the items of an array are decoded one for one. So whatever a decoder
returns can be found in the text.
-/

namespace DynamicDns.Json

open DynamicDns.Result

variable {α : Type}

namespace Tree

/-! ## Members -/

/-- The values that stand under a name in an object. -/
def valuesAt (name : String) (members : List Member) : List Tree :=
  members.filterMap fun member ↦ if member.1 = some name then some member.2 else none

variable {name key : String} {t : Tree} {members rest : List Member}

theorem valuesAt_cons_self (name : String) (t : Tree) (rest : List Member) :
    valuesAt name ((some name, t) :: rest) = t :: valuesAt name rest :=
  List.filterMap_cons_some (if_pos rfl)

theorem valuesAt_cons_of_ne (h : key ≠ name) (t : Tree) (rest : List Member) :
    valuesAt name ((some key, t) :: rest) = valuesAt name rest :=
  List.filterMap_cons_none (if_neg fun hkey ↦ h (Option.some.inj hkey))

section FoldMembers

variable {σ : Type} {member : σ → String → Tree → Decoded σ} {s s' : σ}

theorem foldMembers_cons_eq_ok {first : Member} (h : foldMembers member s (first :: rest) = .ok s') :
    ∃ key next, first.1 = some key ∧ member s key first.2 = .ok next ∧
      foldMembers member next rest = .ok s' := by
  obtain ⟨key, t⟩ := first
  cases key with
  | none => cases h
  | some key =>
    simp only [foldMembers] at h
    split at h
    · next next hnext => exact ⟨key, next, rfl, hnext, h⟩
    · cases h

/-- A field of a state that the member with a name sets, if it was not set before, and no other one. -/
structure SetsOnce (member : σ → String → Tree → Decoded σ) (name : String)
    (decode : Tree → Decoded α) (field : σ → Option α) : Prop where
  own : ∀ {s t s'}, member s name t = .ok s' →
    field s = none ∧ ∃ a, decode t = .ok a ∧ field s' = some a
  other : ∀ {s key t s'}, member s key t = .ok s' → key ≠ name → field s' = field s

/-- After all members the field is as before, or is set by the only member with its name. -/
theorem SetsOnce.foldMembers {decode : Tree → Decoded α} {field : σ → Option α}
    (h : SetsOnce member name decode field) (hfold : foldMembers member s members = .ok s') :
    (valuesAt name members = [] ∧ field s' = field s) ∨
      field s = none ∧ ∃ t a, valuesAt name members = [t] ∧ decode t = .ok a ∧ field s' = some a := by
  induction members generalizing s with
  | nil =>
    cases hfold
    exact .inl ⟨rfl, rfl⟩
  | cons first rest ih =>
    obtain ⟨key, t⟩ := first
    obtain ⟨key, next, rfl, hnext, hrest⟩ := foldMembers_cons_eq_ok hfold
    by_cases hkey : key = name
    · subst hkey
      obtain ⟨hunset, a, ha, hset⟩ := h.own hnext
      rcases ih hrest with ⟨hnone, hkept⟩ | ⟨hagain, -⟩
      · right
        refine ⟨hunset, t, a, ?_, ha, hkept.trans hset⟩
        rw [valuesAt_cons_self, hnone]
      · -- A second member with the name would find the field set.
        cases hset.symm.trans hagain
    · rw [valuesAt_cons_of_ne hkey, ← h.other hnext hkey]
      exact ih hrest

/-- A field that is set by members only has its value from one of them. -/
theorem SetsOnce.exists_value {decode : Tree → Decoded α} {field : σ → Option α}
    (h : SetsOnce member name decode field) (hfold : Tree.foldMembers member s members = .ok s')
    (hunset : field s = none) {a : α} (hset : field s' = some a) :
    ∃ t, valuesAt name members = [t] ∧ decode t = .ok a := by
  rcases h.foldMembers hfold with ⟨-, hkept⟩ | ⟨-, t, a', hvalues, ha, hset'⟩
  · rw [hset, hunset] at hkept
    cases hkept
  · cases hset.symm.trans hset'
    exact ⟨t, hvalues, ha⟩

end FoldMembers

theorem setsOnce_addMember (name : String) (decode : Tree → Decoded α) :
    SetsOnce (addMember name decode) name decode id := by
  constructor
  · intro old t result h
    rw [addMember, if_pos rfl] at h
    cases old with
    | none =>
      obtain ⟨a, ha, rfl⟩ := map_eq_ok_iff.1 h
      exact ⟨rfl, a, ha, rfl⟩
    | some a => cases h
  · intro old key t result h hkey
    rw [addMember, if_neg hkey] at h
    obtain ⟨_, -, rfl⟩ := map_eq_ok_iff.1 h
    rfl

/-! ## Structures with one field -/

theorem checkClosed_eq_ok {ending : Ending} (h : checkClosed ending = .ok ()) : ending = .closed := by
  unfold checkClosed at h
  split at h
  · next hclosed => exact hclosed
  · cases h

/-- The only field of a structure has a value. -/
inductive HasOnly (t : Tree) (name : String) (v : Tree) : Prop where
  | object {members : List Member} : t = .object members .closed → valuesAt name members = [v] →
    HasOnly t name v
  | array : t = .array [v] .closed → HasOnly t name v

theorem onlyField?_eq_ok {owner : String} {decode : Tree → Decoded α} {result : Option α}
    (h : onlyField? owner name decode t = .ok result) :
    result = none ∨ ∃ v a, t.HasOnly name v ∧ decode v = .ok a ∧ result = some a := by
  unfold onlyField? at h
  split at h
  · obtain ⟨field, hfold, h⟩ := bind_eq_ok_iff.1 h
    obtain ⟨_, hending, h⟩ := bind_eq_ok_iff.1 h
    cases h
    cases checkClosed_eq_ok hending
    rcases (setsOnce_addMember name decode).foldMembers hfold with
      ⟨-, hnone⟩ | ⟨-, v, a, hvalues, ha, hset⟩
    · exact .inl hnone
    · exact .inr ⟨v, a, .object rfl hvalues, ha, hset⟩
  · obtain ⟨-, -, rfl⟩ := map_eq_ok_iff.1 h
    exact .inl rfl
  · next first rest ending =>
    obtain ⟨a, ha, h⟩ := bind_eq_ok_iff.1 h
    obtain ⟨_, hdone, h⟩ := bind_eq_ok_iff.1 h
    cases h
    cases rest with
    | nil =>
      cases checkClosed_eq_ok hdone
      exact .inr ⟨first, a, .array rfl, ha, rfl⟩
    | cons second rest => cases hdone
  · cases h

theorem onlyFieldOr_eq_ok {owner : String} {default a : α} {decode : Tree → Decoded α}
    (h : onlyFieldOr owner name default decode t = .ok a) :
    a = default ∨ ∃ v, t.HasOnly name v ∧ decode v = .ok a := by
  obtain ⟨result, hresult, rfl⟩ := map_eq_ok_iff.1 h
  rcases onlyField?_eq_ok hresult with rfl | ⟨v, a, hv, ha, rfl⟩
  · exact .inl rfl
  · exact .inr ⟨v, hv, ha⟩

/-! ## Arrays -/

theorem decodeItems_eq_mapM (item : Tree → Decoded α) (items : List Tree) :
    decodeItems item items = items.mapM item := by
  induction items with
  | nil => rfl
  | cons t rest ih =>
    rw [decodeItems, List.mapM_cons, ← ih]
    cases item t with
    | error e => rfl
    | ok a => cases decodeItems item rest <;> rfl

/-- The items are decoded one for one. -/
theorem decodeItems_eq_ok_iff {item : Tree → Decoded α} {items : List Tree} {all : List α} :
    decodeItems item items = .ok all ↔ List.Forall₂ (fun t a ↦ item t = .ok a) items all := by
  rw [decodeItems_eq_mapM, mapM_eq_ok_iff]

theorem asArray_eq_ok {item : Tree → Decoded α} {all : List α} (h : asArray item t = .ok all) :
    ∃ items, t = .array items .closed ∧ List.Forall₂ (fun t a ↦ item t = .ok a) items all := by
  unfold asArray at h
  split at h
  · next items ending =>
    obtain ⟨all', hall, h⟩ := bind_eq_ok_iff.1 h
    obtain ⟨_, hending, h⟩ := bind_eq_ok_iff.1 h
    cases h
    cases checkClosed_eq_ok hending
    exact ⟨items, rfl, decodeItems_eq_ok_iff.1 hall⟩
  · cases h

theorem asOption_eq_ok {decode : Tree → Decoded α} {a : α}
    (h : asOption decode t = .ok (some a)) : decode t = .ok a := by
  unfold asOption at h
  split at h
  · cases h
  · obtain ⟨b, hb, h⟩ := map_eq_ok_iff.1 h
    cases h
    exact hb

theorem asNat_lt {n : Nat} (h : asNat t = .ok n) : n < 0x10000000000000000 := by
  unfold asNat at h
  split at h
  · next i =>
    split at h
    · cases h
      have hupper := i.upper
      omega
    · cases h
  · cases h

end Tree

/-- The tree of a text. -/
def tree (text : String) : Tree := (Tree.read (tokens text.toList)).1

theorem decodeText_eq_ok {decode : Tree → Decoded α} {text : String} {a : α}
    (h : decodeText decode text = .ok a) : decode (tree text) = .ok a := by
  unfold decodeText at h
  simp only at h
  split at h
  · next a' ha =>
    split at h
    · cases h
      exact ha
    · cases h
  · cases h

end DynamicDns.Json
