import DynamicDns.Json.Basic
import Mathlib.Data.List.Forall2
import Mathlib.Data.List.Induction
import Mathlib.Data.String.Basic

/-!
# Members in order

The members of an object stand in increasing order of their keys. A member is put at its place whatever
was put before it and is found there, so members with different keys may come in any order, and members
that are in order already stay as they are.
-/

namespace DynamicDns.Json

variable {key key' other : String} {v v' : Json} {members members' : Members}

/-- Each key is below the keys after it. -/
def IsSorted (members : Members) : Prop := members.Pairwise fun m m' ↦ m.1 < m'.1

/-- The keys of the members. -/
def keys (members : Members) : List String := members.map Prod.fst

theorem IsSorted.nodup_keys (h : IsSorted members) : (keys members).Nodup := by
  unfold keys List.Nodup
  rw [List.pairwise_map]
  exact h.imp fun hlt ↦ ne_of_lt hlt

/-- The order is that of the keys. -/
theorem IsSorted.of_keys_eq (h : IsSorted members) (hkeys : keys members' = keys members) :
    IsSorted members' := by
  unfold IsSorted at h ⊢
  unfold keys at hkeys
  rw [← List.pairwise_map] at h ⊢
  rw [hkeys]
  exact h

theorem keys_eq_of_forall₂ (h : List.Forall₂ (fun m m' ↦ m.1 = m'.1) members members') :
    keys members = keys members' := by
  induction h with
  | nil => rfl
  | cons hm _ ih => exact congrArg₂ List.cons hm ih

/-! ## Putting one member -/

theorem mem_insert {m : String × Json} (h : m ∈ insert key v members) :
    m = (key, v) ∨ m ∈ members := by
  induction members with
  | nil => exact .inl (List.mem_singleton.1 h)
  | cons first rest ih =>
    rw [insert] at h
    split at h
    · exact (List.mem_cons.1 h).imp_right (List.mem_cons_of_mem _)
    split at h
    · exact List.mem_cons.1 h
    · rcases List.mem_cons.1 h with rfl | h
      · exact .inr List.mem_cons_self
      · exact (ih h).imp_right (List.mem_cons_of_mem _)

theorem isSorted_insert (key : String) (v : Json) (h : IsSorted members) :
    IsSorted (insert key v members) := by
  induction members with
  | nil => exact List.pairwise_singleton _ _
  | cons first rest ih =>
    obtain ⟨hfirst, hrest⟩ := List.pairwise_cons.1 h
    rw [insert]
    split
    · next hsame => exact List.pairwise_cons.2 ⟨hsame ▸ hfirst, hrest⟩
    split
    · next hlt =>
      refine List.pairwise_cons.2 ⟨List.forall_mem_cons.2 ⟨hlt, ?_⟩, h⟩
      exact fun m hm ↦ lt_trans hlt (hfirst m hm)
    · next hne hle =>
      refine List.pairwise_cons.2 ⟨fun m hm ↦ ?_, ih hrest⟩
      rcases mem_insert hm with rfl | hm
      · exact lt_of_le_of_ne (not_lt.1 hle) (Ne.symm hne)
      · exact hfirst m hm

/-- A member with the greatest key comes last. -/
theorem insert_of_forall_lt (h : ∀ m ∈ members, m.1 < key) :
    insert key v members = members ++ [(key, v)] := by
  induction members with
  | nil => rfl
  | cons first rest ih =>
    obtain ⟨hfirst, hrest⟩ := List.forall_mem_cons.1 h
    rw [insert, if_neg (ne_of_gt hfirst), if_neg (not_lt_of_gt hfirst), ih hrest, List.cons_append]

/-- A new key adds one member. -/
theorem perm_insert (h : key ∉ keys members) :
    (insert key v members).Perm ((key, v) :: members) := by
  induction members with
  | nil => exact .refl _
  | cons first rest ih =>
    obtain ⟨hfirst, hrest⟩ := not_or.1 (fun hmem ↦ h (List.mem_cons.2 hmem))
    rw [insert, if_neg hfirst]
    split
    · exact .refl _
    · exact ((ih hrest).cons first).trans (.swap _ _ _)

/-- Two members with different keys may be put in either order. -/
theorem insert_comm (h : key ≠ key') (v v' : Json) (members : Members) :
    insert key v (insert key' v' members) = insert key' v' (insert key v members) := by
  induction members with
  | nil =>
    rcases lt_or_gt_of_ne h with hlt | hlt
    · simp [insert, h, h.symm, hlt, not_lt_of_gt hlt]
    · simp [insert, h, h.symm, hlt, not_lt_of_gt hlt]
  | cons first rest ih =>
    -- The new keys are compared with the first one and with each other.
    grind [insert]

/-! ## Finding a member -/

theorem lookup?_cons (key other : String) (v : Json) (rest : Members) :
    lookup? key ((other, v) :: rest) = if other = key then some v else lookup? key rest := by
  unfold lookup?
  split
  · next h => simp [h]
  · next h => simp [h]

theorem lookup?_insert_self (key : String) (v : Json) (members : Members) :
    lookup? key (insert key v members) = some v := by
  induction members with
  | nil => rw [insert, lookup?_cons, if_pos rfl]
  | cons member rest ih =>
    rw [insert]
    split
    · rw [lookup?_cons, if_pos rfl]
    · next hne =>
      split
      · rw [lookup?_cons, if_pos rfl]
      · rw [lookup?_cons, if_neg (Ne.symm hne), ih]

theorem lookup?_insert_of_ne (h : other ≠ key) (v : Json) (members : Members) :
    lookup? key (insert other v members) = lookup? key members := by
  induction members with
  | nil => rw [insert, lookup?_cons, if_neg h]
  | cons member rest ih =>
    rw [insert]
    split
    · next hsame => rw [lookup?_cons, if_neg h, lookup?_cons, if_neg (hsame ▸ h)]
    · split
      · rw [lookup?_cons, if_neg h]
      · rw [lookup?_cons, lookup?_cons, ih]

/-! ## Putting all members -/

theorem ofMembers_concat (members : Members) (m : String × Json) :
    ofMembers (members ++ [m]) = insert m.1 m.2 (ofMembers members) := by
  rw [ofMembers, List.foldl_concat, ← ofMembers]

theorem isSorted_ofMembers (members : Members) : IsSorted (ofMembers members) := by
  induction members using List.reverseRecOn with
  | nil => exact List.Pairwise.nil
  | append_singleton members m ih =>
    rw [ofMembers_concat]
    exact isSorted_insert m.1 m.2 ih

theorem mem_of_mem_ofMembers {m : String × Json} (h : m ∈ ofMembers members) : m ∈ members := by
  induction members using List.reverseRecOn with
  | nil => cases h
  | append_singleton members m' ih =>
    rw [ofMembers_concat] at h
    rcases mem_insert h with rfl | h
    · exact List.mem_concat_self
    · exact List.mem_append_left _ (ih h)

/-- No member is lost if the keys are different. -/
theorem perm_ofMembers (h : (keys members).Nodup) : (ofMembers members).Perm members := by
  induction members using List.reverseRecOn with
  | nil => exact .refl _
  | append_singleton members m ih =>
    rw [keys, List.map_append] at h
    obtain ⟨hrest, -, hnew⟩ := List.nodup_append.1 h
    have hperm := ih hrest
    have hfresh : m.1 ∉ keys (ofMembers members) := by
      rw [keys, (hperm.map Prod.fst).mem_iff]
      exact fun hmem ↦ hnew _ hmem _ List.mem_cons_self rfl
    rw [ofMembers_concat]
    exact (perm_insert hfresh).trans
      ((hperm.cons m).trans (List.perm_append_singleton m members).symm)

/-- Members that are in order stay as they are. -/
theorem ofMembers_of_isSorted (h : IsSorted members) : ofMembers members = members := by
  induction members using List.reverseRecOn with
  | nil => rfl
  | append_singleton members m ih =>
    obtain ⟨hrest, -, hlast⟩ := List.pairwise_append.1 h
    rw [ofMembers_concat, ih hrest]
    exact insert_of_forall_lt fun m' hm' ↦ hlast m' hm' m List.mem_cons_self

end DynamicDns.Json
