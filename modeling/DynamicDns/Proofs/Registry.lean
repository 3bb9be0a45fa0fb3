import DynamicDns.Proofs.LastWrite
import DynamicDns.Registry
import Mathlib.Data.List.Nodup

/-!
# Registries over a session

In whatever order providers are registered and however often, and whatever is asked in between, the registry
makes updaters for each provider as it was told last, and lists the providers by their names. It does not
matter in which order the registered providers are kept, for there is only one way to sort them.
-/

namespace DynamicDns.Registry

open LastWrite (IsLast Leave Replaces get_foldl_eq_some_iff leaves not_leave_iff run_mapM_snd)

variable {r : Registry} {provider : Provider} {maker : Updater.Maker} {calls : List Call}

/-! ## The list of providers -/

theorem insertByName_perm (provider : Provider) (providers : List Provider) :
    (insertByName provider providers).Perm (provider :: providers) := by
  induction providers with
  | nil => exact .refl _
  | cons first rest ih =>
    unfold insertByName
    split_ifs
    · exact .refl _
    · exact (ih.cons first).trans (.swap provider first rest)

/-- A list that is sorted stays so when a provider with a new name is put into it. -/
theorem pairwise_insertByName {providers : List Provider}
    (h : providers.Pairwise fun p q ↦ p.name < q.name) (hnew : provider ∉ providers) :
    (insertByName provider providers).Pairwise fun p q ↦ p.name < q.name := by
  induction providers with
  | nil => exact List.pairwise_singleton _ _
  | cons first rest ih =>
    obtain ⟨hfirst, hrest⟩ := List.pairwise_cons.1 h
    obtain ⟨hne, hnew⟩ := not_or.1 (List.mem_cons.not.1 hnew)
    unfold insertByName
    split_ifs with hlt
    · refine List.pairwise_cons.2 ⟨List.forall_mem_cons.2 ⟨hlt, fun q hq ↦ ?_⟩, h⟩
      exact String.lt_trans hlt (hfirst q hq)
    · refine List.pairwise_cons.2 ⟨fun q hq ↦ ?_, ih hrest hnew⟩
      rcases List.mem_cons.1 ((insertByName_perm provider rest).mem_iff.1 hq) with rfl | hq
      · exact Std.lt_of_le_of_ne (String.not_lt.1 hlt) fun hname ↦ hne (Provider.name_inj hname).symm
      · exact hfirst q hq

theorem foldr_insertByName_perm (providers : List Provider) :
    (providers.foldr insertByName []).Perm providers := by
  induction providers with
  | nil => exact .refl _
  | cons provider rest ih => exact (insertByName_perm provider _).trans (ih.cons provider)

/-- Sorting puts providers that are all different in the order of their names. -/
theorem pairwise_foldr_insertByName {providers : List Provider} (h : providers.Nodup) :
    (providers.foldr insertByName []).Pairwise fun p q ↦ p.name < q.name := by
  induction providers with
  | nil => exact .nil
  | cons provider rest ih =>
    obtain ⟨hnew, hrest⟩ := List.nodup_cons.1 h
    exact pairwise_insertByName (ih hrest) fun hmem ↦
      hnew ((foldr_insertByName_perm rest).mem_iff.1 hmem)

theorem contains_iff : r.contains provider = true ↔ provider ∈ r.entries.map Prod.fst := by
  simp [contains, maker?]

theorem mem_toList : provider ∈ r.toList ↔ r.contains provider = true := by
  rw [contains_iff, toList, (foldr_insertByName_perm _).mem_iff]

theorem pairwise_toList (r : Registry) : r.toList.Pairwise fun p q ↦ p.name < q.name :=
  pairwise_foldr_insertByName r.nodup

theorem nodup_toList (r : Registry) : r.toList.Nodup :=
  (pairwise_toList r).imp fun hlt heq ↦ String.ne_of_lt hlt (congrArg Provider.name heq)

theorem pairwise_mergeSort_name (keys : List Provider) :
    (keys.mergeSort fun p q ↦ p.name ≤ q.name).Pairwise fun p q ↦ p.name ≤ q.name := by
  have htrans : ∀ p q s : Provider, decide (p.name ≤ q.name) = true → decide (q.name ≤ s.name) = true →
      decide (p.name ≤ s.name) = true := fun p q s hpq hqs ↦
    decide_eq_true (String.le_trans (of_decide_eq_true hpq) (of_decide_eq_true hqs))
  have htotal : ∀ p q : Provider, (decide (p.name ≤ q.name) || decide (q.name ≤ p.name)) = true :=
    fun p q ↦ by simpa using String.le_total p.name q.name
  exact (List.pairwise_mergeSort htrans htotal keys).imp of_decide_eq_true

/-- The list comes from sorting the registered providers, however they are enumerated. -/
theorem mergeSort_eq_toList {keys : List Provider} (hnodup : keys.Nodup)
    (hkeys : ∀ provider, provider ∈ keys ↔ r.contains provider = true) :
    keys.mergeSort (fun p q ↦ p.name ≤ q.name) = r.toList := by
  have hperm : (keys.mergeSort fun p q ↦ p.name ≤ q.name).Perm r.toList := by
    refine (List.mergeSort_perm _ _).trans ?_
    rw [List.perm_ext_iff_of_nodup hnodup (nodup_toList r)]
    intro provider
    rw [hkeys, mem_toList]
  have hsorted : r.toList.Pairwise fun p q ↦ p.name ≤ q.name := (pairwise_toList r).imp Std.le_of_lt
  refine List.Perm.eq_of_pairwise ?_ (pairwise_mergeSort_name keys) hsorted hperm
  intro p q _ _ hpq hqp
  exact Provider.name_inj (String.le_antisymm hpq hqp)

/-! ## Making updaters -/

theorem create_of_maker? (h : r.maker? provider = some maker) : r.create provider = maker := by
  rw [create, h]

theorem create_of_not_contains (h : ¬ r.contains provider = true) :
    r.create provider = fun _ _ _ _ ↦ .error (.unknownProvider provider.name) := by
  rw [contains, Bool.not_eq_true, Option.isSome_eq_false_iff, Option.isNone_iff_eq_none] at h
  rw [create, h]

/-! ## Sessions -/

namespace Call

/-- A call registers a provider, and how its updaters are made. -/
def Registers (call : Call) (entry : Provider × Updater.Maker) : Prop :=
  call = .register entry.1 entry.2

def isRegistration : Call → Bool
  | register _ _ => true
  | _ => false

theorem leaves_eq_self {call : Call} (h : call.isRegistration = false) (s : Session) :
    leaves perform s call = s := by
  cases call with
  | register provider maker => cases h
  | contains provider => rfl
  | toList => rfl
  | inspect => rfl
  | create provider blob domain host version => rfl

/-- Only the registrations matter for the registry and for the log. -/
theorem foldl_filter_isRegistration (calls : List Call) (s : Session) :
    (calls.filter isRegistration).foldl (leaves perform) s = calls.foldl (leaves perform) s := by
  induction calls generalizing s with
  | nil => rfl
  | cons call later ih =>
    cases hcall : call.isRegistration with
    | true => rw [List.filter_cons_of_pos hcall, List.foldl_cons, List.foldl_cons, ih]
    | false =>
      rw [List.filter_cons_of_neg (by simp [hcall]), List.foldl_cons, leaves_eq_self hcall, ih]

theorem replaces (s : Session) (call : Call) :
    Replaces Registers Prod.fst some (fun s provider ↦ (s.registry.maker? provider).map (provider, ·))
      (leaves perform) s call := by
  cases hcall : call.isRegistration with
  | true =>
    cases call with
    | register provider maker =>
      refine .writes (b := (provider, maker)) (fun entry ↦ ?_) fun other ↦ ?_
      · simp [Registers, Prod.ext_iff, eq_comm]
      · change (((s.registry.register provider maker).maker? other).map _) = _
        rw [maker?_register]
        by_cases hother : other = provider
        · rw [if_pos hother, if_pos hother.symm, hother]
          rfl
        · rw [if_neg hother, if_neg (Ne.symm hother)]
    | _ => cases hcall
  | false =>
    refine .leaves (fun entry hentry ↦ ?_) fun other ↦ by rw [leaves_eq_self hcall]
    rw [hentry] at hcall
    cases hcall

/-- What the registry has for a provider is what was registered for it last. -/
theorem maker?_foldl_leaves :
    (calls.foldl (leaves perform) .start).registry.maker? provider = some maker ↔
      IsLast Registers Prod.fst (provider, maker) calls := by
  have hget : ((calls.foldl (leaves perform) .start).registry.maker? provider).map (provider, ·) =
      some (provider, maker) ↔ _ := get_foldl_eq_some_iff replaces .start
  simpa [Session.start] using hget

theorem not_leave_registers :
    ¬ Leave Registers Prod.fst provider calls ↔ ∃ maker, register provider maker ∈ calls := by
  constructor
  · intro hnot
    simp only [Leave, not_forall, not_not] at hnot
    obtain ⟨_, hmem, ⟨_, maker⟩, rfl, rfl⟩ := hnot
    exact ⟨maker, hmem⟩
  · rintro ⟨maker, hmem⟩ hleave
    exact hleave _ hmem (provider, maker) rfl rfl

theorem exists_isLast_iff :
    (∃ maker, IsLast Registers Prod.fst (provider, maker) calls) ↔
      ∃ maker, register provider maker ∈ calls := by
  rw [← not_leave_registers, not_leave_iff]
  exact ⟨fun ⟨maker, h⟩ ↦ ⟨(provider, maker), rfl, h⟩, fun ⟨⟨_, maker⟩, rfl, h⟩ ↦ ⟨maker, h⟩⟩

theorem contains_foldl_leaves :
    (calls.foldl (leaves perform) .start).registry.contains provider = true ↔
      ∃ maker, register provider maker ∈ calls := by
  rw [Registry.contains, Option.isSome_iff_exists, ← exists_isLast_iff]
  exact exists_congr fun _ ↦ maker?_foldl_leaves

/-- After whatever calls, the registry knows the providers that were registered, and no others. It lists
each of them once, in the order of their names, as sorting them would. For each it makes updaters as was
registered last, and for any other provider it fails and names it. Asking for something, a failing creation
included, changes neither the registry nor the log, so nothing that was asked before matters. -/
theorem registry_holds_what_was_registered_last (calls : List Call) :
    let held := ((performAll calls).run .start).2
    (∀ provider, held.registry.contains provider = true ↔
      ∃ maker, register provider maker ∈ calls) ∧
    (held.registry.toList.Pairwise (fun p q ↦ p.name < q.name) ∧
      (∀ provider, provider ∈ held.registry.toList ↔ ∃ maker, register provider maker ∈ calls) ∧
      ∀ keys : List Provider, keys.Nodup →
        (∀ provider, provider ∈ keys ↔ ∃ maker, register provider maker ∈ calls) →
        keys.mergeSort (fun p q ↦ p.name ≤ q.name) = held.registry.toList) ∧
    (∀ provider,
      ((∃ maker, register provider maker ∈ calls) →
        ∃ maker, IsLast Registers Prod.fst (provider, maker) calls) ∧
      (∀ maker, IsLast Registers Prod.fst (provider, maker) calls →
        ∀ blob domain host version,
          held.registry.create provider blob domain host version = maker blob domain host version) ∧
      ((∀ maker, register provider maker ∉ calls) →
        ∀ blob domain host version,
          held.registry.create provider blob domain host version =
            .error (.unknownProvider provider.name))) ∧
    (∀ call : Call, call.isRegistration = false → (call.perform.run held).2 = held) ∧
    ((performAll (calls.filter isRegistration)).run .start).2 = held := by
  intro held
  have hheld : held = calls.foldl (leaves perform) .start := run_mapM_snd perform calls .start
  have hcontains : ∀ provider, held.registry.contains provider = true ↔
      ∃ maker, register provider maker ∈ calls := fun _ ↦ hheld ▸ contains_foldl_leaves
  refine ⟨hcontains, ⟨pairwise_toList _, fun provider ↦ ?_, fun keys hnodup hkeys ↦ ?_⟩,
    fun provider ↦ ⟨exists_isLast_iff.2, fun maker hlast ↦ ?_, fun hnone ↦ ?_⟩,
    fun call hcall ↦ leaves_eq_self hcall held, ?_⟩
  · rw [mem_toList, hcontains]
  · exact mergeSort_eq_toList hnodup fun provider ↦ by rw [hkeys, hcontains]
  · have hmaker : held.registry.maker? provider = some maker := hheld ▸ maker?_foldl_leaves.2 hlast
    rw [create_of_maker? hmaker]
    exact fun _ _ _ _ ↦ rfl
  · have hnot : ¬ held.registry.contains provider = true := by
      rw [hcontains]
      exact not_exists.2 hnone
    rw [create_of_not_contains hnot]
    exact fun _ _ _ _ ↦ rfl
  · rw [performAll, run_mapM_snd, foldl_filter_isRegistration, hheld]

/-- A maker that always fails is replaced by the usual one, and the other provider is asked for before it is
registered. -/
theorem early_question_and_stale_maker_do_not_matter :
    let failing : Updater.Maker := fun _ _ _ _ ↦ .error .emptyToken
    let calls := [register .namecheap failing, create .digitalOcean .null "d" "h" .ipv4,
      register .digitalOcean failing, register .namecheap (Updater.make .namecheap), toList]
    let outcome := (performAll calls).run .start
    outcome.1 = [.registered, .created (.error (.unknownProvider "digitalocean")), .registered,
      .registered, .listed [.digitalOcean, .namecheap]] ∧
    [Provider.namecheap, .digitalOcean].mergeSort (fun p q ↦ p.name ≤ q.name) =
      [.digitalOcean, .namecheap] ∧
    ∀ blob domain host version, outcome.2.registry.create .namecheap blob domain host version =
      Updater.make .namecheap blob domain host version := by
  intro failing calls outcome
  have hlast : IsLast Registers Prod.fst (.namecheap, Updater.make .namecheap) calls :=
    ⟨calls.take 3, _, [toList], rfl, rfl, by simp [Leave, Registers]⟩
  obtain ⟨-, ⟨-, -, hsort⟩, hcreate, -⟩ := registry_holds_what_was_registered_last calls
  have hlisted : outcome.2.registry.toList = [.digitalOcean, .namecheap] := by
    have hkeys : outcome.2.registry.entries.map Prod.fst = [.namecheap, .digitalOcean] := rfl
    rw [Registry.toList, hkeys]
    decide
  have hanswers : outcome.1 = [.registered, .created (.error (.unknownProvider "digitalocean")),
      .registered, .registered, .listed outcome.2.registry.toList] := rfl
  refine ⟨hlisted ▸ hanswers, ?_, ?_⟩
  · rw [← hlisted]
    apply hsort [.namecheap, .digitalOcean] (by decide)
    intro provider
    cases provider <;> simp [calls]
  · exact (hcreate .namecheap).2.1 (Updater.make .namecheap) hlast

theorem foldl_leaves_usual (providers : List Provider) (s : Session) :
    (providers.map fun p ↦ register p (Updater.make p)).foldl (leaves perform) s =
      ⟨providers.foldl (fun r p ↦ r.registerUsual p) s.registry,
        s.events ++ providers.map registering⟩ := by
  induction providers generalizing s with
  | nil =>
    rw [List.map_nil, List.map_nil, List.append_nil]
    rfl
  | cons provider rest ih =>
    rw [List.map_cons, List.foldl_cons, ih, List.map_cons, List.append_cons]
    rfl

/-- A registry made from a list is that of a session in which the providers of the list are registered. -/
theorem ofList_eq_session (providers : List Provider) :
    ((performAll (providers.map fun p ↦ register p (Updater.make p))).run .start).2 =
      ⟨ofList providers, providers.map registering⟩ := by
  rw [performAll, run_mapM_snd, foldl_leaves_usual]
  rfl

end Call

end DynamicDns.Registry
