import DynamicDns.Proofs.DigitalOcean.Naming
import DynamicDns.Proofs.Publication
import DynamicDns.Proofs.WrittenJson

/-!
# Listings and the numbers in them

A listing is an object with a list of records, or with none, and each record is an object that may give
its number. The rest of both may be anything that is well formed. A lookup sees nothing of it: how it ends
depends on the numbers only, and a number that cannot be read comes before everything else.
-/

namespace DynamicDns

open DynamicDns.Result
open Http
open Json (Decoded Tree)
open Json.Tree (Member valuesAt)

/-! ## Objects with one field that counts -/

namespace Json.Tree

/-- An object that is well formed to its end, with texts for keys. -/
structure IsObject (t : Tree) (members : List Member) : Prop where
  eq : t = .object members .closed
  passable : ∀ m ∈ members, m.1.isSome = true ∧ m.2.isComplete = true

variable {α : Type} {name key owner : String} {decode : Tree → Decoded α} {t v : Tree}
  {members : List Member}

theorem addMember_self (name : String) (decode : Tree → Decoded α) (v : Tree) :
    addMember name decode none name v = (decode v).map some := if_pos rfl

theorem addMember_of_ne (hne : key ≠ name) (hcomplete : v.isComplete = true) (old : Option α) :
    addMember name decode old key v = .ok old := by
  rw [addMember, if_neg hne, skip, if_pos hcomplete]
  rfl

/-- Members with other names change nothing. -/
theorem foldMembers_addMember_of_nil (h : ∀ m ∈ members, m.1.isSome = true ∧ m.2.isComplete = true)
    (hvalues : valuesAt name members = []) (old : Option α) :
    foldMembers (addMember name decode) old members = .ok old := by
  induction members with
  | nil => rfl
  | cons m rest ih =>
    obtain ⟨key, v⟩ := m
    obtain ⟨⟨hkey, hcomplete⟩, hrest⟩ := List.forall_mem_cons.1 h
    obtain ⟨key, rfl⟩ := Option.isSome_iff_exists.1 hkey
    have hne : key ≠ name := by
      rintro rfl
      rw [valuesAt_cons_self] at hvalues
      cases hvalues
    rw [valuesAt_cons_of_ne hne] at hvalues
    rw [foldMembers, addMember_of_ne hne hcomplete]
    exact ih hrest hvalues

/-- Of the members only the one with the name counts, if there is one. -/
theorem foldMembers_addMember (h : ∀ m ∈ members, m.1.isSome = true ∧ m.2.isComplete = true)
    {value : Option Tree} (hvalues : valuesAt name members = value.toList) :
    foldMembers (addMember name decode) none members =
      value.elim (.ok none) fun v ↦ (decode v).map some := by
  induction members with
  | nil =>
    cases value with
    | none => rfl
    | some v => cases hvalues
  | cons m rest ih =>
    obtain ⟨key, v⟩ := m
    obtain ⟨⟨hkey, hcomplete⟩, hrest⟩ := List.forall_mem_cons.1 h
    obtain ⟨key, rfl⟩ := Option.isSome_iff_exists.1 hkey
    by_cases hname : key = name
    · subst hname
      rw [valuesAt_cons_self] at hvalues
      cases value with
      | none => cases hvalues
      | some v' =>
        obtain ⟨rfl, hnone⟩ := List.cons.inj hvalues
        rw [foldMembers, addMember_self]
        cases hdecoded : decode v with
        | error e => simp [Except.map, hdecoded]
        | ok a =>
          have hkept : foldMembers (addMember key decode) (some a) rest = .ok (some a) :=
            foldMembers_addMember_of_nil hrest hnone (some a)
          simp [Except.map, hdecoded, hkept]
    · rw [valuesAt_cons_of_ne hname] at hvalues
      rw [foldMembers, addMember_of_ne hname hcomplete]
      exact ih hrest hvalues

/-- A structure with one field is what stands under its name. -/
theorem IsObject.onlyFieldOr_eq (h : t.IsObject members) (value : Option Tree)
    (hvalues : valuesAt name members = value.toList) (default : α) :
    t.onlyFieldOr owner name default decode = value.elim (.ok default) decode := by
  rw [h.eq, onlyFieldOr, onlyField?, foldMembers_addMember h.passable hvalues]
  cases value with
  | none => rfl
  | some v =>
    change Except.map _ (Except.bind ((decode v).map some) _) = decode v
    cases decode v <;> rfl

end Json.Tree

/-- The text of an object and of nothing else. -/
def Json.IsObjectText (body : String) (members : List Member) : Prop :=
  ∃ t, Tree.read (tokens body.toList) = (t, []) ∧ t.IsObject members

theorem Json.decodeText_of_read {α : Type} {decode : Tree → Decoded α} {body : String} {t : Tree}
    (h : Tree.read (tokens body.toList) = (t, [])) : decodeText decode body = decode t := by
  simp only [decodeText, h]
  cases decode t <;> rfl

/-- Written objects are objects, whatever is in them. -/
theorem Json.isObject_toTree (members : Members) :
    (toTree (.object members)).IsObject (memberTrees members) := by
  refine ⟨rfl, ?_⟩
  rw [memberTrees_eq_map, List.forall_mem_map]
  exact fun m _ ↦ ⟨rfl, isComplete_toTree m.2⟩

theorem Json.isObjectText_text (members : Members) :
    IsObjectText (Json.object members).text (memberTrees members) :=
  ⟨_, read_text _, isObject_toTree members⟩

namespace DigitalOcean

/-! ## What a listing gives -/

/-- What stands as the number of a record, if something does, and the number that it is: none, or an
integer from zero up. Numbers that are kept as floating-point numbers are no integers. -/
inductive IdMeans : Option Tree → Option Nat → Prop where
  | absent : IdMeans none none
  | null : IdMeans (some .null) none
  | integer {i : Json.Integer} {n : Nat} : i.val = n →
    IdMeans (some (.number (some (.integer i)))) (some n)

/-- A record in which this stands as the number. -/
def IsRecord (t : Tree) (id : Option Tree) : Prop :=
  ∃ members, t.IsObject members ∧ valuesAt "id" members = id.toList

/-- A listing in whose records these stand as the numbers. -/
inductive Lists (body : String) : List (Option Tree) → Prop where
  | none {members : List Member} : Json.IsObjectText body members →
    valuesAt "domain_records" members = [] → Lists body []
  | some {members : List Member} {rows : List Tree} {ids : List (Option Tree)} :
    Json.IsObjectText body members → valuesAt "domain_records" members = [.array rows .closed] →
    List.Forall₂ IsRecord rows ids → Lists body ids

variable {body : String} {ids : List (Option Tree)} {id : Option Tree} {number : Option Nat} {t : Tree}

/-- The number of a record is decoded from what stands as it. -/
def decodeNumber (id : Option Tree) : Decoded (Option Nat) :=
  id.elim (.ok none) (Tree.asOption Tree.asNat)

theorem decodeNumber_eq_ok_iff : decodeNumber id = .ok number ↔ IdMeans id number := by
  constructor
  · intro h
    cases id with
    | none =>
      cases h
      exact .absent
    | some t =>
      change Tree.asOption Tree.asNat t = .ok number at h
      unfold Tree.asOption at h
      split at h
      · cases h
        exact .null
      · obtain ⟨n, hn, rfl⟩ := map_eq_ok_iff.1 h
        unfold Tree.asNat at hn
        split at hn
        · next i =>
          split at hn
          · next hi =>
            cases hn
            exact .integer (Int.toNat_of_nonneg hi).symm
          · cases hn
        · cases hn
  · intro h
    cases h with
    | absent => rfl
    | null => rfl
    | @integer i n hi =>
      have hnonneg : 0 ≤ i.val := hi ▸ Int.natCast_nonneg n
      have hn : i.val.toNat = n := by rw [hi, Int.toNat_natCast]
      change (Tree.asNat (.number (some (.integer i)))).map some = _
      rw [Tree.asNat, if_pos hnonneg, hn]
      rfl

theorem decodeId_eq (h : IsRecord t id) : decodeId t = decodeNumber id := by
  obtain ⟨members, hobject, hvalues⟩ := h
  exact hobject.onlyFieldOr_eq id hvalues none

theorem mapM_decodeId {rows : List Tree} (h : List.Forall₂ IsRecord rows ids) :
    rows.mapM decodeId = ids.mapM decodeNumber := by
  induction h with
  | nil => rfl
  | cons hrow _ ih => rw [List.mapM_cons, List.mapM_cons, decodeId_eq hrow, ih]

/-- The numbers are all that is read of a listing. -/
theorem readId_eq (h : Lists body ids) :
    readId body = ofDecoded (ids.mapM decodeNumber) >>= theId := by
  have hdecoded : Json.decodeText decodeIds body = ids.mapM decodeNumber := by
    cases h with
    | none hbody hvalues =>
      obtain ⟨t, hread, hobject⟩ := hbody
      rw [Json.decodeText_of_read hread]
      exact hobject.onlyFieldOr_eq none hvalues []
    | some hbody hvalues hrows =>
      obtain ⟨t, hread, hobject⟩ := hbody
      rw [Json.decodeText_of_read hread, ← mapM_decodeId hrows, ← Tree.decodeItems_eq_mapM]
      refine (hobject.onlyFieldOr_eq (some _) hvalues []).trans ?_
      exact bind_pure (Tree.decodeItems decodeId _)
  rw [readId, hdecoded]

/-- A number that is none makes a listing unreadable, wherever it stands. -/
theorem readId_of_unreadable (h : Lists body ids) (hid : ∃ id ∈ ids, ∀ number, ¬ IdMeans id number) :
    ∃ reason, readId body = .error (.unreadableAnswer reason) := by
  obtain ⟨id, hmem, hnone⟩ := hid
  rw [readId_eq h]
  cases hnumbers : ids.mapM decodeNumber with
  | error problem => exact ⟨problem.message, rfl⟩
  | ok numbers =>
    obtain ⟨number, -, hnumber⟩ := exists_mem_of_forall₂ (mapM_eq_ok_iff.1 hnumbers) hmem
    exact absurd (decodeNumber_eq_ok_iff.1 hnumber) (hnone number)

theorem readId_of_forall₂ (h : Lists body ids) {numbers : List (Option Nat)}
    (hnumbers : List.Forall₂ IdMeans ids numbers) : readId body = theId numbers := by
  rw [readId_eq h, mapM_eq_ok_iff.2 (hnumbers.imp fun _ _ hid ↦ decodeNumber_eq_ok_iff.2 hid)]
  rfl

theorem exists_forall₂_idMeans (h : ∀ id ∈ ids, ∃ number, IdMeans id number) :
    ∃ numbers, List.Forall₂ IdMeans ids numbers := by
  induction ids with
  | nil => exact ⟨[], .nil⟩
  | cons id rest ih =>
    obtain ⟨⟨number, hnumber⟩, hrest⟩ := List.forall_mem_cons.1 h
    obtain ⟨numbers, hnumbers⟩ := ih hrest
    exact ⟨number :: numbers, .cons hnumber hnumbers⟩

theorem theId_of_two_le {numbers : List (Option Nat)} (h : 2 ≤ numbers.length) :
    theId numbers = .error (.ambiguousRecord numbers.length) := by
  match numbers with
  | [] => cases h
  | [_] => exact absurd h (by simp)
  | first :: _ :: _ => cases first <;> rfl

/-! ## What a lookup gives -/

/-- A lookup that is answered with a listing is told by the numbers in it alone, whatever else stands in
the listing and in its records. One number that is neither `null` nor an integer of 64 bits without sign
makes the answer unreadable, however many records there are. Otherwise no record is no record, several are
ambiguous whatever their numbers, and a single one has to have a number other than zero, which is given
back as it is. So two answers with the same numbers cannot be told apart. -/
theorem lookups_depend_on_the_numbers {σ : Type} (d : DigitalOcean) (recordType : String)
    {remote : Remote σ} {s s' : σ} {request : Request} {body : String} {ids : List (Option Tree)}
    (hwritten : d.lookupRequest recordType = .ok request)
    (hanswered : request.IsAnswered remote s body s') (hlists : Lists body ids) :
    let result := ((d.lookup recordType).hold remote s false).result
    ((∃ id ∈ ids, ∀ number, ¬ IdMeans id number) →
      ∃ reason, result = .error (.unreadableAnswer reason)) ∧
    ((∀ id ∈ ids, ∃ number, IdMeans id number) →
      (ids = [] → result = .error .recordNotFound) ∧
      (2 ≤ ids.length → result = .error (.ambiguousRecord ids.length)) ∧
      ∀ id, ids = [id] →
        (IdMeans id none ∨ IdMeans id (some 0) → result = .error .recordIdNotFound) ∧
        ∀ n, n ≠ 0 → IdMeans id (some n) → result = .ok n) ∧
    ∀ (other : Remote σ) (t t' : σ) (body' : String), request.IsAnswered other t body' t' →
      Lists body' ids → ((d.lookup recordType).hold other t false).result = result := by
  intro result
  have hresult : result = readId body :=
    ((d.run_lookup recordType remote s false).of_isAnswered hwritten hanswered).1
  rw [hresult]
  refine ⟨readId_of_unreadable hlists, ?_, ?_⟩
  · intro hreadable
    obtain ⟨numbers, hnumbers⟩ := exists_forall₂_idMeans hreadable
    refine ⟨?_, ?_, ?_⟩
    · rintro rfl
      exact readId_of_forall₂ hlists .nil
    · intro hseveral
      rw [readId_of_forall₂ hlists hnumbers, hnumbers.length_eq]
      exact theId_of_two_le (hnumbers.length_eq ▸ hseveral)
    · rintro id rfl
      refine ⟨?_, ?_⟩
      · rintro (hnone | hzero)
        · exact readId_of_forall₂ hlists (.cons hnone .nil)
        · exact readId_of_forall₂ hlists (.cons hzero .nil)
      · intro n hn hid
        rw [readId_of_forall₂ hlists (.cons hid .nil)]
        exact if_neg hn
  · intro other t t' body' hanswered' hlists'
    have hresult' : ((d.lookup recordType).hold other t false).result = readId body' :=
      ((d.run_lookup recordType other t false).of_isAnswered hwritten hanswered').1
    rw [hresult', readId_eq hlists', readId_eq hlists]

/-- The last number that a record can have. -/
def lastNumber : Json.Integer := ⟨18446744073709551615, by decide, by decide⟩

/-- One record with that number, and with other numbers beside it and around it. -/
def fullListing : Json.Members :=
  [("links", .object [("id", .null)]),
    ("domain_records", .array [.object [("tags", .array [.object [("id", .string "7")], .null]),
      ("id", .number (.integer lastNumber)), ("ttl", .number (.real Number.Binary64.zero))]]),
    ("meta", .object [("domain_records", .array [.number (.integer lastNumber), .bool true])])]

theorem last_number_is_found :
    let d := exampleSite "api"
    let body := (Json.object fullListing).text
    ∃ request id, d.lookupRequest "A" = .ok request ∧
      request.IsAnswered .script [.ofText body] body [] ∧ Lists body [id] ∧
      IdMeans id (some 18446744073709551615) ∧
      ((d.lookup "A").hold .script [.ofText body] false).result = .ok 18446744073709551615 := by
  intro d body
  have hevaluated : ((d.lookupRequest "A").toOption.any fun request ↦ request.canBeSent) = true := by
    decide +kernel
  obtain ⟨request, hwritten, hsend⟩ := exists_ok_of_any hevaluated
  have hanswered : request.IsAnswered .script [.ofText body] body [] :=
    ⟨hsend, .ofText body, rfl, Reply.succeeds_ofText String.toList_ofList (by decide)⟩
  have hrow : IsRecord _ (some (.number (Json.Num.reread (.integer lastNumber)))) :=
    ⟨_, Json.isObject_toTree [("tags", .array [.object [("id", .string "7")], .null]),
      ("id", .number (.integer lastNumber)), ("ttl", .number (.real Number.Binary64.zero))], rfl⟩
  rw [Json.Num.isReadBack_integer lastNumber] at hrow
  have hlists : Lists body [some (.number (some (.integer lastNumber)))] :=
    .some (Json.isObjectText_text fullListing) rfl (.cons hrow .nil)
  have hid : IdMeans (some (.number (some (.integer lastNumber)))) (some 18446744073709551615) :=
    .integer rfl
  obtain ⟨-, hreadable, -⟩ := lookups_depend_on_the_numbers d "A" hwritten hanswered hlists
  obtain ⟨-, -, hone⟩ := hreadable (List.forall_mem_singleton.2 ⟨_, hid⟩)
  exact ⟨request, _, hwritten, hanswered, hlists, hid, (hone _ rfl).2 _ (by decide) hid⟩

end DigitalOcean

end DynamicDns
