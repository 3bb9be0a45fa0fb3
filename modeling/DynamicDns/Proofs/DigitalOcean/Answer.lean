import DynamicDns.DigitalOcean.Answer
import DynamicDns.Proofs.Field

/-!
# What the answers of DigitalOcean say

A listing gives a number exactly if it lists one record and that record has a number other than zero.
A record gives an address exactly if its data spells one. Every other answer is an error of its own
kind, and none of these errors has a stage.
-/

namespace DynamicDns.DigitalOcean

open DynamicDns.Result
open Json (Tree)
open Text

/-! ## Listings -/

theorem theId_eq_ok_iff {ids : List (Option Nat)} {id : Nat} :
    theId ids = .ok id ↔ ids = [some id] ∧ id ≠ 0 := by
  constructor
  · intro h
    unfold theId at h
    split at h
    · cases h
    · cases h
    · split at h
      · cases h
      · next hid =>
        cases h
        exact ⟨rfl, hid⟩
    · cases h
  · intro h
    rcases h with ⟨rfl, hid⟩
    simp only [theId, if_neg hid]

theorem readId_eq_ok_iff {body : String} {id : Nat} :
    readId body = .ok id ↔ Json.decodeText decodeIds body = .ok [some id] ∧ id ≠ 0 := by
  unfold readId ofDecoded
  rw [bind_eq_ok_iff]
  constructor
  · intro h
    rcases h with ⟨ids, hids, hid⟩
    obtain ⟨rfl, hne⟩ := theId_eq_ok_iff.1 hid
    exact ⟨mapError_eq_ok_iff.1 hids, hne⟩
  · intro h
    rcases h with ⟨hids, hne⟩
    exact ⟨[some id], mapError_eq_ok_iff.2 hids, theId_eq_ok_iff.2 ⟨rfl, hne⟩⟩

/-- The numbers of a listing fit into 64 bits. -/
theorem lt_of_mem_decodeIds {t : Tree} {ids : List (Option Nat)} (h : decodeIds t = .ok ids)
    {id : Nat} (hid : some id ∈ ids) : id < 0x10000000000000000 := by
  rcases Tree.onlyFieldOr_eq_ok h with rfl | ⟨u, -, hu⟩
  · cases hid
  · obtain ⟨records, -, hrecords⟩ := Tree.asArray_eq_ok hu
    obtain ⟨record, -, hrecord⟩ := exists_mem_of_forall₂ hrecords.flip hid
    rcases Tree.onlyFieldOr_eq_ok hrecord with hnone | ⟨number, -, hnumber⟩
    · cases hnone
    · exact Tree.asNat_lt (Tree.asOption_eq_ok hnumber)

theorem lt_of_decodeText_decodeIds {body : String} {id : Nat}
    (h : Json.decodeText decodeIds body = .ok [some id]) : id < 0x10000000000000000 := by
  exact lt_of_mem_decodeIds (Json.decodeText_eq_ok h) List.mem_cons_self

theorem theId_error {ids : List (Option Nat)} {e : Error} (h : theId ids = .error e) :
    e = .recordNotFound ∨ e = .recordIdNotFound ∨ ∃ count, e = .ambiguousRecord count := by
  unfold theId at h
  split at h
  · cases h
    exact .inl rfl
  · cases h
    exact .inr (.inl rfl)
  · split at h
    · cases h
      exact .inr (.inl rfl)
    · cases h
  · cases h
    exact .inr (.inr ⟨_, rfl⟩)

theorem ofDecoded_error {α : Type} {decoded : Json.Decoded α} {e : Error}
    (h : ofDecoded decoded = .error e) : ∃ reason, e = .unreadableAnswer reason := by
  obtain ⟨problem, -, rfl⟩ := mapError_eq_error_iff.1 h
  exact ⟨_, rfl⟩

theorem readId_error {body : String} {e : Error} (h : readId body = .error e) :
    (∃ reason, e = .unreadableAnswer reason) ∨ e = .recordNotFound ∨ e = .recordIdNotFound ∨
      ∃ count, e = .ambiguousRecord count := by
  unfold readId at h
  rcases bind_eq_error_iff.1 h with hdecoded | ⟨ids, -, hid⟩
  · exact .inl (ofDecoded_error hdecoded)
  · exact .inr (theId_error hid)

/-! ## Records -/

theorem addressOf_eq_ok_iff {data : String} {address : Address} :
    addressOf data = .ok address ↔ Address.parse? (Blank.trim data) = some address := by
  unfold addressOf
  cases Address.parse? (Blank.trim data) with
  | none => simp
  | some read => simp

theorem readAddress_eq_ok_iff {body : String} {address : Address} :
    readAddress body = .ok address ↔ ∃ data, Json.decodeText decodeRecord body = .ok data ∧
      Address.parse? (Blank.trim data) = some address := by
  unfold readAddress ofDecoded
  rw [bind_eq_ok_iff]
  constructor
  · intro h
    rcases h with ⟨data, hdata, haddress⟩
    exact ⟨data, mapError_eq_ok_iff.1 hdata, addressOf_eq_ok_iff.1 haddress⟩
  · intro h
    rcases h with ⟨data, hdata, haddress⟩
    exact ⟨data, mapError_eq_ok_iff.2 hdata, addressOf_eq_ok_iff.2 haddress⟩

theorem readAddress_error {body : String} {e : Error} (h : readAddress body = .error e) :
    (∃ reason, e = .unreadableAnswer reason) ∨ ∃ text, e = .malformedAddress text := by
  unfold readAddress at h
  rcases bind_eq_error_iff.1 h with hdecoded | ⟨data, -, haddress⟩
  · exact .inl (ofDecoded_error hdecoded)
  · unfold addressOf at haddress
    split at haddress
    · cases haddress
    · cases haddress
      exact .inr ⟨_, rfl⟩

end DynamicDns.DigitalOcean
