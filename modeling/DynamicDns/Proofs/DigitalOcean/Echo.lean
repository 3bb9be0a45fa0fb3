import DynamicDns.Proofs.Address
import DynamicDns.Proofs.DigitalOcean.Confirmation
import DynamicDns.Proofs.WrittenJson

/-!
# A provider that echoes, at DigitalOcean

The change carries the address as the data of a record, beside a host that may be any text. A provider
that finds a record and answers the change with the data that it was sent is believed, so the update
ends well for every address.
-/

namespace DynamicDns.DigitalOcean

open DynamicDns.Result
open Http
open Json (Token Tree)

variable {σ : Type} {d : DigitalOcean} {ip : Address} {remote : Remote σ}

/-! ## What is sent -/

theorem value_changedRecord (recordType host data : String) :
    Tree.value Json.maxDepth (.object [(some "type", .string (some recordType)),
      (some "name", .string (some host)), (some "data", .string (some data))] .closed) =
      .ok (.object [("data", .string data), ("name", .string host),
        ("type", .string recordType)]) := by
  have hname : "name" < "type" := by decide
  have hdata : "data" < "name" := by decide
  rw [Json.maxDepth]
  simp [Tree.value, Tree.memberValues, Tree.checkClosed, Json.ofMembers, Json.insert, hname, hdata,
    bind, Except.bind]

/-- The text of a record has three members, each under its name. -/
theorem read_changedRecord (d : DigitalOcean) (ip : Address) :
    Tree.read (Json.tokens (d.changedRecord ip).chars) =
      (.object [(some "type", .string (some ip.version.recordType)),
        (some "name", .string (some d.target.host)), (some "data", .string (some ip.text))] .closed,
        []) := by
  have hread := Json.read_text (d.changedRecord ip)
  rw [Json.text, String.toList_ofList] at hread
  exact hread

/-- The body of a change is read as the record that was meant, whatever the host is. -/
theorem parse_changedRecord (d : DigitalOcean) (ip : Address) :
    Json.parse (d.changedRecord ip).text = .ok (.object [("data", .string ip.text),
      ("name", .string d.target.host), ("type", .string ip.version.recordType)]) := by
  rw [Json.parse, Json.decodeText_text]
  exact value_changedRecord _ _ _

theorem changeRequest_body {id : Nat} {change : Request} (h : d.changeRequest ip id = .ok change) :
    change.body = (d.changedRecord ip).text := by
  obtain ⟨url, headers, -, -, rfl⟩ := changeRequest_eq_ok_iff.1 h
  rfl

/-- The data of the record in the body of a request. -/
def sentData? (request : Request) : Option String :=
  match Json.parse request.body with
  | .ok (.object members) =>
    match Json.lookup? "data" members with
    | some (.string data) => some data
    | _ => none
  | _ => none

theorem sentData?_of_changeRequest {id : Nat} {change : Request}
    (h : d.changeRequest ip id = .ok change) : sentData? change = some ip.text := by
  rw [sentData?, changeRequest_body h, parse_changedRecord]
  rfl

/-! ## What comes back -/

/-- The tokens of a record with its data, and of nothing else. -/
def recordTokens (data : String) : List Token :=
  [.openObject, .string (some "domain_record"), .colon, .openObject, .string (some "data"), .colon,
    .string (some data), .closeObject, .closeObject]

theorem decodeRecord_of_tokens {body data : String}
    (h : Json.tokens body.toList = recordTokens data) :
    Json.decodeText decodeRecord body = .ok data := by
  rw [Json.decodeText, h]
  rfl

/-- A provider that finds one record for every lookup, with one of these numbers and not with zero, and
answers every change to an address with a record that holds the data of the change. -/
structure Echoes (remote : Remote σ) (numbers : Nat → Prop) : Prop where
  lists : ∀ s request, request.method = .get → ∃ reply s' listing id,
    remote.respond s request = some (reply, s') ∧ reply.Succeeds listing ∧
    Json.decodeText decodeIds listing = .ok [some id] ∧ numbers id ∧ id ≠ 0
  echoes : ∀ s request address, request.method = .put →
    sentData? request = some (Address.text address) →
    ∃ reply s' body, remote.respond s request = some (reply, s') ∧ reply.Succeeds body ∧
      Json.tokens body.toList = recordTokens address.text

/-- The requests of an update can be built and sent, for a record with one of these numbers. -/
structure CanRequest (d : DigitalOcean) (ip : Address) (numbers : Nat → Prop) : Prop where
  lookup : ∃ request, d.lookupRequest ip.version.recordType = .ok request ∧
    request.canBeSent = true
  change : ∀ id, numbers id →
    ∃ request, d.changeRequest ip id = .ok request ∧ request.canBeSent = true

variable {numbers : Nat → Prop}

/-- A provider that echoes has the address reported that was sent. -/
theorem Echoes.reports (hechoes : Echoes remote numbers) (hrequest : d.CanRequest ip numbers)
    (s : σ) :
    ∃ lookup id change, d.Reports ip remote s false lookup id change ip := by
  obtain ⟨lookup, hlookup, hsend⟩ := hrequest.lookup
  obtain ⟨reply, t, listing, id, hrespond, hlisting, hids, hnumber, hid⟩ :=
    hechoes.lists s lookup (lookupRequest_method hlookup)
  have hfinds : d.Finds ip remote s false lookup id t :=
    ⟨rfl, hlookup, ⟨listing, ⟨hsend, reply, hrespond, hlisting⟩, hids⟩, Nat.pos_of_ne_zero hid,
      lt_of_decodeText_decodeIds hids⟩
  obtain ⟨change, hchange, hsend'⟩ := hrequest.change id hnumber
  obtain ⟨reply', s', record, hrespond', hrecord, htokens⟩ := hechoes.echoes t change ip
    (changeRequest_method hchange) (sentData?_of_changeRequest hchange)
  have hread : Address.parse? (Text.Blank.trim ip.text) = some ip := by
    rw [Address.trim_text, Address.parse?_text]
  exact ⟨lookup, id, change, hchange, t, s', record, ip.text, hfinds,
    ⟨hsend', reply', hrespond', hrecord⟩, decodeRecord_of_tokens htokens, hread⟩

/-- The update ends well and is not cancelled. -/
theorem Echoes.hold_update (hechoes : Echoes remote numbers) (hrequest : d.CanRequest ip numbers)
    (s : σ) :
    let held := (d.update ip).hold remote s false
    held.result = .ok ip ∧ held.cancelled = false := by
  intro held
  have hrun : UpdateRun d ip remote s false held.result held.requests held.state held.cancelled :=
    d.run_update ip remote s false
  obtain ⟨lookup, id, change, hreports⟩ := hechoes.reports hrequest s
  constructor
  · rw [hrun.of_reports hreports]
    exact confirm_eq_ok_iff.2 ⟨rfl, bne_self_eq_false ip⟩
  · obtain ⟨hwritten, t, t', record, data, hfinds, hanswered, -, -⟩ := hreports
    obtain ⟨second, hchange, -⟩ := hrun.of_finds hfinds
    exact (hchange.of_isAnswered hwritten hanswered).2.2.2

end DynamicDns.DigitalOcean
