import DynamicDns.Proofs.DigitalOcean.Answer
import DynamicDns.Proofs.DigitalOcean.Request
import DynamicDns.Proofs.Report
import DynamicDns.Proofs.Round

/-!
# Updates at DigitalOcean

An update is a round that finds out the number of the record, and a second round that changes the
record if the first one found a number. `UpdateRun` puts the two together.
-/

namespace DynamicDns.DigitalOcean

open DynamicDns.Result
open Http
open Text

variable {σ : Type}

/-! ## The two rounds -/

def lookupRound (d : DigitalOcean) (recordType : String) : Round Nat where
  request := d.lookupRequest recordType
  read := readId

/-- The answer to a change has to report the address that was sent. -/
def changeRound (d : DigitalOcean) (ip : Address) (id : Nat) : Round Address where
  request := d.changeRequest ip id
  read body := confirm (· != ip) ip (readAddress body)

theorem settles_found (body : String) :
    Talk.Settles (do
      let id ← Talk.ofExcept (readId body)
      Talk.note .debug .digitalOcean ("Found record ID: " ++ Numeral.decimal id)
      return id) (readId body) := by
  apply Talk.settles_ofExcept_bind
  · intro e he
    exact he
  · intro id hid
    rw [hid]
    apply Talk.Settles.note
    exact Talk.settles_pure id

theorem run_lookup (d : DigitalOcean) (recordType : String) (remote : Remote σ) (s : σ)
    (cancelled : Bool) :
    let held := (d.lookup recordType).hold remote s cancelled
    (d.lookupRound recordType).Run remote s cancelled held.result held.requests held.state
      held.cancelled :=
  Round.run_hold remote (d.lookupRound recordType) settles_found s cancelled

theorem run_change (d : DigitalOcean) (ip : Address) (id : Nat) (remote : Remote σ) (s : σ)
    (cancelled : Bool) :
    let held := (d.change ip id).hold remote s cancelled
    (d.changeRound ip id).Run remote s cancelled held.result held.requests held.state
      held.cancelled := by
  apply Round.run_hold remote (d.changeRound ip id)
  intro body
  exact Talk.settles_confirm (· != ip) ip (readAddress body) _ _ _

/-! ## The two rounds together -/

/-- The ways an update can go, as for a round. -/
inductive UpdateRun (d : DigitalOcean) (ip : Address) (remote : Remote σ) (s : σ) :
    Bool → Except Error Address → List Request → σ → Bool → Prop where
  /-- No number is found, and nothing else is sent. -/
  | lookupFails {cancelled cancelled' : Bool} {e : Error} {requests : List Request} {s' : σ} :
    (d.lookupRound ip.version.recordType).Run remote s cancelled (.error e) requests s' cancelled' →
    UpdateRun d ip remote s cancelled (.error (.inStage lookupStage e)) requests s' cancelled'
  | lookupFinds {cancelled between cancelled' : Bool} {id : Nat} {result : Except Error Address}
      {first second : List Request} {t s' : σ} :
    (d.lookupRound ip.version.recordType).Run remote s cancelled (.ok id) first t between →
    (d.changeRound ip id).Run remote t between result second s' cancelled' →
    UpdateRun d ip remote s cancelled result (first ++ second) s' cancelled'

theorem run_update (d : DigitalOcean) (ip : Address) (remote : Remote σ) (s : σ)
    (cancelled : Bool) :
    let held := (d.update ip).hold remote s cancelled
    UpdateRun d ip remote s cancelled held.result held.requests held.state held.cancelled := by
  intro held
  have hlookup := d.run_lookup ip.version.recordType remote s cancelled
  have hstage := Talk.hold_inStage remote lookupStage (d.lookup ip.version.recordType) s cancelled
  have hnote : held = Transcript.addEvent _
      ((Talk.inStage lookupStage (d.lookup ip.version.recordType) >>= d.change ip).hold remote s
        cancelled) := rfl
  generalize (d.lookup ip.version.recordType).hold remote s cancelled = found at hlookup hstage
  obtain ⟨result, requests, events, t, between⟩ := found
  cases result with
  | error e =>
    have hresult := congrArg Transcript.result hstage
    rw [hnote, Talk.hold_bind_of_error hresult (d.change ip), hstage]
    exact .lookupFails hlookup
  | ok id =>
    have hresult := congrArg Transcript.result hstage
    rw [hnote, Talk.hold_bind_of_ok hresult (d.change ip), hstage]
    exact .lookupFinds hlookup (d.run_change ip id remote t between)

/-! ## Records that are found -/

/-- The lookup goes out, is answered with success, and lists exactly one record, with a number other
than zero. -/
structure Finds (d : DigitalOcean) (ip : Address) (remote : Remote σ) (s : σ) (cancelled : Bool)
    (lookup : Request) (id : Nat) (t : σ) : Prop where
  going : cancelled = false
  written : d.lookupRequest ip.version.recordType = .ok lookup
  listed : ∃ listing, lookup.IsAnswered remote s listing t ∧
    Json.decodeText decodeIds listing = .ok [some id]
  positive : 0 < id
  bounded : id < 0x10000000000000000

variable {d : DigitalOcean} {ip : Address} {remote : Remote σ} {s s' : σ}
  {cancelled cancelled' : Bool} {result : Except Error Address} {requests : List Request}

/-- A lookup ends with a number only by finding a record. -/
theorem finds_of_run {id : Nat} {first : List Request} {t : σ} {between : Bool}
    (h : (d.lookupRound ip.version.recordType).Run remote s cancelled (.ok id) first t between) :
    ∃ lookup, d.Finds ip remote s cancelled lookup id t ∧ first = [lookup] ∧ between = false := by
  obtain ⟨hgoing, hbetween, lookup, listing, hwritten, hanswered, hread, hfirst⟩ :=
    h.isAnswered_of_ok
  obtain ⟨hlisted, hid⟩ := readId_eq_ok_iff.1 hread
  have hbounded := lt_of_decodeText_decodeIds hlisted
  exact ⟨lookup, ⟨hgoing, hwritten, ⟨listing, hanswered, hlisted⟩, Nat.pos_of_ne_zero hid,
    hbounded⟩, hfirst, hbetween⟩

/-- Nothing but the lookup and the change goes out, each at most once and in this order. -/
theorem UpdateRun.requests_eq
    (h : UpdateRun d ip remote s cancelled result requests s' cancelled') :
    requests = [] ∨ ∃ lookup, d.lookupRequest ip.version.recordType = .ok lookup ∧
      (requests = [lookup] ∨
        ∃ id change, d.changeRequest ip id = .ok change ∧ requests = [lookup, change]) := by
  cases h with
  | lookupFails hlookup =>
    rcases hlookup.requests_eq with hnone | ⟨lookup, hwritten, hone⟩
    · exact .inl hnone
    · exact .inr ⟨lookup, hwritten, .inl hone⟩
  | lookupFinds hlookup hchange =>
    obtain ⟨lookup, hfinds, rfl, -⟩ := finds_of_run hlookup
    rcases hchange.requests_eq with rfl | ⟨change, hwritten, rfl⟩
    · exact .inr ⟨lookup, hfinds.written, .inl rfl⟩
    · exact .inr ⟨lookup, hfinds.written, .inr ⟨_, change, hwritten, rfl⟩⟩

/-- A record that is found is changed in a second round, whatever comes of it. -/
theorem UpdateRun.of_finds (h : UpdateRun d ip remote s cancelled result requests s' cancelled')
    {lookup : Request} {id : Nat} {t : σ} (hfinds : d.Finds ip remote s cancelled lookup id t) :
    ∃ second, (d.changeRound ip id).Run remote t false result second s' cancelled' ∧
      requests = lookup :: second := by
  obtain ⟨rfl, hwritten, ⟨listing, hanswered, hlisted⟩, hpositive, -⟩ := hfinds
  have hread : readId listing = .ok id := readId_eq_ok_iff.2 ⟨hlisted, Nat.ne_of_gt hpositive⟩
  cases h with
  | lookupFails hlookup =>
    have hresult := (hlookup.of_isAnswered hwritten hanswered).1
    cases hresult.trans hread
  | lookupFinds hlookup hchange =>
    obtain ⟨hresult, rfl, rfl, rfl⟩ := hlookup.of_isAnswered hwritten hanswered
    have hsame := hresult.trans hread
    cases hsame
    exact ⟨_, hchange, rfl⟩

/-- A lookup that cannot be written is all there is to an update. -/
theorem UpdateRun.of_unwritten (h : UpdateRun d ip remote s cancelled result requests s' cancelled')
    {e : Error} (hlookup : d.lookupRequest ip.version.recordType = .error e) :
    result = .error (.inStage lookupStage e) ∧ requests = [] := by
  cases h with
  | lookupFails hrun =>
    obtain ⟨herror, hnone⟩ := hrun.of_unwritten hlookup
    cases herror
    exact ⟨rfl, hnone⟩
  | lookupFinds hrun _ => cases (hrun.of_unwritten hlookup).1

/-- If no record is found the error says so in its stage, and no change follows. -/
theorem UpdateRun.of_not_finds (h : UpdateRun d ip remote s cancelled result requests s' cancelled')
    (hnone : ∀ lookup id t, ¬ d.Finds ip remote s cancelled lookup id t) :
    ∃ e, result = .error (.inStage lookupStage e) ∧
      (d.lookupRound ip.version.recordType).Run remote s cancelled (.error e) requests s'
        cancelled' := by
  cases h with
  | lookupFails hlookup => exact ⟨_, rfl, hlookup⟩
  | lookupFinds hlookup _ =>
    obtain ⟨lookup, hfinds, -, -⟩ := finds_of_run hlookup
    exact absurd hfinds (hnone _ _ _)

end DynamicDns.DigitalOcean
