import DynamicDns.Proofs.DigitalOcean.Update
import DynamicDns.Proofs.Namecheap.Update
import DynamicDns.Updater

/-!
# Kinds of errors

An update ends with an error for one of three reasons: the request that it begins with cannot be written,
an exchange does not bring the body of an answer, or the body is not what it should be. The kind of the
error tells these reasons apart, through all the stages that it is wrapped in.
-/

namespace DynamicDns

open DynamicDns.Result
open Http

/-- Whether an error of this kind tells of the body of an answer. -/
def ErrorKind.isOfAnswer : ErrorKind → Bool
  | unreadableAnswer | refused | recordNotFound | recordIdNotFound | ambiguousRecord
  | malformedAddress | addressMismatch => true
  | _ => false

/-- Whether an error of this kind can only arise once a request is written. -/
def ErrorKind.isOfExchange (kind : ErrorKind) : Bool :=
  kind = transport || kind = cancelled || kind = badStatus || kind.isOfAnswer

theorem ErrorKind.isOfExchange_of_isOfAnswer {kind : ErrorKind} (h : kind.isOfAnswer = true) :
    kind.isOfExchange = true := by
  rw [isOfExchange, h, Bool.or_true]

namespace Error

def IsOfAnswer (e : Error) : Prop := e.kind.isOfAnswer = true

def IsOfExchange (e : Error) : Prop := e.kind.isOfExchange = true

/-- An error in stages, of which the first is the innermost. -/
def within (e : Error) : List String → Error
  | [] => e
  | stage :: stages => within (.inStage stage e) stages

@[simp]
theorem kind_inStage (stage : String) (e : Error) : (inStage stage e).kind = e.kind := rfl

@[simp]
theorem kind_within (e : Error) (stages : List String) : (e.within stages).kind = e.kind := by
  induction stages generalizing e with
  | nil => rfl
  | cons stage stages ih => rw [within, ih, kind_inStage]

theorem IsOfAnswer.kind_ne_cancelled {e : Error} (h : e.IsOfAnswer) : e.kind ≠ .cancelled := by
  intro hkind
  rw [IsOfAnswer, hkind] at h
  exact absurd h (by decide)

end Error

open Error (IsOfAnswer IsOfExchange)

/-! ## Bodies of answers -/

theorem errorsAre_confirm {reported : Except Error Address} (h : ErrorsAre IsOfAnswer reported)
    (differs : Address → Bool) (ip : Address) :
    ErrorsAre IsOfAnswer (confirm differs ip reported) := by
  intro e he
  rcases confirm_error he with herror | ⟨received, rfl⟩
  · exact h e herror
  · rfl

theorem Namecheap.Answer.errorsAre_read (body : String) : ErrorsAre IsOfAnswer (read body) := by
  intro e he
  rcases read_error he with ⟨reason, rfl⟩ | ⟨reason, rfl⟩ | ⟨text, rfl⟩
  · rfl
  · rfl
  · rfl

theorem DigitalOcean.errorsAre_readId (body : String) : ErrorsAre IsOfAnswer (readId body) := by
  intro e he
  rcases readId_error he with ⟨reason, rfl⟩ | rfl | rfl | ⟨count, rfl⟩
  · rfl
  · rfl
  · rfl
  · rfl

theorem DigitalOcean.errorsAre_readAddress (body : String) :
    ErrorsAre IsOfAnswer (readAddress body) := by
  intro e he
  rcases readAddress_error he with ⟨reason, rfl⟩ | ⟨text, rfl⟩
  · rfl
  · rfl

/-! ## Rounds -/

variable {σ : Type} {remote : Remote σ} {s s' : σ} {cancelled cancelled' : Bool}
  {requests : List Request} {e : Error} {ip : Address}

theorem Round.Run.error_kind {α : Type} {round : Round α}
    (h : Run remote round s cancelled (.error e) requests s' cancelled')
    (hread : ∀ body, ErrorsAre IsOfAnswer (round.read body)) :
    round.request = .error e ∨ e.IsOfExchange := by
  rcases h.error_eq with ⟨hwritten, -⟩ | rfl | ⟨failure, rfl⟩ | ⟨status, text, rfl⟩ | ⟨body, herror⟩
  · exact .inl hwritten
  · exact .inr rfl
  · exact .inr rfl
  · exact .inr rfl
  · exact .inr (ErrorKind.isOfExchange_of_isOfAnswer (hread body e herror))

/-- The change can be written whenever the lookup could, so only the lookup may fail for that. -/
theorem DigitalOcean.UpdateRun.error_kind {d : DigitalOcean}
    (h : UpdateRun d ip remote s cancelled (.error e) requests s' cancelled') :
    (∃ e', d.lookupRequest ip.version.recordType = .error e') ∨ e.IsOfExchange := by
  generalize hresult : Except.error e = result at h
  cases h with
  | lookupFails hlookup =>
    cases hresult
    rcases hlookup.error_kind errorsAre_readId with hwritten | hkind
    · exact .inl ⟨_, hwritten⟩
    · exact .inr hkind
  | @lookupFinds _ _ id _ _ _ _ _ hlookup hchange =>
    obtain ⟨lookup, hfinds, -, -⟩ := finds_of_run hlookup
    obtain ⟨change, hwritten, -⟩ := exists_changeRequest hfinds.written ip id
    subst hresult
    rcases hchange.error_kind fun body ↦ errorsAre_confirm (errorsAre_readAddress body) _ ip with
      herror | hkind
    · exact absurd (hwritten.symm.trans herror) nofun
    · exact .inr hkind

/-! ## Updates -/

namespace Updater

/-- The request that an update begins with. -/
def firstRequest : Updater → Address → Except Error Request
  | .namecheap n, ip => n.request ip
  | .digitalOcean d, ip => d.lookupRequest ip.version.recordType

/-- The stages of an error of the first request. -/
def firstStages : Updater → List String
  | .namecheap _ => []
  | .digitalOcean _ => [DigitalOcean.lookupStage]

/-- An update whose first request cannot be written ends with that error, and sends nothing. -/
theorem hold_of_unwritten {u : Updater} (h : u.firstRequest ip = .error e) (remote : Remote σ)
    (s : σ) (cancelled : Bool) :
    let held := (u.update ip).hold remote s cancelled
    held.result = .error (e.within u.firstStages) ∧ held.requests = [] := by
  cases u with
  | namecheap n => exact (n.run_update ip remote s cancelled).of_unwritten h
  | digitalOcean d => exact (d.run_update ip remote s cancelled).of_unwritten h

/-- An update ends with an error of an exchange, unless its first request cannot be written. -/
theorem error_kind (u : Updater) (ip : Address) (remote : Remote σ) (s : σ) (cancelled : Bool)
    {e : Error} :
    let held := (u.update ip).hold remote s cancelled
    held.result = .error e → (∃ e', u.firstRequest ip = .error e') ∨ e.IsOfExchange := by
  intro held hresult
  cases u with
  | namecheap n =>
    have hrun : (n.updateRound ip).Run remote s cancelled held.result held.requests held.state
        held.cancelled := n.run_update ip remote s cancelled
    rw [hresult] at hrun
    rcases hrun.error_kind fun body ↦ errorsAre_confirm (Namecheap.Answer.errorsAre_read body) _ ip
      with hwritten | hkind
    · exact .inl ⟨e, hwritten⟩
    · exact .inr hkind
  | digitalOcean d =>
    have hrun : d.UpdateRun ip remote s cancelled held.result held.requests held.state
        held.cancelled := d.run_update ip remote s cancelled
    rw [hresult] at hrun
    exact hrun.error_kind

end Updater

end DynamicDns
