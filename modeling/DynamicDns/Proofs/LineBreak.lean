import DynamicDns.Proofs.OwnFamily
import DynamicDns.Proofs.Wording

/-!
# Line breaks in messages

The message of an error is one line of a log. Text that a provider sends gets into it in four ways: as the
snippet of a body, in a report of data of the wrong shape, as an address that is none, and as the reason
for a refusal. In the first three ways no line break gets through. A reason is quoted as it stands between
its blanks, so a refusal is on more than one line exactly if its reason is.

What is said of an answer of Namecheap that the decoder of XML cannot take is in the words of that decoder,
which may quote the document. The result therefore holds for every such wording: where it is told, it alone
decides.
-/

namespace DynamicDns

open DynamicDns.Result
open Http
open Text

/-! ## Errors -/

namespace Error

def KeepsLine (e : Error) : Prop := IsOneLine e.message

instance (e : Error) : Decidable e.KeepsLine := inferInstanceAs (Decidable (IsOneLine e.message))

theorem keepsLine_transport (failure : TransportFailure) : (transport failure).KeepsLine := by
  cases failure <;> decide

theorem keepsLine_cancelled : cancelled.KeepsLine := by decide

theorem keepsLine_requestBuild {reason : String} (h : IsOneLine reason) :
    (requestBuild reason).KeepsLine :=
  IsOneLine.append (by decide) h

/-- A status is told with a snippet of the body. -/
theorem keepsLine_badStatus (status : Nat) (body : String) :
    (badStatus status (OneLine.ofBody body)).KeepsLine :=
  ((IsOneLine.append (by decide) (isOneLine_decimal status)).append (by decide)).append
    (isOneLine_ofBody body)

theorem keepsLine_malformedAddress (text : String) : (malformedAddress text).KeepsLine :=
  IsOneLine.append (by decide) (isOneLine_quoted text)

theorem keepsLine_addressMismatch (sent received : Address) :
    (addressMismatch sent received).KeepsLine :=
  ((IsOneLine.append (by decide) received.isOneLine_text).append (by decide)).append
    sent.isOneLine_text

theorem keepsLine_ambiguousRecord (count : Nat) : (ambiguousRecord count).KeepsLine :=
  (isOneLine_decimal count).append (by decide)

theorem KeepsLine.inStage {e : Error} (he : e.KeepsLine) {stage : String} (h : IsOneLine stage) :
    (inStage stage e).KeepsLine :=
  (h.append (by decide)).append he

/-- The error in the words of the decoder of XML, if that could not take the document. So it is with one that
is not well formed, and with one that has an element where only a text can stand. -/
def reworded (wording : String) : Error → Error
  | unreadableAnswer reason =>
    unreadableAnswer (if reason = Problem.malformed.message then wording else reason)
  | e => e

theorem reworded_malformed (wording : String) :
    (unreadableAnswer Problem.malformed.message).reworded wording = unreadableAnswer wording := by
  rw [reworded, if_pos rfl]

theorem reworded_of_ne {e : Error} (h : e ≠ unreadableAnswer Problem.malformed.message)
    (wording : String) : e.reworded wording = e := by
  cases e with
  | unreadableAnswer reason =>
    have hreason : reason ≠ Problem.malformed.message := fun heq ↦ h (congrArg unreadableAnswer heq)
    rw [reworded, if_neg hreason]
  | _ => rfl

theorem keepsLine_unreadableAnswer_iff {reason : String} :
    (unreadableAnswer reason).KeepsLine ↔ IsOneLine reason := by
  have hprefix : IsOneLine "failed unmarshaling response: " := by decide
  exact isOneLine_append_iff.trans (and_iff_right hprefix)

/-- The reason for a refusal is quoted as it is. -/
theorem keepsLine_refused_iff {reason : String} :
    (refused reason).KeepsLine ↔ IsOneLine reason := by
  have hprefix : IsOneLine "unsuccessful response: " := by decide
  exact isOneLine_append_iff.trans (and_iff_right hprefix)

end Error

open Error (KeepsLine)

/-! ## Requests -/

theorem Endpoint.keepsLine_url (baseUrl : Url.Spelling) (segments : List String) :
    ErrorsAre KeepsLine (url baseUrl segments) := by
  have hfailure (failure : Url.Failure) : IsOneLine failure.message := by
    cases failure <;> decide
  unfold url
  split
  · exact errorsAre_error
      (Error.keepsLine_requestBuild (IsOneLine.append (by decide) (hfailure _)))
  · split
    · exact errorsAre_ok _
    · exact errorsAre_error (Error.keepsLine_requestBuild (by decide))

theorem Namecheap.keepsLine_request (n : Namecheap) (ip : Address) :
    ErrorsAre KeepsLine (n.request ip) :=
  ((Endpoint.keepsLine_url n.baseUrl ["update"]).map _).map _

namespace DigitalOcean

variable (d : DigitalOcean)

theorem keepsLine_headers : ErrorsAre KeepsLine d.headers := by
  intro e he
  rw [(headers_eq_error_iff.1 he).2]
  exact Error.keepsLine_requestBuild (by decide)

theorem keepsLine_lookupRequest (recordType : String) :
    ErrorsAre KeepsLine (d.lookupRequest recordType) := by
  refine (Endpoint.keepsLine_url _ _).bind fun url _ ↦ ?_
  exact d.keepsLine_headers.bind fun headers _ ↦ errorsAre_ok _

theorem keepsLine_changeRequest (ip : Address) (id : Nat) :
    ErrorsAre KeepsLine (d.changeRequest ip id) := by
  refine (Endpoint.keepsLine_url _ _).bind fun url _ ↦ ?_
  exact d.keepsLine_headers.bind fun headers _ ↦ errorsAre_ok _

end DigitalOcean

/-! ## Answers -/

theorem keepsLine_confirm {reported : Except Error Address} (h : ErrorsAre KeepsLine reported)
    (differs : Address → Bool) (ip : Address) :
    ErrorsAre KeepsLine (confirm differs ip reported) := by
  intro e he
  rcases confirm_error he with herror | ⟨received, rfl⟩
  · exact h e herror
  · exact Error.keepsLine_addressMismatch ip received

namespace DigitalOcean

theorem keepsLine_ofDecoded {α : Type} {decoded : Json.Decoded α}
    (h : ErrorsAre Problem.KeepsLine decoded) : ErrorsAre KeepsLine (ofDecoded decoded) := by
  intro e he
  obtain ⟨problem, hproblem, rfl⟩ := mapError_eq_error_iff.1 he
  exact Error.keepsLine_unreadableAnswer_iff.2 (h problem hproblem)

theorem keepsLine_readId (body : String) : ErrorsAre KeepsLine (readId body) := by
  refine (keepsLine_ofDecoded (keepsLine_decodeIds body)).bind fun ids _ e he ↦ ?_
  rcases theId_error he with rfl | rfl | ⟨count, rfl⟩
  · decide
  · decide
  · exact Error.keepsLine_ambiguousRecord count

theorem keepsLine_readAddress (body : String) : ErrorsAre KeepsLine (readAddress body) := by
  refine (keepsLine_ofDecoded (keepsLine_decodeRecord body)).bind fun data _ ↦ ?_
  unfold addressOf
  split
  · exact errorsAre_ok _
  · exact errorsAre_error (Error.keepsLine_malformedAddress _)

end DigitalOcean

/-- Of the errors of an answer only a refusal can break the line, for its reason. -/
theorem Namecheap.Answer.keepsLine_read {body : String} {e : Error} (h : read body = .error e) :
    e.KeepsLine ∨ ∃ answer, decode body = .ok answer ∧ ¬ IsOneLine answer.message := by
  unfold read at h
  split at h
  · next answer hdecode =>
    unfold address at h
    split at h
    · cases h
      by_cases hline : IsOneLine answer.message
      · exact .inl (Error.keepsLine_refused_iff.2 hline)
      · exact .inr ⟨answer, hdecode, hline⟩
    · dsimp only at h
      split at h
      · cases h
      · cases h
        exact .inl (Error.keepsLine_malformedAddress _)
  · next problem hdecode =>
    cases h
    exact .inl (Error.keepsLine_unreadableAnswer_iff.2 (keepsLine_decode body problem hdecode))

/-! ## Rounds -/

theorem Http.Reply.keepsLine_body (reply : Reply) : ErrorsAre KeepsLine reply.body := by
  cases reply with
  | answered answer =>
    simp only [body, bodyOfAnswer]
    split
    · exact errorsAre_error (Error.keepsLine_transport _)
    · split
      · exact errorsAre_ok _
      · exact errorsAre_error (Error.keepsLine_badStatus _ _)
  | dropped => exact errorsAre_error (Error.keepsLine_transport _)
  | unreachable => exact errorsAre_error (Error.keepsLine_transport _)
  | cancelled => exact errorsAre_error Error.keepsLine_cancelled

variable {σ : Type} {remote : Remote σ} {s s' : σ} {cancelled cancelled' : Bool}
  {requests : List Request} {e : Error} {ip : Address}

theorem Exchange.keepsLine {request : Request}
    (h : Exchange remote request s cancelled (.error e) requests s' cancelled') : e.KeepsLine := by
  cases h with
  | givenUp => exact Error.keepsLine_cancelled
  | refused => exact Error.keepsLine_transport _
  | unreached => exact Error.keepsLine_transport _
  | cancelled => exact Error.keepsLine_cancelled
  | failed _ _ _ hbody => exact Reply.keepsLine_body _ _ hbody

/-- An error of a round that breaks the line was read in the body of an answer. -/
theorem Round.Run.keepsLine {α : Type} {round : Round α}
    (h : Run remote round s cancelled (.error e) requests s' cancelled')
    (hrequest : ErrorsAre KeepsLine round.request) :
    e.KeepsLine ∨ cancelled = false ∧ ∃ request body, round.request = .ok request ∧
      request.IsAnswered remote s body s' ∧ round.read body = .error e := by
  generalize hresult : Except.error e = result at h
  cases h with
  | unwritten _ hwritten =>
    cases hresult
    exact .inl (hrequest e hwritten)
  | written hwritten hexchange =>
    rcases bind_eq_error_iff.1 hresult.symm with rfl | ⟨body, rfl, hread⟩
    · exact .inl hexchange.keepsLine
    · obtain ⟨hgoing, -, hanswered, -⟩ := hexchange.isAnswered_of_ok
      exact .inr ⟨hgoing, _, body, hwritten, hanswered, hread.trans hresult⟩

theorem Round.Run.keepsLine_of_read {α : Type} {round : Round α}
    (h : Run remote round s cancelled (.error e) requests s' cancelled')
    (hrequest : ErrorsAre KeepsLine round.request)
    (hread : ∀ body, ErrorsAre KeepsLine (round.read body)) : e.KeepsLine := by
  rcases h.keepsLine hrequest with hline | ⟨-, -, body, -, -, herror⟩
  · exact hline
  · exact hread body e herror

/-! ## Updates -/

theorem DigitalOcean.UpdateRun.keepsLine {d : DigitalOcean}
    (h : UpdateRun d ip remote s cancelled (.error e) requests s' cancelled') : e.KeepsLine := by
  generalize hresult : Except.error e = result at h
  cases h with
  | lookupFails hlookup =>
    cases hresult
    have hline := hlookup.keepsLine_of_read (d.keepsLine_lookupRequest _) keepsLine_readId
    exact hline.inStage (by decide)
  | lookupFinds _ hchange =>
    subst hresult
    exact hchange.keepsLine_of_read (d.keepsLine_changeRequest ip _)
      fun body ↦ keepsLine_confirm (keepsLine_readAddress body) _ ip

namespace Namecheap

/-- The update is answered with success in a document whose message has a line break. -/
def IsRefusedOnManyLines (n : Namecheap) (ip : Address) (remote : Remote σ) (s : σ) : Prop :=
  ∃ request body s' answer, n.request ip = .ok request ∧ request.IsAnswered remote s body s' ∧
    Answer.decode body = .ok answer ∧ ¬ IsOneLine answer.message

variable {n : Namecheap}

/-- Such a message is the reason for a refusal. -/
theorem result_of_message {request : Request} {body : String} {answer : Answer}
    (hwritten : n.request ip = .ok request) (hanswered : request.IsAnswered remote s body s')
    (hdecode : Answer.decode body = .ok answer) (hmessage : ¬ IsOneLine answer.message) :
    ((n.update ip).hold remote s false).result = .error (.refused answer.message) := by
  have hne : answer.message ≠ "" := by
    intro hempty
    rw [hempty] at hmessage
    exact hmessage (by decide)
  rw [((n.run_update ip remote s false).of_isAnswered hwritten hanswered).1]
  apply confirm_of_error
  rw [Answer.read_of_decode hdecode, Answer.address_of_message hne]

theorem keepsLine_iff
    (h : ((n.update ip).hold remote s cancelled).result = .error e) :
    ¬ e.KeepsLine ↔ cancelled = false ∧ n.IsRefusedOnManyLines ip remote s := by
  have hrun := n.run_update ip remote s cancelled
  simp only [h] at hrun
  constructor
  · intro hbreaks
    rcases hrun.keepsLine (n.keepsLine_request ip) with hline | ⟨hgoing, request, body, hwritten,
      hanswered, herror⟩
    · exact absurd hline hbreaks
    · rcases confirm_error herror with hread | ⟨received, rfl⟩
      · rcases Answer.keepsLine_read hread with hline | ⟨answer, hdecode, hmessage⟩
        · exact absurd hline hbreaks
        · exact ⟨hgoing, request, body, _, answer, hwritten, hanswered, hdecode, hmessage⟩
      · exact absurd (Error.keepsLine_addressMismatch ip received) hbreaks
  · rintro ⟨rfl, request, body, t, answer, hwritten, hanswered, hdecode, hmessage⟩
    have hresult := result_of_message hwritten hanswered hdecode hmessage
    cases h.symm.trans hresult
    exact fun hline ↦ hmessage (Error.keepsLine_refused_iff.1 hline)

end Namecheap

namespace Updater

/-- No error of an update at DigitalOcean has a line break in its message, whatever the answers. At
Namecheap an error has one exactly if the update is refused with a message that has one, or if the document
cannot be taken and the decoder of XML says so in a wording with a line break. -/
theorem only_refusals_break_lines (u : Updater) (ip : Address) (remote : Remote σ) (s : σ)
    (cancelled : Bool) (e : Error) (h : ((u.update ip).hold remote s cancelled).result = .error e) :
    (∀ d, u = digitalOcean d → IsOneLine e.message) ∧
    ∀ n, u = namecheap n → ∀ wording,
      (¬ IsOneLine (e.reworded wording).message ↔
        (cancelled = false ∧ n.IsRefusedOnManyLines ip remote s) ∨
          (e = .unreadableAnswer Problem.malformed.message ∧ ¬ IsOneLine wording)) := by
  constructor
  · rintro d rfl
    have hrun := d.run_update ip remote s cancelled
    have hresult : ((d.update ip).hold remote s cancelled).result = .error e := h
    simp only [hresult] at hrun
    exact hrun.keepsLine
  · rintro n rfl wording
    by_cases hmalformed : e = .unreadableAnswer Problem.malformed.message
    · -- A refusal is another error, so only the wording is left.
      have hnot : ¬ (cancelled = false ∧ n.IsRefusedOnManyLines ip remote s) := by
        intro hrefused
        refine (Namecheap.keepsLine_iff h).2 hrefused ?_
        rw [hmalformed]
        exact Error.keepsLine_unreadableAnswer_iff.2 (by decide)
      rw [or_iff_right hnot, and_iff_right hmalformed, hmalformed, Error.reworded_malformed]
      exact not_congr Error.keepsLine_unreadableAnswer_iff
    · rw [or_iff_left fun hother ↦ hmalformed hother.1, Error.reworded_of_ne hmalformed]
      exact Namecheap.keepsLine_iff h

/-- A reason on two lines, of which the second looks like an entry of the log. -/
def forgedReason : String := "x\nINFO ddnsctl: updated"

def forgedEntry : String :=
  "<r><IP>1.2.3.4</IP><errors><Err1>x\nINFO ddnsctl: updated</Err1></errors></r>"

theorem decode_forgedEntry : Namecheap.Answer.decode forgedEntry =
    .ok ⟨some "1.2.3.4", some (some forgedReason)⟩ :=
  eq_ok_of_toOption (by decide +kernel)

theorem isAnswered_forgedEntry :
    ∃ request, (homeUpdater false).request (.v4 ⟨1, 2, 3, 4⟩) = .ok request ∧
      request.IsAnswered .script [.ofText forgedEntry] forgedEntry [] := by
  obtain ⟨request, hwritten, hsend⟩ := canRequest_homeUpdater false
  have hbody : (Reply.ofText forgedEntry).Succeeds forgedEntry :=
    Reply.succeeds_ofText String.toList_ofList (by decide)
  exact ⟨request, hwritten, hsend, _, rfl, hbody⟩

theorem isRefused_forgedEntry :
    (homeUpdater false).IsRefusedOnManyLines (.v4 ⟨1, 2, 3, 4⟩) .script [.ofText forgedEntry] := by
  obtain ⟨request, hwritten, hanswered⟩ := isAnswered_forgedEntry
  exact ⟨request, forgedEntry, [], _, hwritten, hanswered, decode_forgedEntry, by decide⟩

/-- The entry is told as it stands in the answer. -/
theorem result_forgedEntry :
    (((homeUpdater false).update (.v4 ⟨1, 2, 3, 4⟩)).hold .script [.ofText forgedEntry] false).result =
      .error (.refused forgedReason) := by
  obtain ⟨request, hwritten, hanswered⟩ := isAnswered_forgedEntry
  have hresult := Namecheap.result_of_message hwritten hanswered decode_forgedEntry (by decide)
  have hmessage : (Namecheap.Answer.mk (some "1.2.3.4") (some (some forgedReason))).message =
      forgedReason := by decide +kernel
  rwa [hmessage] at hresult

/-- It breaks the line, in whatever words the decoder of XML speaks of other documents. -/
theorem forged_entry_is_shown :
    let u := namecheap (homeUpdater false)
    let e := Error.refused forgedReason
    ((u.update (.v4 ⟨1, 2, 3, 4⟩)).hold .script [.ofText forgedEntry] false).result = .error e ∧
      ∀ wording, ¬ IsOneLine (e.reworded wording).message := by
  intro u e
  refine ⟨result_forgedEntry, fun wording ↦ ?_⟩
  obtain ⟨-, hnamecheap⟩ := only_refusals_break_lines u _ .script _ false e result_forgedEntry
  exact (hnamecheap _ rfl wording).2 (.inl ⟨rfl, isRefused_forgedEntry⟩)

/-- So a message of an error can have a line break. -/
theorem refusal_breaks_line :
    ¬ ∀ (u : Updater) (ip : Address) (replies : List Reply) (cancelled : Bool) (e : Error),
      ((u.update ip).hold .script replies cancelled).result = .error e → IsOneLine e.message := by
  intro hall
  have hline := hall (namecheap (homeUpdater false)) _ _ _ _ result_forgedEntry
  exact absurd hline (by decide)

end Updater

end DynamicDns
