import DynamicDns.Proofs.Command.Loading
import DynamicDns.Proofs.Conduct

/-!
# What a run tells

The exit code tells whether anything was wrong before, and if not whether any update ended with an
error; the log tells of each record what became of it. To tell how an update ended does not disturb the
others, so both are read off the updates themselves, held side by side in the same schedule.
-/

namespace DynamicDns.Command

open Conversation (interleave)

variable {σ : Type}

/-! ## Accounts -/

/-- What the log says when an update has ended. -/
def verdict (u : Updater) : Except Error Address → Log.Event
  | .ok confirmed => event .info (u.describe ++ " updated to " ++ confirmed.text)
  | .error e => event .error (u.describe ++ " failed: " ++ e.message)

/-- An attempt is an update of which the end is told. -/
theorem attempt_eq_telling (ip : Address) (u : Updater) :
    attempt ip u = (u.update ip).run.telling Except.toBool (verdict u) := by
  apply congrArg (Conversation.bind · (u.update ip).run)
  funext result
  cases result with
  | ok confirmed => rfl
  | error e => rfl

/-- The updates of the records of the family, side by side. -/
def updates (remote : Remote σ) (s : σ) (schedule : List Nat) (ip : Address)
    (updaters : List Updater) : Transcript σ (List (Except Error Address)) :=
  interleave remote schedule ((updaters.filter (isFor ip)).map fun u ↦ (u.update ip).run) s false

/-- What the log says of each record: that it is skipped, or how its update ended. -/
def accounts (ip : Address) (updaters : List Updater) (ended : List (Except Error Address)) :
    List Log.Event :=
  (updaters.filter (!isFor ip ·)).map (skipping ip) ++
    (updaters.filter (isFor ip)).zipWith verdict ended

/-- What is left of the updates of a run: their requests, the exit that their results call for, and in
the log the accounts of all records among events of the updates themselves. -/
theorem updateAll_spec (remote : Remote σ) (s : σ) (schedule : List Nat) (ip : Address)
    (updaters : List Updater) :
    let held := updates remote s schedule ip updaters
    let outcome := updateAll remote s schedule ip updaters
    let count := failures (held.result.map Except.toBool)
    outcome.requests = held.requests ∧
      outcome.exit = (if count = 0 then .success else .failed) ∧
      ∃ log, outcome.events = log ++ failuresEvent count ∧
        log.Perm (accounts ip updaters held.result ++ held.events) := by
  intro held outcome count
  have htalks : (updaters.filter (isFor ip)).map (attempt ip) = (updaters.filter (isFor ip)).map
      fun u ↦ (u.update ip).run.telling Except.toBool (verdict u) :=
    List.map_congr_left fun u _ ↦ attempt_eq_telling ip u
  obtain ⟨hresult, hrequests, hevents⟩ := Conversation.interleave_telling schedule
    (updaters.filter (isFor ip)) (fun u ↦ (u.update ip).run) verdict Except.toBool s false
  rw [← htalks] at hresult hrequests hevents
  refine ⟨hrequests, ?_, _, congrArg (_ ++ failuresEvent ·) (congrArg failures hresult), ?_⟩
  · change (if failures _ = 0 then Exit.success else Exit.failed) = _
    rw [hresult]
    rfl
  · rw [accounts, List.append_assoc]
    apply List.Perm.append_left
    exact hevents.trans List.perm_append_comm

/-! ## Signals -/

section Run

variable {env : String → Option String} {directory : Directory} {options : Options}
  {settings : Settings} {updaters : List Updater}

/-- When nothing is wrong the requests are those of the updates. -/
theorem requests_of_loads (h : Loads env directory options settings updaters) (remote : Remote σ)
    (s : σ) (schedule : List Nat) :
    (run remote s schedule env directory).requests =
      (updates remote s schedule options.address updaters).requests := by
  rw [run_of_loads h]
  exact (updateAll_spec remote s schedule options.address updaters).1

end Run

end DynamicDns.Command
