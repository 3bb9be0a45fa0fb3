import DynamicDns.Proofs.Command.ExitCode
import DynamicDns.Proofs.DigitalOcean.Update
import DynamicDns.Proofs.Namecheap.Update
import DynamicDns.Proofs.Steady

/-!
# The order of updates

As long as no signal comes, the updates of a run do not notice one another. What is sent, what the log
says after loading and how the run exits is put together from what each record does alone, so the order
of the records in the settings does not matter, nor does the schedule.
-/

namespace DynamicDns

open scoped List

variable {σ : Type}

/-! ## Updates alone -/

/-- How many requests an update may send. -/
def Provider.mostRequests : Provider → Nat
  | .namecheap => 1
  | .digitalOcean => 2

theorem Updater.length_requests_le (u : Updater) (ip : Address) (remote : Remote σ) (s : σ)
    (cancelled : Bool) :
    ((u.update ip).hold remote s cancelled).requests.length ≤ u.provider.mostRequests := by
  cases u with
  | namecheap n =>
    change ((n.update ip).hold remote s cancelled).requests.length ≤ 1
    rcases (n.run_update ip remote s cancelled).requests_eq with hnone | ⟨request, -, hone⟩
    · rw [hnone]
      exact Nat.zero_le 1
    · rw [hone]
      exact Nat.le_refl 1
  | digitalOcean d =>
    change ((d.update ip).hold remote s cancelled).requests.length ≤ 2
    rcases (d.run_update ip remote s cancelled).requests_eq with
      hnone | ⟨lookup, -, hone | ⟨id, change, -, htwo⟩⟩
    · rw [hnone]
      exact Nat.zero_le 2
    · rw [hone]
      exact Nat.le_succ 1
    · rw [htwo]
      exact Nat.le_refl 2

namespace Command

variable {remote : Remote σ} {s : σ} {ip : Address} {updaters updaters' : List Updater}

/-- The update of a record when there is no other record. -/
def alone (remote : Remote σ) (s : σ) (ip : Address) (u : Updater) :
    Transcript σ (Except Error Address) :=
  (u.update ip).hold remote s false

/-- The requests of all records of the family, each alone. -/
def requestsAlone (remote : Remote σ) (s : σ) (ip : Address) (updaters : List Updater) :
    List Http.Request :=
  (updaters.filter (isFor ip)).flatMap fun u ↦ (alone remote s ip u).requests

/-- What the log says of all records, each alone: that it is skipped, or how its update goes and ends. -/
def eventsAlone (remote : Remote σ) (s : σ) (ip : Address) (updaters : List Updater) :
    List Log.Event :=
  (updaters.filter (!isFor ip ·)).map (skipping ip) ++
    (updaters.filter (isFor ip)).flatMap fun u ↦
      (alone remote s ip u).events ++ [verdict u (alone remote s ip u).result]

/-- How many records of the family fail, each alone. -/
def failuresAlone (remote : Remote σ) (s : σ) (ip : Address) (updaters : List Updater) : Nat :=
  (updaters.filter (isFor ip)).countP fun u ↦ !(alone remote s ip u).result.toBool

section Perm

variable (remote) (s) (ip) (h : updaters.Perm updaters')

include h

theorem requestsAlone_perm :
    (requestsAlone remote s ip updaters).Perm (requestsAlone remote s ip updaters') :=
  (h.filter _).flatMap_right _

theorem eventsAlone_perm :
    (eventsAlone remote s ip updaters).Perm (eventsAlone remote s ip updaters') :=
  ((h.filter _).map _).append ((h.filter _).flatMap_right _)

theorem failuresAlone_eq :
    failuresAlone remote s ip updaters = failuresAlone remote s ip updaters' :=
  (h.filter _).countP_eq _

end Perm

/-! ## Updates side by side -/

theorem updates_of_isSteady (h : remote.IsSteady s) (schedule : List Nat) (ip : Address)
    (updaters : List Updater) :
    let held := updates remote s schedule ip updaters
    held.result = (updaters.filter (isFor ip)).map (fun u ↦ (alone remote s ip u).result) ∧
      held.requests.Perm (requestsAlone remote s ip updaters) ∧
      held.events.Perm
        ((updaters.filter (isFor ip)).flatMap fun u ↦ (alone remote s ip u).events) := by
  intro held
  have hheld := Conversation.interleave_of_isSteady h schedule
    ((updaters.filter (isFor ip)).map fun u ↦ (u.update ip).run)
  simp only [List.map_map, List.flatMap_map] at hheld
  exact hheld

theorem accounts_alone (remote : Remote σ) (s : σ) (ip : Address) (updaters : List Updater) :
    let matching := updaters.filter (isFor ip)
    (accounts ip updaters (matching.map fun u ↦ (alone remote s ip u).result) ++
        matching.flatMap fun u ↦ (alone remote s ip u).events).Perm
      (eventsAlone remote s ip updaters) := by
  intro matching
  -- On one side the verdicts stand together, on the other each after the course of its update.
  let ending (u : Updater) : Log.Event := verdict u (alone remote s ip u).result
  let course (u : Updater) : List Log.Event := (alone remote s ip u).events
  have hverdicts : matching.zipWith verdict (matching.map fun u ↦ (alone remote s ip u).result) =
      matching.map ending := by
    rw [List.zipWith_map_right, List.zipWith_self]
  rw [accounts, eventsAlone, List.append_assoc, hverdicts]
  apply List.Perm.append_left
  calc matching.map ending ++ matching.flatMap course
    _ ~ matching.flatMap fun u ↦ ending u :: course u :=
      List.map_append_flatMap_perm matching ending course
    _ ~ matching.flatMap fun u ↦ course u ++ [ending u] :=
      List.Perm.flatMap_left matching fun u _ ↦
        (List.perm_append_singleton (ending u) (course u)).symm

theorem failures_alone (remote : Remote σ) (s : σ) (ip : Address) (updaters : List Updater) :
    failures (((updaters.filter (isFor ip)).map fun u ↦ (alone remote s ip u).result).map
      Except.toBool) = failuresAlone remote s ip updaters := by
  simp only [failures, failuresAlone, List.map_map, List.countP_map]
  rfl

/-- With a steady far end the updates of a run come to what each of them comes to alone. -/
theorem updateAll_of_isSteady (h : remote.IsSteady s) (schedule : List Nat) (ip : Address)
    (updaters : List Updater) :
    let outcome := updateAll remote s schedule ip updaters
    let count := failuresAlone remote s ip updaters
    outcome.requests.Perm (requestsAlone remote s ip updaters) ∧
      outcome.exit = (if count = 0 then .success else .failed) ∧
      ∃ log, outcome.events = log ++ failuresEvent count ∧
        log.Perm (eventsAlone remote s ip updaters) := by
  intro outcome count
  obtain ⟨hresult, hrequests, hevents⟩ := updates_of_isSteady h schedule ip updaters
  obtain ⟨hsent, hexit, log, htold, hlog⟩ := updateAll_spec remote s schedule ip updaters
  rw [hresult, failures_alone] at hexit htold
  rw [hresult] at hlog
  refine ⟨(List.Perm.of_eq hsent).trans hrequests, hexit, log, htold, ?_⟩
  exact (hlog.trans (hevents.append_left _)).trans (accounts_alone remote s ip updaters)

/-! ## Runs -/

/-- The rule tells what becomes of a request, and does not make the caller cancel. -/
def Rule.Replies (rule : Rule) : Prop :=
  ∃ reply, rule.reaction = .reply reply ∧ reply ≠ .cancelled

theorem isSteady_ruled {rules : List Rule} (h : ∀ rule ∈ rules, rule.Replies)
    (s : Option Signal) : (ruled rules).IsSteady s := by
  intro request reply s' hrespond
  simp only [ruled] at hrespond
  split at hrespond
  · cases hrespond
    refine ⟨?_, rfl⟩
    intro hcancelled
    cases hcancelled
  · next hrule =>
    obtain ⟨answer, hanswer, hgoing⟩ := h _ (List.mem_of_find?_eq_some hrule)
    cases hanswer
    cases hrespond
    exact ⟨hgoing, rfl⟩
  · next hrule =>
    obtain ⟨answer, hanswer, -⟩ := h _ (List.mem_of_find?_eq_some hrule)
    cases hanswer

/-- Settings that load may list their records in any order, and the updates may go on in any schedule. As
long as no signal comes the requests are those that the records of the family send alone, at most one for
each record at Namecheap and two at DigitalOcean; and the exit, the log after loading up to its order,
and the number of failures are what the records come to alone. -/
theorem run_in_any_order {env : String → Option String} {directory : Directory} {options : Options}
    {settings : Settings} {updaters : List Updater}
    (h : Loads env directory options settings updaters) {rules : List Rule}
    (hrules : ∀ rule ∈ rules, rule.Replies) :
    let remote := ruled rules
    let count := failuresAlone remote none options.address updaters
    (∀ u ∈ updaters, (alone remote none options.address u).requests.length ≤
      u.provider.mostRequests) ∧
      ∀ (directory' : Directory) (text' : String) (settings' : Settings),
        directory'.read options.path = .ok text' →
        Json.decodeText Settings.decode text' = .ok settings' →
        settings'.records.Perm settings.records → ∀ schedule,
          let outcome := run remote none schedule env directory'
          outcome.requests.Perm (requestsAlone remote none options.address updaters) ∧
            outcome.exit = (if count = 0 then .success else .failed) ∧
            ∃ log, outcome.events =
                (loadedEvents settings.records.length ++ (log ++ failuresEvent count)).filter
                  (·.isShown options.level) ∧
              log.Perm (eventsAlone remote none options.address updaters) := by
  intro remote count
  refine ⟨fun u _ ↦ u.length_requests_le options.address remote none false, ?_⟩
  intro directory' text' settings' hread hdecoded hrecords schedule outcome
  obtain ⟨updaters', hloads, hupdaters⟩ := h.reorder hread hdecoded hrecords
  have hrun : outcome = _ := run_of_loads hloads remote none schedule
  obtain ⟨hrequests, hexit, log, hevents, hlog⟩ :=
    updateAll_of_isSteady (isSteady_ruled hrules none) schedule options.address updaters'
  rw [failuresAlone_eq remote none options.address hupdaters] at hexit hevents
  have hlength : updaters'.length = settings.records.length :=
    hupdaters.length_eq.trans h.built.length_eq.symm
  refine ⟨?_, ?_, log, ?_, hlog.trans (eventsAlone_perm remote none options.address hupdaters)⟩
  · rw [hrun]
    exact hrequests.trans (requestsAlone_perm remote none options.address hupdaters)
  · rw [hrun]
    exact hexit
  · rw [hrun, ← hevents, ← hlength]

/-- In the usual place the file of the usual name is found. -/
theorem read_defaultPath (text : String) :
    Directory.read [(Options.defaultPath, text)] Options.defaultPath = .ok text := by
  have hsize : ¬ Directory.maxPath < Options.defaultPath.utf8ByteSize := by decide
  have hstart : Options.defaultPath.toList.head? ≠ some '/' := by decide
  have hnames : (Directory.names Options.defaultPath.toList).map String.ofList =
      [Options.defaultPath] := by decide
  simp only [Directory.read, hsize, hstart, hnames, if_false]
  rfl

/-- A record at each provider, listed in both orders, when nothing is answered. -/
theorem swapped_records_send_the_same :
    let rules : List Rule := [⟨"", .reply .dropped⟩]
    let env (name : String) : Option String := if name = "DDNS_IP" then some "1.2.3.4" else none
    let first :=
      "\x7b\"provider\":\"digitalocean\",\"domain\":\"a.b\",\"host\":\"@\",\"token\":\"t\"\x7d"
    let second :=
      "\x7b\"provider\":\"namecheap\",\"domain\":\"a.b\",\"host\":\"@\",\"password\":\"aaaaaaaaaaaaaaaa\"\x7d"
    let document (a b : String) : String := "\x7b\"settings\":[" ++ a ++ "," ++ b ++ "]\x7d"
    let directory (a b : String) : Directory := [(Options.defaultPath, document a b)]
    (∀ rule ∈ rules, rule.Replies) ∧
      (∃ options settings updaters, Loads env (directory first second) options settings updaters) ∧
      ∀ schedule schedule',
        let outcome := run (ruled rules) none schedule env (directory first second)
        let outcome' := run (ruled rules) none schedule' env (directory second first)
        outcome'.requests.Perm outcome.requests ∧ outcome'.exit = outcome.exit := by
  intro rules env first second document directory
  have hrules : ∀ rule ∈ rules, rule.Replies := by
    intro rule hrule
    rw [List.mem_singleton.1 hrule]
    exact ⟨.dropped, rfl, by simp⟩
  let options : Options := ⟨Options.defaultPath, .v4 ⟨1, 2, 3, 4⟩, 30, .info⟩
  let one : RecordSettings := ⟨.digitalOcean, "a.b", "@", .ipv4, [("token", .string "t")]⟩
  let two : RecordSettings :=
    ⟨.namecheap, "a.b", "@", .ipv4, [("password", .string "aaaaaaaaaaaaaaaa")]⟩
  let member (key value : String) : List Json.Token :=
    [.string (some key), .colon, .string (some value)]
  let object (provider key secret : String) : List Json.Token :=
    [.openObject] ++ member "provider" provider ++ [.comma] ++ member "domain" "a.b" ++ [.comma] ++
      member "host" "@" ++ [.comma] ++ member key secret ++ [.closeObject]
  let array (a b : List Json.Token) : List Json.Token :=
    [.openObject, .string (some "settings"), .colon, .openArray] ++ a ++ [.comma] ++ b ++
      [.closeArray, .closeObject]
  -- Cutting the texts is all that has to be computed on characters; the rest goes by tokens.
  have htokens : Json.tokens (document first second).toList = array
      (object "digitalocean" "token" "t") (object "namecheap" "password" "aaaaaaaaaaaaaaaa") := by
    simp only [document, String.toList_append]
    decide +kernel
  have htokens' : Json.tokens (document second first).toList = array
      (object "namecheap" "password" "aaaaaaaaaaaaaaaa") (object "digitalocean" "token" "t") := by
    simp only [document, String.toList_append]
    decide +kernel
  have hdecoded : Json.decodeText Settings.decode (document first second) = .ok ⟨[one, two]⟩ := by
    rw [Json.decodeText, htokens]
    rfl
  have hdecoded' : Json.decodeText Settings.decode (document second first) = .ok ⟨[two, one]⟩ := by
    rw [Json.decodeText, htokens']
    rfl
  have hfaultless : ∀ record ∈ [one, two], record.fault? = none := by decide +kernel
  have htext : Settings.ofText (document first second) = .ok ⟨[one, two]⟩ :=
    Settings.ofText_eq_ok_iff.2 ⟨hdecoded, List.cons_ne_nil one [two], hfaultless⟩
  have henv : Options.ofEnvironment env = .ok options :=
    Result.eq_ok_of_toOption (by decide +kernel)
  have hone : one.build builtin = .ok (.digitalOcean ⟨⟨"a.b", "@", .ipv4⟩, ⟨"t", by decide⟩,
      DigitalOcean.publicUrl⟩) := Result.eq_ok_of_toOption (by decide +kernel)
  have htwo : two.build builtin = .ok (.namecheap ⟨"a.b", "@",
      ⟨"aaaaaaaaaaaaaaaa", by decide⟩, false, Namecheap.publicUrl⟩) :=
    Result.eq_ok_of_toOption (by decide +kernel)
  have hloads : Loads env (directory first second) options ⟨[one, two]⟩ _ :=
    ⟨henv, ⟨_, read_defaultPath _, htext⟩, .cons hone (.cons htwo .nil)⟩
  refine ⟨hrules, ⟨_, _, _, hloads⟩, ?_⟩
  intro schedule schedule' outcome outcome'
  obtain ⟨-, hany⟩ := run_in_any_order hloads hrules
  obtain ⟨hrequests, hexit, -⟩ := hany _ _ _ (read_defaultPath _) hdecoded (.refl _) schedule
  obtain ⟨hrequests', hexit', -⟩ := hany _ _ _ (read_defaultPath _) hdecoded' (.swap _ _ _) schedule'
  exact ⟨hrequests'.trans hrequests.symm, hexit'.trans hexit.symm⟩

end Command

end DynamicDns
