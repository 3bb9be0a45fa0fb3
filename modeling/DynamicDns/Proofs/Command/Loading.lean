import DynamicDns.Command.Run
import DynamicDns.Proofs.Document
import Mathlib.Data.List.Perm.Basic

/-!
# Loading the settings

Before anything is sent the environment is judged, the settings are read, and the updaters of all records
are made. The command refuses to go on at the first thing that is wrong, be it the last record, and
otherwise has one updater for each record.
-/

namespace DynamicDns.Command

open DynamicDns.Result

variable {σ : Type} {env : String → Option String} {directory directory' : Directory}
  {options : Options} {settings settings' : Settings} {updaters : List Updater}

/-! ## What may be wrong -/

/-- Something is wrong with the environment, with the settings, or with one of the records. -/
inductive Refuses (env : String → Option String) (directory : Directory) : Prop where
  | environment {refusal : Refusal} : Options.ofEnvironment env = .error refusal →
    Refuses env directory
  | unreadable {options : Options} {fault : FileFault} : Options.ofEnvironment env = .ok options →
    directory.read options.path = .error fault → Refuses env directory
  | unaccepted {options : Options} {text : String} {e : Error} :
    Options.ofEnvironment env = .ok options → directory.read options.path = .ok text →
    Settings.ofText text = .error e → Refuses env directory
  | unbuilt {options : Options} {text : String} {settings : Settings} {record : RecordSettings}
    {e : Error} : Options.ofEnvironment env = .ok options →
    directory.read options.path = .ok text → Settings.ofText text = .ok settings →
    record ∈ settings.records → record.build builtin = .error e → Refuses env directory

/-- Nothing is wrong: the settings are read and accepted, and every record has its updater. -/
structure Loads (env : String → Option String) (directory : Directory) (options : Options)
    (settings : Settings) (updaters : List Updater) : Prop where
  environment : Options.ofEnvironment env = .ok options
  accepted : ∃ text, directory.read options.path = .ok text ∧ Settings.ofText text = .ok settings
  built : List.Forall₂ (fun record updater ↦ record.build builtin = .ok updater) settings.records
    updaters

theorem refuses_or_loads (env : String → Option String) (directory : Directory) :
    Refuses env directory ∨ ∃ options settings updaters,
      Loads env directory options settings updaters := by
  cases henv : Options.ofEnvironment env with
  | error refusal => exact .inl (.environment henv)
  | ok options =>
    cases hread : directory.read options.path with
    | error fault => exact .inl (.unreadable henv hread)
    | ok text =>
      cases htext : Settings.ofText text with
      | error e => exact .inl (.unaccepted henv hread htext)
      | ok settings =>
        cases hbuild : settings.records.mapM (RecordSettings.build builtin) with
        | error e =>
          obtain ⟨record, hrecord, herror⟩ := exists_error_of_mapM hbuild
          exact .inl (.unbuilt henv hread htext hrecord herror)
        | ok updaters =>
          exact .inr ⟨options, settings, updaters, henv, ⟨text, hread, htext⟩,
            mapM_eq_ok_iff.1 hbuild⟩

/-! ## The order of the records -/

/-- Settings with the same records in another order are as good. -/
theorem Loads.reorder (h : Loads env directory options settings updaters) {text' : String}
    (hread : directory'.read options.path = .ok text')
    (hdecoded : Json.decodeText Settings.decode text' = .ok settings')
    (hrecords : settings'.records.Perm settings.records) :
    ∃ updaters', Loads env directory' options settings' updaters' ∧ updaters'.Perm updaters := by
  obtain ⟨henv, ⟨text, -, htext⟩, hbuilt⟩ := h
  obtain ⟨-, hsome, hfaultless⟩ := Settings.ofText_eq_ok_iff.1 htext
  obtain ⟨updaters', hbuilt', hupdaters⟩ := List.perm_comp_forall₂ hrecords hbuilt
  refine ⟨updaters', ⟨henv, ⟨text', hread, Settings.ofText_eq_ok_iff.2 ⟨hdecoded, ?_, ?_⟩⟩, hbuilt'⟩,
    hupdaters⟩
  · intro hnone
    rw [hnone] at hrecords
    exact hsome hrecords.nil_eq.symm
  · intro record hrecord
    exact hfaultless record (hrecords.mem_iff.1 hrecord)

/-! ## What follows -/

/-- The log of loading, when all updaters could be made. -/
def loadedEvents (count : Nat) : List Log.Event := starting :: registered ++ [loaded count]

theorem ofFile_eq_ok_iff {path : String} {file : Except FileFault String} :
    Settings.ofFile path (file.mapError FileFault.message) = .ok settings ↔
      ∃ text, file = .ok text ∧ Settings.ofText text = .ok settings := by
  cases file with
  | error fault => exact ⟨nofun, nofun⟩
  | ok text =>
    constructor
    · intro h
      exact ⟨text, rfl, h⟩
    · intro h
      obtain ⟨_, hfile, h⟩ := h
      cases hfile
      exact h

theorem load_eq_some_iff {path : String} {file : Except FileFault String} :
    (load path file).updaters = some updaters ↔
      ∃ text settings, file = .ok text ∧ Settings.ofText text = .ok settings ∧
        settings.build builtin = .ok updaters := by
  unfold load
  constructor
  · intro h
    split at h
    · cases h
    · next settings hfile =>
      obtain ⟨text, htext, haccepted⟩ := ofFile_eq_ok_iff.1 hfile
      split at h
      · cases h
      · next hbuild =>
        cases h
        exact ⟨text, settings, htext, haccepted, hbuild⟩
  · intro h
    obtain ⟨text, settings, htext, haccepted, hbuild⟩ := h
    simp only [ofFile_eq_ok_iff.2 ⟨text, htext, haccepted⟩, hbuild]

/-- When something is wrong there are no updaters. -/
theorem load_eq_none (h : Refuses env directory) (henv : Options.ofEnvironment env = .ok options) :
    (load options.path (directory.read options.path)).updaters = none := by
  rw [Option.eq_none_iff_forall_ne_some]
  intro updaters hload
  obtain ⟨text, settings, hread, htext, hbuild⟩ := load_eq_some_iff.1 hload
  -- What is wrong contradicts one of the steps that loading has gone through.
  cases h with
  | environment hrefused => cases henv.symm.trans hrefused
  | unreadable henv' hread' =>
    cases henv.symm.trans henv'
    cases hread.symm.trans hread'
  | unaccepted henv' hread' htext' =>
    cases henv.symm.trans henv'
    cases hread.symm.trans hread'
    cases htext.symm.trans htext'
  | unbuilt henv' hread' htext' hrecord herror =>
    cases henv.symm.trans henv'
    cases hread.symm.trans hread'
    cases htext.symm.trans htext'
    obtain ⟨updater, -, hupdater⟩ := exists_mem_of_forall₂ (mapM_eq_ok_iff.1 hbuild) hrecord
    cases herror.symm.trans hupdater

/-- When something is wrong nothing is sent. -/
theorem run_of_refuses (h : Refuses env directory) (remote : Remote σ) (s : σ)
    (schedule : List Nat) :
    (run remote s schedule env directory).exit = .refused ∧
      (run remote s schedule env directory).requests = [] := by
  unfold run
  split
  · exact ⟨rfl, rfl⟩
  · next options henv =>
    simp only [runWith, runAll, load_eq_none h henv]
    exact ⟨trivial, trivial⟩

/-- When nothing is wrong the records are updated. -/
theorem run_of_loads (h : Loads env directory options settings updaters) (remote : Remote σ) (s : σ)
    (schedule : List Nat) :
    run remote s schedule env directory =
      let outcome := updateAll remote s schedule options.address updaters
      { outcome with
        events := (loadedEvents updaters.length ++ outcome.events).filter
          (·.isShown options.level) } := by
  obtain ⟨henv, ⟨text, hread, htext⟩, hbuilt⟩ := h
  have hbuild : settings.build builtin = .ok updaters := mapM_eq_ok_iff.2 hbuilt
  have hload : load options.path (directory.read options.path) =
      ⟨loadedEvents updaters.length, some updaters⟩ := by
    simp only [load, ofFile_eq_ok_iff.2 ⟨text, hread, htext⟩, hbuild, loadedEvents]
  simp only [run, henv, runWith, runAll, hload]

end DynamicDns.Command
