import DynamicDns.Proofs.Document

/-!
# Settings that are accepted

Settings that can be read are accepted exactly if they list a record and every record has a domain and a
host that are not blank. Otherwise the message points at the first record at fault, counted from one, and
at its domain before its host.
-/

namespace DynamicDns

open DynamicDns.Result
open Text

/-! ## Names -/

namespace Text.Blank

/-- A text with a character that is not blank. -/
def IsFilled (s : String) : Prop := ∃ c ∈ s.toList, isBlank c = false

theorem isBlankText_eq_true_iff {s : String} : isBlankText s = true ↔ ¬ IsFilled s := by
  simp [isBlankText, IsFilled]

end Text.Blank

open Blank (IsFilled)

namespace RecordSettings

/-- Both names of the record have a character that is not blank. -/
structure IsNamed (r : RecordSettings) : Prop where
  domain : IsFilled r.domain
  host : IsFilled r.host

variable {r : RecordSettings}

theorem fault?_of_domain (h : ¬ IsFilled r.domain) : r.fault? = some "domain cannot be empty" :=
  if_pos (Blank.isBlankText_eq_true_iff.2 h)

theorem fault?_of_host (hdomain : IsFilled r.domain) (hhost : ¬ IsFilled r.host) :
    r.fault? = some "host cannot be empty" := by
  rw [fault?, if_neg (mt Blank.isBlankText_eq_true_iff.1 (not_not_intro hdomain)),
    if_pos (Blank.isBlankText_eq_true_iff.2 hhost)]

theorem fault?_eq_none_iff : r.fault? = none ↔ r.IsNamed := by
  by_cases hdomain : IsFilled r.domain
  · by_cases hhost : IsFilled r.host
    · have hnone : r.fault? = none := by
        rw [fault?, if_neg (mt Blank.isBlankText_eq_true_iff.1 (not_not_intro hdomain)),
          if_neg (mt Blank.isBlankText_eq_true_iff.1 (not_not_intro hhost))]
      exact ⟨fun _ ↦ ⟨hdomain, hhost⟩, fun _ ↦ hnone⟩
    · rw [fault?_of_host hdomain hhost]
      exact ⟨nofun, fun hnamed ↦ absurd hnamed.host hhost⟩
  · rw [fault?_of_domain hdomain]
    exact ⟨nofun, fun hnamed ↦ absurd hnamed.domain hdomain⟩

end RecordSettings

/-! ## The first fault -/

namespace Settings

open RecordSettings (fault?_eq_none_iff fault?_of_domain fault?_of_host)

variable {number : Nat} {records : List RecordSettings} {settings : Settings} {text : String}

/-- The records before the first one at fault are counted, and those after it play no part. -/
theorem firstFault?_eq_some_iff {n : Nat} {fault : String} :
    firstFault? number records = some (n, fault) ↔ ∃ before record after,
      records = before ++ record :: after ∧ (∀ r ∈ before, r.IsNamed) ∧
      record.fault? = some fault ∧ n = number + before.length := by
  induction records generalizing number with
  | nil =>
    constructor
    · nofun
    · rintro ⟨before, record, after, hrecords, -⟩
      exact absurd hrecords.symm (List.append_ne_nil_of_right_ne_nil before (List.cons_ne_nil _ _))
  | cons first rest ih =>
    rw [firstFault?]
    constructor
    · intro h
      split at h
      · next hfault =>
        cases h
        exact ⟨[], first, rest, rfl, List.forall_mem_nil _, hfault, rfl⟩
      · next hnone =>
        obtain ⟨before, record, after, rfl, hbefore, hfault, rfl⟩ := ih.1 h
        refine ⟨first :: before, record, after, rfl,
          List.forall_mem_cons.2 ⟨fault?_eq_none_iff.1 hnone, hbefore⟩, hfault, ?_⟩
        rw [List.length_cons]
        omega
    · rintro ⟨before, record, after, hrecords, hbefore, hfault, rfl⟩
      cases before with
      | nil =>
        cases hrecords
        rw [hfault]
        rfl
      | cons named before =>
        cases hrecords
        obtain ⟨hnamed, hbefore⟩ := List.forall_mem_cons.1 hbefore
        rw [fault?_eq_none_iff.2 hnamed]
        refine ih.2 ⟨before, record, after, rfl, hbefore, hfault, ?_⟩
        rw [List.length_cons]
        omega

/-! ## Accepting and refusing -/

/-- The error of the record with a number, in which the fault stands as an error of its own. -/
def refusal (number : Nat) (fault : String) : Error :=
  .settings ("record " ++ Numeral.decimal number ++ ": " ++ (Error.settings fault).message)

/-- Settings with records are refused because of a record, which is the first at fault. -/
theorem validate_eq_error_iff (hrecords : settings.records ≠ []) {e : Error} :
    settings.validate = .error e ↔ ∃ before record after fault,
      settings.records = before ++ record :: after ∧ (∀ r ∈ before, r.IsNamed) ∧
      record.fault? = some fault ∧ e = refusal (before.length + 1) fault := by
  rw [validate, if_neg (mt List.isEmpty_iff.1 hrecords)]
  constructor
  · intro h
    split at h
    · next n fault hfirst =>
      obtain ⟨before, record, after, hsplit, hbefore, hfault, rfl⟩ := firstFault?_eq_some_iff.1 hfirst
      cases h
      refine ⟨before, record, after, fault, hsplit, hbefore, hfault, ?_⟩
      rw [refusal, Nat.add_comm]
    · cases h
  · rintro ⟨before, record, after, fault, hsplit, hbefore, hfault, rfl⟩
    have hfirst : firstFault? 1 settings.records = some (1 + before.length, fault) :=
      firstFault?_eq_some_iff.2 ⟨before, record, after, hsplit, hbefore, hfault, rfl⟩
    rw [hfirst, refusal, Nat.add_comm]

/-- Settings that can be read are refused for what is wrong with them, if something is. -/
theorem ofText_eq_error_iff (hread : Json.decodeText decode text = .ok settings) {e : Error} :
    ofText text = .error e ↔ settings.validate = .error e := by
  rw [ofText, bind_eq_error_iff]
  constructor
  · rintro (hunread | ⟨read, hsame, h⟩)
    · obtain ⟨problem, hproblem, -⟩ := mapError_eq_error_iff.1 hunread
      cases hproblem.symm.trans hread
    · cases (mapError_eq_ok_iff.1 hsame).symm.trans hread
      rcases bind_eq_error_iff.1 h with hinvalid | ⟨_, -, h⟩
      · exact hinvalid
      · cases h
  · intro hinvalid
    exact .inr ⟨settings, mapError_eq_ok_iff.2 hread, bind_eq_error_iff.2 (.inl hinvalid)⟩

/-- Settings that can be read are accepted exactly if they list a record and each record has a domain and a
host that are not blank. The error of all others is one of the settings. If there are records it names the
first one at fault by its number from one on, and its domain if that is blank, else its host. -/
theorem are_accepted_iff_named (hread : Json.decodeText decode text = .ok settings) :
    (ofText text = .ok settings ↔
      settings.records ≠ [] ∧ ∀ record ∈ settings.records, record.IsNamed) ∧
    (∀ e, ofText text = .error e → e.kind = .settings ∧
      (settings.records = [] ∨ ∃ before record after, settings.records = before ++ record :: after ∧
        (∀ r ∈ before, r.IsNamed) ∧ ¬ record.IsNamed)) ∧
    (settings.records = [] → ofText text = .error (.settings "no records configured")) ∧
    ∀ before record after, settings.records = before ++ record :: after →
      (∀ r ∈ before, r.IsNamed) →
      (¬ IsFilled record.domain →
        ofText text = .error (refusal (before.length + 1) "domain cannot be empty")) ∧
      (IsFilled record.domain → ¬ IsFilled record.host →
        ofText text = .error (refusal (before.length + 1) "host cannot be empty")) := by
  have hempty (h : settings.records = []) :
      settings.validate = .error (.settings "no records configured") :=
    if_pos (List.isEmpty_iff.2 h)
  refine ⟨?_, ?_, fun h ↦ (ofText_eq_error_iff hread).2 (hempty h), ?_⟩
  · rw [ofText_eq_ok_iff]
    simp only [fault?_eq_none_iff]
    exact and_iff_right hread
  · intro e he
    have hinvalid := (ofText_eq_error_iff hread).1 he
    by_cases hrecords : settings.records = []
    · cases (hempty hrecords).symm.trans hinvalid
      exact ⟨rfl, .inl hrecords⟩
    · obtain ⟨before, record, after, fault, hsplit, hbefore, hfault, rfl⟩ :=
        (validate_eq_error_iff hrecords).1 hinvalid
      refine ⟨rfl, .inr ⟨before, record, after, hsplit, hbefore, ?_⟩⟩
      intro hnamed
      cases hfault.symm.trans (fault?_eq_none_iff.2 hnamed)
  · intro before record after hsplit hbefore
    have hrecords : settings.records ≠ [] := by
      rw [hsplit]
      exact List.append_ne_nil_of_right_ne_nil before (List.cons_ne_nil record after)
    have hrefused {fault : String} (hfault : record.fault? = some fault) :
        ofText text = .error (refusal (before.length + 1) fault) :=
      (ofText_eq_error_iff hread).2 ((validate_eq_error_iff hrecords).2
        ⟨before, record, after, fault, hsplit, hbefore, hfault, rfl⟩)
    exact ⟨fun hdomain ↦ hrefused (fault?_of_domain hdomain),
      fun hdomain hhost ↦ hrefused (fault?_of_host hdomain hhost)⟩

/-- The first record is good, the second has two blank names, and the third an empty host. -/
def blankText : String :=
  "\x7b\"settings\":[\x7b\"provider\":\"digitalocean\",\"domain\":\"a\",\"host\":\"@\"\x7d," ++
    "\x7b\"provider\":\"namecheap\",\"domain\":\"\\u2003\",\"host\":\" \\t\"\x7d," ++
    "\x7b\"provider\":\"namecheap\",\"domain\":\"a\",\"host\":\"\"\x7d]\x7d"

def blankNames : List (String × String) := [("a", "@"), ("\u2003", " \t"), ("a", "")]

theorem first_blank_name_is_told :
    ∃ settings, Json.decodeText decode blankText = .ok settings ∧
      settings.records.map (fun record ↦ (record.domain, record.host)) = blankNames ∧
      ofText blankText = .error (refusal 2 "domain cannot be empty") := by
  have hevaluated : ((Json.decodeText decode blankText).toOption.any fun settings ↦
      settings.records.map (fun record ↦ (record.domain, record.host)) == blankNames) = true := by
    decide +kernel
  obtain ⟨settings, hread, hnames⟩ := exists_ok_of_any hevaluated
  have hnames := eq_of_beq hnames
  obtain ⟨first, rest, hrecords, hfirst, hrest⟩ := List.map_eq_cons_iff.1 hnames
  obtain ⟨second, after, rfl, hsecond, -⟩ := List.map_eq_cons_iff.1 hrest
  have hgood : ∀ r ∈ [first], r.IsNamed := by
    obtain ⟨hdomain, hhost⟩ := Prod.mk.inj hfirst
    rw [List.forall_mem_singleton, ← fault?_eq_none_iff, RecordSettings.fault?, hdomain, hhost]
    decide
  have hblank : ¬ IsFilled second.domain := by
    rw [(Prod.mk.inj hsecond).1]
    exact Blank.isBlankText_eq_true_iff.1 (by decide)
  obtain ⟨-, -, -, hrefused⟩ := are_accepted_iff_named hread
  exact ⟨settings, hread, hnames, (hrefused [first] second after hrecords hgood).1 hblank⟩

end Settings

end DynamicDns
