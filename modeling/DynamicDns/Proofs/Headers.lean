import DynamicDns.DigitalOcean.Update
import DynamicDns.Http.Setting
import DynamicDns.Proofs.LastWrite
import Mathlib.Data.List.Forall2

/-!
# Headers that were set

Whatever headers a request has, whatever is set on it, and however often a token is refused in between, a
header that was set stands there once, with what was set last. A setting changes no header but its own, and
one that fails changes none.
-/

namespace DynamicDns.Http

open Text

variable {headers : Headers} {header : Header} {setting : Setting}

/-! ## Names -/

namespace Headers

/-- No name stands twice where none stood twice before. -/
theorem nodup_names_set (header : Header) (h : (headers.map Header.name).Nodup) :
    ((headers.set header).map Header.name).Nodup := by
  rw [set, List.map_append, List.map_singleton, List.perm_append_comm.nodup_iff,
    List.singleton_append, List.nodup_cons]
  constructor
  · intro hmem
    obtain ⟨other, hother, hname⟩ := List.mem_map.1 hmem
    exact of_decide_eq_true (List.mem_filter.1 hother).2 hname
  · exact h.sublist (List.filter_sublist.map Header.name)

/-! ## Tokens -/

/-- A token can be carried if each of its bytes is a tab, or no control character. -/
def IsCarried (token : String) : Prop :=
  ∀ b ∈ Utf8.encode token.toList, b = 9 ∨ 0x20 ≤ b ∧ b ≠ 0x7F

theorem isHeaderText_eq_true_iff {text : String} : isHeaderText text = true ↔ IsCarried text := by
  simp [isHeaderText, isHeaderByte, IsCarried]

theorem isHeaderText_bearer (token : String) :
    isHeaderText ("Bearer " ++ token) = isHeaderText token := by
  have hscheme : (Utf8.encode "Bearer ".toList).all isHeaderByte = true := by decide
  unfold isHeaderText
  rw [String.toList_append, Utf8.encode, List.flatMap_append, List.all_append]
  change ((Utf8.encode _).all _ && _) = _
  rw [hscheme, Bool.true_and]
  rfl

end Headers

/-! ## Settings -/

namespace Setting

open Headers (IsCarried)
open LastWrite (IsLast Leave Replaces get_foldl_of_isLast get_foldl_of_leave leaves run_mapM_cons
  run_mapM_snd)

/-- What a setting writes: a header with what it is set to, the token after its scheme and marked as
sensitive. A token that cannot be carried is not written. -/
inductive Writes : Setting → Header → Prop
  | userAgent : Writes .userAgent ⟨.userAgent, "ddns/0.1.0", false⟩
  | accept (mediaType : MediaType) : Writes (.accept mediaType) ⟨.accept, mediaType.text, false⟩
  | contentType (mediaType : MediaType) :
    Writes (.contentType mediaType) ⟨.contentType, mediaType.text, false⟩
  | bearer {token : String} (carried : IsCarried token) :
    Writes (.bearer token) ⟨.authorization, "Bearer " ++ token, true⟩

/-- Why a token is refused, which does not tell what it is. -/
def refusal : Error := .requestBuild "token is not a valid header value"

/-- The scheme before the token can always be carried, so the token decides. -/
theorem bearerValue_eq (token : String) :
    bearerValue token =
      if Headers.isHeaderText token then .ok ("Bearer " ++ token) else .error refusal := by
  rw [bearerValue, Headers.isHeaderText_bearer]
  rfl

theorem perform_of_writes (h : setting.Writes header) (headers : Headers) :
    setting.perform.run.run headers = (.ok (), headers.set header) := by
  cases h with
  | userAgent => rfl
  | accept mediaType => rfl
  | contentType mediaType => rfl
  | @bearer token carried =>
    simp only [perform, bearerValue_eq, Headers.isHeaderText_eq_true_iff.2 carried]
    rfl

theorem perform_of_not_writes (h : ∀ header, ¬ setting.Writes header) (headers : Headers) :
    setting.perform.run.run headers = (.error refusal, headers) := by
  cases setting with
  | userAgent => exact absurd .userAgent (h _)
  | accept mediaType => exact absurd (.accept mediaType) (h _)
  | contentType mediaType => exact absurd (.contentType mediaType) (h _)
  | bearer token =>
    have hnot : ¬ Headers.isHeaderText token = true := fun htext ↦
      h _ (.bearer (Headers.isHeaderText_eq_true_iff.1 htext))
    simp only [perform, bearerValue_eq, if_neg hnot]
    rfl

/-- A setting writes its header, or it is refused and changes nothing. -/
theorem perform_cases (setting : Setting) :
    (∃ header, setting.Writes header ∧
      ∀ headers : Headers, setting.perform.run.run headers = (.ok (), headers.set header)) ∨
    (∀ header, ¬ setting.Writes header) ∧
      ∀ headers : Headers, setting.perform.run.run headers = (.error refusal, headers) := by
  by_cases hwrites : ∃ header, setting.Writes header
  · obtain ⟨header, hheader⟩ := hwrites
    exact .inl ⟨header, hheader, perform_of_writes hheader⟩
  · push Not at hwrites
    exact .inr ⟨hwrites, perform_of_not_writes hwrites⟩

theorem Writes.unique {header' : Header} (h : setting.Writes header) (h' : setting.Writes header') :
    header = header' := by
  cases h <;> cases h' <;> rfl

/-! ## Many settings -/

theorem replaces (headers : Headers) (setting : Setting) :
    Replaces Writes Header.name (fun header ↦ [header]) Headers.named
      (leaves fun setting ↦ setting.perform.run) headers setting := by
  unfold leaves
  rcases perform_cases setting with ⟨header, hwrites, hperform⟩ | ⟨hnone, hperform⟩
  · refine .writes (fun other ↦ ⟨fun h ↦ h.unique hwrites, fun h ↦ h ▸ hwrites⟩) fun name ↦ ?_
    rw [hperform, Headers.named_set]
    simp only [eq_comm]
  · refine .leaves hnone fun name ↦ ?_
    rw [hperform]

theorem nodup_names_perform (setting : Setting) (h : (headers.map Header.name).Nodup) :
    ((setting.perform.run.run headers).2.map Header.name).Nodup := by
  rcases perform_cases setting with ⟨written, -, hperform⟩ | ⟨-, hperform⟩
  · rw [hperform]
    exact Headers.nodup_names_set written h
  · rw [hperform]
    exact h

theorem nodup_names_performAll (settings : List Setting) (h : (headers.map Header.name).Nodup) :
    (((performAll settings).run headers).2.map Header.name).Nodup := by
  rw [performAll, run_mapM_snd]
  exact List.foldlRecOn (motive := fun headers : Headers ↦ (headers.map Header.name).Nodup) settings _ h
    fun _ hheaders setting _ ↦ nodup_names_perform setting hheaders

/-- Whether a setting is refused does not depend on what was set before. -/
theorem forall₂_performAll (settings : List Setting) (headers : Headers) :
    List.Forall₂ (fun setting result ↦
        (∃ header, setting.Writes header) ∧ result = .ok () ∨
          (∀ header, ¬ setting.Writes header) ∧ result = .error refusal)
      settings ((performAll settings).run headers).1 := by
  induction settings generalizing headers with
  | nil => exact .nil
  | cons setting later ih =>
    rw [performAll, run_mapM_cons]
    refine .cons ?_ (ih _)
    rcases perform_cases setting with ⟨written, hwritten, hperform⟩ | ⟨hnone, hperform⟩
    · rw [hperform]
      exact .inl ⟨⟨written, hwritten⟩, rfl⟩
    · rw [hperform]
      exact .inr ⟨hnone, rfl⟩

theorem writes_bearer_iff {token : String} :
    (∃ header, (Setting.bearer token).Writes header) ↔ IsCarried token := by
  constructor
  · rintro ⟨header, hwrites⟩
    cases hwrites with
    | bearer carried => exact carried
  · exact fun carried ↦ ⟨_, .bearer carried⟩

/-- Whatever headers a request has, whatever is set on it and whichever tokens are refused, under every name
for which something was set it has what was set last, once, and under the others what it had before. So no
name stands twice unless one did before. The next setting changes its own header only, or is refused and
changes none; refused is a token with a byte that no header can carry, always with the same error, and every
other token is held after its scheme and as sensitive. -/
theorem headers_hold_what_was_set_last (initial : Headers) (settings : List Setting) :
    let held := (performAll settings).run initial
    List.Forall₂ (fun setting result ↦
        (∃ header, setting.Writes header) ∧ result = .ok () ∨
          (∀ header, ¬ setting.Writes header) ∧ result = .error refusal) settings held.1 ∧
      (∀ header, IsLast Writes Header.name header settings →
        held.2.named header.name = [header]) ∧
      (∀ name, Leave Writes Header.name name settings → held.2.named name = initial.named name) ∧
      ((initial.map Header.name).Nodup → (held.2.map Header.name).Nodup) ∧
      (∀ next : Setting,
        let outcome := next.perform.run.run held.2
        (∀ header, next.Writes header → outcome.1 = .ok () ∧
          outcome.2.named header.name = [header] ∧
          ∀ name, name ≠ header.name → outcome.2.named name = held.2.named name) ∧
        ((∀ header, ¬ next.Writes header) → outcome = (.error refusal, held.2))) ∧
      ∀ token,
        let outcome := (Setting.bearer token).perform.run.run held.2
        (outcome.1 = .ok () ↔ ∀ b ∈ Utf8.encode token.toList, b = 9 ∨ 0x20 ≤ b ∧ b ≠ 0x7F) ∧
        (outcome.1 = .ok () → outcome.2.named .authorization =
          [⟨.authorization, "Bearer " ++ token, true⟩]) ∧
        (outcome.1 ≠ .ok () → outcome =
          (.error (.requestBuild "token is not a valid header value"), held.2)) := by
  intro held
  have hheld : held.2 = settings.foldl (leaves fun setting ↦ setting.perform.run) initial :=
    run_mapM_snd _ settings initial
  refine ⟨forall₂_performAll settings initial, ?_, ?_, nodup_names_performAll settings, ?_, ?_⟩
  · intro header hlast
    rw [hheld, get_foldl_of_isLast replaces initial hlast]
  · intro name hleave
    rw [hheld, get_foldl_of_leave replaces initial hleave]
  · intro next outcome
    refine ⟨fun header hwrites ↦ ?_, fun hnone ↦ perform_of_not_writes hnone held.2⟩
    have houtcome : outcome = (.ok (), held.2.set header) := perform_of_writes hwrites held.2
    rw [houtcome]
    refine ⟨rfl, ?_, fun name hname ↦ ?_⟩
    · rw [Headers.named_set, if_pos rfl]
    · rw [Headers.named_set, if_neg hname]
  · intro token outcome
    by_cases hcarried : IsCarried token
    · have houtcome : outcome = (.ok (), _) := perform_of_writes (.bearer hcarried) held.2
      rw [houtcome]
      refine ⟨iff_of_true rfl hcarried, fun _ ↦ ?_, fun h ↦ absurd rfl h⟩
      rw [Headers.named_set, if_pos rfl]
    · have hnone := not_exists.1 (mt writes_bearer_iff.1 hcarried)
      have houtcome : outcome = (.error refusal, held.2) := perform_of_not_writes hnone held.2
      rw [houtcome]
      exact ⟨iff_of_false nofun hcarried, nofun, fun _ ↦ rfl⟩

/-- A token with a line break is refused between two others, and the first of them stays until the second
takes its place. Two languages that the request had before stay. -/
theorem refused_token_leaves_the_last :
    let language (tag : String) : Header := ⟨⟨"accept-language"⟩, tag, false⟩
    let initial := [language "de", language "en"]
    let settings := [Setting.bearer "a", .bearer "b\nc", .accept ⟨"x/y", by decide⟩, .bearer "d\té"]
    let held := (performAll settings).run initial
    held.1 = [.ok (), .error refusal, .ok (), .ok ()] ∧
      held.2 = [language "de", language "en", ⟨.accept, "x/y", false⟩,
        ⟨.authorization, "Bearer d\té", true⟩] ∧
      held.2.named .authorization = [⟨.authorization, "Bearer d\té", true⟩] := by
  intro language initial settings held
  obtain ⟨-, -, -, -, -, htoken⟩ := headers_hold_what_was_set_last initial (settings.take 3)
  exact ⟨by rfl, by decide +kernel, (htoken "d\té").2.1 (by rfl)⟩

end Setting

end DynamicDns.Http

namespace DynamicDns.DigitalOcean

open Http

/-- The headers of a request are set in four steps, of which the last may be refused. -/
theorem headers_eq_of_settings (d : DigitalOcean) :
    d.headers =
      let settings := [Setting.userAgent, .contentType mediaType, .accept mediaType,
        .bearer d.token.text]
      let (result, headers) := (forM settings Setting.perform).run.run []
      result.map fun _ ↦ headers := by
  unfold headers Headers.setBearer?
  simp only [List.forM_cons, List.forM_nil, Setting.perform, Setting.bearerValue_eq]
  cases Headers.isHeaderText d.token.text with
  | true => rfl
  | false => rfl

end DynamicDns.DigitalOcean
