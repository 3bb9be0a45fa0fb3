import DynamicDns.Proofs.Acceptance
import DynamicDns.Proofs.Kinds

/-!
# What refusals show of a secret

A refusal of settings does not show a secret that is a text, whatever is wrong with it: the messages about
texts are the same for all of them. A secret that is no text is refused for its type, and the message about
a wrong type shows what stands there. Of `null`, an array or an object it shows the type only, but it shows
a boolean or a number as it is.
-/

namespace DynamicDns

open DynamicDns.Result
open Json (lookup?)

/-- The key under which the settings of a provider hold the secret. -/
def Provider.secretKey : Provider → String
  | .namecheap => "password"
  | .digitalOcean => "token"

/-- Two values of one of the six types that values can have. -/
inductive Json.SameType : Json → Json → Prop where
  | null : SameType .null .null
  | bool (b b' : Bool) : SameType (.bool b) (.bool b')
  | number (n n' : Num) : SameType (.number n) (.number n')
  | string (s s' : String) : SameType (.string s) (.string s')
  | array (items items' : List Json) : SameType (.array items) (.array items')
  | object (members members' : Members) : SameType (.object members) (.object members')

theorem Json.SameType.ne_string {v w : Json} (h : v.SameType w) (hv : ∀ s, v ≠ .string s) :
    ∀ s, w ≠ .string s := by
  cases h with
  | string s s' => exact absurd rfl (hv s)
  | null | bool b b' | number n n' | array items items' | object members members' => exact nofun

/-- Of values of most types the message shows the type only. -/
theorem Json.SameType.found_eq {v w : Json} (h : v.SameType w) (hstring : ∀ s, v ≠ .string s)
    (hshown : ¬ ((∃ b, v = .bool b) ∨ ∃ n, v = .number n)) : v.found = w.found := by
  cases h with
  | null | array items items' | object members members' => rfl
  | bool b b' => exact absurd (.inl ⟨b, rfl⟩) hshown
  | number n n' => exact absurd (.inr ⟨n, rfl⟩) hshown
  | string s s' => exact absurd rfl (hstring s)

variable {members members' : Json.Members} {v w : Json} {domain host : String}
  {version : IpVersion} {e e' : Error}

/-! ## Secrets of a wrong type -/

/-- The message about a value that should be a text. -/
def Json.noText (v : Json) : String := (Mismatch.wrongType v.found "a string").message

theorem Json.noText_eq_iff : v.noText = w.noText ↔ v.found.text = w.found.text := by
  unfold noText Mismatch.message
  rw [String.append_left_inj, String.append_left_inj, String.append_right_inj]

theorem Json.fieldOr_asString_of_ne (h : ∀ s, v ≠ .string s) :
    fieldOr "" asString (some v) = .error (.wrongType v.found "a string") := by
  cases v with
  | string s => exact absurd rfl (h s)
  | null | bool b | number n | array items | object members => rfl

theorem Namecheap.ofJson_object (members : Json.Members) :
    Settings.ofJson (.object members) = (do
      let password ← Json.fieldOr "" Json.asString (lookup? "password" members)
      let infersAddress ← Json.fieldOr false Json.asBool (lookup? "provider_ip" members)
      .ok ⟨password, infersAddress⟩) := rfl

theorem Namecheap.make_of_ne_string (hv : lookup? "password" members = some v)
    (hstring : ∀ s, v ≠ .string s) :
    make (.object members) domain host .ipv4 = .error (.malformedConfig v.noText) := by
  unfold make
  rw [ofJson_object, hv, Json.fieldOr_asString_of_ne hstring]
  rfl

theorem DigitalOcean.make_of_ne_string (hv : lookup? "token" members = some v)
    (hstring : ∀ s, v ≠ .string s) :
    make (.object members) domain host version = .error (.malformedConfig v.noText) := by
  have hread : tokenOfJson (.object members) = .error (.wrongType v.found "a string") := by
    change (Json.fieldOr "" Json.asString (lookup? "token" members) >>= _) = _
    rw [hv, Json.fieldOr_asString_of_ne hstring]
    rfl
  unfold make
  rw [hread]
  rfl

/-! ## Secrets that are texts -/

/-- Nothing is said of a password but whether it is empty. -/
theorem Password.error_eq_of_kind {s s' : String} (he : ofText s = .error e)
    (he' : ofText s' = .error e') (hkind : e.kind = e'.kind) : e = e' := by
  rcases ofText_eq_error_iff.1 he with ⟨-, rfl⟩ | ⟨-, -, rfl⟩
  · rcases ofText_eq_error_iff.1 he' with ⟨-, rfl⟩ | ⟨-, -, rfl⟩
    · rfl
    · cases hkind
  · rcases ofText_eq_error_iff.1 he' with ⟨-, rfl⟩ | ⟨-, -, rfl⟩
    · cases hkind
    · rfl

theorem Namecheap.make_of_flag_error {s : String} {m : Mismatch}
    (hv : lookup? "password" members = some (.string s))
    (hflag : Json.fieldOr false Json.asBool (lookup? "provider_ip" members) = .error m) :
    make (.object members) domain host .ipv4 = .error (.malformedConfig m.message) := by
  unfold make
  rw [ofJson_object, hv, hflag]
  rfl

/-- Two passwords that are texts are refused alike, since only the flag is shown. -/
theorem Namecheap.error_eq_of_strings {s s' : String}
    (hv : lookup? "password" members = some (.string s))
    (hw : lookup? "password" members' = some (.string s'))
    (hothers : lookup? "provider_ip" members = lookup? "provider_ip" members')
    (he : make (.object members) domain host .ipv4 = .error e)
    (he' : make (.object members') domain host .ipv4 = .error e') (hkind : e.kind = e'.kind) :
    e = e' := by
  cases hflag : Json.fieldOr false Json.asBool (lookup? "provider_ip" members) with
  | error m =>
    cases he.symm.trans (make_of_flag_error hv hflag)
    cases he'.symm.trans (make_of_flag_error hw (hothers ▸ hflag))
    rfl
  | ok infers =>
    obtain ⟨flag, hgiven, -⟩ := (Json.fieldOr_eq_ok_iff Json.asBool_eq_ok_iff).1 hflag
    have hgives : Gives (.object members) (some s) flag := .object hv hgiven
    have hgives' : Gives (.object members') (some s') flag := .object hw (hothers ▸ hgiven)
    rw [hgives.make_eq, map_eq_error_iff] at he
    rw [hgives'.make_eq, map_eq_error_iff] at he'
    exact Password.error_eq_of_kind he he' hkind

/-- A token that is a text is refused for being blank only. -/
theorem DigitalOcean.error_of_string {s : String}
    (hv : lookup? "token" members = some (.string s))
    (he : make (.object members) domain host version = .error e) : e = .emptyToken := by
  have hgives : Gives (.object members) (some s) := .object hv
  rw [hgives.make_eq, map_eq_error_iff] at he
  exact (AccessToken.ofText_eq_error_iff.1 he).2

/-! ## Two refusals -/

/-- The provider serves records of the family. -/
def Provider.Serves : Provider → IpVersion → Prop
  | .namecheap, version => version = .ipv4
  | .digitalOcean, _ => True

namespace Updater

variable {provider : Provider}

theorem make_of_ne_string (hserved : provider.Serves version)
    (hv : lookup? provider.secretKey members = some v) (hstring : ∀ s, v ≠ .string s) :
    make provider (.object members) domain host version = .error (.malformedConfig v.noText) := by
  cases provider with
  | namecheap =>
    cases hserved
    exact map_eq_error_iff.2 (Namecheap.make_of_ne_string hv hstring)
  | digitalOcean => exact map_eq_error_iff.2 (DigitalOcean.make_of_ne_string hv hstring)

theorem error_eq_of_strings {s s' : String}
    (hv : lookup? provider.secretKey members = some (.string s))
    (hw : lookup? provider.secretKey members' = some (.string s'))
    (hothers : ∀ key ≠ provider.secretKey, lookup? key members = lookup? key members')
    (he : make provider (.object members) domain host version = .error e)
    (he' : make provider (.object members') domain host version = .error e')
    (hkind : e.kind = e'.kind) : e = e' := by
  cases provider with
  | namecheap =>
    have herror := map_eq_error_iff.1 he
    have herror' := map_eq_error_iff.1 he'
    cases version with
    | ipv4 =>
      exact Namecheap.error_eq_of_strings hv hw (hothers "provider_ip" (by decide)) herror herror' hkind
    | ipv6 =>
      cases herror
      cases herror'
      rfl
  | digitalOcean =>
    rw [DigitalOcean.error_of_string hv (map_eq_error_iff.1 he),
      DigitalOcean.error_of_string hw (map_eq_error_iff.1 he')]

theorem error_of_not_serves (hserved : ¬ provider.Serves version)
    (he : make provider (.object members) domain host version = .error e) :
    e = .unsupportedIpVersion provider.name version := by
  cases provider with
  | namecheap =>
    cases version with
    | ipv4 => exact absurd rfl hserved
    | ipv6 =>
      have herror : Except.error _ = Except.error e := he
      exact (Except.error.inj herror).symm
  | digitalOcean => exact absurd trivial hserved

theorem message_eq_iff_of_ne_string (hserved : provider.Serves version)
    (hv : lookup? provider.secretKey members = some v)
    (hw : lookup? provider.secretKey members' = some w)
    (hv' : ∀ s, v ≠ .string s) (hw' : ∀ s, w ≠ .string s)
    (he : make provider (.object members) domain host version = .error e)
    (he' : make provider (.object members') domain host version = .error e') :
    e.message = e'.message ↔ v.found.text = w.found.text := by
  cases he.symm.trans (make_of_ne_string hserved hv hv')
  cases he'.symm.trans (make_of_ne_string hserved hw hw')
  rw [← Json.noText_eq_iff]
  exact String.append_right_inj _

/-- Settings that differ only in the value of the secret are refused with the same message as long as the
kind of the error and the type of the value are the same, unless the value is a boolean or a number: the
message about a wrong type shows it. So two such refusals say the same exactly if the family is not served
at all, or the secret is a text, or the two values are written the same way. -/
theorem refusals_agree_iff (hv : lookup? provider.secretKey members = some v)
    (hw : lookup? provider.secretKey members' = some w)
    (hothers : ∀ key ≠ provider.secretKey, lookup? key members = lookup? key members')
    (htype : v.SameType w)
    (he : make provider (.object members) domain host version = .error e)
    (he' : make provider (.object members') domain host version = .error e')
    (hkind : e.kind = e'.kind) :
    (e.message = e'.message ↔
      ¬ provider.Serves version ∨ (∃ s, v = .string s) ∨ v.found.text = w.found.text) ∧
    (¬ ((∃ b, v = .bool b) ∨ ∃ n, v = .number n) → e.message = e'.message) ∧
    (provider.Serves version → (∀ s, v ≠ .string s) → e.message =
      "malformed configuration: " ++
        ("invalid type: " ++ v.found.text ++ ", expected " ++ "a string")) := by
  by_cases hserved : provider.Serves version
  · by_cases hstring : ∃ s, v = .string s
    · obtain ⟨s, rfl⟩ := hstring
      cases htype with
      | string s s' =>
        have hsame := error_eq_of_strings hv hw hothers he he' hkind
        refine ⟨⟨fun _ ↦ .inr (.inl ⟨s, rfl⟩), fun _ ↦ congrArg _ hsame⟩, fun _ ↦ congrArg _ hsame, ?_⟩
        intro _ hnot
        exact absurd rfl (hnot s)
    · have hnot : ∀ s, v ≠ .string s := fun s hs ↦ hstring ⟨s, hs⟩
      have hiff := message_eq_iff_of_ne_string hserved hv hw hnot (htype.ne_string hnot) he he'
      refine ⟨?_, ?_, ?_⟩
      · rw [hiff]
        exact ⟨fun h ↦ .inr (.inr h), fun h ↦ (h.resolve_left (not_not.2 hserved)).resolve_left hstring⟩
      · intro hshown
        exact hiff.2 (congrArg _ (htype.found_eq hnot hshown))
      · intro _ _
        cases he.symm.trans (make_of_ne_string hserved hv hnot)
        rfl
  · have hsame : e = e' := by
      rw [error_of_not_serves hserved he, error_of_not_serves hserved he']
    refine ⟨⟨fun _ ↦ .inl hserved, fun _ ↦ congrArg _ hsame⟩, fun _ ↦ congrArg _ hsame, ?_⟩
    intro hyes
    exact absurd hyes hserved

/-- Passwords that are put into arrays stay hidden, beside a flag that is shown. -/
theorem listed_passwords_stay_hidden :
    let settings (secret : String) : Json.Members :=
      [("password", .array [.string secret]), ("provider_ip", .number (.integer ⟨1, by decide, by decide⟩))]
    ∃ e e', make .namecheap (.object (settings "first-password-1")) "a.b" "@" .ipv4 = .error e ∧
      make .namecheap (.object (settings "other-password-2")) "a.b" "@" .ipv4 = .error e' ∧
      e.message = e'.message := by
  intro settings
  have hrefused (secret : String) :
      make .namecheap (.object (settings secret)) "a.b" "@" .ipv4 =
        .error (.malformedConfig (Json.noText (.array []))) := rfl
  refine ⟨_, _, hrefused _, hrefused _, ?_⟩
  have hothers : ∀ key ≠ Provider.namecheap.secretKey, lookup? key (settings "first-password-1") =
      lookup? key (settings "other-password-2") := by
    intro key hkey
    have hne : ("password" == key) = false := beq_eq_false_iff_ne.2 (Ne.symm hkey)
    simp only [settings, lookup?, List.find?_cons, hne]
  apply (refusals_agree_iff rfl rfl hothers (.array _ _) (hrefused _) (hrefused _) rfl).2.1
  rintro (⟨b, h⟩ | ⟨n, h⟩)
  · cases h
  · cases h

/-- A token that is written as a number is refused, and the message tells which number it is. -/
theorem numeric_token_is_shown :
    let settings (secret : Json.Integer) : Json.Members := [("token", .number (.integer secret))]
    let one : Json.Integer := ⟨1, by decide, by decide⟩
    let two : Json.Integer := ⟨2, by decide, by decide⟩
    ∃ e e', make .digitalOcean (.object (settings one)) "a.b" "@" .ipv4 = .error e ∧
      make .digitalOcean (.object (settings two)) "a.b" "@" .ipv4 = .error e' ∧
      e.kind = e'.kind ∧ (Json.number (.integer one)).SameType (.number (.integer two)) ∧
      e.message = "malformed configuration: invalid type: integer `1`, expected a string" ∧
      e.message ≠ e'.message := by
  intro settings one two
  exact ⟨_, _, rfl, rfl, rfl, .number _ _, by decide +kernel, by decide +kernel⟩

end Updater

end DynamicDns
