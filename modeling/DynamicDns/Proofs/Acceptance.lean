import DynamicDns.Proofs.Making

/-!
# Settings that makers accept

The settings of a provider are an object in which other keys are free, or an array of the fields in their
order and nothing more. An updater is made exactly if the secret in them passes its test, and it keeps the
record and the flag that it is made for. The faults have an order: first a family that is not served, then
a wrong shape, then an empty secret, and a malformed one last.
-/

namespace DynamicDns

open DynamicDns.Result
open Json (lookup?)
open Text

variable {blob : Json} {domain host : String} {version : IpVersion}

/-! ## Fields -/

namespace Json

theorem asString_eq_ok_iff {v : Json} {s : String} : asString v = .ok s ↔ v = .string s := by
  cases v with
  | string s' => simp [asString]
  | null | bool b | number n | array items | object members => exact ⟨nofun, nofun⟩

theorem asBool_eq_ok_iff {v : Json} {b : Bool} : asBool v = .ok b ↔ v = .bool b := by
  cases v with
  | bool b' => simp [asBool]
  | null | string s | number n | array items | object members => exact ⟨nofun, nofun⟩

/-- A field has its value or, if it is not there, its default. -/
theorem fieldOr_eq_ok_iff {α : Type} {decode : Json → Checked α} {write : α → Json}
    (h : ∀ {v a}, decode v = .ok a ↔ v = write a) {default a : α} {field : Option Json} :
    fieldOr default decode field = .ok a ↔
      ∃ given : Option α, field = given.map write ∧ a = given.getD default := by
  cases field with
  | none =>
    constructor
    · intro hdefault
      cases hdefault
      exact ⟨none, rfl, rfl⟩
    · rintro ⟨given, hgiven, rfl⟩
      rw [Option.map_eq_none_iff.1 hgiven.symm]
      rfl
  | some v =>
    rw [fieldOr, h]
    constructor
    · rintro rfl
      exact ⟨some a, rfl, rfl⟩
    · rintro ⟨given, hgiven, rfl⟩
      obtain ⟨a, rfl, rfl⟩ := Option.map_eq_some_iff.1 hgiven.symm
      rfl

end Json

/-! ## Secrets -/

namespace Secret

/-- From sixteen to sixty-four characters, each of them a letter, a digit or a hyphen. -/
def IsPasswordText (s : String) : Prop :=
  16 ≤ s.length ∧ s.length ≤ 64 ∧ ∀ c ∈ s.toList,
    ('A' ≤ c ∧ c ≤ 'Z') ∨ ('a' ≤ c ∧ c ≤ 'z') ∨ ('0' ≤ c ∧ c ≤ '9') ∨ c = '-'

theorem isPasswordChar_iff {c : Char} :
    isPasswordChar c = true ↔
      ('A' ≤ c ∧ c ≤ 'Z') ∨ ('a' ≤ c ∧ c ≤ 'z') ∨ ('0' ≤ c ∧ c ≤ '9') ∨ c = '-' := by
  unfold isPasswordChar
  delta Char.isAlphanum Char.isAlpha Char.isUpper Char.isLower Char.isDigit
  simp only [Char.le_def, Bool.or_eq_true, Bool.and_eq_true, decide_eq_true_eq, beq_iff_eq, or_assoc]

theorem isPassword_iff {s : String} : isPassword s = true ↔ IsPasswordText s := by
  simp only [isPassword, IsPasswordText, Bool.and_eq_true, decide_eq_true_eq, List.all_eq_true,
    isPasswordChar_iff, and_assoc]

theorem isToken_iff {s : String} : isToken s = true ↔ ¬ ∀ c ∈ s.toList, Blank.isBlank c = true := by
  rw [isToken, Bool.not_eq_true', ← Bool.not_eq_true, Blank.isBlankText, List.all_eq_true]

end Secret

theorem Password.ofText_eq_error_iff {s : String} {e : Error} :
    ofText s = .error e ↔ (s = "" ∧ e = .emptyPassword) ∨
      (s ≠ "" ∧ ¬ Secret.IsPasswordText s ∧ e = .malformedPassword) := by
  unfold ofText
  rw [← Secret.isPassword_iff]
  split
  · next hempty =>
    rw [Except.error.injEq, eq_comm]
    exact ⟨fun he ↦ .inl ⟨hempty, he⟩, fun h ↦ h.elim And.right fun h ↦ absurd hempty h.1⟩
  split
  · next hempty hshape =>
    constructor
    · intro h
      cases h
    · exact fun h ↦ h.elim (absurd ·.1 hempty) (absurd hshape ·.2.1)
  · next hempty hshape =>
    rw [Except.error.injEq, eq_comm]
    exact ⟨fun he ↦ .inr ⟨hempty, hshape, he⟩, fun h ↦ h.elim (absurd ·.1 hempty) (·.2.2)⟩

theorem AccessToken.ofText_eq_error_iff {s : String} {e : Error} :
    ofText s = .error e ↔ (∀ c ∈ s.toList, Blank.isBlank c = true) ∧ e = .emptyToken := by
  unfold ofText
  split
  · next htoken =>
    constructor
    · intro h
      cases h
    · exact fun h ↦ absurd h.1 (Secret.isToken_iff.1 htoken)
  · next htoken =>
    rw [Except.error.injEq, eq_comm]
    exact ⟨fun he ↦ ⟨not_not.1 (mt Secret.isToken_iff.2 htoken), he⟩, And.right⟩

/-! ## Shapes -/

namespace Namecheap

/-- What settings of the right shape give: the password and the flag, each of which may be absent. -/
inductive Gives : Json → Option String → Option Bool → Prop where
  | object {members : Json.Members} {password : Option String} {flag : Option Bool} :
    lookup? "password" members = password.map .string →
    lookup? "provider_ip" members = flag.map .bool → Gives (.object members) password flag
  | nothing : Gives (.array []) none none
  | password (password : String) : Gives (.array [.string password]) (some password) none
  | both (password : String) (flag : Bool) :
    Gives (.array [.string password, .bool flag]) (some password) (some flag)

/-- What is given stands in the two fields, and nothing but an object or an array has fields. -/
theorem gives_iff {password : Option String} {flag : Option Bool} :
    Gives blob password flag ↔ blob.checkStructure "NamecheapSettings" = .ok () ∧
      blob.field? "password" 0 = password.map .string ∧
      blob.field? "provider_ip" 1 = flag.map .bool ∧ blob.checkLength 2 = .ok () := by
  constructor
  · intro h
    cases h with
    | object hpassword hflag => exact ⟨rfl, hpassword, hflag, rfl⟩
    | nothing | password p | both p f => exact ⟨rfl, rfl, rfl, rfl⟩
  · rintro ⟨hstructure, hpassword, hflag, hlength⟩
    cases blob with
    | object members => exact .object hpassword hflag
    | array items =>
      rcases items with _ | ⟨first, _ | ⟨second, _ | ⟨third, rest⟩⟩⟩
      · cases Option.map_eq_none_iff.1 hpassword.symm
        cases Option.map_eq_none_iff.1 hflag.symm
        exact .nothing
      · obtain ⟨p, rfl, rfl⟩ := Option.map_eq_some_iff.1 hpassword.symm
        cases Option.map_eq_none_iff.1 hflag.symm
        exact .password p
      · obtain ⟨p, rfl, rfl⟩ := Option.map_eq_some_iff.1 hpassword.symm
        obtain ⟨f, rfl, rfl⟩ := Option.map_eq_some_iff.1 hflag.symm
        exact .both p f
      · -- A third item is one too many.
        simp [Json.checkLength] at hlength
    | null | bool b | number n | string s => cases hstructure

theorem Settings.ofJson_eq_ok_iff {settings : Settings} :
    ofJson blob = .ok settings ↔ ∃ password flag, Gives blob password flag ∧
      settings = ⟨password.getD "", flag.getD false⟩ := by
  unfold ofJson
  simp only [bind_eq_ok_iff, Json.fieldOr_eq_ok_iff Json.asString_eq_ok_iff,
    Json.fieldOr_eq_ok_iff Json.asBool_eq_ok_iff, gives_iff]
  constructor
  · rintro ⟨_, hstructure, _, ⟨password, hpassword, rfl⟩, _, ⟨flag, hflag, rfl⟩, _, hlength, h⟩
    cases h
    exact ⟨password, flag, ⟨hstructure, hpassword, hflag, hlength⟩, rfl⟩
  · rintro ⟨password, flag, ⟨hstructure, hpassword, hflag, hlength⟩, rfl⟩
    exact ⟨(), hstructure, _, ⟨password, hpassword, rfl⟩, _, ⟨flag, hflag, rfl⟩, (), hlength, rfl⟩

theorem Gives.ofJson_eq {password : Option String} {flag : Option Bool}
    (h : Gives blob password flag) : Settings.ofJson blob = .ok ⟨password.getD "", flag.getD false⟩ :=
  Settings.ofJson_eq_ok_iff.2 ⟨password, flag, h, rfl⟩

end Namecheap

namespace DigitalOcean

/-- What settings of the right shape give: the token, which may be absent. -/
inductive Gives : Json → Option String → Prop where
  | object {members : Json.Members} {token : Option String} :
    lookup? "token" members = token.map .string → Gives (.object members) token
  | nothing : Gives (.array []) none
  | token (token : String) : Gives (.array [.string token]) (some token)

theorem gives_iff {token : Option String} :
    Gives blob token ↔ blob.checkStructure "DigitalOceanSettings" = .ok () ∧
      blob.field? "token" 0 = token.map .string ∧ blob.checkLength 1 = .ok () := by
  constructor
  · intro h
    cases h with
    | object htoken => exact ⟨rfl, htoken, rfl⟩
    | nothing | token t => exact ⟨rfl, rfl, rfl⟩
  · rintro ⟨hstructure, htoken, hlength⟩
    cases blob with
    | object members => exact .object htoken
    | array items =>
      rcases items with _ | ⟨first, _ | ⟨second, rest⟩⟩
      · cases Option.map_eq_none_iff.1 htoken.symm
        exact .nothing
      · obtain ⟨t, rfl, rfl⟩ := Option.map_eq_some_iff.1 htoken.symm
        exact .token t
      · simp [Json.checkLength] at hlength
    | null | bool b | number n | string s => cases hstructure

theorem tokenOfJson_eq_ok_iff {text : String} :
    tokenOfJson blob = .ok text ↔ ∃ token, Gives blob token ∧ text = token.getD "" := by
  unfold tokenOfJson
  simp only [bind_eq_ok_iff, Json.fieldOr_eq_ok_iff Json.asString_eq_ok_iff, gives_iff]
  constructor
  · rintro ⟨_, hstructure, _, ⟨token, htoken, rfl⟩, _, hlength, h⟩
    cases h
    exact ⟨token, ⟨hstructure, htoken, hlength⟩, rfl⟩
  · rintro ⟨token, ⟨hstructure, htoken, hlength⟩, rfl⟩
    exact ⟨(), hstructure, _, ⟨token, htoken, rfl⟩, (), hlength, rfl⟩

end DigitalOcean

/-! ## Verdicts -/

namespace Namecheap

variable {password : Option String} {flag : Option Bool}

/-- Once the shape is right, the password alone decides. -/
theorem Gives.make_eq (h : Gives blob password flag) :
    make blob domain host .ipv4 = (Password.ofText (password.getD "")).map fun accepted ↦
      ⟨domain, host, accepted, flag.getD false, publicUrl⟩ := by
  unfold make
  rw [h.ofJson_eq]
  rfl

theorem malformedConfig_iff :
    (∃ reason, make blob domain host .ipv4 = .error (.malformedConfig reason)) ↔
      ¬ ∃ password flag, Gives blob password flag := by
  constructor
  · rintro ⟨reason, herror⟩ ⟨password, flag, hgives⟩
    rw [hgives.make_eq, map_eq_error_iff, Password.ofText_eq_error_iff] at herror
    rcases herror with ⟨-, h⟩ | ⟨-, -, h⟩
    · cases h
    · cases h
  · intro hnone
    cases hread : Settings.ofJson blob with
    | ok settings =>
      obtain ⟨password, flag, hgives, -⟩ := Settings.ofJson_eq_ok_iff.1 hread
      exact absurd ⟨password, flag, hgives⟩ hnone
    | error m =>
      refine ⟨m.message, ?_⟩
      unfold make
      rw [hread]
      rfl

theorem Gives.emptyPassword_iff (h : Gives blob password flag) :
    make blob domain host .ipv4 = .error .emptyPassword ↔
      password = none ∨ password = some "" := by
  rw [h.make_eq, map_eq_error_iff, Password.ofText_eq_error_iff]
  cases password with
  | none => simp
  | some text => simp

theorem Gives.malformedPassword_iff (h : Gives blob password flag) :
    make blob domain host .ipv4 = .error .malformedPassword ↔
      ∃ text, password = some text ∧ text ≠ "" ∧ ¬ Secret.IsPasswordText text := by
  rw [h.make_eq, map_eq_error_iff, Password.ofText_eq_error_iff]
  cases password with
  | none => simp
  | some text => simp

theorem Gives.exists_ok_iff (h : Gives blob password flag) :
    (∃ n, make blob domain host .ipv4 = .ok n) ↔
      ∃ text, password = some text ∧ Secret.IsPasswordText text := by
  rw [h.make_eq]
  simp only [map_eq_ok_iff, Password.ofText_eq_ok_iff]
  constructor
  · rintro ⟨n, accepted, htext, -⟩
    refine ⟨accepted.text, ?_, Secret.isPassword_iff.1 accepted.isPassword⟩
    cases password with
    | none => exact absurd htext accepted.text_ne_empty
    | some text => rw [htext, Option.getD_some]
  · rintro ⟨text, rfl, hshape⟩
    exact ⟨_, ⟨text, Secret.isPassword_iff.2 hshape⟩, rfl, rfl⟩

theorem Gives.eq_of_make {n : Namecheap} (h : Gives blob password flag)
    (hmake : make blob domain host .ipv4 = .ok n) :
    n.target = ⟨domain, host, .ipv4⟩ ∧ password = some n.password.text ∧
      n.infersAddress = flag.getD false := by
  rw [h.make_eq, map_eq_ok_iff] at hmake
  obtain ⟨accepted, haccepted, rfl⟩ := hmake
  have htext := Password.ofText_eq_ok_iff.1 haccepted
  refine ⟨rfl, ?_, rfl⟩
  cases password with
  | none => exact absurd htext accepted.text_ne_empty
  | some text => exact congrArg some htext.symm

end Namecheap

namespace DigitalOcean

variable {token : Option String}

theorem Gives.make_eq (h : Gives blob token) :
    make blob domain host version = (AccessToken.ofText (token.getD "")).map fun accepted ↦
      ⟨⟨domain, host, version⟩, accepted, publicUrl⟩ := by
  unfold make
  rw [tokenOfJson_eq_ok_iff.2 ⟨token, h, rfl⟩]
  rfl

theorem malformedConfig_iff :
    (∃ reason, make blob domain host version = .error (.malformedConfig reason)) ↔
      ¬ ∃ token, Gives blob token := by
  constructor
  · rintro ⟨reason, herror⟩ ⟨token, hgives⟩
    rw [hgives.make_eq, map_eq_error_iff, AccessToken.ofText_eq_error_iff] at herror
    cases herror.2
  · intro hnone
    cases hread : tokenOfJson blob with
    | ok text =>
      obtain ⟨token, hgives, -⟩ := tokenOfJson_eq_ok_iff.1 hread
      exact absurd ⟨token, hgives⟩ hnone
    | error m =>
      refine ⟨m.message, ?_⟩
      unfold make
      rw [hread]
      rfl

theorem Gives.emptyToken_iff (h : Gives blob token) :
    make blob domain host version = .error .emptyToken ↔
      ∀ text, token = some text → ∀ c ∈ text.toList, Blank.isBlank c = true := by
  rw [h.make_eq, map_eq_error_iff, AccessToken.ofText_eq_error_iff]
  cases token with
  | none => simp
  | some text => simp

theorem Gives.exists_ok_iff (h : Gives blob token) :
    (∃ d, make blob domain host version = .ok d) ↔
      ∃ text, token = some text ∧ ¬ ∀ c ∈ text.toList, Blank.isBlank c = true := by
  rw [h.make_eq]
  simp only [map_eq_ok_iff, AccessToken.ofText_eq_ok_iff]
  constructor
  · rintro ⟨d, accepted, htext, -⟩
    refine ⟨accepted.text, ?_, Secret.isToken_iff.1 accepted.isToken⟩
    cases token with
    | none => exact absurd htext accepted.text_ne_empty
    | some text => rw [htext, Option.getD_some]
  · rintro ⟨text, rfl, htoken⟩
    exact ⟨_, ⟨text, Secret.isToken_iff.2 htoken⟩, rfl, rfl⟩

theorem Gives.eq_of_make {d : DigitalOcean} (h : Gives blob token)
    (hmake : make blob domain host version = .ok d) :
    d.target = ⟨domain, host, version⟩ ∧ token = some d.token.text := by
  rw [h.make_eq, map_eq_ok_iff] at hmake
  obtain ⟨accepted, haccepted, rfl⟩ := hmake
  have htext := AccessToken.ofText_eq_ok_iff.1 haccepted
  refine ⟨rfl, ?_⟩
  cases token with
  | none => exact absurd htext accepted.text_ne_empty
  | some text => exact congrArg some htext.symm

end DigitalOcean

/-- Settings are judged by their family, their shape and their secret, in this order, and everything that
passes becomes an updater for the record that was asked for, with the secret and the flag that the settings
give. At Namecheap the family has to be IPv4 and the secret has to look like a password; at DigitalOcean
either family is served, and the secret only must not be blank. -/
theorem makers_judge_settings (blob : Json) (domain host : String) :
    let namecheap := Namecheap.make blob domain host
    let digitalOcean := DigitalOcean.make blob domain host
    namecheap .ipv6 = .error (.unsupportedIpVersion "namecheap" .ipv6) ∧
    ((∃ reason, namecheap .ipv4 = .error (.malformedConfig reason)) ↔
      ¬ ∃ password flag, Namecheap.Gives blob password flag) ∧
    (∀ password flag, Namecheap.Gives blob password flag →
      (namecheap .ipv4 = .error .emptyPassword ↔ password = none ∨ password = some "") ∧
      (namecheap .ipv4 = .error .malformedPassword ↔
        ∃ text, password = some text ∧ text ≠ "" ∧ ¬ Secret.IsPasswordText text) ∧
      ((∃ n, namecheap .ipv4 = .ok n) ↔ ∃ text, password = some text ∧ Secret.IsPasswordText text) ∧
      ∀ n, namecheap .ipv4 = .ok n → n.target = ⟨domain, host, .ipv4⟩ ∧
        password = some n.password.text ∧ n.infersAddress = flag.getD false) ∧
    ∀ version,
      ((∃ reason, digitalOcean version = .error (.malformedConfig reason)) ↔
        ¬ ∃ token, DigitalOcean.Gives blob token) ∧
      ∀ token, DigitalOcean.Gives blob token →
        (digitalOcean version = .error .emptyToken ↔
          ∀ text, token = some text → ∀ c ∈ text.toList, Blank.isBlank c = true) ∧
        ((∃ d, digitalOcean version = .ok d) ↔
          ∃ text, token = some text ∧ ¬ ∀ c ∈ text.toList, Blank.isBlank c = true) ∧
        ∀ d, digitalOcean version = .ok d →
          d.target = ⟨domain, host, version⟩ ∧ token = some d.token.text := by
  intro namecheap digitalOcean
  refine ⟨rfl, Namecheap.malformedConfig_iff, ?_, ?_⟩
  · intro password flag hgives
    exact ⟨hgives.emptyPassword_iff, hgives.malformedPassword_iff, hgives.exists_ok_iff,
      fun n ↦ hgives.eq_of_make⟩
  · intro version
    refine ⟨DigitalOcean.malformedConfig_iff, ?_⟩
    intro token hgives
    exact ⟨hgives.emptyToken_iff, hgives.exists_ok_iff, fun d ↦ hgives.eq_of_make⟩

end DynamicDns
