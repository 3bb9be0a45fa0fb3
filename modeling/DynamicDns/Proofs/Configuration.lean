import DynamicDns.Proofs.Kinds
import DynamicDns.Settings

/-!
# Errors of configuration

Whether the configuration has to be changed can be told from the kind of an error alone. Reading settings
and making updaters have no other errors than those of configuration, and updates have none of them,
whatever the far end does. A registry may hold any makers; what is said of it here is said of registries
that hold the two usual ones, under any names.
-/

namespace DynamicDns

open DynamicDns.Result

/-- The error calls for another configuration. -/
def Error.IsOfConfiguration (e : Error) : Prop := e.kind.isConfiguration = true

open Error (IsOfConfiguration)

/-! ## Reading and making -/

theorem Settings.errorsAre_validate (settings : Settings) :
    ErrorsAre IsOfConfiguration settings.validate := by
  unfold validate
  split
  · exact errorsAre_error rfl
  · split
    · exact errorsAre_error rfl
    · exact errorsAre_ok ()

theorem Settings.errorsAre_ofText (text : String) : ErrorsAre IsOfConfiguration (ofText text) := by
  apply ErrorsAre.bind
  · exact errorsAre_mapError fun _ ↦ rfl
  · intro settings _
    apply settings.errorsAre_validate.bind
    intro _ _
    exact errorsAre_ok settings

theorem Password.errorsAre_ofText (s : String) : ErrorsAre IsOfConfiguration (ofText s) := by
  unfold ofText
  split
  · exact errorsAre_error rfl
  · split
    · exact errorsAre_ok _
    · exact errorsAre_error rfl

theorem AccessToken.errorsAre_ofText (s : String) : ErrorsAre IsOfConfiguration (ofText s) := by
  unfold ofText
  split
  · exact errorsAre_ok _
  · exact errorsAre_error rfl

theorem Namecheap.errorsAre_make (blob : Json) (domain host : String) (version : IpVersion) :
    ErrorsAre IsOfConfiguration (make blob domain host version) := by
  cases version with
  | ipv6 => exact errorsAre_error rfl
  | ipv4 =>
    apply ErrorsAre.bind
    · exact errorsAre_mapError fun _ ↦ rfl
    · intro settings _
      apply (Password.errorsAre_ofText settings.password).bind
      intro password _
      exact errorsAre_ok _

theorem DigitalOcean.errorsAre_make (blob : Json) (domain host : String) (version : IpVersion) :
    ErrorsAre IsOfConfiguration (make blob domain host version) := by
  apply ErrorsAre.bind
  · exact errorsAre_mapError fun _ ↦ rfl
  · intro text _
    apply (AccessToken.errorsAre_ofText text).bind
    intro token _
    exact errorsAre_ok _

theorem Updater.errorsAre_make (provider : Provider) (blob : Json) (domain host : String)
    (version : IpVersion) : ErrorsAre IsOfConfiguration (make provider blob domain host version) := by
  cases provider with
  | namecheap => exact (Namecheap.errorsAre_make blob domain host version).map _
  | digitalOcean => exact (DigitalOcean.errorsAre_make blob domain host version).map _

/-! ## Registries -/

namespace Registry

/-- Every maker of the registry is that of one of the providers. -/
def IsUsual (registry : Registry) : Prop :=
  ∀ provider maker, registry.maker? provider = some maker →
    ∃ vendor, maker = Updater.make vendor

theorem isUsual_empty : empty.IsUsual := nofun

theorem IsUsual.register {registry : Registry} (h : registry.IsUsual) (provider vendor : Provider) :
    (registry.register provider (Updater.make vendor)).IsUsual := by
  intro other maker hmaker
  rw [maker?_register] at hmaker
  split at hmaker
  · cases hmaker
    exact ⟨vendor, rfl⟩
  · exact h other maker hmaker

theorem IsUsual.foldl_registerUsual {registry : Registry} (h : registry.IsUsual)
    (providers : List Provider) :
    (providers.foldl (fun r provider ↦ r.registerUsual provider) registry).IsUsual := by
  induction providers generalizing registry with
  | nil => exact h
  | cons provider providers ih => exact ih (h.register provider provider)

theorem isUsual_ofList (providers : List Provider) : (ofList providers).IsUsual :=
  isUsual_empty.foldl_registerUsual providers

theorem errorsAre_create {registry : Registry} (h : registry.IsUsual) (provider : Provider)
    (blob : Json) (domain host : String) (version : IpVersion) :
    ErrorsAre IsOfConfiguration (registry.create provider blob domain host version) := by
  unfold create
  cases hmaker : registry.maker? provider with
  | none => exact errorsAre_error rfl
  | some maker =>
    obtain ⟨vendor, rfl⟩ := h provider maker hmaker
    exact Updater.errorsAre_make vendor blob domain host version

theorem errorsAre_build {registry : Registry} (h : registry.IsUsual) (settings : Settings) :
    ErrorsAre IsOfConfiguration (settings.build registry) :=
  errorsAre_mapM fun record _ ↦
    errorsAre_create h record.provider (.object record.params) record.domain record.host
      record.version

end Registry

/-! ## Updates -/

theorem ErrorKind.isConfiguration_of_isOfExchange {kind : ErrorKind}
    (h : kind.isOfExchange = true) : kind.isConfiguration = false := by
  cases kind <;> first | rfl | exact absurd h (by decide)

theorem Updater.firstRequest_error {u : Updater} {ip : Address} {e : Error}
    (h : u.firstRequest ip = .error e) : ∃ reason, e = .requestBuild reason := by
  cases u with
  | namecheap n => exact Namecheap.request_error h
  | digitalOcean d => exact DigitalOcean.lookupRequest_error h

theorem Updater.isConfiguration_of_update {σ : Type} (u : Updater) (ip : Address)
    (remote : Remote σ) (s : σ) (cancelled : Bool) :
    ErrorsAre (fun e ↦ e.kind.isConfiguration = false)
      ((u.update ip).hold remote s cancelled).result := by
  intro e he
  rcases u.error_kind ip remote s cancelled he with ⟨e', hfirst⟩ | hexchange
  · obtain ⟨reason, rfl⟩ := firstRequest_error hfirst
    have hresult := (hold_of_unwritten hfirst remote s cancelled).1
    cases he.symm.trans hresult
    rw [Error.kind_within]
    rfl
  · exact ErrorKind.isConfiguration_of_isOfExchange hexchange

/-- Reading settings and making updaters fail for the configuration only, and updates never do, in
whatever stages an error is wrapped. -/
theorem errors_tell_configuration_from_updates (registry : Registry) (h : registry.IsUsual) :
    (∀ text, ErrorsAre IsOfConfiguration (Settings.ofText text)) ∧
    (∀ settings : Settings, ErrorsAre IsOfConfiguration (settings.build registry)) ∧
    (∀ record : RecordSettings, ErrorsAre IsOfConfiguration (record.build registry)) ∧
    (∀ provider blob domain host version,
      ErrorsAre IsOfConfiguration (registry.create provider blob domain host version)) ∧
    (∀ blob domain host version,
      ErrorsAre IsOfConfiguration (Namecheap.make blob domain host version)) ∧
    (∀ blob domain host version,
      ErrorsAre IsOfConfiguration (DigitalOcean.make blob domain host version)) ∧
    ∀ (u : Updater) (ip : Address) (σ : Type) (remote : Remote σ) (s : σ) (cancelled : Bool)
      (stages : List String),
      ErrorsAre (fun e ↦ ¬ (e.within stages).IsOfConfiguration)
        ((u.update ip).hold remote s cancelled).result := by
  refine ⟨Settings.errorsAre_ofText, Registry.errorsAre_build h, ?_, Registry.errorsAre_create h,
    Namecheap.errorsAre_make, DigitalOcean.errorsAre_make, ?_⟩
  · intro record
    exact Registry.errorsAre_create h record.provider _ record.domain record.host record.version
  · intro u ip σ remote s cancelled stages e he hconfiguration
    rw [IsOfConfiguration, Error.kind_within,
      u.isConfiguration_of_update ip remote s cancelled e he] at hconfiguration
    cases hconfiguration

/-- A blank token is a fault of the configuration, and an answer that does not come is none. -/
theorem blank_token_is_of_configuration :
    let registry := Registry.ofList Provider.all
    let blank : Json := .object [("token", .string " ")]
    let u : Updater := .digitalOcean
      ⟨⟨"example.com", "home", .ipv4⟩, ⟨"t", by decide⟩, DigitalOcean.publicUrl⟩
    let held := (u.update (.v4 ⟨1, 2, 3, 4⟩)).hold .script [.dropped] false
    registry.IsUsual ∧
    (∃ e, registry.create .digitalOcean blank "example.com" "home" .ipv4 = .error e ∧
      e.IsOfConfiguration) ∧
    ∃ e, held.result = .error e ∧ ¬ (e.within ["updating"]).IsOfConfiguration := by
  intro registry blank u held
  have h : registry.IsUsual := Registry.isUsual_ofList Provider.all
  obtain ⟨-, -, -, hcreate, -, -, hupdate⟩ := errors_tell_configuration_from_updates registry h
  have hblank : registry.create .digitalOcean blank "example.com" "home" .ipv4 =
      .error .emptyToken := rfl
  have hdropped : held.result = .error (.inStage DigitalOcean.lookupStage (.transport .sending)) :=
    rfl
  exact ⟨h, ⟨_, hblank, hcreate _ _ _ _ _ _ hblank⟩, _, hdropped,
    hupdate u _ _ .script [.dropped] false ["updating"] _ hdropped⟩

end DynamicDns
