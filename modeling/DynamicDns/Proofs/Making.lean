import DynamicDns.Proofs.Form
import DynamicDns.Proofs.Kinds

/-!
# Updaters that are made

An updater that is made keeps the record that it is made for, and asks the public site of its provider.
Its requests can be written whatever the domain and the host are. There is one exception: a token is
judged only for being blank, so a token that no header can carry is accepted, and its updater fails in
every update without sending anything.
-/

namespace DynamicDns

open DynamicDns.Result
open Http

variable {blob : Json} {domain host : String} {version : IpVersion} {ip : Address}

/-! ## Secrets -/

theorem Password.text_ne_empty (password : Password) : password.text ≠ "" := by
  intro hempty
  have hshape := password.isPassword
  rw [hempty] at hshape
  exact absurd hshape (by decide)

theorem AccessToken.text_ne_empty (token : AccessToken) : token.text ≠ "" := by
  intro hempty
  have hshape := token.isToken
  rw [hempty] at hshape
  exact absurd hshape (by decide)

theorem Password.ofText_eq_ok_iff {s : String} {password : Password} :
    ofText s = .ok password ↔ password.text = s := by
  unfold ofText
  constructor
  · intro h
    split at h
    · cases h
    · split at h
      · cases h
        rfl
      · cases h
  · rintro rfl
    rw [if_neg password.text_ne_empty, dif_pos password.isPassword]

theorem AccessToken.ofText_eq_ok_iff {s : String} {token : AccessToken} :
    ofText s = .ok token ↔ token.text = s := by
  unfold ofText
  constructor
  · intro h
    split at h
    · cases h
      rfl
    · cases h
  · rintro rfl
    exact dif_pos token.isToken

/-! ## Sites -/

/-- The host that answers for a provider. -/
def Provider.hostName : Provider → String
  | .namecheap => "dynamicdns.park-your-domain.com"
  | .digitalOcean => "api.digitalocean.com"

/-- The URL of that host. -/
def Provider.site (provider : Provider) : Url where
  scheme := "https"
  username := ""
  password := none
  host := some (.name provider.hostName)
  port := none
  path := .segments [""]
  query := none
  fragment := none

theorem Namecheap.parse_publicUrl : Url.parse publicUrl = .ok Provider.namecheap.site :=
  eq_ok_of_toOption (by decide +kernel)

theorem DigitalOcean.parse_publicUrl : Url.parse publicUrl = .ok Provider.digitalOcean.site :=
  eq_ok_of_toOption (by decide +kernel)

/-- A place of the site of a provider. -/
structure Url.IsAt (place : Url) (provider : Provider) : Prop where
  host : place.host = some (.name provider.hostName)
  query : place.query = none

theorem Url.IsAt.parameters_eq_nil {place : Url} {provider : Provider} (h : place.IsAt provider) :
    place.parameters = [] := by
  rw [Url.parameters, h.query]
  rfl

/-- The request goes to the site of a provider. -/
def Http.Request.GoesTo (request : Request) (provider : Provider) : Prop :=
  request.url.host = some (.name provider.hostName)

theorem Provider.hostName_inj {provider provider' : Provider}
    (h : provider.hostName = provider'.hostName) : provider = provider' := by
  cases provider <;> cases provider' <;> first | rfl | exact absurd h (by decide)

theorem Http.Request.GoesTo.unique {request : Request} {provider provider' : Provider}
    (h : request.GoesTo provider) (h' : request.GoesTo provider') : provider = provider' :=
  Provider.hostName_inj (Url.Host.name.inj (Option.some.inj (h.symm.trans h')))

/-- Every place below a site can be written. -/
theorem Endpoint.exists_url {baseUrl : Url.Spelling} {provider : Provider}
    (h : Url.parse baseUrl = .ok provider.site) (segments : List String) :
    ∃ place, url baseUrl segments = .ok place :=
  ⟨_, url_eq_ok_iff.2 ⟨provider.site, [""], h, rfl, rfl⟩⟩

theorem Endpoint.isAt_of_url {baseUrl : Url.Spelling} {provider : Provider}
    (h : Url.parse baseUrl = .ok provider.site) {segments : List String} {place : Url}
    (hplace : url baseUrl segments = .ok place) : place.IsAt provider := by
  obtain ⟨base, list, hbase, -, rfl⟩ := url_eq_ok_iff.1 hplace
  cases h.symm.trans hbase
  exact ⟨rfl, rfl⟩

/-! ## Making -/

theorem Namecheap.make_eq_ok_iff {n : Namecheap} :
    make blob domain host version = .ok n ↔ version = .ipv4 ∧ ∃ settings password,
      Settings.ofJson blob = .ok settings ∧ password.text = settings.password ∧
      n = ⟨domain, host, password, settings.infersAddress, publicUrl⟩ := by
  cases version with
  | ipv6 => exact ⟨nofun, nofun⟩
  | ipv4 =>
    unfold make
    simp only [bind_eq_ok_iff, mapError_eq_ok_iff, Password.ofText_eq_ok_iff, true_and]
    constructor
    · intro h
      obtain ⟨settings, hsettings, password, hpassword, h⟩ := h
      cases h
      exact ⟨settings, password, hsettings, hpassword, rfl⟩
    · intro h
      obtain ⟨settings, password, hsettings, hpassword, rfl⟩ := h
      exact ⟨settings, hsettings, password, hpassword, rfl⟩

theorem DigitalOcean.make_eq_ok_iff {d : DigitalOcean} :
    make blob domain host version = .ok d ↔ ∃ token : AccessToken,
      tokenOfJson blob = .ok token.text ∧ d = ⟨⟨domain, host, version⟩, token, publicUrl⟩ := by
  unfold make
  simp only [bind_eq_ok_iff, mapError_eq_ok_iff, AccessToken.ofText_eq_ok_iff]
  constructor
  · intro h
    obtain ⟨text, htext, token, rfl, h⟩ := h
    cases h
    exact ⟨token, htext, rfl⟩
  · intro h
    obtain ⟨token, htext, rfl⟩ := h
    exact ⟨token.text, htext, token, rfl, rfl⟩

/-! ## Writing requests -/

theorem Namecheap.exists_request {n : Namecheap} (h : n.baseUrl = publicUrl) (ip : Address) :
    ∃ request, n.request ip = .ok request := by
  obtain ⟨place, hplace⟩ := Endpoint.exists_url parse_publicUrl ["update"]
  rw [← h] at hplace
  exact ⟨_, request_eq_ok_iff.2 ⟨place, hplace, rfl⟩⟩

namespace DigitalOcean

/-- Why the token cannot be used. -/
def tokenFault : Error := .requestBuild "token is not a valid header value"

/-- At the public site nothing but the token can keep a lookup from being written. -/
theorem lookupRequest_eq_error_iff {d : DigitalOcean} (h : d.baseUrl = publicUrl)
    {recordType : String} {e : Error} :
    d.lookupRequest recordType = .error e ↔
      Headers.isHeaderText d.token.text = false ∧ e = tokenFault := by
  obtain ⟨place, hplace⟩ :=
    Endpoint.exists_url parse_publicUrl ["v2", "domains", d.target.domain, "records"]
  have hurl : d.recordsUrl = .ok place := by
    rw [recordsUrl, h]
    exact hplace
  unfold lookupRequest tokenFault
  rw [hurl, ← headers_eq_error_iff]
  change (d.headers >>= _) = _ ↔ _
  rw [bind_eq_error_iff]
  constructor
  · intro h
    rcases h with hheaders | ⟨headers, -, h⟩
    · exact hheaders
    · cases h
  · exact .inl

/-- The settings hold a token that no header can carry. -/
def HasUnusableToken (blob : Json) : Prop :=
  ∃ token, tokenOfJson blob = .ok token ∧ Headers.isHeaderText token = false

theorem hasUnusableToken_iff {token : String} (h : tokenOfJson blob = .ok token) :
    HasUnusableToken blob ↔ Headers.isHeaderText token = false := by
  constructor
  · intro hunusable
    obtain ⟨token', htoken', htext⟩ := hunusable
    cases h.symm.trans htoken'
    exact htext
  · intro htext
    exact ⟨token, h, htext⟩

end DigitalOcean

/-! ## Where requests go -/

namespace Namecheap

variable {n : Namecheap} {request : Request}

theorem goesTo_of_request (hbase : n.baseUrl = publicUrl) (h : n.request ip = .ok request) :
    request.GoesTo .namecheap ∧ request.url.parameters = n.parameters ip := by
  obtain ⟨place, hplace, rfl⟩ := request_eq_ok_iff.1 h
  rw [hbase] at hplace
  have hat := Endpoint.isAt_of_url parse_publicUrl hplace
  refine ⟨hat.host, ?_⟩
  change (place.appendPairs (("host", n.host) :: _)).parameters = _
  rw [Url.parameters_appendPairs, hat.parameters_eq_nil]
  rfl

/-- The only address in the query is the one that was asked for. -/
theorem eq_text_of_mem_parameters {value : String} (h : ("ip", value) ∈ n.parameters ip) :
    value = ip.text := by
  unfold parameters at h
  split at h
  · simp at h
  · simpa using h

end Namecheap

namespace DigitalOcean

variable {d : DigitalOcean} {request : Request}

theorem goesTo_of_lookupRequest (hbase : d.baseUrl = publicUrl) {recordType : String}
    (h : d.lookupRequest recordType = .ok request) :
    request.GoesTo .digitalOcean ∧ request.url.parameters = d.parameters recordType := by
  obtain ⟨place, headers, hplace, -, rfl⟩ := lookupRequest_eq_ok_iff.1 h
  rw [recordsUrl, hbase] at hplace
  have hat := Endpoint.isAt_of_url parse_publicUrl hplace
  refine ⟨hat.host, ?_⟩
  rw [parameters, Url.parameters_appendPairs, hat.parameters_eq_nil, List.nil_append]

theorem goesTo_of_changeRequest (hbase : d.baseUrl = publicUrl) {id : Nat}
    (h : d.changeRequest ip id = .ok request) :
    request.GoesTo .digitalOcean ∧ request.url.parameters = [] := by
  obtain ⟨place, headers, hplace, -, rfl⟩ := changeRequest_eq_ok_iff.1 h
  rw [recordUrl, hbase] at hplace
  have hat := Endpoint.isAt_of_url parse_publicUrl hplace
  exact ⟨hat.host, hat.parameters_eq_nil⟩

end DigitalOcean

/-! ## Updates -/

namespace Updater

open DigitalOcean (HasUnusableToken tokenFault tokenOfJson lookupStage)

variable {provider : Provider} {u : Updater}

/-- The first request of an updater that is made can be written, unless its token is unusable. -/
theorem firstRequest_eq_error_iff (h : make provider blob domain host version = .ok u)
    (ip : Address) {e : Error} :
    u.firstRequest ip = .error e ↔
      (provider = .digitalOcean ∧ HasUnusableToken blob) ∧ e = tokenFault := by
  cases provider with
  | namecheap =>
    obtain ⟨n, hmake, rfl⟩ := map_eq_ok_iff.1 h
    obtain ⟨-, settings, password, -, -, hn⟩ := Namecheap.make_eq_ok_iff.1 hmake
    have hbase : n.baseUrl = Namecheap.publicUrl := by rw [hn]
    obtain ⟨request, hrequest⟩ := Namecheap.exists_request hbase ip
    constructor
    · intro herror
      cases hrequest.symm.trans herror
    · intro hother
      cases hother.1.1
  | digitalOcean =>
    obtain ⟨d, hmake, rfl⟩ := map_eq_ok_iff.1 h
    obtain ⟨token, htoken, hd⟩ := DigitalOcean.make_eq_ok_iff.1 hmake
    have hbase : d.baseUrl = DigitalOcean.publicUrl := by rw [hd]
    have htext : d.token = token := by rw [hd]
    rw [firstRequest, DigitalOcean.lookupRequest_eq_error_iff hbase,
      DigitalOcean.hasUnusableToken_iff htoken, htext]
    exact and_congr_left' ⟨fun hunusable ↦ ⟨rfl, hunusable⟩, And.right⟩

variable {σ : Type}

/-- An updater that is made with such a token sends nothing, and says in every update that it cannot. -/
theorem hold_of_hasUnusableToken (h : make .digitalOcean blob domain host version = .ok u)
    (htoken : HasUnusableToken blob) (ip : Address) (remote : Remote σ) (s : σ)
    (cancelled : Bool) :
    let held := (u.update ip).hold remote s cancelled
    held.result = .error (.inStage lookupStage tokenFault) ∧ held.requests = [] := by
  intro held
  have hfirst := (firstRequest_eq_error_iff h ip).2 ⟨⟨rfl, htoken⟩, rfl⟩
  obtain ⟨d, -, rfl⟩ := map_eq_ok_iff.1 h
  exact hold_of_unwritten hfirst remote s cancelled

/-- The requests of an updater that is made can be written, for every domain, every host and every
address, unless its token is one that no header can carry. With such a token every update fails, before
anything is sent but after the updater was made without complaint. -/
theorem update_can_be_written_iff (h : make provider blob domain host version = .ok u)
    (ip : Address) (remote : Remote σ) (s : σ) (cancelled : Bool) :
    let held := (u.update ip).hold remote s cancelled
    ((∀ e, held.result = .error e → e.kind ≠ .requestBuild) ↔
      ¬ (provider = .digitalOcean ∧ HasUnusableToken blob)) ∧
    (provider = .digitalOcean ∧ HasUnusableToken blob →
      held.result = .error (.inStage lookupStage tokenFault) ∧ held.requests = []) := by
  intro held
  have hfails : provider = .digitalOcean ∧ HasUnusableToken blob →
      held.result = .error (.inStage lookupStage tokenFault) ∧ held.requests = [] := by
    rintro ⟨rfl, htoken⟩
    exact hold_of_hasUnusableToken h htoken ip remote s cancelled
  refine ⟨⟨?_, ?_⟩, hfails⟩
  · intro hkind hunusable
    exact hkind _ (hfails hunusable).1 rfl
  · intro husable e he hkind
    rcases u.error_kind ip remote s cancelled he with ⟨e', hfirst⟩ | hexchange
    · exact husable ((firstRequest_eq_error_iff h ip).1 hfirst).1
    · rw [Error.IsOfExchange, hkind] at hexchange
      exact absurd hexchange (by decide)

/-- The settings with a token. -/
def tokenSettings (token : String) : Json := .object [("token", .string token)]

theorem plain_token_is_usable :
    let blob := tokenSettings "tok123"
    ∃ u, make .digitalOcean blob "example.org" "api" .ipv4 = .ok u ∧
      ∀ ip replies cancelled e, ((u.update ip).hold .script replies cancelled).result = .error e →
        e.kind ≠ .requestBuild := by
  intro blob
  have htoken : tokenOfJson blob = .ok "tok123" := eq_ok_of_toOption (by decide)
  have hmake : make .digitalOcean blob "example.org" "api" .ipv4 = .ok _ :=
    map_eq_ok_iff.2 ⟨_, DigitalOcean.make_eq_ok_iff.2 ⟨⟨"tok123", by decide⟩, htoken, rfl⟩, rfl⟩
  refine ⟨_, hmake, ?_⟩
  intro ip replies cancelled
  apply (update_can_be_written_iff hmake ip .script replies cancelled).1.2
  rintro ⟨-, hunusable⟩
  have htext := (DigitalOcean.hasUnusableToken_iff htoken).1 hunusable
  exact absurd htext (by decide)

/-- A token with a line break in it is accepted, and then nothing can be asked for. -/
theorem broken_token_is_accepted :
    let blob := tokenSettings "tok\n123"
    ∃ u, make .digitalOcean blob "example.org" "api" .ipv4 = .ok u ∧
      ∀ ip replies cancelled,
        ∃ e, ((u.update ip).hold .script replies cancelled).result = .error e ∧
          e.kind = .requestBuild := by
  intro blob
  have htoken : tokenOfJson blob = .ok "tok\n123" := eq_ok_of_toOption (by decide)
  have hmake : make .digitalOcean blob "example.org" "api" .ipv4 = .ok _ :=
    map_eq_ok_iff.2 ⟨_, DigitalOcean.make_eq_ok_iff.2 ⟨⟨"tok\n123", by decide⟩, htoken, rfl⟩, rfl⟩
  have hunusable : HasUnusableToken blob := ⟨_, htoken, by decide⟩
  refine ⟨_, hmake, ?_⟩
  intro ip replies cancelled
  exact ⟨_, (hold_of_hasUnusableToken hmake hunusable ip .script replies cancelled).1, rfl⟩

end Updater

end DynamicDns
