import DynamicDns.Proofs.Alike
import DynamicDns.Proofs.DigitalOcean.Guard
import DynamicDns.Proofs.Form
import DynamicDns.Proofs.Namecheap.Update
import DynamicDns.Updater

/-!
# Secrets

An update with one secret and the same update with another one are alike: what is shown of them, what
they write to the log and how they end is the same, and the requests differ in the one place that bears
the secret. Two things of a secret do count: whether a token can stand in a header, and whether a
password makes the URL too long for the client.
-/

namespace DynamicDns

open Http
open Url.Form (encodePair)

/-! ## Requests with a secret -/

namespace Http.Request

/-- The same requests but for the value of one parameter of the query. -/
structure DifferInParameter (name value value' : String) (r r' : Request) : Prop where
  same : { r with url := { r.url with query := none } } =
    { r' with url := { r'.url with query := none } }
  pieces : ∃ before after, r.url.pieces = before ++ encodePair (name, value) :: after ∧
    r'.url.pieces = before ++ encodePair (name, value') :: after

/-- The same requests but for the value of one header. -/
structure DifferInHeader (name : HeaderName) (value value' : String) (r r' : Request) : Prop where
  same : { r with headers := [] } = { r' with headers := [] }
  headers : ∃ before sensitive after, r.headers = before ++ ⟨name, value, sensitive⟩ :: after ∧
    r'.headers = before ++ ⟨name, value', sensitive⟩ :: after

/-- A value in the query shows neither in the log nor to the client, unless by its length. -/
theorem DifferInParameter.alike_exchange {name value value' : String} {r r' : Request}
    (h : DifferInParameter name value value' r r') (hfits : r.fits = r'.fits) :
    Talk.Alike (DifferInParameter name value value') (Talk.exchange r) (Talk.exchange r') := by
  obtain ⟨method, url, headers, body⟩ := r
  obtain ⟨method', url', headers', body'⟩ := r'
  have hsame := h.same
  simp only [Request.mk.injEq, Url.mk.injEq] at hsame
  obtain ⟨hmethod, ⟨hscheme, -, -, hhost, -, hpath, -, -⟩, -, -⟩ := hsame
  apply Talk.alike_exchange hmethod
  · simp only [Url.pathText, hpath]
  · simp only [canBeSent, hscheme, hhost, hfits]
  · exact h

theorem DifferInHeader.alike_exchange {name : HeaderName} {value value' : String} {r r' : Request}
    (h : DifferInHeader name value value' r r') :
    Talk.Alike (DifferInHeader name value value') (Talk.exchange r) (Talk.exchange r') := by
  obtain ⟨method, url, headers, body⟩ := r
  obtain ⟨method', url', headers', body'⟩ := r'
  have hsame := h.same
  simp only [Request.mk.injEq] at hsame
  obtain ⟨rfl, rfl, -, -⟩ := hsame
  exact Talk.alike_exchange rfl rfl rfl h

end Http.Request

variable {R : Request → Request → Prop}

/-- The end of an update sends nothing. -/
theorem Talk.alike_confirm (differs : Address → Bool) (ip : Address)
    (reported : Except Error Address) (level : Log.Level) (part : Log.Part)
    (message : Address → String) :
    let talk : Talk Address := do
      let address ← ofExcept reported
      if differs address then throw (.addressMismatch ip address)
      note level part (message address)
      return address
    Alike R talk talk := by
  apply alike_ofExcept_bind
  cases reported with
  | error e => exact .inl ⟨e, rfl, rfl⟩
  | ok address =>
    refine .inr ⟨address, address, rfl, rfl, ?_⟩
    cases differs address with
    | true => exact alike_throw (.addressMismatch ip address)
    | false => exact (alike_pure address).note _ _ _

/-! ## Namecheap -/

namespace Namecheap

/-- The parameters that stand after the password. -/
def laterParameters (n : Namecheap) (ip : Address) : List Url.Form.Pair :=
  if n.infersAddress then [] else [("ip", ip.text)]

/-- The pieces of a query: what the base URL has, host and domain, the password, and the address if it
is sent. -/
theorem pieces_parameters (n : Namecheap) (ip : Address) (url : Url) :
    (url.appendPairs (n.parameters ip)).pieces =
      (url.ownPieces ++ [encodePair ("host", n.host), encodePair ("domain", n.domain)]) ++
        encodePair ("password", n.password.text) :: (n.laterParameters ip).map encodePair := by
  have hparameters : n.parameters ip = ("host", n.host) :: ("domain", n.domain) ::
      ("password", n.password.text) :: n.laterParameters ip := rfl
  rw [hparameters, Url.pieces_appendPairs]
  simp only [List.map_cons, List.append_assoc, List.cons_append, List.nil_append]

/-- The request with one password and the request with another one: they are impossible to write for
the same reason, or differ in the value of the password. -/
theorem request_withPassword (n : Namecheap) (password : Password) (ip : Address) :
    (∃ e, n.request ip = .error e ∧ { n with password }.request ip = .error e) ∨
      ∃ r r', n.request ip = .ok r ∧ { n with password }.request ip = .ok r' ∧
        Request.DifferInParameter "password" n.password.text password.text r r' := by
  unfold request url
  cases Endpoint.url n.baseUrl ["update"] with
  | error e => exact .inl ⟨e, rfl, rfl⟩
  | ok url =>
    exact .inr ⟨_, _, rfl, rfl, rfl, _, _, n.pieces_parameters ip url,
      pieces_parameters { n with password } ip url⟩

/-- Passwords with which the requests are both short enough for the client, or both too long, make no
difference to it. -/
theorem alike_update (n : Namecheap) (password : Password) (ip : Address)
    (hfits : ∀ r r', n.request ip = .ok r → { n with password }.request ip = .ok r' →
      r.fits = r'.fits) :
    Talk.Alike (Request.DifferInParameter "password" n.password.text password.text) (n.update ip)
      ({ n with password }.update ip) := by
  unfold update
  apply Talk.Alike.note
  apply Talk.alike_ofExcept_bind
  rcases n.request_withPassword password ip with herror | ⟨r, r', hwritten, hwritten', hdiffer⟩
  · exact .inl herror
  · refine .inr ⟨r, r', hwritten, hwritten', ?_⟩
    apply Talk.Alike.bind
    · exact hdiffer.alike_exchange (hfits r r' hwritten hwritten')
    · intro body
      exact Talk.alike_confirm (n.differs ip) ip (Answer.read body) _ _ _

end Namecheap

/-! ## DigitalOcean -/

namespace DigitalOcean

/-- The headers of all requests. -/
def headersWith (token : AccessToken) : Headers :=
  [⟨.userAgent, Headers.agent, false⟩, ⟨.contentType, mediaType.text, false⟩,
    ⟨.accept, mediaType.text, false⟩, ⟨.authorization, "Bearer " ++ token.text, true⟩]

theorem headers_of_isHeaderText {d : DigitalOcean} (h : Headers.isHeaderText d.token.text = true) :
    d.headers = .ok (headersWith d.token) := by
  unfold headers Headers.setBearer?
  rw [if_pos h]
  rfl

theorem headers_of_not_isHeaderText {d : DigitalOcean}
    (h : Headers.isHeaderText d.token.text = false) :
    d.headers = .error (.requestBuild "token is not a valid header value") := by
  unfold headers Headers.setBearer?
  rw [h]
  rfl

theorem differInHeader (token token' : AccessToken) (method : Method) (url : Url) (body : String) :
    Request.DifferInHeader .authorization ("Bearer " ++ token.text) ("Bearer " ++ token'.text)
      ⟨method, url, headersWith token, body⟩ ⟨method, url, headersWith token', body⟩ :=
  ⟨rfl, (headersWith token).take 3, true, [], rfl, rfl⟩

/-- Writes a request to a place. -/
def write (d : DigitalOcean) (place : Except Error Url) (method : Method) (body : String) :
    Except Error Request := do
  let url ← place
  let headers ← d.headers
  .ok ⟨method, url, headers, body⟩

theorem lookupRequest_eq_write (d : DigitalOcean) (recordType : String) :
    d.lookupRequest recordType =
      d.write (d.recordsUrl.map (·.appendPairs (d.parameters recordType))) .get "" := by
  unfold lookupRequest write
  cases d.recordsUrl with
  | error e => rfl
  | ok url => rfl

theorem changeRequest_eq_write (d : DigitalOcean) (ip : Address) (id : Nat) :
    d.changeRequest ip id = d.write (d.recordUrl id) .put (d.changedRecord ip).text := rfl

/-- A request with one token and the request with another one that is a header exactly if the first one
is: they are impossible to write for the same reason, or differ in the header that bears the token. -/
theorem write_withToken {d : DigitalOcean} {token : AccessToken}
    (h : Headers.isHeaderText d.token.text = Headers.isHeaderText token.text)
    (place : Except Error Url) (method : Method) (body : String) :
    (∃ e, d.write place method body = .error e ∧
        { d with token }.write place method body = .error e) ∨
      ∃ r r', d.write place method body = .ok r ∧ { d with token }.write place method body = .ok r' ∧
        Request.DifferInHeader .authorization ("Bearer " ++ d.token.text) ("Bearer " ++ token.text)
          r r' := by
  unfold write
  cases place with
  | error e => exact .inl ⟨e, rfl, rfl⟩
  | ok url =>
    cases hvalid : Headers.isHeaderText d.token.text with
    | true =>
      have hvalid' : Headers.isHeaderText ({ d with token } : DigitalOcean).token.text = true :=
        h.symm.trans hvalid
      rw [headers_of_isHeaderText hvalid, headers_of_isHeaderText hvalid']
      exact .inr ⟨_, _, rfl, rfl, differInHeader d.token token method url body⟩
    | false =>
      have hvalid' : Headers.isHeaderText ({ d with token } : DigitalOcean).token.text = false :=
        h.symm.trans hvalid
      rw [headers_of_not_isHeaderText hvalid, headers_of_not_isHeaderText hvalid']
      exact .inl ⟨_, rfl, rfl⟩

theorem alike_found (body : String) :
    let talk : Talk Nat := do
      let id ← Talk.ofExcept (readId body)
      Talk.note .debug .digitalOcean ("Found record ID: " ++ Text.Numeral.decimal id)
      return id
    Talk.Alike R talk talk := by
  apply Talk.alike_ofExcept_bind
  cases readId body with
  | error e => exact .inl ⟨e, rfl, rfl⟩
  | ok id => exact .inr ⟨id, id, rfl, rfl, (Talk.alike_pure id).note _ _ _⟩

theorem alike_update {d : DigitalOcean} {token : AccessToken}
    (h : Headers.isHeaderText d.token.text = Headers.isHeaderText token.text) (ip : Address) :
    Talk.Alike (Request.DifferInHeader .authorization ("Bearer " ++ d.token.text)
      ("Bearer " ++ token.text)) (d.update ip) ({ d with token }.update ip) := by
  unfold update
  apply Talk.Alike.note
  apply Talk.Alike.bind
  · apply Talk.Alike.inStage
    unfold lookup
    apply Talk.Alike.note
    apply Talk.alike_ofExcept_bind
    -- Both requests are written in one way, to places that do not depend on the token.
    rw [lookupRequest_eq_write, lookupRequest_eq_write]
    rcases write_withToken h (d.recordsUrl.map (·.appendPairs (d.parameters ip.version.recordType)))
      .get "" with herror | ⟨r, r', hwritten, hwritten', hdiffer⟩
    · exact .inl herror
    · exact .inr ⟨r, r', hwritten, hwritten', hdiffer.alike_exchange.bind alike_found⟩
  · intro id
    unfold change
    apply Talk.alike_ofExcept_bind
    rw [changeRequest_eq_write, changeRequest_eq_write]
    rcases write_withToken h (d.recordUrl id) .put (d.changedRecord ip).text with
      herror | ⟨r, r', hwritten, hwritten', hdiffer⟩
    · exact .inl herror
    · refine .inr ⟨r, r', hwritten, hwritten', hdiffer.alike_exchange.bind ?_⟩
      intro body
      exact Talk.alike_confirm (· != ip) ip (readAddress body) _ _ _

end DigitalOcean

/-! ## Either of them -/

namespace Updater

/-- Neither what is shown of an updater nor the log nor the result of an update depends on the secret,
and the requests depend on it in one place only. What may count is the length of a password, where the
client takes the URL with one and not with the other, and whether a token can stand in a header. -/
theorem update_hides_secrets (ip : Address) (replies : List Reply) (cancelled : Bool) :
    (∀ (n : Namecheap) (password : Password),
      let n' : Namecheap := { n with password }
      inspect (.namecheap n) = inspect (.namecheap n') ∧
      ((∀ r r', n.request ip = .ok r → n'.request ip = .ok r' → r.fits = r'.fits) →
        let held := (n.update ip).hold .script replies cancelled
        let held' := (n'.update ip).hold .script replies cancelled
        held.result = held'.result ∧ held.events = held'.events ∧
          List.Forall₂ (Request.DifferInParameter "password" n.password.text password.text)
            held.requests held'.requests)) ∧
    (∀ (d : DigitalOcean) (token : AccessToken),
      let d' : DigitalOcean := { d with token }
      inspect (.digitalOcean d) = inspect (.digitalOcean d') ∧
      (Headers.isHeaderText d.token.text = Headers.isHeaderText token.text →
        let held := (d.update ip).hold .script replies cancelled
        let held' := (d'.update ip).hold .script replies cancelled
        held.result = held'.result ∧ held.events = held'.events ∧
          List.Forall₂ (Request.DifferInHeader .authorization ("Bearer " ++ d.token.text)
            ("Bearer " ++ token.text)) held.requests held'.requests)) := by
  constructor
  · intro n password n'
    refine ⟨rfl, ?_⟩
    intro hfits held held'
    have hheld : held.Alike _ held' :=
      (n.alike_update password ip hfits).hold Remote.isBlind_script replies cancelled
    exact ⟨hheld.result_eq, hheld.events_eq, hheld.requests⟩
  · intro d token d'
    refine ⟨rfl, ?_⟩
    intro hvalid held held'
    have hheld : held.Alike _ held' :=
      (DigitalOcean.alike_update hvalid ip).hold Remote.isBlind_script replies cancelled
    exact ⟨hheld.result_eq, hheld.events_eq, hheld.requests⟩

/-- An updater at a site whose base URL bears a fragment of some length. -/
def fragmentUpdater (n : Nat) (password : Password) : Namecheap :=
  ⟨"a", "@", password, false, (DigitalOcean.fragmentSite n).baseUrl⟩

theorem request_fragmentUpdater (n : Nat) (password : Password) :
    (fragmentUpdater n password).request (.v4 ⟨1, 2, 3, 4⟩) =
      .ok ⟨.get, (DigitalOcean.fragmentPlace n ["update"] none).appendPairs
        [("host", "@"), ("domain", "a"), ("password", password.text), ("ip", "1.2.3.4")],
        Namecheap.headers, ""⟩ := by
  have hip : Address.text (.v4 ⟨1, 2, 3, 4⟩) = "1.2.3.4" := by decide +kernel
  have hplace : Endpoint.url (DigitalOcean.fragmentSite n).baseUrl ["update"] =
      .ok (DigitalOcean.fragmentPlace n ["update"] none) := by
    unfold Endpoint.url
    rw [DigitalOcean.parse_fragmentSite]
    rfl
  have hparameters : (fragmentUpdater n password).parameters (.v4 ⟨1, 2, 3, 4⟩) =
      [("host", "@"), ("domain", "a"), ("password", password.text), ("ip", "1.2.3.4")] := by
    unfold Namecheap.parameters
    rw [hip]
    rfl
  unfold Namecheap.request Namecheap.url
  rw [hparameters]
  change ((Endpoint.url (DigitalOcean.fragmentSite n).baseUrl ["update"]).map _).map _ = _
  rw [hplace]
  rfl

theorem canBeSent_fragmentUpdater {n : Nat} {password : Password} {request : Request}
    (h : (fragmentUpdater n password).request (.v4 ⟨1, 2, 3, 4⟩) = .ok request) :
    request.canBeSent = request.fits := by
  have hsame := (request_fragmentUpdater n password).symm.trans h
  cases hsame
  unfold Request.canBeSent
  exact Bool.true_and _

/-- How long the URL of the request is, without the fragment. -/
def placeLength (password : Password) : Nat :=
  (DigitalOcean.fragmentPlace 0 ["update"] (some (String.ofList (Url.Form.encode [("host", "@"),
    ("domain", "a"), ("password", password.text), ("ip", "1.2.3.4")])))).text.utf8ByteSize

theorem fits_fragmentUpdater {n : Nat} {password : Password} {request : Request}
    (h : (fragmentUpdater n password).request (.v4 ⟨1, 2, 3, 4⟩) = .ok request) :
    request.fits = true ↔ placeLength password + (1 + n) ≤ 65534 := by
  apply DigitalOcean.fits_fragmentPlace
  have hsame := (request_fragmentUpdater n password).symm.trans h
  cases hsame
  rfl

/-- The address is reported. -/
def reportingDocument : String := "<r><IP>1.2.3.4</IP></r>"

def reportingReply : Reply :=
  .answered ⟨200, none, Text.Utf8.encode reportingDocument.toList, "", true⟩

theorem succeeds_reportingReply : reportingReply.Succeeds reportingDocument :=
  ⟨_, rfl, rfl, by decide⟩

theorem read_reportingDocument :
    Namecheap.Answer.read reportingDocument = .ok (.v4 ⟨1, 2, 3, 4⟩) :=
  Result.eq_ok_of_toOption (by decide +kernel)

/-- If the URL is short enough the record is updated, else the update fails in the client. -/
theorem update_fragmentUpdater (n : Nat) (password : Password) :
    (((fragmentUpdater n password).update (.v4 ⟨1, 2, 3, 4⟩)).hold .script [reportingReply]
      false).result =
      if placeLength password + (1 + n) ≤ 65534 then .ok (.v4 ⟨1, 2, 3, 4⟩)
      else .error (.transport .building) := by
  have hrun := (fragmentUpdater n password).run_update (.v4 ⟨1, 2, 3, 4⟩) .script [reportingReply]
    false
  obtain ⟨request, hrequest⟩ : ∃ request, (fragmentUpdater n password).request (.v4 ⟨1, 2, 3, 4⟩) =
    .ok request := ⟨_, request_fragmentUpdater n password⟩
  have hsend := canBeSent_fragmentUpdater hrequest
  split
  · next hshort =>
    have hanswered : request.IsAnswered .script [reportingReply] reportingDocument [] :=
      ⟨hsend.trans ((fits_fragmentUpdater hrequest).2 hshort), _, rfl, succeeds_reportingReply⟩
    rw [(hrun.of_isAnswered hrequest hanswered).1]
    exact confirm_eq_ok_iff.2 ⟨read_reportingDocument, Bool.and_false _⟩
  · next hlong =>
    have hrefused : request.fits = false :=
      Bool.eq_false_iff.2 (mt (fits_fragmentUpdater hrequest).1 hlong)
    obtain ⟨body, hexchange, hresult⟩ := hrun.exists_exchange hrequest
    rw [hresult, (hexchange.of_not_canBeSent (hsend.trans hrefused)).1]
    rfl

/-- With a password of sixteen characters the URL is as long as the client takes it, and the record is
updated. With a password that is longer by one the same update fails in the client. -/
theorem longer_password_fails :
    let password : Password := ⟨"aaaaaaaaaaaaaaaa", by decide⟩
    let password' : Password := ⟨"aaaaaaaaaaaaaaaaa", by decide⟩
    let ip : Address := .v4 ⟨1, 2, 3, 4⟩
    (((fragmentUpdater 65458 password).update ip).hold .script [reportingReply] false).result =
        .ok ip ∧
      ((({ fragmentUpdater 65458 password with password := password' } : Namecheap).update ip).hold
        .script [reportingReply] false).result = .error (.transport .building) := by
  intro password password' ip
  have hshort : placeLength password + (1 + 65458) ≤ 65534 := by decide +kernel
  have hlong : ¬ placeLength password' + (1 + 65458) ≤ 65534 := by decide +kernel
  constructor
  · rw [update_fragmentUpdater, if_pos hshort]
  · exact (update_fragmentUpdater 65458 password').trans (if_neg hlong)

/-- Two updates with secrets of which the one is as good as the other. -/
theorem other_secrets_change_nothing :
    let n := fragmentUpdater 65458 ⟨"aaaaaaaaaaaaaaaa", by decide⟩
    let password : Password := ⟨"0123456789abcdef", by decide⟩
    let d : DigitalOcean := ⟨⟨"a", "@", .ipv4⟩, ⟨"t", by decide⟩, DigitalOcean.publicUrl⟩
    let token : AccessToken := ⟨"another", by decide⟩
    let ip : Address := .v4 ⟨1, 2, 3, 4⟩
    (∀ r r', n.request ip = .ok r → { n with password }.request ip = .ok r' → r.fits = r'.fits) ∧
      ((n.update ip).hold .script [.dropped] false).events =
        (({ n with password }.update ip).hold .script [.dropped] false).events ∧
      Headers.isHeaderText d.token.text = Headers.isHeaderText token.text ∧
      List.Forall₂ (Request.DifferInHeader .authorization "Bearer t" "Bearer another")
        ((d.update ip).hold .script [.dropped] false).requests
        (({ d with token }.update ip).hold .script [.dropped] false).requests := by
  intro n password d token ip
  obtain ⟨hnamecheap, hdigitalOcean⟩ := update_hides_secrets ip [.dropped] false
  have hfits : ∀ r r', n.request ip = .ok r → { n with password }.request ip = .ok r' →
      r.fits = r'.fits := by
    intro r r' hr hr'
    have hshort : placeLength n.password + (1 + 65458) ≤ 65534 := by decide +kernel
    have hshort' : placeLength password + (1 + 65458) ≤ 65534 := by decide +kernel
    rw [(fits_fragmentUpdater hr).2 hshort]
    exact ((@fits_fragmentUpdater 65458 password r' hr').2 hshort').symm
  have hvalid : Headers.isHeaderText d.token.text = Headers.isHeaderText token.text := by decide
  refine ⟨hfits, ?_, hvalid, ?_⟩
  · exact ((hnamecheap n password).2 hfits).2.1
  · exact ((hdigitalOcean d token).2 hvalid).2.2

end Updater

end DynamicDns
