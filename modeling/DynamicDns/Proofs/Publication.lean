import DynamicDns.Proofs.DigitalOcean.Echo
import DynamicDns.Proofs.Namecheap.Document
import DynamicDns.Proofs.Namecheap.Echo
import DynamicDns.Updater

/-!
# Every address can be published

Whatever an updater sends comes back as the address that it was: no address is changed or refused on
its way through query and document, or through one JSON text and another. So a provider that reports
what it was sent confirms every update, however many there were before.
-/

namespace DynamicDns

open Http

variable {σ : Type}

/-! ## Updates one after the other -/

/-- Conversations that end well in every state of the far end, and are not cancelled, end well one after
the other. -/
theorem Conversation.holdEach_result {α β : Type} {remote : Remote σ} {talk : β → Conversation α}
    {result : β → α} (inputs : List β)
    (h : ∀ x ∈ inputs, ∀ s, (hold remote (talk x) s false).result = result x ∧
      (hold remote (talk x) s false).cancelled = false) (s : σ) :
    (holdEach remote (inputs.map talk) s false).result = inputs.map result := by
  induction inputs generalizing s with
  | nil => rfl
  | cons x inputs ih =>
    obtain ⟨hresult, hgoing⟩ := h x List.mem_cons_self s
    have hlater := ih fun y hy ↦ h y (List.mem_cons_of_mem x hy)
    simp only [List.map_cons, holdEach_cons, Transcript.andThen, hresult, hgoing, hlater]

namespace Updater

/-- The provider reports every address that it is sent. It has to be sent one; records at DigitalOcean
have some of the given numbers. -/
def IsEchoed (remote : Remote σ) (numbers : Nat → Prop) : Updater → Prop
  | namecheap n => n.infersAddress = false ∧ Namecheap.Echoes remote
  | digitalOcean _ => DigitalOcean.Echoes remote numbers

/-- The requests of an update can be built and sent. -/
def CanRequest (ip : Address) (numbers : Nat → Prop) : Updater → Prop
  | namecheap n => n.CanRequest ip
  | digitalOcean d => d.CanRequest ip numbers

/-- Any addresses can be published one after the other: each update confirms its own. -/
theorem update_publishes_every_address (u : Updater) (remote : Remote σ) (numbers : Nat → Prop)
    (hechoes : u.IsEchoed remote numbers) (ips : List Address)
    (hrequest : ∀ ip ∈ ips, u.CanRequest ip numbers) (s : σ) :
    (Conversation.holdEach remote (ips.map fun ip ↦ (u.update ip).run) s false).result =
      ips.map Except.ok := by
  apply Conversation.holdEach_result
  intro ip hip s
  cases u with
  | namecheap n =>
    obtain ⟨hinfers, hechoes⟩ := hechoes
    exact hechoes.hold_update hinfers (hrequest ip hip) s
  | digitalOcean d => exact DigitalOcean.Echoes.hold_update hechoes (hrequest ip hip) s

end Updater

/-! ## Providers that echo -/

/-- An answer of success with a text in UTF-8. -/
def Http.Reply.ofText (body : String) : Reply :=
  .answered ⟨200, none, Text.Utf8.encode body.toList, "", true⟩

theorem Http.Reply.succeeds_ofText {body : String} {c : Char} {rest : List Char}
    (hbody : body.toList = c :: rest) (hc : c.toNat < 0x80) : (ofText body).Succeeds body := by
  have hread : Text.Charset.decodeBody none "" (Text.Utf8.encode body.toList) = body := by
    rw [hbody, Text.Charset.decodeBody_encode hc "", ← hbody, String.ofList_toList]
  exact ⟨_, rfl, rfl, congrArg some hread⟩

namespace DigitalOcean

/-- The only record has the number 7. -/
def listing : String := "\x7b\"domain_records\":[\x7b\"id\":7\x7d]\x7d"

def record (data : String) : String :=
  Json.text (.object [("domain_record", .object [("data", .string data)])])

/-- Finds a record for every lookup and answers every change with the data that it brings. -/
def echo : Remote Unit where
  respond _ request :=
    match request.method with
    | .get => some (.ofText listing, ())
    | .put => some (.ofText (record ((sentData? request).getD "")), ())

theorem tokens_record (data : String) : Json.tokens (record data).toList = recordTokens data := by
  rw [record, Json.text, String.toList_ofList]
  simp only [Json.chars, Json.membersChars, List.append_assoc, List.cons_append, List.nil_append,
    Json.tokens_openObject, Json.tokens_stringChars, Json.tokens_colon, Json.tokens_closeObject]
  rw [Json.tokens]
  rfl

theorem echoes_echo : Echoes echo (· = 7) where
  lists := by
    intro s request hmethod
    have hids : Json.decodeText decodeIds listing = .ok [some 7] :=
      Result.eq_ok_of_toOption (by decide +kernel)
    have hlisting : (Reply.ofText listing).Succeeds listing :=
      Reply.succeeds_ofText rfl (by decide)
    refine ⟨.ofText listing, (), listing, 7, ?_, hlisting, hids, rfl, by decide⟩
    simp only [echo, hmethod]
  echoes := by
    intro s request address hmethod hdata
    have hrecord : (Reply.ofText (record address.text)).Succeeds (record address.text) :=
      Reply.succeeds_ofText String.toList_ofList (by decide)
    refine ⟨.ofText (record address.text), (), record address.text, ?_, hrecord,
      tokens_record address.text⟩
    simp only [echo, hmethod, hdata, Option.getD_some]

end DigitalOcean

namespace Namecheap

/-- Reports the address that is sent. -/
def echo : Remote Unit where
  respond _ request := some (.ofText (document ((sentAddress? request).getD "")), ())

/-- Every address is read from its document. -/
theorem decode_document_text (address : Address) :
    Answer.decode (document address.text) = .ok ⟨some address.text, none⟩ := by
  have hplain : ∀ c ∈ address.text.toList, Xml.IsPlain c := by
    rw [Address.text, String.toList_ofList]
    exact address.isPlain
  have hne : address.text.toList ≠ [] := by
    intro hempty
    have hparsed := Address.parse?_text address
    have hunread : Address.ofChars? [] = none := by decide
    rw [Address.parse?, hempty, hunread] at hparsed
    cases hparsed
  exact decode_document hne hplain

theorem echoes_echo : Echoes echo where
  echoes := by
    intro s request address _ haddress
    have hdocument : (Reply.ofText (document address.text)).Succeeds (document address.text) :=
      Reply.succeeds_ofText String.toList_ofList (by decide)
    refine ⟨.ofText (document address.text), (), document address.text, ⟨some address.text, none⟩,
      ?_, hdocument, decode_document_text address, rfl, rfl⟩
    simp only [echo, haddress, Option.getD_some]

end Namecheap

/-- Addresses that are easily confused, published one after the other: the unspecified one, one with two
runs of zeros, and an IPv4 address before and after its image among the IPv6 addresses. -/
theorem Updater.publishes_similar_addresses :
    let d : DigitalOcean := ⟨⟨"example.com", "home", .ipv6⟩, ⟨"t", by decide⟩, DigitalOcean.publicUrl⟩
    let n : Namecheap := ⟨"example.com", "home", ⟨"aaaaaaaaaaaaaaaa", by decide⟩, false,
      Namecheap.publicUrl⟩
    let ips : List Address := [.v6 ⟨[0, 0, 0, 0, 0, 0, 0, 0], rfl⟩,
      .v6 ⟨[1, 0, 0, 2, 0, 0, 0, 3], rfl⟩, .v4 ⟨1, 2, 3, 4⟩,
      .v6 ⟨[0, 0, 0, 0, 0, 0xFFFF, 0x0102, 0x0304], rfl⟩, .v4 ⟨1, 2, 3, 4⟩]
    ((Updater.digitalOcean d).IsEchoed DigitalOcean.echo (· = 7) ∧
      (∀ ip ∈ ips, (Updater.digitalOcean d).CanRequest ip (· = 7)) ∧
      (Conversation.holdEach DigitalOcean.echo
        (ips.map fun ip ↦ ((Updater.digitalOcean d).update ip).run) () false).result =
        ips.map Except.ok) ∧
      (Updater.namecheap n).IsEchoed Namecheap.echo (fun _ ↦ False) ∧
      (∀ ip ∈ ips, (Updater.namecheap n).CanRequest ip (fun _ ↦ False)) ∧
      (Conversation.holdEach Namecheap.echo
        (ips.map fun ip ↦ ((Updater.namecheap n).update ip).run) () false).result =
        ips.map Except.ok := by
  intro d n ips
  have hlookup : ∀ ip ∈ ips, (d.lookupRequest ip.version.recordType).toOption.any
      (·.canBeSent) = true := by decide +kernel
  have hchange : ∀ ip ∈ ips, (d.changeRequest ip 7).toOption.any (·.canBeSent) = true := by
    decide +kernel
  have hupdate : ∀ ip ∈ ips, (n.request ip).toOption.any (·.canBeSent) = true := by decide +kernel
  have hfound : (Updater.digitalOcean d).IsEchoed DigitalOcean.echo (· = 7) :=
    DigitalOcean.echoes_echo
  have hdigitalOcean : ∀ ip ∈ ips, (Updater.digitalOcean d).CanRequest ip (· = 7) := by
    intro ip hip
    refine ⟨Result.exists_ok_of_any (hlookup ip hip), ?_⟩
    rintro _ rfl
    exact Result.exists_ok_of_any (hchange ip hip)
  have hsent : (Updater.namecheap n).IsEchoed Namecheap.echo (fun _ ↦ False) :=
    ⟨rfl, Namecheap.echoes_echo⟩
  have hnamecheap : ∀ ip ∈ ips, (Updater.namecheap n).CanRequest ip (fun _ ↦ False) :=
    fun ip hip ↦ Result.exists_ok_of_any (hupdate ip hip)
  exact ⟨⟨hfound, hdigitalOcean, Updater.update_publishes_every_address _ _ _ hfound ips
      hdigitalOcean ()⟩, hsent, hnamecheap,
    Updater.update_publishes_every_address _ _ _ hsent ips hnamecheap ()⟩

end DynamicDns
