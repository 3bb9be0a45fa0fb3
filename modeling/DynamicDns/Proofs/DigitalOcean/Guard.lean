import DynamicDns.Proofs.DigitalOcean.Update
import DynamicDns.Proofs.Script

/-!
# When a record is changed

A change goes out only for the one record that the lookup found, and under its number. Up to then an
error says in its stage that no number was found out; from then on it has no stage. Between the two the
change cannot fail to be written. What is left is the client, which takes no URL beyond a length: a
change whose URL is longer is not sent, although the lookup, whose URL is another one, was.
-/

namespace DynamicDns

open DynamicDns.Result
open Http
open Text

namespace Error

/-- Whether the error says in which stage it arose. -/
def isInStage : Error → Bool
  | .inStage _ _ => true
  | _ => false

/-- Whether the error says that a request or its body cannot be written. -/
def isOfRequest (e : Error) : Bool := e.kind = .requestBuild || e.kind = .requestEncode

end Error

namespace DigitalOcean

variable {σ : Type} {d : DigitalOcean} {ip : Address} {remote : Remote σ} {s s' : σ}
  {cancelled cancelled' : Bool} {requests : List Request}

/-! ## The errors of the two rounds -/

/-- The errors of a lookup have no stage yet, and a lookup that went out could be written. -/
theorem lookupRound_error {recordType : String} {e : Error}
    (h : (d.lookupRound recordType).Run remote s cancelled (.error e) requests s' cancelled') :
    e.isInStage = false ∧ (e.isOfRequest = true → requests = []) := by
  rcases h.error_eq with ⟨hwritten, hnone⟩ | rfl | ⟨failure, rfl⟩ | ⟨status, text, rfl⟩ |
    ⟨body, hread⟩
  · obtain ⟨reason, rfl⟩ := lookupRequest_error hwritten
    exact ⟨rfl, fun _ ↦ hnone⟩
  · exact ⟨rfl, nofun⟩
  · exact ⟨rfl, nofun⟩
  · exact ⟨rfl, nofun⟩
  · rcases readId_error hread with ⟨reason, rfl⟩ | rfl | rfl | ⟨count, rfl⟩
    · exact ⟨rfl, nofun⟩
    · exact ⟨rfl, nofun⟩
    · exact ⟨rfl, nofun⟩
    · exact ⟨rfl, nofun⟩

/-- The errors of a change that could be written are none of writing it, and have no stage. -/
theorem changeRound_error {id : Nat} {change : Request} {e : Error}
    (hwritten : d.changeRequest ip id = .ok change)
    (h : (d.changeRound ip id).Run remote s cancelled (.error e) requests s' cancelled') :
    e.isInStage = false ∧ e.isOfRequest = false := by
  rcases h.error_eq with ⟨herror, -⟩ | rfl | ⟨failure, rfl⟩ | ⟨status, text, rfl⟩ | ⟨body, hread⟩
  · exact absurd (hwritten.symm.trans herror) nofun
  · exact ⟨rfl, rfl⟩
  · exact ⟨rfl, rfl⟩
  · exact ⟨rfl, rfl⟩
  · rcases confirm_error hread with hread | ⟨received, rfl⟩
    · rcases readAddress_error hread with ⟨reason, rfl⟩ | ⟨text, rfl⟩
      · exact ⟨rfl, rfl⟩
      · exact ⟨rfl, rfl⟩
    · exact ⟨rfl, rfl⟩

/-! ## What goes out -/

/-- For a record that is found the change goes out too, unless the client refuses its length. -/
theorem UpdateRun.sends_of_finds {result : Except Error Address}
    (hrun : UpdateRun d ip remote s cancelled result requests s' cancelled')
    (hresponds : ∀ t request, ∃ answered, remote.respond t request = some answered)
    {lookup : Request} {id : Nat} {t : σ} (h : d.Finds ip remote s cancelled lookup id t) :
    ∃ change, d.changeRequest ip id = .ok change ∧
      lastSegment? change = some (Numeral.decimal id) ∧
      (change.fits = true → requests = [lookup, change]) ∧
      (change.fits = false → requests = [lookup] ∧ result = .error (.transport .building)) := by
  obtain ⟨change, hwritten, hlast, hsend⟩ := exists_changeRequest h.written ip id
  obtain ⟨listing, hanswered, -⟩ := h.listed
  have hlength := hsend hanswered.canBeSent
  obtain ⟨second, hchange, rfl⟩ := hrun.of_finds h
  obtain ⟨body, hexchange, rfl⟩ := hchange.exists_exchange hwritten
  refine ⟨change, hwritten, hlast, ?_, ?_⟩
  · intro hfits
    obtain ⟨answered, hrespond⟩ := hresponds t change
    rw [(hexchange.of_respond (hlength.trans hfits) hrespond).2.1]
  · intro hlong
    obtain ⟨rfl, rfl⟩ := hexchange.of_not_canBeSent (hlength.trans hlong)
    exact ⟨rfl, rfl⟩

/-- From the record that is found on, errors have no stage and are none of writing a request. -/
theorem UpdateRun.error_of_finds {result : Except Error Address}
    (hrun : UpdateRun d ip remote s cancelled result requests s' cancelled')
    {lookup : Request} {id : Nat} {t : σ} (h : d.Finds ip remote s cancelled lookup id t)
    {e : Error} (herror : result = .error e) : e.isInStage = false ∧ e.isOfRequest = false := by
  obtain ⟨change, hwritten, -⟩ := exists_changeRequest h.written ip id
  obtain ⟨second, hchange, -⟩ := hrun.of_finds h
  rw [herror] at hchange
  exact changeRound_error hwritten hchange

/-- Without a record the error has the stage of the lookup, and nothing but the lookup goes out. -/
theorem UpdateRun.of_no_record {result : Except Error Address}
    (hrun : UpdateRun d ip remote s cancelled result requests s' cancelled')
    (hnone : ∀ lookup id t, ¬ d.Finds ip remote s cancelled lookup id t) :
    (∃ e, result = .error (.inStage lookupStage e) ∧ e.isInStage = false ∧
      (e.isOfRequest = true → requests = [])) ∧
      ∀ request ∈ requests, request.method = .get := by
  obtain ⟨e, hresult, hlookup⟩ := hrun.of_not_finds hnone
  refine ⟨⟨e, hresult, lookupRound_error hlookup⟩, ?_⟩
  intro request hrequest
  rcases hlookup.requests_eq with rfl | ⟨lookup, hwritten, rfl⟩
  · cases hrequest
  · rw [List.mem_singleton.1 hrequest]
    exact lookupRequest_method hwritten

/-- The change goes out exactly for a record that is found, unless the client refuses its length. -/
theorem UpdateRun.sends_change_iff {result : Except Error Address}
    (hrun : UpdateRun d ip remote s cancelled result requests s' cancelled')
    (hresponds : ∀ t request, ∃ answered, remote.respond t request = some answered) :
    (∃ request ∈ requests, request.method = .put) ↔
      ∃ lookup id t change, d.Finds ip remote s cancelled lookup id t ∧
        d.changeRequest ip id = .ok change ∧ change.fits = true := by
  constructor
  · intro h
    rcases h with ⟨request, hrequest, hput⟩
    by_cases hfound : ∃ lookup id t, d.Finds ip remote s cancelled lookup id t
    · obtain ⟨lookup, id, t, hfinds⟩ := hfound
      obtain ⟨change, hwritten, -, -, hlong⟩ := hrun.sends_of_finds hresponds hfinds
      by_cases hfits : change.fits = true
      · exact ⟨lookup, id, t, change, hfinds, hwritten, hfits⟩
      · obtain ⟨rfl, -⟩ := hlong (Bool.eq_false_iff.2 hfits)
        have hget := lookupRequest_method hfinds.written
        rw [← List.mem_singleton.1 hrequest, hput] at hget
        exact absurd hget nofun
    · have hget := (hrun.of_no_record fun lookup id t hfinds ↦ hfound ⟨lookup, id, t, hfinds⟩).2
        request hrequest
      rw [hput] at hget
      exact absurd hget nofun
  · intro h
    rcases h with ⟨lookup, id, t, change, hfinds, hwritten, hfits⟩
    obtain ⟨change', hwritten', -, hsent, -⟩ := hrun.sends_of_finds hresponds hfinds
    have hsame := hwritten.symm.trans hwritten'
    cases hsame
    refine ⟨change, ?_, changeRequest_method hwritten⟩
    rw [hsent hfits]
    exact List.mem_cons_of_mem _ List.mem_cons_self

/-! ## The guard -/

/-- Nothing but the lookup and the change goes out, each at most once and in this order. The change goes
out exactly if a record is found and the URL of its change is not too long for the client, and then it
goes to the number that was found. Errors have the stage of the lookup exactly if no record is found, and
no request fails to be written after the first one went out. -/
theorem update_changes_only_what_is_found (d : DigitalOcean) (ip : Address) (replies : List Reply)
    (cancelled : Bool) :
    let held := (d.update ip).hold .script replies cancelled
    (held.requests = [] ∨
      ∃ lookup, d.lookupRequest ip.version.recordType = .ok lookup ∧ lookup.method = .get ∧
        (held.requests = [lookup] ∨ ∃ id change, d.changeRequest ip id = .ok change ∧
          change.method = .put ∧ held.requests = [lookup, change])) ∧
    ((∃ request ∈ held.requests, request.method = .put) ↔
      ∃ lookup id rest change, d.Finds ip .script replies cancelled lookup id rest ∧
        d.changeRequest ip id = .ok change ∧ change.fits = true) ∧
    (∀ lookup id rest, d.Finds ip .script replies cancelled lookup id rest →
      (∃ change, d.changeRequest ip id = .ok change ∧
        lastSegment? change = some (Numeral.decimal id) ∧
        (change.fits = true → held.requests = [lookup, change]) ∧
        (change.fits = false →
          held.requests = [lookup] ∧ held.result = .error (.transport .building))) ∧
      ∀ e, held.result = .error e → e.isInStage = false) ∧
    ((∀ lookup id rest, ¬ d.Finds ip .script replies cancelled lookup id rest) →
      ∃ e, held.result = .error (.inStage lookupStage e) ∧ e.isInStage = false) ∧
    ∀ e, held.result = .error e → e.isOfRequest = true → held.requests = [] := by
  intro held
  have hrun := d.run_update ip .script replies cancelled
  have hresponds := Remote.script_responds
  refine ⟨?_, hrun.sends_change_iff hresponds, ?_, ?_, ?_⟩
  · rcases hrun.requests_eq with hnone | ⟨lookup, hwritten, hlast⟩
    · exact .inl hnone
    · refine .inr ⟨lookup, hwritten, lookupRequest_method hwritten, ?_⟩
      rcases hlast with hone | ⟨id, change, hchange, htwo⟩
      · exact .inl hone
      · exact .inr ⟨id, change, hchange, changeRequest_method hchange, htwo⟩
  · intro lookup id rest hfinds
    refine ⟨hrun.sends_of_finds hresponds hfinds, ?_⟩
    intro e he
    exact (hrun.error_of_finds hfinds he).1
  · intro hnone
    obtain ⟨⟨e, he, hstage, -⟩, -⟩ := hrun.of_no_record hnone
    exact ⟨e, he, hstage⟩
  · intro e he hrequest
    by_cases hfound : ∃ lookup id rest, d.Finds ip .script replies cancelled lookup id rest
    · obtain ⟨lookup, id, rest, hfinds⟩ := hfound
      exact absurd hrequest (ne_true_of_eq_false (hrun.error_of_finds hfinds he).2)
    · obtain ⟨⟨e', he', -, hnone⟩, -⟩ := hrun.of_no_record fun lookup id rest hfinds ↦
        hfound ⟨lookup, id, rest, hfinds⟩
      have hsame := he.symm.trans he'
      cases hsame
      exact hnone hrequest

/-! ## The limit of the client

The fragment of a base URL is never sent but counts for its length, and the number of a record may be
longer than the query of the lookup. So there are base URLs for which the lookup goes out but not the
change that follows from it.
-/

/-- An updater whose base URL bears a fragment of some length. -/
def fragmentSite (n : Nat) : DigitalOcean where
  target := ⟨"a", "@", .ipv4⟩
  token := ⟨"t", by decide⟩
  baseUrl := ("http://v.test/#" ++ String.ofList (List.replicate n 'a') : String)

/-- A place at this site. -/
def fragmentPlace (n : Nat) (path : List String) (query : Option String) : Url where
  scheme := "http"
  username := ""
  password := none
  host := some (.name "v.test")
  port := none
  path := .segments path
  query := query
  fragment := some (String.ofList (List.replicate n 'a'))

theorem afterSlashes_fragment (t : List Char) :
    Url.afterSlashes none "http" ("v.test/#".toList ++ t) =
      .ok (Url.assemble "http" ⟨"", none, some (.name "v.test"), none⟩ ('/' :: '#' :: t)) := by
  have hpart : ("v.test/#".toList ++ t).takeWhile (!Url.endsAuthority (Url.isSpecial "http") ·) =
      "v.test".toList := rfl
  have hrest : ("v.test/#".toList ++ t).drop "v.test".toList.length = '/' :: '#' :: t := rfl
  have hauthority : Url.authority none "http" true "v.test".toList =
      .ok ⟨"", none, some (.name "v.test"), none⟩ := rfl
  unfold Url.afterSlashes
  simp only [hpart, hrest, List.isEmpty_cons, Bool.not_false, hauthority]
  rfl

theorem assemble_fragment (a : Url.Authority) (t : List Char) :
    Url.assemble "http" a ('/' :: '#' :: t) =
      ⟨"http", a.username, a.password, a.host, a.port, .segments [""], none,
        some (String.ofList (Url.Percent.encode Url.Percent.fragment t))⟩ := rfl

theorem parse_fragmentSite (n : Nat) :
    Url.parse (fragmentSite n).baseUrl = .ok (fragmentPlace n [""] none) := by
  have hsite : "http://v.test/#".toList.all (fun c ↦ decide (0x20 < c.toNat)) = true := by decide
  have htext : (fragmentSite n).baseUrl.text.toList =
      "http://v.test/#".toList ++ List.replicate n 'a' := by
    change ("http://v.test/#" ++ String.ofList (List.replicate n 'a')).toList = _
    rw [String.toList_append]
    exact congrArg (_ ++ ·) String.toList_ofList
  have hclean : Url.clean (fragmentSite n).baseUrl.text.toList =
      "http://v.test/#".toList ++ List.replicate n 'a' := by
    rw [htext]
    apply Url.clean_eq_self
    intro c hc
    rcases List.mem_append.1 hc with hc | hc
    · exact of_decide_eq_true (List.all_eq_true.1 hsite c hc)
    · rw [List.eq_of_mem_replicate hc]
      decide
  have hencode : Url.Percent.encode Url.Percent.fragment (List.replicate n 'a') =
      List.replicate n 'a' := by
    apply Url.Percent.encode_eq_self
    intro c hc
    rw [List.eq_of_mem_replicate hc]
    decide
  have hscheme : Url.scheme? ("http://v.test/#".toList ++ List.replicate n 'a') =
      some ("http", "//v.test/#".toList ++ List.replicate n 'a') := rfl
  have hslashes : ("//v.test/#".toList ++ List.replicate n 'a').dropWhile (Url.isSlash true) =
      "v.test/#".toList ++ List.replicate n 'a' := rfl
  calc
    Url.parse (fragmentSite n).baseUrl =
        Url.afterSlashes none "http" ("v.test/#".toList ++ List.replicate n 'a') := by
      unfold Url.parse
      rw [hclean, hscheme]
      simp only [hslashes]
      rfl
    _ = .ok (fragmentPlace n [""] none) := by
      rw [afterSlashes_fragment, assemble_fragment, hencode]
      rfl

theorem recordsUrl_fragmentSite (n : Nat) : (fragmentSite n).recordsUrl =
    .ok (fragmentPlace n ["v2", "domains", "a", "records"] none) := by
  have hfold : ["v2", "domains", "a", "records"].foldl (Url.pushSegment "http")
      (Url.popIfEmpty [""]) = ["v2", "domains", "a", "records"] := by decide
  have hextend : (fragmentPlace n [""] none).extend? ["v2", "domains", "a", "records"] =
      some (fragmentPlace n ["v2", "domains", "a", "records"] none) := by
    simp only [Url.extend?, fragmentPlace, hfold]
  have htarget : (fragmentSite n).target.domain = "a" := rfl
  unfold recordsUrl Endpoint.url
  rw [parse_fragmentSite, htarget]
  simp only [hextend]

theorem fits_fragmentPlace {r : Request} {n : Nat} {path : List String} {query : Option String}
    (h : r.url = fragmentPlace n path query) :
    r.fits = true ↔ (fragmentPlace 0 path query).text.utf8ByteSize + (1 + n) ≤ 65534 := by
  have hsize : ∀ k, (String.ofList (List.replicate k 'a')).utf8ByteSize = k := by
    intro k
    induction k with
    | zero => rfl
    | succ k ih =>
      rw [List.replicate_succ', String.ofList_append, String.utf8ByteSize_append, ih]
      rfl
  have hfragment : (fragmentPlace n path query).fragmentText =
      "#" ++ String.ofList (List.replicate n 'a') := rfl
  have htext : (fragmentPlace n path query).text = (fragmentPlace 0 path query).text := rfl
  unfold Request.fits
  rw [h, hfragment, htext, String.utf8ByteSize_append, hsize, decide_eq_true_iff]
  rfl

theorem lookupRequest_fragmentSite (n : Nat) :
    ∃ headers, (fragmentSite n).headers = .ok headers ∧ (fragmentSite n).lookupRequest "A" =
      .ok ⟨.get, fragmentPlace n ["v2", "domains", "a", "records"] (some "name=a&type=A"), headers,
        ""⟩ := by
  have htoken : Headers.isHeaderText "t" = true := by decide
  have hparameters : (fragmentSite n).parameters "A" = [("name", "a"), ("type", "A")] := rfl
  have hquery : String.ofList (Url.Form.encode [("name", "a"), ("type", "A")]) = "name=a&type=A" := by
    decide
  obtain ⟨headers, hheaders⟩ := exists_headers (d := fragmentSite n) htoken
  refine ⟨headers, hheaders, lookupRequest_eq_ok_iff.2
    ⟨_, headers, recordsUrl_fragmentSite n, hheaders, ?_⟩⟩
  unfold Url.appendPairs
  rw [hparameters, ← hquery]
  rfl

/-- One record, with the largest number that there is. -/
def lastListing : String := "\x7b\"domain_records\":[\x7b\"id\":18446744073709551615\x7d]\x7d"

theorem decodeIds_lastListing :
    Json.decodeText decodeIds lastListing = .ok [some 0xFFFFFFFFFFFFFFFF] :=
  eq_ok_of_toOption (by decide +kernel)

theorem succeeds_lastListing :
    Reply.Succeeds (.answered ⟨200, none, Utf8.encode lastListing.toList, "", true⟩) lastListing :=
  ⟨_, rfl, rfl, by decide⟩

/-- The longest lookup that the client sends finds its record, but no change goes out, and the error is
that of the client, without the stage of the lookup. -/
theorem longest_lookup_changes_nothing :
    let d := fragmentSite 65485
    let ip : Address := .v4 ⟨1, 2, 3, 4⟩
    let replies : List Reply := [.answered ⟨200, none, Utf8.encode lastListing.toList, "", true⟩]
    let held := (d.update ip).hold .script replies false
    (∃ lookup, d.Finds ip .script replies false lookup 0xFFFFFFFFFFFFFFFF []) ∧
      (∀ request ∈ held.requests, request.method ≠ .put) ∧
      held.result = .error (.transport .building) := by
  intro d ip replies held
  obtain ⟨headers, hheaders, hlookup⟩ := lookupRequest_fragmentSite 65485
  have hshort : Request.fits ⟨.get, fragmentPlace 65485 ["v2", "domains", "a", "records"]
      (some "name=a&type=A"), headers, ""⟩ = true :=
    (fits_fragmentPlace rfl).2 (by decide)
  have hsend : Request.canBeSent ⟨.get, fragmentPlace 65485 ["v2", "domains", "a", "records"]
      (some "name=a&type=A"), headers, ""⟩ = true := by
    unfold Request.canBeSent
    rw [hshort]
    rfl
  have hfinds : d.Finds ip .script replies false _ 0xFFFFFFFFFFFFFFFF [] :=
    ⟨rfl, hlookup, ⟨lastListing, ⟨hsend, _, rfl, succeeds_lastListing⟩, decodeIds_lastListing⟩,
      by decide, by decide⟩
  have hrun := d.run_update ip .script replies false
  obtain ⟨change, hwritten, -, -, hrefused⟩ :=
    hrun.sends_of_finds Remote.script_responds hfinds
  have hurl : change.url =
      fragmentPlace 65485 ["v2", "domains", "a", "records", "18446744073709551615"] none := by
    obtain ⟨list, hpath, hchange⟩ :=
      changeRequest_eq_ok (recordsUrl_fragmentSite 65485) hheaders ip 0xFFFFFFFFFFFFFFFF
    have hid : Numeral.decimal 0xFFFFFFFFFFFFFFFF = "18446744073709551615" := by decide +kernel
    have hsegments : Url.pushSegment "http" ["v2", "domains", "a", "records"]
        "18446744073709551615" = ["v2", "domains", "a", "records", "18446744073709551615"] := by
      decide
    cases hpath
    have hsame := hwritten.symm.trans hchange
    cases hsame
    simp only [fragmentPlace, hid, hsegments]
  have hlong : change.fits = false := by
    rw [Bool.eq_false_iff]
    intro hfits
    have hsize := (fits_fragmentPlace hurl).1 hfits
    revert hsize
    decide
  obtain ⟨hrequests, hresult⟩ := hrefused hlong
  refine ⟨⟨_, hfinds⟩, ?_, hresult⟩
  intro request hrequest
  have hone : held.requests = _ := hrequests
  rw [hone] at hrequest
  rw [List.mem_singleton.1 hrequest]
  exact nofun

end DigitalOcean

end DynamicDns
