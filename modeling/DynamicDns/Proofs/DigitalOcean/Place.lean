import DynamicDns.DigitalOcean.Update
import DynamicDns.Proofs.Name

/-!
# Places of records, at DigitalOcean

The records of a domain are a place that is named by the domain, and each record is a place below it
that is named by its number. The domain is any text from the settings. It is the third segment of the
path and nothing else if it can be the name of a segment, and then the place tells which domain and
which record is meant. Whatever it is, the place is at the public site.
-/

namespace DynamicDns

open Text

namespace DigitalOcean

/-- The place of the records of the domain, or of the one record with a number. -/
def placeUrl (d : DigitalOcean) : Option Nat → Except Error Url
  | none => d.recordsUrl
  | some id => d.recordUrl id

/-- The names that lead to the records of a domain, or to the one with a number. -/
def placeNames (domain : String) (id : Option Nat) : List String :=
  ["v2", "domains", domain, "records"] ++ id.toList.map Numeral.decimal

theorem placeUrl_eq (d : DigitalOcean) (id : Option Nat) :
    d.placeUrl id = Endpoint.url d.baseUrl (placeNames d.target.domain id) := by
  cases id with
  | none => rfl
  | some id => rfl

theorem decimal_inj {m n : Nat} (h : Numeral.decimal m = Numeral.decimal n) : m = n := by
  have hvalue (k : Nat) : Numeral.value 10 (Numeral.decimal k).toList = k := by
    rw [Numeral.toList_decimal, Numeral.value_write (by omega) (by omega)]
  rw [← hvalue m, h, hvalue n]

theorem placeNames_inj {domain domain' : String} {id id' : Option Nat}
    (h : placeNames domain id = placeNames domain' id') : domain = domain' ∧ id = id' := by
  obtain ⟨hdomain, hid⟩ : domain = domain' ∧
      id.toList.map Numeral.decimal = id'.toList.map Numeral.decimal := by
    simpa only [placeNames, List.cons_append, List.nil_append, List.cons.injEq, true_and] using h
  have hnumbers : id.toList = id'.toList := (List.map_inj_right fun _ _ ↦ decimal_inj).1 hid
  cases id with
  | none => cases id' with
    | none => exact ⟨hdomain, rfl⟩
    | some n => cases hnumbers
  | some m => cases id' with
    | none => cases hnumbers
    | some n => exact ⟨hdomain, congrArg some (List.singleton_inj.1 hnumbers)⟩

/-- The path to the records of a domain, or to the one with a number. -/
def placePath (domain : String) (id : Option Nat) : List String :=
  (placeNames domain id).foldl (Url.pushSegment "https") [""]

/-- Two segments come before that of the domain, so none of the later ones is the first. -/
theorem placePath_eq (domain : String) (id : Option Nat) :
    placePath domain id = ("records" :: id.toList.map Numeral.decimal).foldl (Url.pushSegment "https")
        (Url.pushSegment "https" ["v2", "domains"] domain) ∧
      1 < (Url.pushSegment "https" ["v2", "domains"] domain).length := by
  have hfirst : ["v2", "domains"].foldl (Url.pushSegment "https") [""] = ["v2", "domains"] := by
    decide +kernel
  have hnames : placeNames domain id =
      ["v2", "domains"] ++ domain :: "records" :: id.toList.map Numeral.decimal := rfl
  constructor
  · rw [placePath, hnames, List.foldl_append, hfirst, List.foldl_cons]
  · exact Url.one_lt_length_foldl_pushSegment (by decide) [domain]

/-- The names come out of the path exactly if the domain can be the name of a segment. -/
theorem map_decodedSegment_placePath_iff (domain : String) (id : Option Nat) :
    (placePath domain id).map Url.decodedSegment = placeNames domain id ↔ Url.IsName domain := by
  have hbelow : ∀ text ∈ "records" :: id.toList.map Numeral.decimal, Url.IsName text := by
    refine List.forall_mem_cons.2 ⟨by decide, ?_⟩
    intro text htext
    obtain ⟨n, -, rfl⟩ := List.mem_map.1 htext
    exact Url.isName_decimal n
  have habove : ["v2", "domains"] ≠ [""] := by decide
  have hread : ("records" :: id.toList.map Numeral.decimal).map (Url.decodedSegment ∘ Url.written) =
      "records" :: id.toList.map Numeral.decimal := List.map_id'' Url.decodedSegment_written _
  have hnames : placeNames domain id = (["v2", "domains"] ++ [domain]) ++
      "records" :: id.toList.map Numeral.decimal := rfl
  have hsame : ["v2", "domains"].map Url.decodedSegment = ["v2", "domains"] := by decide +kernel
  obtain ⟨hpath, hlength⟩ := placePath_eq domain id
  rw [hpath, hnames, Url.foldl_pushSegment_of_isName hlength hbelow, List.map_append, List.map_map,
    hread, List.append_left_inj, ← Url.map_decodedSegment_pushSegment_iff habove, hsame]

/-- A record is one segment below the records of its domain. -/
theorem placePath_some (domain : String) (id : Nat) :
    placePath domain (some id) = placePath domain none ++ [Numeral.decimal id] := by
  obtain ⟨hpath, hlength⟩ := placePath_eq domain none
  have hlonger : 1 < (placePath domain none).length := by
    rw [hpath]
    exact Url.one_lt_length_foldl_pushSegment hlength _
  calc
    placePath domain (some id)
    _ = [Numeral.decimal id].foldl (Url.pushSegment "https") (placePath domain none) := by
      rw [(placePath_eq domain (some id)).1, hpath]
      rfl
    _ = placePath domain none ++ [Url.written (Numeral.decimal id)] :=
      Url.foldl_pushSegment_of_isName hlonger (List.forall_mem_singleton.2 (Url.isName_decimal id))
    _ = placePath domain none ++ [Numeral.decimal id] := by rw [Url.written_decimal]

/-- At the public site every place can be written, and its text is read as that place. -/
theorem exists_placeUrl {d : DigitalOcean} (h : d.baseUrl = publicUrl) (id : Option Nat) :
    let place := Provider.digitalOcean.place (placePath d.target.domain id) none
    d.placeUrl id = .ok place ∧ Url.parse place.text = .ok place := by
  obtain ⟨list, hlist, hurl, hread, -⟩ :=
    Endpoint.exists_place parse_publicUrl (placeNames d.target.domain id)
  cases hlist
  rw [placeUrl_eq, h]
  exact ⟨hurl, hread⟩

/-- The records of a domain are a place at the public site, whatever the domain is, and its text is read
as that place. The names in its path are those of the domain and the record exactly if the domain can be
the name of a segment; then no other domain and no other record has the same place. -/
theorem placeUrl_names_record_iff (d : DigitalOcean) (h : d.baseUrl = publicUrl) (id : Option Nat) :
    ∃ place, d.placeUrl id = .ok place ∧
      (∃ list, place = ⟨"https", "", none, some (.name "api.digitalocean.com"), none, .segments list,
        none, none⟩) ∧
      Url.parse place.text = .ok place ∧
      (place.names? = some (["v2", "domains", d.target.domain, "records"] ++
        id.toList.map Numeral.decimal) ↔ Url.IsName d.target.domain) ∧
      (Url.IsName d.target.domain → ∀ (d' : DigitalOcean) (id' : Option Nat) (place' : Url),
        d'.baseUrl = publicUrl → Url.IsName d'.target.domain → d'.placeUrl id' = .ok place' →
        place'.text = place.text → d'.target.domain = d.target.domain ∧ id' = id) := by
  obtain ⟨hurl, hread⟩ := exists_placeUrl h id
  have hnames (domain : String) (id : Option Nat) :
      (Provider.digitalOcean.place (placePath domain id) none).names? = some (placeNames domain id) ↔
        Url.IsName domain := by
    rw [← map_decodedSegment_placePath_iff domain id]
    exact Option.some_inj
  refine ⟨_, hurl, ⟨_, rfl⟩, hread, hnames d.target.domain id, ?_⟩
  intro hname d' id' place' h' hname' hurl' htext
  obtain ⟨hplace', hread'⟩ := exists_placeUrl h' id'
  cases hurl'.symm.trans hplace'
  rw [htext, hread] at hread'
  have hsame : placeNames d'.target.domain id' = placeNames d.target.domain id := by
    apply Option.some_inj.1
    rw [← (hnames d.target.domain id).2 hname, ← (hnames d'.target.domain id').2 hname',
      Except.ok.inj hread']
  exact placeNames_inj hsame

/-- An updater for the domain itself. -/
def exampleZone (domain : String) : DigitalOcean where
  target := ⟨domain, Target.apex, .ipv4⟩
  token := ⟨"zone-token", by decide⟩
  baseUrl := publicUrl

/-- Separators and dots of all spellings stay within the segment; only a directory is lost. -/
theorem separators_name_no_other_place :
    let domain := "a/../b?c#d%2e%2e\\é"
    (∃ place, (exampleZone domain).placeUrl (some 18446744073709551615) = .ok place ∧
      place.names? = some ["v2", "domains", domain, "records", "18446744073709551615"]) ∧
    ∃ place, (exampleZone "..").placeUrl none = .ok place ∧
      place.names? ≠ some ["v2", "domains", "..", "records"] := by
  intro domain
  constructor
  · obtain ⟨place, hplace, -, -, hnames, -⟩ :=
      placeUrl_names_record_iff (exampleZone domain) rfl (some 18446744073709551615)
    have hnumber : Numeral.decimal 18446744073709551615 = "18446744073709551615" := by
      decide +kernel
    have hname : Url.IsName (exampleZone domain).target.domain := by decide +kernel
    refine ⟨place, hplace, ?_⟩
    rw [hnames.2 hname, Option.toList_some, List.map_singleton, hnumber]
    rfl
  · obtain ⟨place, hplace, -, -, hnames, -⟩ :=
      placeUrl_names_record_iff (exampleZone "..") rfl none
    refine ⟨place, hplace, ?_⟩
    intro hsame
    exact absurd (hnames.1 hsame) (by decide)

end DigitalOcean

end DynamicDns
