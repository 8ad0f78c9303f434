import LinkPreview.Proofs.Catalog.Part
import LinkPreview.Proofs.Service.Answer

set_option autoImplicit false

namespace LinkPreview
open Log

def Value.record? : Value → Option Fields
  | .record fields => some fields
  | _ => none

namespace Service

def Response.metadata? (response : Response) : Option Fields :=
  if response.status = 200 then
    response.body.record?.bind fun parts => (parts.get? "metadata").bind Value.record?
  else none

@[simp] theorem Response.metadata?_detail {status : Nat} (text : Value) (h : status ≠ 200) :
    (Response.detail status text).metadata? = none := if_neg h

def chosen : Option (List String) → List Catalog.Field
  | none | some [] => Catalog.fields
  | some names => names.filterMap Catalog.find?

theorem treeFor_eq (names : Option (List String)) :
    treeFor names = Catalog.treeOf (chosen names) := by
  match names with
  | none | some [] | some (_ :: _) => rfl

section
variable {names : List String} {f : Catalog.Field}

theorem mem_chosen (hn : names ≠ []) :
    f ∈ chosen (some names) ↔ f ∈ Catalog.fields ∧ f.name ∈ names := by
  obtain ⟨name, more, rfl⟩ := List.exists_cons_of_ne_nil hn
  have hchosen : chosen (some (name :: more)) = (name :: more).filterMap Catalog.find? := rfl
  rw [hchosen, List.mem_filterMap]
  constructor
  · intro hex
    obtain ⟨other, hmem, hf⟩ := hex
    obtain ⟨hfield, rfl⟩ := Catalog.of_find? hf
    exact ⟨hfield, hmem⟩
  · intro hboth
    exact ⟨f.name, hboth.2, Catalog.find?_name hboth.1⟩

theorem chosen_standard {names : Option (List String)} (h : f ∈ chosen names) :
    f ∈ Catalog.fields := by
  match names with
  | none | some [] => exact h
  | some (name :: more) => exact ((mem_chosen (List.cons_ne_nil name more)).1 h).1

theorem mem_chosen_congr {names' : List String} (h : ∀ name, name ∈ names ↔ name ∈ names') :
    f ∈ chosen (some names) ↔ f ∈ chosen (some names') := by
  have hnil : names = [] ↔ names' = [] := by
    simp only [List.eq_nil_iff_forall_not_mem, h]
  by_cases hn : names = []
  · rw [hn, hnil.1 hn]
  · rw [mem_chosen hn, mem_chosen (mt hnil.2 hn), h]

theorem mem_names_chosen (hn : names ≠ [])
    (hknown : ∀ name ∈ names, name ∈ Catalog.fields.map (·.name)) {key : String} :
    key ∈ (chosen (some names)).map (·.name) ↔ key ∈ names := by
  rw [List.mem_map]
  constructor
  · intro hex
    obtain ⟨f, hf, rfl⟩ := hex
    exact ((mem_chosen hn).1 hf).2
  · intro hkey
    obtain ⟨f, hf, rfl⟩ := List.mem_map.1 (hknown key hkey)
    exact ⟨f, (mem_chosen hn).2 ⟨hf, hkey⟩, rfl⟩

end

section
variable {limit : Int} {showId : TraceId → Value} {request : Request} {r : MetadataRequest}
  {j : Journal}

theorem strange_eq_nil_iff :
    strange r = [] ↔ ∀ name ∈ r.fields.getD [], name ∈ Catalog.fields.map (·.name) := by
  rw [strange, List.filter_eq_nil_iff]
  simp

theorem metadata?_eq_some_iff (h : request.Asks r) {found : Fields} :
    (answer limit extract showId request j).1.metadata? = some found ↔
      r.html.utf8ByteSize ≤ limit ∧ strange r = [] ∧ (asked extract r).result = .ok found := by
  rw [answer_of_asks h, metadata_response]
  by_cases hlt : limit < r.html.utf8ByteSize
  · rw [if_pos hlt, Response.metadata?_detail _ (by decide)]
    simp [hlt]
  · rw [if_neg hlt]
    by_cases hu : strange r = []
    · rw [if_neg (not_not_intro hu)]
      cases (asked extract r).result with
      | error fault =>
        have hstatus : (if fault.kind = .value then 400 else 500) ≠ 200 := by
          split <;> decide
        simp [Response.metadata?_detail _ hstatus]
      | ok fields =>
        have hmetadata : Response.metadata? ⟨200, .record [("url", .ofText? r.url),
            ("metadata", .record fields), ("trace_id", showId (nextId j))]⟩ = some fields := rfl
        simp [hmetadata, Int.not_lt.1 hlt, hu]
    · rw [if_pos hu, Response.metadata?_detail _ (by decide)]
      simp [hu]

end

/-- Fields for some of the names, beside those for all. -/
structure Restricts (url : Option String) (names : List String) (whole part : Fields) : Prop where
  kept : ∀ key ∈ names, part.get? key = whole.get? key
  url : "url" ∉ names →
    ∀ v, part.get? "url" = some v ↔ ∃ u, url = some u ∧ u ≠ "" ∧ v = .text u
  other : ∀ key ∉ names, key ≠ "url" → part.get? key = none

section
variable {limit : Int} {showId : TraceId → Value} {html : String} {url : Option String}
  {names names' : List String} {whole part : Request} {j j' : Journal} {found : Fields}

theorem answer_part (hn : names ≠ [])
    (hknown : ∀ name ∈ names, name ∈ Catalog.fields.map (·.name))
    (hwhole : whole.Asks ⟨html, url, none⟩) (hpart : part.Asks ⟨html, url, some names⟩)
    (h : (answer limit extract showId whole j).1.metadata? = some found) :
    ∃ fields, (answer limit extract showId part j').1.metadata? = some fields ∧
      Restricts url names found fields := by
  obtain ⟨hle, -, hfound⟩ := (metadata?_eq_some_iff hwhole).1 h
  have hall : (extract (.document (Markup.read html)) (.ofUrl url)
      (Catalog.treeOf Catalog.fields)).result = .ok found := hfound
  have hchosen : ∀ f ∈ chosen (some names), f ∈ Catalog.fields := fun _ => chosen_standard
  obtain ⟨fields, hfields, hget⟩ := Catalog.extract_part (fun _ hf => hf) hchosen hall
  simp only [mem_names_chosen hn hknown] at hget
  refine ⟨fields, (metadata?_eq_some_iff hpart).2 ⟨hle, strange_eq_nil_iff.2 hknown, ?_⟩, ?_⟩
  · rw [asked, treeFor_eq]
    exact hfields
  · constructor
    case kept =>
      intro key hkey
      rw [hget, if_pos hkey]
    case url =>
      intro hurl v
      rw [hget, if_neg hurl, if_pos rfl]
      exact Extraction.urlValue_eq_some_iff
    case other =>
      intro key hkey hne
      rw [hget, if_neg hkey, if_neg hne]

theorem answer_same_names (hsame : ∀ name, name ∈ names ↔ name ∈ names')
    (hwhole : whole.Asks ⟨html, url, some names⟩) (hpart : part.Asks ⟨html, url, some names'⟩)
    (h : (answer limit extract showId whole j).1.metadata? = some found) :
    ∃ fields : Fields, (answer limit extract showId part j').1.metadata? = some fields ∧
      fields.Perm found := by
  obtain ⟨hle, hstrange, hfound⟩ := (metadata?_eq_some_iff hwhole).1 h
  rw [asked, treeFor_eq] at hfound
  obtain ⟨fields, hfields, hperm⟩ := Catalog.extract_same_part (fun _ => chosen_standard)
    (fun f => (mem_chosen_congr hsame (f := f)).symm) hfound
  have hknown := strange_eq_nil_iff.1 hstrange
  refine ⟨fields, (metadata?_eq_some_iff hpart).2 ⟨hle, strange_eq_nil_iff.2 ?_, ?_⟩, hperm⟩
  · exact fun name hname => hknown name ((hsame name).2 hname)
  · rw [asked, treeFor_eq]
    exact hfields

theorem answer_no_names (hwhole : whole.Asks ⟨html, url, none⟩)
    (hpart : part.Asks ⟨html, url, some []⟩) :
    (answer limit extract showId part j).1 = (answer limit extract showId whole j).1 := by
  rw [answer_of_asks hwhole, answer_of_asks hpart, metadata_response, metadata_response]
  rfl

end

/-- A request that chooses fields gets a restriction of what a request for all fields gets; the
order and the repetitions of the names do not matter, and no names are all names. -/
theorem answer_restricts (limit : Int) (showId : TraceId → Value) (html : String)
    (url : Option String) :
    (∀ names, names ≠ [] → (∀ name ∈ names, name ∈ Catalog.fields.map (·.name)) →
      ∀ whole part : Request, whole.Asks ⟨html, url, none⟩ → part.Asks ⟨html, url, some names⟩ →
      ∀ j j' found, (answer limit extract showId whole j).1.metadata? = some found →
        ∃ fields, (answer limit extract showId part j').1.metadata? = some fields ∧
          Restricts url names found fields) ∧
    (∀ names names', (∀ name, name ∈ names ↔ name ∈ names') →
      ∀ one other : Request, one.Asks ⟨html, url, some names⟩ →
        other.Asks ⟨html, url, some names'⟩ →
      ∀ j j' found, (answer limit extract showId one j).1.metadata? = some found →
        ∃ fields : Fields, (answer limit extract showId other j').1.metadata? = some fields ∧
          fields.Perm found) ∧
    (∀ whole part : Request, whole.Asks ⟨html, url, none⟩ → part.Asks ⟨html, url, some []⟩ →
      ∀ j, (answer limit extract showId part j).1 = (answer limit extract showId whole j).1) := by
  refine ⟨?_, ?_, ?_⟩
  · intro names hn hknown whole part hwhole hpart j j' found
    exact answer_part hn hknown hwhole hpart
  · intro names names' hsame one other hone hother j j' found
    exact answer_same_names hsame hone hother
  · intro whole part hwhole hpart j
    exact answer_no_names hwhole hpart

def titled (fields : Option (List String)) : MetadataRequest :=
  ⟨"<title>A</title>", some "https://news.example/a", fields⟩

def answerTitled (fields : Option (List String)) : Response × Journal :=
  answer 100 extract (fun _ => .null) (titled fields).posted (.start 20)

theorem answer_titled_restricts :
    ∃ found fields again : Fields, (answerTitled none).1.metadata? = some found ∧
      (answerTitled (some ["title", "title", "type"])).1.metadata? = some fields ∧
      Restricts (some "https://news.example/a") ["title", "title", "type"] found fields ∧
      (answerTitled (some ["type", "title"])).1.metadata? = some again ∧ again.Perm fields ∧
      (answerTitled (some [])).1 = (answerTitled none).1 := by
  obtain ⟨hpart, hsame, hnone⟩ := answer_restricts 100 (fun _ => .null) "<title>A</title>"
    (some "https://news.example/a")
  have hasks := fun fields => (titled fields).asks_posted
  obtain ⟨found, hfound⟩ : ∃ found, (answerTitled none).1.metadata? = some found :=
    Option.isSome_iff_exists.1 (by decide +kernel)
  obtain ⟨fields, hfields, hrestricts⟩ := hpart ["title", "title", "type"] (by decide) (by decide)
    _ _ (hasks _) (hasks _) (.start 20) (.start 20) found hfound
  obtain ⟨again, hagain, hperm⟩ := hsame ["title", "title", "type"] ["type", "title"]
    (fun name => by simp [or_comm]) _ _ (hasks _) (hasks _) (.start 20) (.start 20) fields hfields
  exact ⟨found, fields, again, hfound, hfields, hrestricts, hagain, hperm,
    hnone _ _ (hasks _) (hasks _) (.start 20)⟩

end Service
end LinkPreview
