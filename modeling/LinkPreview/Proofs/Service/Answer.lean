import LinkPreview.Proofs.Log.Lines
import LinkPreview.Service.Basic

set_option autoImplicit false

namespace LinkPreview.Service
open Log

structure Request.Asks (request : Request) (r : MetadataRequest) : Prop where
  path : Route.ofPath? request.path = some .metadata
  method : request.method = "POST"
  body : MetadataRequest.ofBody request.body = .ok r

namespace MetadataRequest

def written (r : MetadataRequest) : Fields :=
  [("html", .text r.html), ("url", .ofText? r.url),
    ("fields", (r.fields.map Value.texts).getD .null)]

def posted (r : MetadataRequest) : Request where
  method := "POST"
  path := "/api/metadata"
  body := .value (.record r.written)

theorem itemProblems_texts (position : Nat) (names : List String) :
    itemProblems position (names.map .text) = [] := by
  induction names generalizing position with
  | nil => rfl
  | cons name names ih =>
    rw [List.map_cons, itemProblems, ih]
    rfl

theorem filterMap_texts (names : List String) : (names.map Value.text).filterMap text? = names := by
  rw [List.filterMap_map]
  exact List.filterMap_some

theorem fieldsOf_texts (fields : Option (List String)) :
    fieldsOf (some ((fields.map Value.texts).getD .null)) = .ok fields := by
  cases fields with
  | none => rfl
  | some names =>
    simp only [Option.map_some, Option.getD_some, Value.texts, fieldsOf, itemProblems_texts,
      filterMap_texts, List.isEmpty_nil, if_true]

theorem urlOf_text? (url : Option String) : urlOf (some (.ofText? url)) = .ok url := by
  cases url <;> rfl

theorem ofFields_written (r : MetadataRequest) : ofFields r.written = .ok r := by
  have hhtml : htmlOf (r.written.get? "html") = .ok r.html := rfl
  have hurl : urlOf (r.written.get? "url") = .ok r.url := urlOf_text? r.url
  have hfields : fieldsOf (r.written.get? "fields") = .ok r.fields := fieldsOf_texts r.fields
  simp only [ofFields, hhtml, hurl, hfields]

/-- Whatever can be asked for is asked for by some request. -/
theorem asks_posted (r : MetadataRequest) : r.posted.Asks r := by
  have hpath : Route.ofPath? "/api/metadata" = some .metadata := by decide +kernel
  refine ⟨hpath, rfl, ?_⟩
  simp only [posted, ofBody, checked, ofValue, ofFields_written]
  rfl

end MetadataRequest

def brokenHost : MetadataRequest := ⟨"<title>A</title>", some "http://[", some ["provider"]⟩

section
variable {limit : Int} {run : Extract} {showId : TraceId → Value} {r : MetadataRequest}

theorem answer_of_asks {request : Request} (h : request.Asks r) (j : Journal) :
    answer limit run showId request j = metadata limit run showId r j := by
  have hmethod : (Route.metadata.method != request.method) = false := by
    rw [h.method]
    rfl
  rw [answer, h.path]
  simp only [hmethod, h.body, Bool.false_eq_true, if_false]

def nextId (j : Journal) : TraceId := .generated (j.generated + 1)

def logged (j : Journal) (entries : List Entry) : Journal := j.generate.2.printEach entries

def asked (run : Extract) (r : MetadataRequest) : Traced Fields :=
  run (.document (Markup.read r.html)) (.ofUrl r.url) (treeFor r.fields)

def events (run : Extract) (r : MetadataRequest) : List Event :=
  .reading r.html.length :: (asked run r).events

theorem runExtraction_eq (run : Extract) (r : MetadataRequest) :
    runExtraction run r = ⟨events run r, (asked run r).result⟩ := Traced.emit_bind _ _

def reported (run : Extract) (r : MetadataRequest) : List Entry :=
  received r :: (events run r).map Event.entry

def failure (r : MetadataRequest) (fault : Fault) : Entry :=
  if fault.kind = .value then invalid r fault else failed r fault

/-- The names asked for that no standard field has. -/
def strange (r : MetadataRequest) : List String :=
  (r.fields.getD []).filter fun name => name ∉ Catalog.fields.map (·.name)

theorem unknown_eq_strange (r : MetadataRequest) : unknown r.fields = strange r := by
  refine List.filter_congr fun name _ => ?_
  rw [Catalog.find?, Bool.eq_iff_iff, Option.isNone_iff_eq_none, List.find?_eq_none]
  simp

section
variable (j : Journal)

theorem metadata_of_tooLong (h : limit < r.html.utf8ByteSize) :
    metadata limit run showId r j =
      (.detail 413 (.text s!"HTML payload exceeds {limit} bytes"), logged j [received r]) := by
  simp only [metadata, h, if_true]
  rfl

theorem metadata_of_unknown (h : (r.html.utf8ByteSize : Int) ≤ limit) (hu : strange r ≠ []) :
    metadata limit run showId r j =
      (.detail 422 (unknownDetail (strange r)), logged j [received r]) := by
  have hknown : (strange r).isEmpty = false := by simpa using hu
  simp only [metadata, Int.not_lt.2 h, unknown_eq_strange, hknown, Bool.not_false, if_false,
    if_true]
  rfl

theorem metadata_of_fault (h : (r.html.utf8ByteSize : Int) ≤ limit) (hu : strange r = [])
    {fault : Fault} (hf : (asked run r).result = .error fault) :
    metadata limit run showId r j =
      (.detail (if fault.kind = .value then 400 else 500) (.text fault.message),
        logged j (reported run r ++ [failure r fault])) := by
  simp only [metadata, Int.not_lt.2 h, unknown_eq_strange, hu, runExtraction_eq, hf,
    List.isEmpty_nil, Bool.not_true, if_false, Bool.false_eq_true, logged,
    Journal.printEach_append, Journal.printAll_eq_printEach, failure]
  split <;> rfl

theorem metadata_of_found (h : (r.html.utf8ByteSize : Int) ≤ limit) (hu : strange r = [])
    {found : Fields} (hf : (asked run r).result = .ok found) :
    metadata limit run showId r j =
      (⟨200, .record [("url", .ofText? r.url), ("metadata", .record found),
          ("trace_id", showId (nextId j))]⟩, logged j (reported run r)) := by
  simp only [metadata, Int.not_lt.2 h, unknown_eq_strange, hu, runExtraction_eq, hf,
    List.isEmpty_nil, Bool.not_true, if_false, Bool.false_eq_true, logged,
    Journal.printAll_eq_printEach]
  rfl

theorem metadata_response : (metadata limit run showId r j).1 =
    if limit < r.html.utf8ByteSize then
      .detail 413 (.text s!"HTML payload exceeds {limit} bytes")
    else if strange r ≠ [] then .detail 422 (unknownDetail (strange r))
    else
      match (asked run r).result with
      | .error fault => .detail (if fault.kind = .value then 400 else 500) (.text fault.message)
      | .ok found => ⟨200, .record [("url", .ofText? r.url), ("metadata", .record found),
          ("trace_id", showId (nextId j))]⟩ := by
  by_cases hlt : limit < r.html.utf8ByteSize
  · rw [metadata_of_tooLong j hlt, if_pos hlt]
  · have hle := Int.not_lt.1 hlt
    rw [if_neg hlt]
    by_cases hu : strange r = []
    · rw [if_neg (not_not_intro hu)]
      cases hdone : (asked run r).result with
      | error fault => rw [metadata_of_fault j hle hu hdone]
      | ok found => rw [metadata_of_found j hle hu hdone]
    · rw [metadata_of_unknown j hle hu, if_pos hu]

end
end
end LinkPreview.Service
