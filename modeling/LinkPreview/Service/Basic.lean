import LinkPreview.Catalog
import LinkPreview.Log.Journal
import LinkPreview.Markup.Tree
import LinkPreview.Service.Request

/-! The service: it extracts metadata from posted pages and lists the fields of the catalog. It
never fetches a page. -/
set_option autoImplicit false

namespace LinkPreview.Service
open Log

def version : String := "1.0.0"

structure Response where
  status : Nat
  body : Value

def Response.detail (status : Nat) (text : Value) : Response := ⟨status, .record [("detail", text)]⟩

abbrev Extract := Place → Context → RuleTree → Traced Fields

inductive Route where
  | health
  | rules
  | metadata
  deriving DecidableEq, Repr

namespace Route

def path : Route → String
  | .health => "/api/health"
  | .rules => "/api/rules"
  | .metadata => "/api/metadata"

def method : Route → String
  | .health | .rules => "GET"
  | .metadata => "POST"

def clean (path : String) : String :=
  String.ofList (((Text.before '?' path.toList).reverse.dropWhile (· == '/')).reverse)

def ofPath? (path : String) : Option Route :=
  [health, rules, metadata].find? (·.path == clean path)

end Route

def health : Response :=
  ⟨200, .record [("status", .text "healthy"), ("version", .text version)]⟩

def summary (f : Catalog.Field) : Value :=
  .record [("field", .text f.name), ("rule_count", .number (.whole f.rules.length)),
    ("scored", .bool f.scored)]

def rules : Response := ⟨200, .list (Catalog.fields.map summary)⟩

def treeFor : Option (List String) → RuleTree
  | none | some [] => Catalog.tree
  | some names => Catalog.treeOf (names.filterMap Catalog.find?)

def unknownDetail (names : List String) : Value :=
  .text ("Unknown metadata fields: " ++ String.intercalate ", " names)

def unknown (names : Option (List String)) : List String :=
  (names.getD []).filter fun name => (Catalog.find? name).isNone

def received (r : MetadataRequest) : Entry :=
  ⟨.info, "metadata_request",
    [("url", .ofText? r.url), ("html_length", .number (.whole r.html.length)),
      ("fields", (r.fields.map Value.texts).getD .null)]⟩

def invalid (r : MetadataRequest) (fault : Fault) : Entry :=
  ⟨.warning, "metadata_request_invalid", [("error", .text fault.message), ("url", .ofText? r.url)]⟩

def failed (r : MetadataRequest) (fault : Fault) : Entry :=
  let given : Fields :=
    [("error", .text fault.message), ("error_type", .text fault.kind.name), ("url", .ofText? r.url)]
  Call.entryOf ⟨"main", .error, given⟩ given

def runExtraction (run : Extract) (r : MetadataRequest) : Traced Fields := do
  .emit (.reading r.html.length)
  run (.document (Markup.read r.html)) (.ofUrl r.url) (treeFor r.fields)

/-- The answer to a checked request. A page that is too long is refused before the fields are
looked at. -/
def metadata (limit : Int) (run : Extract) (showId : TraceId → Value) (r : MetadataRequest)
    (j : Journal) : Response × Journal :=
  let (id, j) := j.setTrace none
  let j := j.print (received r)
  if limit < r.html.utf8ByteSize then
    (.detail 413 (.text s!"HTML payload exceeds {limit} bytes"), j)
  else if !(unknown r.fields).isEmpty then (.detail 422 (unknownDetail (unknown r.fields)), j)
  else
    let done := runExtraction run r
    let j := j.printAll done.events
    match done.result with
    | .ok fields =>
      (⟨200, .record [("url", .ofText? r.url), ("metadata", .record fields),
        ("trace_id", showId id)]⟩, j)
    | .error fault =>
      if fault.kind = .value then (.detail 400 (.text fault.message), j.print (invalid r fault))
      else (.detail 500 (.text fault.message), j.print (failed r fault))

def refuse : Refusal → Response
  | .problems ps => .detail 422 (.list (ps.map Problem.value))
  | .unreadable => .detail 400 (.text "There was an error parsing the body")

def answer (limit : Int) (run : Extract) (showId : TraceId → Value) (request : Request)
    (j : Journal) : Response × Journal :=
  match Route.ofPath? request.path with
  | none => (.detail 404 (.text "Not Found"), j)
  | some route =>
    if route.method != request.method then (.detail 405 (.text "Method Not Allowed"), j)
    else
      match route with
      | .health => (health, j)
      | .rules => (rules, j)
      | .metadata =>
        match MetadataRequest.ofBody request.body with
        | .error refusal => (refuse refusal, j)
        | .ok r => metadata limit run showId r j

end LinkPreview.Service
