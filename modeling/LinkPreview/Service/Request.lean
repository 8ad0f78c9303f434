import LinkPreview.Json.Reader

set_option autoImplicit false

namespace LinkPreview.Service

inductive Body where
  | absent
  | value (v : Value)
  | text (s : String)

structure Request where
  method : String
  path : String
  body : Body

structure MetadataRequest where
  html : String
  url : Option String
  fields : Option (List String)
  deriving DecidableEq, Repr

inductive ProblemKind where
  | missing
  | notText
  | notList
  | notRecord
  | notJson
  deriving DecidableEq, Repr

def ProblemKind.name : ProblemKind → String
  | .missing => "missing"
  | .notText => "string_type"
  | .notList => "list_type"
  | .notRecord => "model_attributes_type"
  | .notJson => "json_invalid"

structure Problem where
  kind : ProblemKind
  place : List Value

def Problem.value (p : Problem) : Value :=
  .record [("type", .text p.kind.name), ("loc", .list (.text "body" :: p.place))]

inductive Refusal where
  | problems (ps : List Problem)
  | unreadable

namespace MetadataRequest

def htmlOf : Option Value → Except (List Problem) String
  | none => .error [⟨.missing, [.text "html"]⟩]
  | some (.text s) => .ok s
  | some _ => .error [⟨.notText, [.text "html"]⟩]

def urlOf : Option Value → Except (List Problem) (Option String)
  | none | some .null => .ok none
  | some (.text s) => .ok (some s)
  | some _ => .error [⟨.notText, [.text "url"]⟩]

def text? : Value → Option String
  | .text s => some s
  | _ => none

def itemProblems (position : Nat) : List Value → List Problem
  | [] => []
  | item :: more =>
    (if (text? item).isSome then []
      else [⟨.notText, [.text "fields", .number (.whole position)]⟩]) ++
      itemProblems (position + 1) more

def fieldsOf : Option Value → Except (List Problem) (Option (List String))
  | none | some .null => .ok none
  | some (.list items) =>
    if (itemProblems 0 items).isEmpty then .ok (some (items.filterMap text?))
    else .error (itemProblems 0 items)
  | some _ => .error [⟨.notList, [.text "fields"]⟩]

def problemsOf {α : Type} : Except (List Problem) α → List Problem
  | .ok _ => []
  | .error ps => ps

/-- All problems of the parts are reported together. -/
def ofFields (given : Fields) : Except (List Problem) MetadataRequest :=
  let html := htmlOf (given.get? "html")
  let url := urlOf (given.get? "url")
  let fields := fieldsOf (given.get? "fields")
  match html, url, fields with
  | .ok html, .ok url, .ok fields => .ok ⟨html, url, fields⟩
  | _, _, _ => .error (problemsOf html ++ problemsOf url ++ problemsOf fields)

def ofValue : Value → Except (List Problem) MetadataRequest
  | .null => .error [⟨.missing, []⟩]
  | .record given => ofFields given
  | _ => .error [⟨.notRecord, []⟩]

def checked (v : Value) : Except Refusal MetadataRequest := (ofValue v).mapError .problems

def ofBody : Body → Except Refusal MetadataRequest
  | .absent => .error (.problems [⟨.missing, []⟩])
  | .value v => checked v
  | .text s =>
    if s.isEmpty then .error (.problems [⟨.missing, []⟩])
    else
      match Json.read s with
      | .ok v => checked v
      | .error .malformed => .error (.problems [⟨.notJson, []⟩])
      | .error (.longNumeral _) => .error .unreadable

end MetadataRequest
end LinkPreview.Service
