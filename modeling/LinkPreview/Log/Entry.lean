import LinkPreview.Event
import LinkPreview.Text.Case
import LinkPreview.Value.Shown

set_option autoImplicit false

namespace LinkPreview.Log

inductive Severity where
  | debug
  | info
  | warning
  | error
  | critical
  deriving DecidableEq, Repr

namespace Severity

def rank : Severity → Nat
  | .debug => 10
  | .info => 20
  | .warning => 30
  | .error => 40
  | .critical => 50

def name : Severity → String
  | .debug => "debug"
  | .info => "info"
  | .warning => "warning"
  | .error => "error"
  | .critical => "critical"

end Severity

def capital (c : Char) : Char :=
  if c = '\u0131' then 'I' else if c = '\u017F' then 'S' else c.toUpper

def levels : List (String × Nat) := [
  ("CRITICAL", 50), ("FATAL", 50), ("ERROR", 40), ("WARN", 30), ("WARNING", 30), ("INFO", 20),
  ("DEBUG", 10), ("NOTSET", 0)]

def threshold (level : String) : Except Fault Nat :=
  match levels.lookup (level.map capital) with
  | some rank => .ok rank
  | none => .error (.unknownLevel level)

structure Entry where
  severity : Severity
  event : String
  fields : Fields

inductive Method where
  | ruleMatch
  | action
  | fallback
  | extraction
  | error
  deriving DecidableEq, Repr

namespace Method

def name : Method → String
  | .ruleMatch => "log_rule_match"
  | .action => "log_action"
  | .fallback => "log_fallback"
  | .extraction => "log_extraction"
  | .error => "log_error"

def ofName? (name : String) : Option Method :=
  [ruleMatch, action, fallback, extraction, error].find? (·.name == name)

/-- The arguments that are expected, with what stands for those that are left out. -/
def parameters : Method → List (String × Option Value)
  | .ruleMatch => [("ruleset", none), ("rule", none), ("url", some .null)]
  | .action => [("action", none), ("status", some (.text "started"))]
  | .fallback => [("field", none), ("source", none), ("reason", none)]
  | .extraction => [("url", none), ("fields_present", none), ("fields_missing", none)]
  | .error => [("error", none), ("error_type", some (.text "unknown"))]

def severity : Method → Severity
  | .ruleMatch | .action => .debug
  | .fallback | .extraction => .info
  | .error => .error

def fill (given : Fields) : List (String × Option Value) → Except Fault Fields
  | [] => .ok []
  | (key, other) :: more =>
    match given.get? key, other with
    | some v, _ | none, some v => do return (key, v) :: (← fill given more)
    | none, none => .error .mismatch

def arguments (m : Method) (given : Fields) : Except Fault Fields := do
  let expected ← fill given m.parameters
  return expected ++ given.filter fun (key, _) => !expected.has key

def event (m : Method) (arguments : Fields) : String :=
  match m with
  | .ruleMatch => "rule_matched"
  | .action => "action_" ++ ((arguments.get? "status").map Value.shown).getD ""
  | .fallback => "fallback_triggered"
  | .extraction => "metadata_extracted"
  | .error => "error_occurred"

def printed (m : Method) (arguments : Fields) : Fields :=
  match m with
  | .action => arguments.filter fun (key, _) => key != "status"
  | _ => arguments

end Method

def reserved : List String := ["event", "self"]

def Entry.make (severity : Severity) (event : String) (fields : Fields) : Except Fault Entry :=
  if reserved.any fields.has then .error .mismatch else .ok ⟨severity, event, fields⟩

/-- The methods for free entries, but for those that wait or take the severity as an argument. -/
def severities : List (String × Severity) := [
  ("debug", .debug), ("info", .info), ("msg", .info), ("warning", .warning), ("warn", .warning),
  ("error", .error), ("exception", .error), ("critical", .critical), ("fatal", .critical)]

/-- A free entry under one of those names. An exception asks for its trace. -/
def Entry.named (name event : String) (fields : Fields) : Except Fault Entry :=
  match severities.lookup name with
  | none => .error .missingOperation
  | some severity =>
    Entry.make severity event
      (if name == "exception" && !fields.has "exc_info" then fields ++ [("exc_info", .bool true)]
      else fields)

structure Call where
  layer : String
  method : Method
  given : Fields

def Call.entryOf (c : Call) (arguments : Fields) : Entry :=
  ⟨c.method.severity, c.method.event arguments,
    ("layer", .text c.layer) :: c.method.printed arguments⟩

def Call.entry (c : Call) : Except Fault Entry := do
  let arguments ← c.method.arguments c.given
  if ("layer" :: reserved).any c.given.has then throw .mismatch
  return c.entryOf arguments

end Log

open Log

def Ranking.fields (r : Ranking) : Fields :=
  [("candidates", .number (.whole r.candidates)),
    ("score", (r.score.map Value.number).getD .null)]

def Event.call : Event → Call
  | .reading length => ⟨"html_document", .action,
      [("action", .text "parse_html"), ("status", .text "started"), ("parser", .text "lxml"),
        ("content_length", .number (.whole length))]⟩
  | .started url fields => ⟨"dispatcher", .action,
      [("action", .text "get_metadata"), ("status", .text "started"), ("url", .ofText? url),
        ("fields", .texts fields)]⟩
  | .matched ruleset found url => ⟨"ruleset", .ruleMatch,
      [("ruleset", .text ruleset), ("rule", .number (.whole found.position)),
        ("url", .ofText? url)] ++ (found.ranking.map Ranking.fields).getD []⟩
  | .urlFilled url => ⟨"dispatcher", .fallback,
      [("field", .text "url"), ("source", .text "caller_url"),
        ("reason", .text "No canonical URL found in document"), ("url", .text url)]⟩
  | .providerFilled url provider => ⟨"dispatcher", .fallback,
      [("field", .text "provider"), ("source", .text "hostname"),
        ("reason", .text "No provider declared in document"), ("url", .text url),
        ("provider", provider)]⟩
  | .extracted url present missing => ⟨"dispatcher", .extraction,
      [("url", .ofText? url), ("fields_present", .texts present),
        ("fields_missing", .texts missing)]⟩

def Event.entry (e : Event) : Entry := e.call.entryOf e.call.given

end LinkPreview
