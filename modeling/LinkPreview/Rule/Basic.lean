import LinkPreview.Document.Content
import LinkPreview.Selector.Reader
import LinkPreview.Value

/-! Rules, which say where in a document a value stands, and rule sets, which find one field by a
list of rules in order of preference. -/
set_option autoImplicit false

namespace LinkPreview

structure Context where
  url : Option String
  absolute : Option String → Value → Except Fault Value
  host : Value → Except Fault Value

abbrev Extractor := Place → Except Fault Value

abbrev Processor := Value → Context → Except Fault Value

/-- A score of `none` cannot be compared with another. -/
abbrev Scorer := Value → Place → Except Fault (Option Number)

inductive Target where
  | css (selector : String)
  | function (pick : Place → Except Fault (List Place))

def Target.pick : Target → Place → Except Fault (List Place)
  | .css selector, page => do return (← Selector.read selector).select page
  | .function pick, page => pick page

structure Rule where
  target : Target
  extract : Extractor

/-- A rule as it is given: as such, or as a row of a target and extractors. What is given for a
target or an extractor and is none is `none`. -/
inductive RuleForm where
  | rule (target : Option Target) (extract : Option Extractor)
  | tuple (target : Option Target) (extracts : List (Option Extractor))
  | list (target : Option Target) (extracts : List (Option Extractor))
  | other

namespace RuleForm

def parts? : RuleForm → Option (Option Target × Option Extractor)
  | .rule target extract => some (target, extract)
  | .tuple target [extract] | .list target [extract] => some (target, extract)
  | .tuple .. | .list .. | .other => none

def check (form : RuleForm) : Except RuleFlaw Rule :=
  match form.parts? with
  | none => .error .shape
  | some (none, _) => .error .selector
  | some (some _, none) => .error .extractor
  | some (some target, some extract) => .ok ⟨target, extract⟩

end RuleForm

structure RuleSet where
  name : String
  forms : List RuleForm
  processors : List Processor
  scorer : Option Scorer

structure Matcher where
  name : String
  rules : List Rule
  processors : List Processor
  scorer : Option Scorer

def Matcher.label (m : Matcher) : String := "ruleset_" ++ m.name

namespace RuleSet

def checkFrom (name : String) (position : Nat) : List RuleForm → Except Fault (List Rule)
  | [] => .ok []
  | form :: forms =>
    match form.check with
    | .error flaw => .error (.malformedRule name position flaw)
    | .ok rule => do return rule :: (← checkFrom name (position + 1) forms)

end RuleSet

def Matcher.build (name : String) (forms : List RuleForm) (processors : Option (List Processor))
    (scorer : Option Scorer) : Except Fault Matcher :=
  if forms.isEmpty then .error (.noRules name)
  else do return ⟨name, ← RuleSet.checkFrom name 0 forms, processors.getD [], scorer⟩

def RuleSet.build (s : RuleSet) : Except Fault Matcher :=
  Matcher.build s.name s.forms (some s.processors) s.scorer

end LinkPreview
