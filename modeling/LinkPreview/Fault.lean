import LinkPreview.Text.Quoted
import LinkPreview.Url.Parts

set_option autoImplicit false

namespace LinkPreview

inductive RuleFlaw where
  | shape
  | selector
  | extractor
  deriving DecidableEq, Repr

inductive FaultKind where
  | value
  | key
  | lookup
  | type
  | attribute
  | selectorSyntax
  | named (name : String)
  deriving DecidableEq, Repr

inductive Fault where
  | noRules (ruleset : String)
  | malformedRule (ruleset : String) (position : Nat) (flaw : RuleFlaw)
  | selectorSyntax
  | url (cause : Url.Fault)
  /-- A numeral of more digits than are read. -/
  | longNumeral (digits : Nat)
  | notNumeral (text : String)
  | unknownField (field : String)
  /-- The value has not the operation that is asked of it. -/
  | missingOperation
  | mismatch
  | unknownLevel (name : String)
  /-- A fault that a caller's own function ends in. -/
  | raised (kind : FaultKind) (message : String)
  deriving DecidableEq, Repr

def digitLimit : Nat := 4300

def RuleFlaw.message : RuleFlaw → String
  | .shape => "must be a RuleEntry or a (selector, extractor) pair"
  | .selector => "has an invalid selector"
  | .extractor => "has a non-callable extractor"

def Url.Fault.message : Url.Fault → String
  | .brackets => "Invalid IPv6 URL"
  | .futureAddress => "IPvFuture address is invalid"
  | .notAddress host =>
    String.ofList (Text.quoted host) ++ " does not appear to be an IPv4 or IPv6 address"
  | .bracketedIPv4 => "An IPv4 address cannot be in brackets"
  | .confusable authority =>
    "netloc '" ++ String.ofList authority ++
      "' contains invalid characters under NFKC normalization"

namespace FaultKind

def name : FaultKind → String
  | .value => "ValueError"
  | .key => "KeyError"
  | .lookup => "LookupError"
  | .type => "TypeError"
  | .attribute => "AttributeError"
  | .selectorSyntax => "SelectorSyntaxError"
  | .named name => name

def ofName (name : String) : FaultKind :=
  ([.value, .key, .lookup, .type, .attribute, .selectorSyntax].find? (·.name == name)).getD
    (.named name)

end FaultKind

namespace Fault

def kind : Fault → FaultKind
  | .noRules _ | .malformedRule .. | .url _ | .longNumeral _ | .notNumeral _ => .value
  | .unknownField _ => .key
  | .selectorSyntax => .selectorSyntax
  | .missingOperation | .unknownLevel _ => .attribute
  | .mismatch => .type
  | .raised kind _ => kind

def quoteLimit : Nat := 200

def message : Fault → String
  | .noRules ruleset => s!"Ruleset '{ruleset}' must define at least one rule"
  | .malformedRule ruleset position flaw =>
    s!"Rule {position} of ruleset '{ruleset}' {flaw.message}"
  | .selectorSyntax => "Malformed selector"
  | .url cause => cause.message
  | .longNumeral digits =>
    s!"Exceeds the limit ({digitLimit} digits) for integer string conversion: value has {digits}" ++
      " digits; use sys.set_int_max_str_digits() to increase the limit"
  | .notNumeral text =>
    "invalid literal for int() with base 10: " ++
      String.ofList ((Text.quoted text.toList).take quoteLimit)
  | .unknownField field => field
  | .missingOperation => "The value does not support this operation"
  | .mismatch => "The values do not go together"
  | .unknownLevel name => s!"Unknown log level {name}"
  | .raised _ message => message

end Fault
end LinkPreview
