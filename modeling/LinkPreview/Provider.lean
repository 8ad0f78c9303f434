import LinkPreview.Fault
import LinkPreview.Text.Blank
import LinkPreview.Text.Case
import LinkPreview.Text.Digit
import LinkPreview.Value

set_option autoImplicit false

namespace LinkPreview.Provider
open Text

/-- Labels that stand under the code of a country, as in `example.co.uk`. -/
def secondLevel : List String := ["co", "com", "org", "net", "gov", "edu", "ac"]

/-- Whether a label is `www` in any case, and digits; a line break may follow. -/
def isWww (label : List Char) : Bool :=
  asciiLower (label.take 3) == "www".toList &&
    ((label.drop 3).dropWhile isDigit == [] || (label.drop 3).dropWhile isDigit == ['\n'])

def isSecondLevel (label : List Char) : Bool := secondLevel.contains (String.ofList (lower label))

/-- The labels without the top-level domain: the last label, or the last two if the one before
the last is of the second level. -/
def withoutTop (labels : List (List Char)) : List (List Char) :=
  match labels.reverse with
  | [] => []
  | _ :: [] => []
  | _ :: second :: more =>
    if isSecondLevel second then more.reverse else (second :: more).reverse

def withoutWww : List (List Char) → List (List Char)
  | [] => []
  | first :: more => if isWww first then more else first :: more

/-- The labels that name the site, with spaces between them. A host without a dot names itself. -/
def ofHost (host : List Char) : List Char :=
  if host.contains '.' then
    join [' '] ((withoutTop (withoutWww (splitAt '.' host))).filter (!·.isEmpty))
  else host

def holdsDot : Value → Except Fault Bool
  | .text s => .ok (s.toList.contains '.')
  | .list items | .tuple items => .ok (items.any (·.same (.text ".")))
  | .record fields => .ok (Fields.has fields ".")
  | .null | .bool _ | .number _ => .error .mismatch

/-- The name of the site for any value in the place of a host. Only a text has labels. -/
def ofValue (host : Value) : Except Fault Value :=
  if host.isFalsy then .ok (.text "")
  else
    match host with
    | .text s => .ok (.text (String.ofList (ofHost s.toList)))
    | _ => do if ← holdsDot host then .error .missingOperation else .ok host

end LinkPreview.Provider
