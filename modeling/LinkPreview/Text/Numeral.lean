import LinkPreview.Fault
import LinkPreview.Text.Blank
import LinkPreview.Text.Digit

set_option autoImplicit false

namespace LinkPreview.Text

/-- Blanks around a numeral. In a text of ASCII characters the information separators are none. -/
def isPadding (ascii : Bool) (c : Char) : Bool :=
  if ascii || c.toNat < 127 then c == ' ' || (9 ≤ c.toNat && c.toNat ≤ 13) else isBlank c

/-- The digits at the start of a text, each with at most one underscore before it but the first,
and the rest of the text. A misplaced underscore gives `none`. -/
def numeralDigits (follows : Bool) : List Char → Option (List Char × List Char)
  | [] => some ([], [])
  | c :: cs =>
    if isDigit c then
      (numeralDigits true cs).map fun (digits, rest) => (c :: digits, rest)
    else if c = '_' then
      match follows, cs with
      | true, d :: _ => if isDigit d then numeralDigits false cs else none
      | _, _ => none
    else some ([], c :: cs)

/-- Reads a whole number: blanks around it, one sign, digits of any script with single
underscores between them. A numeral that is too long is refused before what follows it is looked
at. -/
def readInt (s : String) : Except Fault Int :=
  let ascii := s.toList.all (·.toNat < 128)
  let cs := s.toList.dropWhile (isPadding ascii)
  let negative := cs.head? = some '-'
  let cs := if negative || cs.head? = some '+' then cs.drop 1 else cs
  match numeralDigits false cs with
  | none => .error (.notNumeral s)
  | some (digits, rest) =>
    if digitLimit < digits.length then .error (.longNumeral digits.length)
    else if digits.isEmpty || !rest.all (isPadding ascii) then .error (.notNumeral s)
    else
      let n : Int := digitsValue digits
      .ok (if negative then -n else n)

end LinkPreview.Text
