import LinkPreview.Fault
import LinkPreview.Number
import LinkPreview.Text.Blank
import LinkPreview.Text.Case
import LinkPreview.Text.Digit

set_option autoImplicit false

namespace LinkPreview.IconSize
open Text

inductive Size where
  | area (width height : List Char)
  | any
  deriving DecidableEq, Repr

def dimensions? (word : List Char) : Option (List Char × List Char) :=
  let width := word.takeWhile isDigit
  match word.dropWhile isDigit with
  | c :: height =>
    if (c == 'x' || c == 'X') && !width.isEmpty && !height.isEmpty && height.all isDigit then
      some (width, height)
    else none
  | [] => none

def Size.read? (word : List Char) : Option Size :=
  if lower word = "any".toList then some .any
  else (dimensions? word).map fun (width, height) => .area width height

def numeral (digits : List Char) : Except Fault Int :=
  if digitLimit < digits.length then .error (.longNumeral digits.length)
  else .ok (digitsValue digits)

/-- Any size counts more than none and less than the smallest area. -/
def Size.score : Size → Except Fault Number
  | .any => .ok .half
  | .area width height => do return .whole ((← numeral width) * (← numeral height))

def scoreFrom (best : Number) : List (List Char) → Except Fault Number
  | [] => .ok best
  | word :: more =>
    match Size.read? word with
    | none => scoreFrom best more
    | some size => do scoreFrom (best.larger (← size.score)) more

def score (sizes : List Char) : Except Fault Number := scoreFrom (.whole 0) (words sizes)

end LinkPreview.IconSize
