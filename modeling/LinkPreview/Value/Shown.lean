import LinkPreview.Number.Decimal
import LinkPreview.Text.Quoted
import LinkPreview.Value

/-! Values as they are shown within a text. A text stands for itself there; inside other values
texts are quoted. -/
set_option autoImplicit false

namespace LinkPreview.Value

def between (first last : String) (items : List String) : String :=
  first ++ String.intercalate ", " items ++ last

def shownTuple : List String → String
  | [item] => "(" ++ item ++ ",)"
  | items => between "(" ")" items

def quotedText (s : String) : String := String.ofList (Text.quoted s.toList)

mutual

def inner : Value → String
  | .null => "None"
  | .bool b => if b then "True" else "False"
  | .number x => x.text
  | .text s => quotedText s
  | .list items => between "[" "]" (innerItems items)
  | .tuple items => shownTuple (innerItems items)
  | .record fields => between "\x7b" "\x7d" (innerFields fields)

def innerItems : List Value → List String
  | [] => []
  | v :: more => inner v :: innerItems more

def innerFields : List (String × Value) → List String
  | [] => []
  | (key, v) :: more => (quotedText key ++ ": " ++ inner v) :: innerFields more

end

def shown : Value → String
  | .text s => s
  | v => v.inner

end LinkPreview.Value
