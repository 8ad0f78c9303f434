import LinkPreview.Number.Decimal
import LinkPreview.Text.Hex
import LinkPreview.Value

/-! Values written as JSON text. Tuples are written as lists. Numbers that are not finite have no
form in JSON, and are written as texts. -/
set_option autoImplicit false

namespace LinkPreview.Json
open Text

def writeChar (c : Char) : List Char :=
  if c = '\x22' || c = '\\' then ['\\', c]
  else if c.toNat < 32 || c.toNat = 127 then '\\' :: 'u' :: hexDigits 4 c.toNat
  else [c]

def writeText (s : String) : String :=
  String.ofList ('\x22' :: s.toList.flatMap writeChar ++ ['\x22'])

def writeNumber (x : Number) : String :=
  match x with
  | .nan | .infinite _ => writeText x.text
  | .whole _ | .decimal .. => x.text

mutual

def write : Value → String
  | .null => "null"
  | .bool b => if b then "true" else "false"
  | .number x => writeNumber x
  | .text s => writeText s
  | .list items | .tuple items => "[" ++ String.intercalate "," (writeItems items) ++ "]"
  | .record fields => "\x7b" ++ String.intercalate "," (writeFields fields) ++ "\x7d"

def writeItems : List Value → List String
  | [] => []
  | v :: more => write v :: writeItems more

def writeFields : List (String × Value) → List String
  | [] => []
  | (key, v) :: more => (writeText key ++ ":" ++ write v) :: writeFields more

end

end LinkPreview.Json
