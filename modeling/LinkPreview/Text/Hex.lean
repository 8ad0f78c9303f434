set_option autoImplicit false

namespace LinkPreview.Text

def isHexDigit (c : Char) : Bool :=
  c.isDigit || ('a' ≤ c && c ≤ 'f') || ('A' ≤ c && c ≤ 'F')

def hexValue (cs : List Char) : Nat :=
  cs.foldl (fun n c =>
    16 * n + if c.isDigit then c.toNat - 48 else (c.toLower.toNat - 97) + 10) 0

def hexDigits : Nat → Nat → List Char
  | 0, _ => []
  | width + 1, n => hexDigits width (n / 16) ++ [Nat.digitChar (n % 16)]

def charOf (n : Nat) : Char :=
  if n != 0 && n.isValidChar then Char.ofNat n else '\uFFFD'

end LinkPreview.Text
