import LinkPreview.Text.Pieces

set_option autoImplicit false

namespace LinkPreview.Text

/-- The characters with the property White_Space, and the four information separators. -/
def isBlank (c : Char) : Bool :=
  let n := c.toNat
  (9 ≤ n && n ≤ 13) || (28 ≤ n && n ≤ 32) || n == 0x85 || n == 0xA0 || n == 0x1680 ||
    (0x2000 ≤ n && n ≤ 0x200A) || n == 0x2028 || n == 0x2029 || n == 0x202F || n == 0x205F ||
    n == 0x3000

def trim (cs : List Char) : List Char :=
  ((cs.dropWhile isBlank).reverse.dropWhile isBlank).reverse

def words (cs : List Char) : List (List Char) := (pieces isBlank cs).filter (!·.isEmpty)

def strip (s : String) : String := String.ofList (trim s.toList)

def isBlankText (s : String) : Bool := (trim s.toList).isEmpty

def wordsOf (s : String) : List String := (words s.toList).map String.ofList

def unwords (ws : List String) : String := String.ofList (join [' '] (ws.map String.toList))

end LinkPreview.Text
