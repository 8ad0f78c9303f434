import LinkPreview.Markup.ReferenceTable
import LinkPreview.Text.Blank
import LinkPreview.Text.Digit
import LinkPreview.Text.Hex

/-! Character references in HTML: a character by its number or by a name, between an ampersand and
a semicolon. -/
set_option autoImplicit false

namespace LinkPreview.Markup
open Text

def readEntry (entry : List Char) : List Char × List Char :=
  (before '=' entry, (splitAt '+' (after '=' entry)).map fun digits => charOf (hexValue digits))

def references : List (List Char × List Char) := (words referenceTable.toList).map readEntry

def bareReferences : List (List Char) := words bareReferenceNames.toList

/-- What the numbers from 0x80 to 0x9F stand for; zero where it is the number itself. -/
def legacyCodePoints : List Nat := [
  0x20AC, 0, 0x201A, 0x0192, 0x201E, 0x2026, 0x2020, 0x2021, 0x02C6, 0x2030, 0x0160, 0x2039,
  0x0152, 0, 0x017D, 0, 0, 0x2018, 0x2019, 0x201C, 0x201D, 0x2022, 0x2013, 0x2014, 0x02DC,
  0x2122, 0x0161, 0x203A, 0x0153, 0, 0x017E, 0x0178]

def numbered (n : Nat) : Char :=
  if 0x80 ≤ n && n ≤ 0x9F then
    let other := legacyCodePoints.getD (n - 0x80) 0
    charOf (if other = 0 then n else other)
  else charOf n

def readNumber (mark : Nat) (isDigit : Char → Bool) (value : List Char → Nat) (cs : List Char) :
    Option (List Char × Nat) :=
  let digits := cs.takeWhile isDigit
  let closed := (cs.drop digits.length).head? == some ';'
  if digits.isEmpty then none
  else some ([numbered (value digits)], mark + digits.length + if closed then 1 else 0)

def bareName? (cs : List Char) : Option (List Char) :=
  (bareReferences.filter (·.isPrefixOf cs)).foldl (fun best name =>
    match best with
    | none => some name
    | some b => some (if b.length < name.length then name else b)) none

/-- In an attribute, a name without a semicolon is no reference if the text goes on like a name or
a query. -/
def readName (inAttribute : Bool) (cs : List Char) : Option (List Char × Nat) :=
  let run := cs.takeWhile Char.isAlphanum
  let whole := if (cs.drop run.length).head? = some ';' then references.lookup run else none
  match whole with
  | some found => some (found, run.length + 1)
  | none =>
    match bareName? run with
    | none => none
    | some name =>
      let next := (cs.drop name.length).head?
      if inAttribute && next.any fun c => c.isAlphanum || c == '=' then none
      else (references.lookup name).map fun found => (found, name.length)

def readReference (inAttribute : Bool) : List Char → Option (List Char × Nat)
  | '#' :: 'x' :: cs | '#' :: 'X' :: cs => readNumber 2 isHexDigit hexValue cs
  | '#' :: cs => readNumber 1 Char.isDigit digitsValue cs
  | cs => readName inAttribute cs

/-- Puts characters in the place of references, where the first `taken` characters belong to a
reference that is done. -/
def decodeAfter (inAttribute : Bool) : Nat → List Char → List Char
  | _, [] => []
  | taken + 1, _ :: cs => decodeAfter inAttribute taken cs
  | 0, c :: cs =>
    if c = '&' then
      match readReference inAttribute cs with
      | some (found, taken) => found ++ decodeAfter inAttribute taken cs
      | none => '&' :: decodeAfter inAttribute 0 cs
    else c :: decodeAfter inAttribute 0 cs

def decode (inAttribute : Bool) (cs : List Char) : List Char := decodeAfter inAttribute 0 cs

end LinkPreview.Markup
