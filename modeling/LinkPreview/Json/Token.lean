import LinkPreview.Text.Digit
import LinkPreview.Text.Hex

set_option autoImplicit false

namespace LinkPreview.Json
open Text

structure Numeral where
  negative : Bool
  whole : List Char
  fraction : Option (List Char)
  exponent : Option (Bool × List Char)
  deriving DecidableEq, Repr

inductive Token where
  | openList
  | closeList
  | openRecord
  | closeRecord
  | comma
  | colon
  | text (content : String)
  | numeral (n : Numeral)
  | word (name : String)
  | invalid
  deriving DecidableEq, Repr

def isSpace (c : Char) : Bool := c == ' ' || c == '\t' || c == '\n' || c == '\r'

def escapes : List (Char × Nat) := [
  ('\x22', 0x22), ('\\', 0x5C), ('/', 0x2F), ('b', 8), ('f', 12), ('n', 10), ('r', 13), ('t', 9)]

def readText : List Char → Option (List Nat × List Char)
  | [] => none
  | '\x22' :: cs => some ([], cs)
  | '\\' :: 'u' :: a :: b :: c :: d :: cs =>
    if [a, b, c, d].all isHexDigit then
      (readText cs).map fun (units, rest) => (hexValue [a, b, c, d] :: units, rest)
    else none
  | '\\' :: c :: cs =>
    match escapes.lookup c with
    | none => none
    | some unit => (readText cs).map fun (units, rest) => (unit :: units, rest)
  | c :: cs =>
    if c.toNat < 32 || c = '\\' then none
    else (readText cs).map fun (units, rest) => (c.toNat :: units, rest)

theorem length_readText {cs rest : List Char} {units : List Nat}
    (h : readText cs = some (units, rest)) : rest.length ≤ cs.length := by
  fun_induction readText cs generalizing units rest with
  | case1 => cases h
  | case2 cs => cases h; simp
  | case3 a b c d cs _ ih =>
    obtain ⟨⟨us, r⟩, h₁, h₂⟩ := Option.map_eq_some_iff.1 h
    cases h₂
    have := ih h₁
    simp only [List.length_cons]
    omega
  | case4 => cases h
  | case5 => cases h
  | case6 =>
    rename_i ih
    obtain ⟨⟨us, r⟩, h₁, h₂⟩ := Option.map_eq_some_iff.1 h
    cases h₂
    have := ih h₁
    simp only [List.length_cons]
    omega
  | case7 => cases h
  | case8 =>
    rename_i ih
    obtain ⟨⟨us, r⟩, h₁, h₂⟩ := Option.map_eq_some_iff.1 h
    cases h₂
    have := ih h₁
    simp only [List.length_cons]
    omega

/-- Half of a surrogate pair on its own, which a strict reader refuses, becomes the replacement
character. -/
def scalar (n : Nat) : Char := if n.isValidChar then Char.ofNat n else '\uFFFD'

def joinUnits : List Nat → List Char
  | [] => []
  | [unit] => [scalar unit]
  | high :: low :: more =>
    if 0xD800 ≤ high && high < 0xDC00 && 0xDC00 ≤ low && low < 0xE000 then
      scalar (0x10000 + (high - 0xD800) * 0x400 + (low - 0xDC00)) :: joinUnits more
    else scalar high :: joinUnits (low :: more)

def digits (cs : List Char) : List Char := cs.takeWhile Char.isDigit

/-- The digits before the point: no zero comes first but in zero itself. -/
def readWhole (cs : List Char) : List Char :=
  match cs with
  | '0' :: _ => ['0']
  | cs => digits cs

def readFraction : List Char → Option (List Char) × Nat
  | '.' :: cs =>
    let ds := digits cs
    if ds.isEmpty then (none, 0) else (some ds, ds.length + 1)
  | _ => (none, 0)

def readSign : List Char → Bool × Nat
  | '-' :: _ => (true, 1)
  | '+' :: _ => (false, 1)
  | _ => (false, 0)

def readExponent : List Char → Option (Bool × List Char) × Nat
  | [] => (none, 0)
  | c :: cs =>
    let (negative, sign) := readSign cs
    let ds := digits (cs.drop sign)
    if (c == 'e' || c == 'E') && !ds.isEmpty then (some (negative, ds), 1 + sign + ds.length)
    else (none, 0)

def readNumeral (cs : List Char) : Option (Numeral × Nat) :=
  let negative := cs.head? == some '-'
  let sign := if negative then 1 else 0
  let whole := readWhole (cs.drop sign)
  let fraction := readFraction (cs.drop (sign + whole.length))
  let exponent := readExponent (cs.drop (sign + whole.length + fraction.2))
  if whole.isEmpty then none
  else some (⟨negative, whole, fraction.1, exponent.1⟩,
    sign + whole.length + fraction.2 + exponent.2)

def wordNames : List String := ["null", "true", "false", "NaN", "Infinity", "-Infinity"]

def readOther (cs : List Char) : Token × Nat :=
  match wordNames.find? fun name => name.toList.isPrefixOf cs with
  | some name => (.word name, name.length)
  | none =>
    match readNumeral cs with
    | some (n, taken) => (.numeral n, taken)
    | none => (.invalid, cs.length)

def readQuoted (cs : List Char) : Token × List Char :=
  match readText cs with
  | some (units, rest) => (.text (String.ofList (joinUnits units)), rest)
  | none => (.invalid, [])

def readToken (c : Char) (cs : List Char) : Token × List Char :=
  match c with
  | '[' => (.openList, cs)
  | ']' => (.closeList, cs)
  | '\x7b' => (.openRecord, cs)
  | '\x7d' => (.closeRecord, cs)
  | ',' => (.comma, cs)
  | ':' => (.colon, cs)
  | '\x22' => readQuoted cs
  | c => let other := readOther (c :: cs); (other.1, cs.drop (other.2 - 1))

theorem length_readQuoted (cs : List Char) : (readQuoted cs).2.length ≤ cs.length := by
  unfold readQuoted
  split
  · next heq => exact length_readText heq
  · simp

theorem length_readToken (c : Char) (cs : List Char) : (readToken c cs).2.length ≤ cs.length := by
  unfold readToken
  split
  all_goals first | exact Nat.le_refl _ | exact length_readQuoted cs | simp

def tokens (cs : List Char) : List Token :=
  match cs with
  | [] => []
  | c :: cs =>
    if isSpace c then tokens cs
    else
      let unit := readToken c cs
      unit.1 :: tokens unit.2
termination_by cs.length
decreasing_by
  · simp
  · exact Nat.lt_succ_of_le (length_readToken c cs)

end LinkPreview.Json
