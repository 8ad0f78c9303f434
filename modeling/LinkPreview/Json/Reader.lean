import LinkPreview.Fault
import LinkPreview.Json.Token
import LinkPreview.Value

/-! Values read from JSON text. Besides the standard it takes `NaN` and the two infinities. A
number with a point or an exponent is a decimal fraction. -/
set_option autoImplicit false

namespace LinkPreview.Json
open Text

inductive Flaw where
  | malformed
  /-- A whole number of more digits than are read. -/
  | longNumeral (digits : Nat)
  deriving DecidableEq, Repr

/-- Numbers of more digits before the point than this are infinite, and those with as many zeros
after it are zero. -/
def magnitudeLimit : Nat := 330

def signed (negative : Bool) (n : Nat) : Int := if negative then -(n : Int) else n

def ofDigits (negative : Bool) (ds : List Char) (whole : Int) : Number :=
  let significant := ds.dropWhile (· == '0')
  let whole := whole - (ds.length - significant.length)
  let n := digitsValue significant
  if n = 0 then .decimal 0 1
  else if magnitudeLimit < whole then .infinite negative
  else if whole < -magnitudeLimit then .decimal 0 1
  else
    let places : Int := significant.length - whole
    if places < 0 then .decimal (signed negative (n * Number.tenTo places.natAbs)) 0
    else .decimal (signed negative n) places.toNat

def Numeral.value (n : Numeral) : Except Flaw Number :=
  match n.fraction, n.exponent with
  | none, none =>
    if digitLimit < n.whole.length then .error (.longNumeral n.whole.length)
    else .ok (.whole (signed n.negative (digitsValue n.whole)))
  | fraction, exponent =>
    let shift : Int := match exponent with
      | none => 0
      | some (negative, ds) => signed negative (digitsValue ds)
    .ok (ofDigits n.negative (n.whole ++ fraction.getD []) (n.whole.length + shift))

def valueOfWord (name : String) : Value :=
  match name with
  | "true" => .bool true
  | "false" => .bool false
  | "NaN" => .number .nan
  | "Infinity" => .number (.infinite false)
  | "-Infinity" => .number (.infinite true)
  | _ => .null

/-- A list or record under way. The items of a list are in reverse order; in a record `key` is the
name of the field that is read. -/
inductive Frame where
  | list (items : List Value)
  | record (fields : Fields) (key : String)

inductive Next where
  | value
  | valueOrEnd
  | key
  | keyOrEnd
  | colon
  | commaOrEnd
  | nothing (result : Value)

structure State where
  frames : List Frame
  next : Next

namespace State

def start : State := ⟨[], .value⟩

def complete (v : Value) : List Frame → State
  | [] => ⟨[], .nothing v⟩
  | .list items :: frames => ⟨.list (v :: items) :: frames, .commaOrEnd⟩
  | .record fields key :: frames => ⟨.record (fields.put key v) key :: frames, .commaOrEnd⟩

def readValue (frames : List Frame) : Token → Except Flaw State
  | .openList => .ok ⟨.list [] :: frames, .valueOrEnd⟩
  | .openRecord => .ok ⟨.record [] "" :: frames, .keyOrEnd⟩
  | .text content => .ok (complete (.text content) frames)
  | .word name => .ok (complete (valueOfWord name) frames)
  | .numeral n => do return complete (.number (← n.value)) frames
  | _ => .error .malformed

def step (s : State) (t : Token) : Except Flaw State :=
  match s.next, t, s.frames with
  | .valueOrEnd, .closeList, .list items :: frames
  | .commaOrEnd, .closeList, .list items :: frames =>
    .ok (complete (.list items.reverse) frames)
  | .keyOrEnd, .closeRecord, .record fields _ :: frames
  | .commaOrEnd, .closeRecord, .record fields _ :: frames =>
    .ok (complete (.record fields) frames)
  | .value, t, frames | .valueOrEnd, t, frames => readValue frames t
  | .key, .text key, .record fields _ :: frames
  | .keyOrEnd, .text key, .record fields _ :: frames => .ok ⟨.record fields key :: frames, .colon⟩
  | .colon, .colon, frames => .ok ⟨frames, .value⟩
  | .commaOrEnd, .comma, .list items :: frames => .ok ⟨.list items :: frames, .value⟩
  | .commaOrEnd, .comma, .record fields key :: frames => .ok ⟨.record fields key :: frames, .key⟩
  | _, _, _ => .error .malformed

end State

/-- Of fields with one name in a record, the last counts. A byte order mark in front is no part of
the text. -/
def read (text : String) : Except Flaw Value := do
  let cs := match text.toList with
    | '\uFEFF' :: cs => cs
    | cs => cs
  match (← (tokens cs).foldlM State.step State.start).next with
  | .nothing result => return result
  | _ => throw .malformed

end LinkPreview.Json
