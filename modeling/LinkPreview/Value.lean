import LinkPreview.Number
import LinkPreview.Text.Blank

set_option autoImplicit false

namespace LinkPreview

inductive Value where
  | null
  | bool (b : Bool)
  | number (x : Number)
  | text (s : String)
  | list (items : List Value)
  | tuple (items : List Value)
  | record (fields : List (String × Value))
  deriving BEq, Repr

abbrev Fields := List (String × Value)

namespace Fields

def has (fields : Fields) (key : String) : Bool := fields.any (·.1 == key)

def get? (fields : Fields) (key : String) : Option Value := fields.lookup key

def keys (fields : Fields) : List String := fields.map (·.1)

def put (fields : Fields) (key : String) (value : Value) : Fields :=
  if fields.has key then fields.map fun (k, v) => if k == key then (k, value) else (k, v)
  else fields ++ [(key, value)]

end Fields

namespace Value

/-- Nothing to show: no value, a blank text, or a list or tuple without items. -/
def isEmpty : Value → Bool
  | .null => true
  | .text s => Text.isBlankText s
  | .list items | .tuple items => items.isEmpty
  | .bool _ | .number _ | .record _ => false

def isFalsy : Value → Bool
  | .null => true
  | .bool b => !b
  | .number x => x.isZero
  | .text s => s.isEmpty
  | .list items | .tuple items => items.isEmpty
  | .record fields => fields.isEmpty

def ofText? : Option String → Value
  | none => .null
  | some s => .text s

def texts (ss : List String) : Value := .list (ss.map .text)

def number? : Value → Option Number
  | .number x => some x
  | .bool b => some (.whole (if b then 1 else 0))
  | _ => none

mutual

/-- Equality of content: numbers by amount, records without regard to order. -/
def same : Value → Value → Bool
  | .null, .null => true
  | .text s, .text t => s == t
  | .list xs, .list ys => sameItems xs ys
  | .tuple xs, .tuple ys => sameItems xs ys
  | .record xs, .record ys => xs.length == ys.length && sameFields xs ys
  | .bool a, y => y.number?.any (Number.sameAs (.whole (if a then 1 else 0)))
  | .number x, y => y.number?.any (Number.sameAs x)
  | _, _ => false

def sameItems : List Value → List Value → Bool
  | [], [] => true
  | x :: xs, y :: ys => same x y && sameItems xs ys
  | _, _ => false

def sameFields : List (String × Value) → List (String × Value) → Bool
  | [], _ => true
  | (key, x) :: xs, ys => (ys.lookup key).any (same x) && sameFields xs ys

end

def length? : Value → Option Nat
  | .text s => some s.length
  | .list items | .tuple items => some items.length
  | .record fields => some fields.length
  | .null | .bool _ | .number _ => none

mutual

def isKey : Value → Bool
  | .list _ | .record _ => false
  | .tuple items => areKeys items
  | _ => true

def areKeys : List Value → Bool
  | [] => true
  | x :: xs => isKey x && areKeys xs

end

end Value
end LinkPreview
