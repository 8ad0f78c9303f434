set_option autoImplicit false

namespace LinkPreview

inductive Number where
  | whole (n : Int)
  | decimal (mantissa : Int) (places : Nat)
  | nan
  | infinite (negative : Bool)
  deriving DecidableEq, Repr

namespace Number

/-- A finite number as a numerator and the number of decimal places. -/
def fraction? : Number → Option (Int × Nat)
  | .whole n => some (n, 0)
  | .decimal mantissa places => some (mantissa, places)
  | .nan | .infinite _ => none

def tenTo (n : Nat) : Nat := Nat.pow 10 n

/-- Strictly greater, with exact comparison of finite numbers. NaN neither exceeds nor is
exceeded. -/
def exceeds (x y : Number) : Bool :=
  match x, y with
  | .nan, _ | _, .nan => false
  | .infinite a, .infinite b => !a && b
  | .infinite a, _ => !a
  | _, .infinite b => b
  | _, _ =>
    match x.fraction?, y.fraction? with
    | some (m, p), some (n, q) => n * tenTo p < m * tenTo q
    | _, _ => false

def sameAs (x y : Number) : Bool :=
  match x, y with
  | .infinite a, .infinite b => a == b
  | _, _ =>
    match x.fraction?, y.fraction? with
    | some (m, p), some (n, q) => m * tenTo q == n * tenTo p
    | _, _ => false

def isZero (x : Number) : Bool := x.sameAs (.whole 0)

def half : Number := .decimal 5 1

def larger (x y : Number) : Number := if y.exceeds x then y else x

@[simp] theorem exceeds_nan (x : Number) : x.exceeds .nan = false := by cases x <;> rfl

@[simp] theorem nan_exceeds (x : Number) : nan.exceeds x = false := by cases x <;> rfl

@[simp] theorem whole_exceeds_whole (m n : Int) :
    (whole m).exceeds (whole n) = decide (n < m) := by simp [exceeds, fraction?, tenTo]

theorem exceeds_self (x : Number) : x.exceeds x = false := by
  cases x <;> simp [exceeds, fraction?]

end Number
end LinkPreview
