import LinkPreview.Number

/-! Numbers in decimal digits. A number with a point keeps one, so that it can be told from a whole
number. -/
set_option autoImplicit false

namespace LinkPreview.Number

def dropTrailingZeros (digits : List Char) : List Char :=
  (digits.reverse.dropWhile (· == '0')).reverse

def positional (digits : List Char) (whole : Int) : List Char :=
  if whole ≤ 0 then '0' :: '.' :: List.replicate (-whole).toNat '0' ++ digits
  else
    let n := whole.toNat
    let fraction := digits.drop n
    digits.take n ++ List.replicate (n - digits.length) '0' ++ '.' ::
      (if fraction.isEmpty then ['0'] else fraction)

def exponentDigits (n : Nat) : List Char := (if n < 10 then ['0'] else []) ++ Nat.toDigits 10 n

def scientific (digits : List Char) (exponent : Int) : List Char :=
  digits.take 1 ++ (if digits.length ≤ 1 then [] else '.' :: digits.drop 1) ++ 'e' ::
    (if exponent < 0 then '-' else '+') :: exponentDigits exponent.natAbs

/-- A fraction is written without a power of ten from a ten-thousandth up to sixteen digits before
the point. -/
def decimalText (mantissa : Int) (places : Nat) : List Char :=
  let written := Nat.toDigits 10 mantissa.natAbs
  let whole : Int := (written.length : Int) - (places : Int)
  let digits := dropTrailingZeros written
  (if mantissa < 0 then ['-'] else []) ++
    if mantissa = 0 then ['0', '.', '0']
    else if -4 < whole && whole ≤ 16 then positional digits whole
    else scientific digits (whole - 1)

def text : Number → String
  | .whole n => toString n
  | .decimal mantissa places => String.ofList (decimalText mantissa places)
  | .nan => "nan"
  | .infinite negative => if negative then "-inf" else "inf"

example : (decimal 15 1).text = "1.5" := by decide
example : (decimal 20 1).text = "2.0" := by decide
example : (decimal 5 5).text = "5e-05" := by decide
example : (decimal (-1250) 4).text = "-0.125" := by decide

end LinkPreview.Number
