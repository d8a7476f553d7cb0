import SqlRoutes.Decimal.Notation

/-!
Numbers rounded to a given count of digits: so many after the point, or so many in all with an
exponent. A half goes to the even neighbour of the exact value.
-/
namespace SqlRoutes.Decimal

/-- `m * 2 ^ q * 10 ^ p` to the nearest whole number. -/
def Binary.roundedTo (b : Binary) (p : Int) : Nat :=
  roundHalfEven (b.m * power 2 b.q * power 10 p) (power 2 (-b.q) * power 10 (-p))

/-- Whole digits of `n` with zeros in front, so that there are more than `count` of them. -/
def wholeDigits (count n : Nat) : List Char :=
  let digits := Nat.toDigits 10 n
  List.replicate (count + 1 - digits.length) '0' ++ digits

/-- Digits with a point before the last `places`; without places the point is left out unless it is
to be `kept`. -/
def pointed (kept : Bool) (places : Nat) (digits : List Char) : List Char :=
  let whole := digits.take (digits.length - places)
  let part := digits.drop (digits.length - places)
  if part.isEmpty && !kept then whole else whole ++ '.' :: part

/-- `places` digits after the point. -/
def Binary.fixed (kept : Bool) (places : Nat) (b : Binary) : List Char :=
  pointed kept places (wholeDigits places (b.roundedTo places))

/-- The first `count + 1` digits, and the exponent of the first of them. -/
def Binary.leading (count : Nat) (b : Binary) : List Char × Int :=
  if b.m = 0 then (List.replicate (count + 1) '0', 0)
  else
    let first := magnitude b.m b.q - 1
    let digits := Nat.toDigits 10 (b.roundedTo (count - first))
    if digits.length ≤ count + 1 then (digits, first) else (digits.take (count + 1), first + 1)

def exponentText (e : Int) : List Char := plain.exponent e

/-- One digit before the point, `places` after it, and an exponent. -/
def Binary.scientific (kept : Bool) (places : Nat) (b : Binary) : List Char :=
  let (digits, e) := b.leading places
  pointed kept places digits ++ exponentText e

/-- Zeros at the end of the digits after the point, and a point that is then the last, go. -/
def dropZeros (places : Nat) (digits : List Char) : Nat × List Char :=
  let zeros := min places (digits.reverse.takeWhile (· = '0')).length
  (places - zeros, digits.take (digits.length - zeros))

/-- `count` digits in all, without an exponent if that is short. Unless the point is to be `kept`,
zeros at the end are left out. -/
def Binary.general (kept : Bool) (count : Nat) (b : Binary) : List Char :=
  let count := max count 1
  let (digits, e) := b.leading (count - 1)
  let shortened (places : Nat) (digits : List Char) : List Char :=
    if kept then pointed true places digits
    else pointed false (dropZeros places digits).1 (dropZeros places digits).2
  if -4 ≤ e && e < count then
    let places := (count - 1 - e).toNat
    shortened places (List.replicate (places + 1 - digits.length) '0' ++ digits)
  else shortened (count - 1) digits ++ exponentText e

end SqlRoutes.Decimal
