import SqlRoutes.Decimal.Shortest

namespace SqlRoutes.Decimal

/-- `num / den` to the nearest whole number, halves to the even one. -/
def roundHalfEven (num den : Nat) : Nat :=
  let n := num / den
  let twice := 2 * (num % den)
  if twice < den || (twice = den && n % 2 = 0) then n else n + 1

/-- The bits of the number nearest to `num / den`. Exponent and significand are added, so a
significand that rounds up to the next power of two moves on to the next exponent by itself. -/
def nearestBits (num den : Nat) : Nat :=
  if num = 0 then 0
  else
    let guess : Int := (num.log2 : Int) - den.log2 - 52
    let scaled (e : Int) := (num * power 2 (-e), den * power 2 e)
    let fits (e : Int) := Nat.pow 2 52 * (scaled e).2 ≤ (scaled e).1
    let exponent := max (if fits guess then guess else guess - 1) (-1074)
    let m := roundHalfEven (scaled exponent).1 (scaled exponent).2
    min ((exponent + 1074).toNat * Nat.pow 2 52 + m) (2047 * Nat.pow 2 52)

def nearest (negative : Bool) (num den : Nat) : Float :=
  Float.ofBits (UInt64.ofNat (nearestBits num den + if negative then Nat.pow 2 63 else 0))

/-- The number nearest to a decimal. Exponents far outside the range are cut before any power is
computed. -/
def Scientific.toFloat (negative : Bool) (d : Scientific) : Float :=
  let size := (Nat.toDigits 10 d.digits).length
  if d.digits = 0 || d.exponent + size < -400 then nearest negative 0 1
  else if 400 < d.exponent + size then nearest negative (Nat.pow 2 1024) 1
  else nearest negative (d.digits * power 10 d.exponent) (power 10 (-d.exponent))

end SqlRoutes.Decimal
