import SqlRoutes.Decimal.Nearest
import SqlRoutes.Text.Blank
import SqlRoutes.Text.Digit

namespace SqlRoutes.Decimal

/-- How a number is laid out: leading places from `lowest` up to below `highest` are written with a
point and no exponent; other exponents have a sign if `plus`, and at least `width` digits. -/
structure Layout where
  lowest : Int
  highest : Int
  plus : Bool
  width : Nat

/-- `digits` with the point after `places` of them, zeros filled in on either side. -/
def positional (digits : List Char) (places : Int) : List Char :=
  if places ≤ 0 then '0' :: '.' :: List.replicate (-places).toNat '0' ++ digits
  else
    let whole := places.toNat
    if digits.length ≤ whole then
      digits ++ List.replicate (whole - digits.length) '0' ++ ['.', '0']
    else digits.take whole ++ '.' :: digits.drop whole

def Layout.exponent (layout : Layout) (e : Int) : List Char :=
  let digits := Nat.toDigits 10 e.natAbs
  let sign := if e < 0 then ['-'] else if layout.plus then ['+'] else []
  'e' :: sign ++ List.replicate (layout.width - digits.length) '0' ++ digits

def Layout.finite (layout : Layout) (x : Float) : List Char :=
  let b := Binary.ofFloat x
  let d := shortest b.m b.q
  let digits := Nat.toDigits 10 d.digits
  let e := d.exponent + digits.length - 1
  let body :=
    if b.m = 0 then ['0', '.', '0']
    else if layout.lowest ≤ e && e < layout.highest then positional digits (e + 1)
    else
      let tail := if digits.length ≤ 1 then [] else '.' :: digits.drop 1
      digits.take 1 ++ tail ++ layout.exponent e
  if b.negative then '-' :: body else body

/-- Numbers as texts show them: `1e+16`, `1e-05`. -/
def plain : Layout := ⟨-4, 16, true, 2⟩

/-- Numbers as documents of the interchange format hold them: `1e16`, `1e-6`. -/
def interchange : Layout := ⟨-5, 16, false, 1⟩

/-- The text of a number, the infinite ones and the undefined one included. -/
def text (x : Float) : List Char :=
  if x.isNaN then "nan".toList
  else if x.isInf then (if x < 0 then "-inf" else "inf").toList
  else plain.finite x

/-- The digits at the front as a number, with their count. -/
def takeDigits : List Char → Nat × Nat × List Char
  | text => go 0 0 text
where
  go (value count : Nat) : List Char → Nat × Nat × List Char
    | [] => (value, count, [])
    | c :: rest =>
      match Text.digitValue? c with
      | some d => go (value * 10 + d) (count + 1) rest
      | none => (value, count, c :: rest)

def takeSign : List Char → Bool × List Char
  | '-' :: rest => (true, rest)
  | '+' :: rest => (false, rest)
  | text => (false, text)

/-- An exponent `e…` that takes the whole text, or nothing. -/
def exponent? : List Char → Option Int
  | [] => some 0
  | c :: rest =>
    if c = 'e' || c = 'E' then
      let (negative, rest) := takeSign rest
      match takeDigits rest with
      | (value, _ + 1, []) => some (if negative then -(value : Int) else value)
      | _ => none
    else none

/-- Digits with at most one point, at least one digit, and an optional exponent. -/
def unsigned? (text : List Char) : Option Scientific :=
  let (whole, wholeCount, rest) := takeDigits text
  match rest with
  | '.' :: rest =>
    let (part, partCount, rest) := takeDigits rest
    if wholeCount + partCount = 0 then none
    else (exponent? rest).map fun e => ⟨whole * Nat.pow 10 partCount + part, e - partCount⟩
  | rest => if wholeCount = 0 then none else (exponent? rest).map fun e => ⟨whole, e⟩

def trim (text : List Char) : List Char :=
  ((text.dropWhile Text.isMargin).reverse.dropWhile Text.isMargin).reverse

/-- Reads a number with white space around it, or the name of an infinity or of the undefined
number. -/
def read? (text : List Char) : Option Float :=
  let (negative, body) := takeSign (trim text)
  let name := String.ofList (body.map Char.toLower)
  if name = "inf" || name = "infinity" then some (nearest negative (Nat.pow 2 1024) 1)
  else if name = "nan" then some (0.0 / 0.0)
  else (unsigned? body).map (·.toFloat negative)

end SqlRoutes.Decimal
