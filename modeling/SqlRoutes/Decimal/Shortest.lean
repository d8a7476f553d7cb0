/-!
Binary floating-point numbers as exact fractions, and the shortest decimal that reads back as a
given one. A positive number is `m * 2 ^ q`; the decimals that read back as it fill the interval
between the midpoints to its neighbours, ends included when `m` is even.
-/
namespace SqlRoutes.Decimal

/-- A finite number's parts: `m * 2 ^ q` with a sign. -/
structure Binary where
  negative : Bool
  m : Nat
  q : Int
  deriving DecidableEq, Repr

def Binary.ofFloat (x : Float) : Binary :=
  let bits : Nat := x.toBits.toNat
  let fraction : Nat := bits % Nat.pow 2 52
  let exponent : Nat := bits / Nat.pow 2 52 % Nat.pow 2 11
  let negative := Nat.pow 2 63 ≤ bits
  if exponent = 0 then ⟨negative, fraction, -1074⟩
  else ⟨negative, Nat.pow 2 52 + fraction, (exponent : Int) - 1075⟩

/-- `digits * 10 ^ exponent`. -/
structure Scientific where
  digits : Nat
  exponent : Int
  deriving DecidableEq, Repr

def power (base : Nat) (exponent : Int) : Nat := Nat.pow base exponent.toNat

/-- Compares `a * 10 ^ p` with `b * 2 ^ q`. -/
def compareScaled (a : Nat) (p : Int) (b : Nat) (q : Int) : Ordering :=
  compare (a * power 10 p * power 2 (-q)) (b * power 2 q * power 10 (-p))

/-- Four times the ends of the interval that reads back as `m * 2 ^ q`. The lower neighbour of a
power of two is half as far away as the upper one. -/
def interval (m : Nat) (q : Int) : Nat × Nat :=
  (if m = Nat.pow 2 52 && q != -1074 then 4 * m - 1 else 4 * m - 2, 4 * m + 2)

def readsBack (m : Nat) (q : Int) (d : Scientific) : Bool :=
  let (low, high) := interval m q
  let above := compareScaled d.digits d.exponent low (q - 2)
  let below := compareScaled d.digits d.exponent high (q - 2)
  if m % 2 = 0 then above != .lt && below != .gt else above == .gt && below == .lt

/-- The greatest multiple of `10 ^ p` that is not above `m * 2 ^ q`, in units of `10 ^ p`. -/
def floorTo (m : Nat) (q p : Int) : Nat :=
  m * power 2 q * power 10 (-p) / (power 2 (-q) * power 10 p)

/-- Whether `m * 2 ^ q` is beyond the middle between `n * 10 ^ p` and the next multiple. -/
def pastMiddle (m : Nat) (q : Int) (n : Nat) (p : Int) : Bool :=
  match compareScaled (2 * n + 1) p (2 * m) q with
  | .lt => true
  | .eq => n % 2 = 1
  | .gt => false

/-- The nearest multiple of `10 ^ p` that reads back. -/
def onGrid? (m : Nat) (q p : Int) : Option Scientific :=
  let n := floorTo m q p
  let low := readsBack m q ⟨n, p⟩
  let high := readsBack m q ⟨n + 1, p⟩
  if low && (!high || !pastMiddle m q n p) then some ⟨n, p⟩
  else if high then some ⟨n + 1, p⟩
  else none

/-- Number of decimal places before the point; not positive below one tenth. -/
def magnitude (m : Nat) (q : Int) : Int :=
  let whole := floorTo m q 0
  if whole ≠ 0 then (Nat.toDigits 10 whole).length
  else
    match (List.range 330).find? fun places : Nat => floorTo m q (-((places : Int) + 1)) ≠ 0 with
    | some places => -(places : Int)
    | none => 0

def Scientific.trim (d : Scientific) : Scientific :=
  (List.range 20).foldl (fun d _ =>
    if d.digits ≠ 0 && d.digits % 10 = 0 then ⟨d.digits / 10, d.exponent + 1⟩ else d) d

/-- The fewest digits that read back as `m * 2 ^ q`, and of those the nearest. -/
def shortest (m : Nat) (q : Int) : Scientific :=
  if m = 0 then ⟨0, 0⟩
  else
    let places := magnitude m q
    match (List.range 17).findSome? fun count : Nat => onGrid? m q (places - (count : Int) - 1) with
    | some d => d.trim
    | none => ⟨floorTo m q (places - 17), places - 17⟩

end SqlRoutes.Decimal
