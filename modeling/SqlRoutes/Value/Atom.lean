import SqlRoutes.Decimal.Notation
import SqlRoutes.Value.Calendar

namespace SqlRoutes

/-- Whole numbers are read from and written with at most this many decimal digits. -/
def digitLimit : Nat := 4300

/-- A whole number of more digits than that. How many is known when it is read. -/
structure Overlong where
  digits : Option Nat
  deriving DecidableEq, Repr

def Overlong.message (e : Overlong) : String :=
  let found := (e.digits.map fun n => s!": value has {n} digits").getD ""
  s!"Exceeds the limit ({digitLimit} digits) for integer string conversion{found}; " ++
    "use sys.set_int_max_str_digits() to increase the limit"

inductive Atom where
  | null
  | bool (b : Bool)
  | int (i : Int)
  | float (x : Float)
  | text (s : String)
  | bytes (content : List UInt8)
  | date (day : Date)
  | moment (time : Moment)
  deriving Inhabited

namespace Atom

def truthy : Atom → Bool
  | .null => false
  | .bool b => b
  | .int i => i ≠ 0
  | .float x => x != 0.0
  | .text s => s ≠ ""
  | .bytes content => !content.isEmpty
  | .date _ | .moment _ => true

def byteEscaped (quote : Char) (b : UInt8) : List Char :=
  let n := b.toNat
  let c := Char.ofNat n
  if c = quote || c = '\\' then ['\\', c]
  else if c = '\n' then ['\\', 'n']
  else if c = '\r' then ['\\', 'r']
  else if c = '\t' then ['\\', 't']
  else if 0x20 ≤ n && n < 0x7f then [c]
  else '\\' :: 'x' :: Text.hexDigits 2 n

def bytesText (content : List UInt8) : String :=
  let quote := Text.quoteFor (content.map fun b => Char.ofNat b.toNat)
  .ofList ('b' :: quote :: content.flatMap (byteEscaped quote) ++ [quote])

/-- The form of an atom inside another value: texts are in quotes. -/
def described : Atom → String
  | .null => "None"
  | .bool b => if b then "True" else "False"
  | .int i => toString i
  | .float x => .ofList (Decimal.text x)
  | .text s => s.quoted
  | .bytes content => bytesText content
  | .date day => day.described
  | .moment time => time.described

def display : Atom → String
  | .text s => s
  | .date day => day.text
  | .moment time => time.text
  | atom => atom.described

def kindName : Atom → String
  | .null => "NoneType"
  | .bool _ => "bool"
  | .int _ => "int"
  | .float _ => "float"
  | .text _ => "str"
  | .bytes _ => "bytes"
  | .date _ => "date"
  | .moment _ => "datetime"

def isOverlong : Atom → Bool
  | .int i => Nat.pow 10 digitLimit ≤ i.natAbs
  | _ => false

/-- A form of an atom, which an overlong number does not have. -/
def bounded (form : Atom → String) (atom : Atom) : Except Overlong String :=
  if atom.isOverlong then .error ⟨none⟩ else .ok (form atom)

/-- What decides whether two atoms are the same key. Numbers of all kinds meet in one form. -/
inductive Key where
  | null
  | whole (i : Int)
  | fraction (bits : UInt64)
  | text (s : String)
  | bytes (content : List UInt8)
  | date (day : Date)
  | wallClock (instant : Int)
  | universal (instant : Int)
  deriving DecidableEq, Repr

/-- The undefined number has no key: it is not even equal to itself. -/
def Key.ofFloat? (x : Float) : Option Key :=
  if x.isNaN then none
  else if x.isInf then some (.fraction x.toBits)
  else
    let b := Decimal.Binary.ofFloat x
    let sign : Int := if b.negative then -1 else 1
    let unit := Decimal.power 2 (-b.q)
    if 0 ≤ b.q then some (.whole (sign * (b.m * Decimal.power 2 b.q : Nat)))
    else if b.m % unit = 0 then some (.whole (sign * (b.m / unit : Nat)))
    else some (.fraction x.toBits)

def key? : Atom → Option Key
  | .null => some .null
  | .bool b => some (.whole (if b then 1 else 0))
  | .int i => some (.whole i)
  | .float x => Key.ofFloat? x
  | .text s => some (.text s)
  | .bytes content => some (.bytes content)
  | .date day => some (.date day)
  | .moment time =>
    some (if time.offset.isSome then .universal time.instant else .wallClock time.instant)

def same : Atom → Atom → Bool
  | .text s, .text t => s = t
  | a, b => a.key?.isSome && a.key? = b.key?

end Atom

end SqlRoutes
