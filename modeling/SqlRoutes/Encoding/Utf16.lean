import SqlRoutes.Encoding.Fault

namespace SqlRoutes.Encoding.Utf16

inductive Order where
  | little
  | big
  deriving DecidableEq, Repr

def Order.label : Order → String
  | .little => "utf-16-le"
  | .big => "utf-16-be"

def Order.unit (order : Order) (a b : UInt8) : Nat :=
  match order with
  | .little => b.toNat * 256 + a.toNat
  | .big => a.toNat * 256 + b.toNat

/-- A high surrogate and a low one make one character beyond the first plane. -/
def join (high low : Nat) : Char :=
  Char.ofNat (0x10000 + (high - 0xd800) * 0x400 + (low - 0xdc00))

def isHigh (unit : Nat) : Bool := 0xd800 ≤ unit && unit < 0xdc00

def isLow (unit : Nat) : Bool := 0xdc00 ≤ unit && unit < 0xe000

/-- Reads all bytes, of which the first stands at `position`. -/
def decodeFrom (order : Order) (position : Nat) : List UInt8 → Except Fault (List Char)
  | [] => .ok []
  | [a] => .error ⟨order.label, a, position, position + 1, .truncated⟩
  | a :: b :: rest =>
    let unit := order.unit a b
    if isLow unit then .error ⟨order.label, a, position, position + 2, .illegalEncoding⟩
    else if isHigh unit then
      match rest with
      | c :: d :: rest =>
        let low := order.unit c d
        if isLow low then do
          let text ← decodeFrom order (position + 4) rest
          return join unit low :: text
        else .error ⟨order.label, a, position, position + 2, .illegalSurrogate⟩
      | rest => .error ⟨order.label, a, position, position + 2 + rest.length, .unexpectedEnd⟩
    else do
      let text ← decodeFrom order (position + 2) rest
      return Char.ofNat unit :: text

end SqlRoutes.Encoding.Utf16
