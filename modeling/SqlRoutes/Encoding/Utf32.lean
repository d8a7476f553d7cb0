import SqlRoutes.Encoding.Utf16

namespace SqlRoutes.Encoding.Utf32

open Utf16 (Order)

def label : Order → String
  | .little => "utf-32-le"
  | .big => "utf-32-be"

def code (order : Order) (a b c d : UInt8) : Nat :=
  match order with
  | .little => ((d.toNat * 256 + c.toNat) * 256 + b.toNat) * 256 + a.toNat
  | .big => ((a.toNat * 256 + b.toNat) * 256 + c.toNat) * 256 + d.toNat

/-- Reads all bytes, of which the first stands at `position`. -/
def decodeFrom (order : Order) (position : Nat) : List UInt8 → Except Fault (List Char)
  | a :: b :: c :: d :: rest =>
    let code := code order a b c d
    if Utf16.isHigh code || Utf16.isLow code then
      .error ⟨label order, a, position, position + 4, .surrogateCode⟩
    else if 0x10ffff < code then .error ⟨label order, a, position, position + 4, .wideCode⟩
    else (decodeFrom order (position + 4) rest).map (Char.ofNat code :: ·)
  | [] => .ok []
  | a :: rest => .error ⟨label order, a, position, position + 1 + rest.length, .truncated⟩

end SqlRoutes.Encoding.Utf32
