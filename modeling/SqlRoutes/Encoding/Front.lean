import SqlRoutes.Encoding.Fault

/-!
Reading encodings in which characters take several bytes: what stands at the front of the bytes
says how many of them are read, and in which state the reader goes on.
-/
namespace SqlRoutes.Encoding

inductive Front (σ : Type) where
  | letters (text : List Char) (length : Nat) (state : σ)
  /-- The bytes end too early. -/
  | cut
  /-- So many bytes have no meaning. -/
  | meaningless (length : Nat)

namespace Front

variable {σ : Type}

def ofLetter (state : σ) (length : Nat) (letter? : Option Char) (excess : Nat) : Front σ :=
  match letter? with
  | some c => .letters [c] length state
  | none => .meaningless excess

/-- Reads all bytes, of which the first stands at `position`, with at most `bound` fronts. -/
def decodeFrom (label : String) (front : σ → UInt8 → List UInt8 → Front σ) :
    Nat → Nat → σ → List UInt8 → Except Fault (List Char)
  | 0, _, _, _ => .ok []
  | _, _, _, [] => .ok []
  | bound + 1, position, state, b :: rest =>
    match front state b rest with
    | .letters text length state =>
      (decodeFrom label front bound (position + length) state (rest.drop (length - 1))).map
        (text ++ ·)
    | .cut => .error ⟨label, b, position, position + 1 + rest.length, .cutSequence⟩
    | .meaningless length => .error ⟨label, b, position, position + length, .meaningless⟩

def decode (label : String) (front : σ → UInt8 → List UInt8 → Front σ) (state : σ)
    (bytes : List UInt8) : Except Fault (List Char) :=
  decodeFrom label front bytes.length 0 state bytes

end Front

end SqlRoutes.Encoding
