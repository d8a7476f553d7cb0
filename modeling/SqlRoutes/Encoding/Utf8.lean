import SqlRoutes.Encoding.Fault

/-!
The eight-bit transformation format: reading a character from its lead byte and the tail bytes
after it, strictly (`decode`) or byte by byte past what is no character (`pieces`).
-/
namespace SqlRoutes.Encoding.Utf8

def encode (text : List Char) : List UInt8 := text.flatMap String.utf8EncodeChar

/-- For a lead byte: how many tail bytes follow, and the range of the first of them. -/
def tails? (lead : Nat) : Option (Nat × Nat × Nat) :=
  if lead < 0x80 then some (0, 0x80, 0xbf)
  else if lead < 0xc2 then none
  else if lead < 0xe0 then some (1, 0x80, 0xbf)
  else if lead = 0xe0 then some (2, 0xa0, 0xbf)
  else if lead = 0xed then some (2, 0x80, 0x9f)
  else if lead < 0xf0 then some (2, 0x80, 0xbf)
  else if lead = 0xf0 then some (3, 0x90, 0xbf)
  else if lead < 0xf4 then some (3, 0x80, 0xbf)
  else if lead = 0xf4 then some (3, 0x80, 0x8f)
  else none

/-- Of at most `count` bytes, those in front that are tail bytes, the first one in a range. -/
def goodTails : Nat → Nat → Nat → List UInt8 → List UInt8
  | 0, _, _, _ => []
  | _, _, _, [] => []
  | count + 1, low, high, b :: rest =>
    if low ≤ b.toNat && b.toNat ≤ high then b :: goodTails count 0x80 0xbf rest else []

def assemble (lead : Nat) (tails : List UInt8) : Char :=
  let front :=
    match tails.length with
    | 0 => lead
    | 1 => lead % 0x20
    | 2 => lead % 0x10
    | _ => lead % 0x08
  Char.ofNat (tails.foldl (fun value b => value * 0x40 + b.toNat % 0x40) front)

/-- What is read after a lead byte: a character and the count of its tail bytes, or the count of
bytes that belong to the fault. -/
inductive Reading where
  | char (c : Char) (tails : Nat)
  | fault (length : Nat) (reason : Reason)

def read (lead : UInt8) (rest : List UInt8) : Reading :=
  match tails? lead.toNat with
  | none => .fault 1 .invalidStart
  | some (count, low, high) =>
    let tails := goodTails count low high rest
    if tails.length = count then .char (assemble lead.toNat tails) count
    else if tails.length = rest.length then .fault (tails.length + 1) .unexpectedEnd
    else .fault (tails.length + 1) .invalidContinuation

/-- Reads all bytes, of which the first stands at `position`. -/
def decodeFrom (position : Nat) : List UInt8 → Except Fault (List Char)
  | [] => .ok []
  | lead :: rest =>
    match read lead rest with
    | .char c tails => do
      let text ← decodeFrom (position + 1 + tails) (rest.drop tails)
      return c :: text
    | .fault length reason => .error ⟨"utf-8", lead, position, position + length, reason⟩
termination_by bytes => bytes.length

def decode (bytes : List UInt8) : Except Fault (List Char) := decodeFrom 0 bytes

inductive Piece where
  | char (c : Char)
  | stray (b : UInt8)
  deriving DecidableEq, Repr

def Piece.bytes : Piece → List UInt8
  | .char c => String.utf8EncodeChar c
  | .stray b => [b]

def pieces : List UInt8 → List Piece
  | [] => []
  | lead :: rest =>
    match read lead rest with
    | .char c tails => .char c :: pieces (rest.drop tails)
    | .fault _ _ => .stray lead :: pieces rest
termination_by bytes => bytes.length

end SqlRoutes.Encoding.Utf8
