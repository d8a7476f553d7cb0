import SqlRoutes.Encoding.Base64
import SqlRoutes.Encoding.Utf16

/-!
The seven-bit transformation format: `+` starts a run of letters that hold sixteen-bit units, six
bits each. A minus sign or any other character ends the run. The text is read as code points, since
surrogates that make no pair are kept.
-/
namespace SqlRoutes.Encoding.Utf7

/-- A run of letters: where it started, the bits that make no unit yet with their number, and the
first half of a pair of units. -/
structure Run where
  start : Nat
  bits : Nat
  count : Nat
  high : Option Nat
  deriving DecidableEq, Repr

def letter? (b : UInt8) : Option Nat :=
  Base64.alphabet.findIdx? (·.toNat = b.toNat)

/-- A unit that is complete: what it adds to the text, and the first half that then waits. -/
def unit (high : Option Nat) (unit : Nat) : List Nat × Option Nat :=
  match high with
  | some first =>
    if Utf16.isLow unit then ([(Utf16.join first unit).toNat], none)
    else if Utf16.isHigh unit then ([first], some unit)
    else ([first, unit], none)
  | none => if Utf16.isHigh unit then ([], some unit) else ([unit], none)

def Run.add (run : Run) (value : Nat) : List Nat × Run :=
  let bits := run.bits * 64 + value
  let count := run.count + 6
  if count < 16 then ([], { run with bits, count })
  else
    let (codes, high) := unit run.high (bits / Nat.pow 2 (count - 16))
    (codes, { run with bits := bits % Nat.pow 2 (count - 16), count := count - 16, high })

/-- What is wrong with a run that ends: half a unit is left, or bits that are not zero. -/
def Run.reason? (run : Run) : Option Reason :=
  if 6 ≤ run.count then some .partialLetter
  else if run.bits ≠ 0 then some .paddingBits
  else none

def isDirect (b : UInt8) : Bool := b.toNat < 0x80 && b.toNat ≠ 0x2b

/-- Reads all bytes, of which the first stands at `position`, inside a run or outside. -/
def decodeFrom (position : Nat) (run : Option Run) : List UInt8 → Except Fault (List Nat)
  | [] =>
    match run with
    | none => .ok []
    | some run =>
      if run.high.isSome || run.reason?.isSome then
        .error ⟨"utf7", 0x2b, run.start, position, .unterminatedRun⟩
      else .ok []
  | b :: rest =>
    let direct : Except Fault (List Nat) :=
      if b.toNat = 0x2b then
        match rest with
        | 0x2d :: rest => (decodeFrom (position + 2) none rest).map (b.toNat :: ·)
        | c :: rest =>
          if (letter? c).isNone then .error ⟨"utf7", b, position, position + 2, .illFormed⟩
          else decodeFrom (position + 1) (some ⟨position, 0, 0, none⟩) (c :: rest)
        | [] => decodeFrom (position + 1) (some ⟨position, 0, 0, none⟩) []
      else if isDirect b then
        (decodeFrom (position + 1) none rest).map (b.toNat :: ·)
      else .error ⟨"utf7", b, position, position + 1, .specialCharacter⟩
    match run with
    | none => direct
    | some run =>
      match letter? b with
      | some value =>
        let (codes, run) := run.add value
        (decodeFrom (position + 1) (some run) rest).map (codes ++ ·)
      | none =>
        match run.reason? with
        | some reason => .error ⟨"utf7", 0x2b, run.start, position + 1, reason⟩
        | none => if b.toNat = 0x2d then decodeFrom (position + 1) none rest else direct

end SqlRoutes.Encoding.Utf7
