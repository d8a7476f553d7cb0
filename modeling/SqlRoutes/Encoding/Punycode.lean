import SqlRoutes.Encoding.Fault

/-!
Texts in the characters of host names: the plain characters of a text stand before the last hyphen,
and what follows says in letters and digits which other characters are inserted among them, and
where.
-/
namespace SqlRoutes.Encoding.Punycode

inductive Error where
  | fault (e : Fault)
  | incomplete
  | noDigit (c : Char)
  | tooHigh (code : Nat)
  deriving DecidableEq, Repr

def Error.message : Error → String
  | .fault e => e.message
  | .incomplete => "incomplete punicode string"
  | .noDigit c => s!"Invalid extended code point '{c}'"
  | .tooHigh code => s!"Invalid character U+{String.ofList (Nat.toDigits 16 code)}"

def digit? (c : Char) : Option Nat :=
  if 'A' ≤ c && c ≤ 'Z' then some (c.toNat - 'A'.toNat)
  else if '0' ≤ c && c ≤ '9' then some (c.toNat - '0'.toNat + 26)
  else none

/-- The digit at a place from which on another one follows. -/
def threshold (place bias : Nat) : Nat := max 1 (min 26 (36 * (place + 1) - bias))

/-- A number with the least digit first, and what follows it. -/
def number (bias : Nat) : (place weight value : Nat) → List Char → Except Error (Nat × List Char)
  | _, _, _, [] => .error .incomplete
  | place, weight, value, c :: rest =>
    match digit? c with
    | none => .error (.noDigit c)
    | some digit =>
      let value := value + digit * weight
      let t := threshold place bias
      if digit < t then .ok (value, rest)
      else number bias (place + 1) (weight * (36 - t)) value rest

/-- How often a number is divided until it is small, thirty-six times, and what is left. -/
def divided (delta divisions : Nat) : Nat × Nat :=
  if 455 < delta then divided (delta / 35) (divisions + 36) else (delta, divisions)
termination_by delta

def adapt (delta : Nat) (isFirst : Bool) (length : Nat) : Nat :=
  let delta := if isFirst then delta / 700 else delta / 2
  let (delta, divisions) := divided (delta + delta / length) 0
  divisions + 36 * delta / (delta + 38)

/-- Inserts code points until nothing is left to be read. -/
def insertFrom (isFirst : Bool) (code position bias : Nat) (text : List Nat) :
    Nat → List Char → Except Error (List Nat)
  | 0, _ => .ok text
  | _, [] => .ok text
  | bound + 1, rest => do
    let (delta, rest) ← number bias 0 1 0 rest
    let size := text.length + 1
    let position := position + delta
    let code := code + position / size
    if 0x10ffff < code then throw (.tooHigh code)
    let position := position % size
    let text := text.take position ++ code :: text.drop position
    insertFrom false code (position + 1) (adapt delta isFirst text.length) text bound rest

/-- Plain characters, with the place in their part of the first byte that is none. -/
def plain : Nat → List UInt8 → Except Error (List Char)
  | _, [] => .ok []
  | position, b :: rest =>
    if b.toNat < 0x80 then (plain (position + 1) rest).map (Char.ofNat b.toNat :: ·)
    else .error (.fault ⟨"ascii", b, position, position + 1, .outOfRange⟩)

def codes (bytes : List UInt8) : Except Error (List Nat) := do
  let tail := (bytes.reverse.takeWhile (· ≠ 0x2d)).reverse
  let base ← plain 0 (bytes.take (bytes.length - tail.length - 1))
  let rest := (← plain 0 tail).map Char.toUpper
  insertFrom true 0x80 0 72 (base.map Char.toNat) rest.length rest

def letter (digit : Nat) : Char := Char.ofNat (if digit < 26 then 'a'.toNat + digit else 22 + digit)

def numeral (bias place n : Nat) : List Char :=
  let t := threshold place bias
  if n < t then [letter n]
  else letter (t + (n - t) % (36 - t)) :: numeral bias (place + 1) ((n - t) / (36 - t))
termination_by n
decreasing_by
  have : 1 ≤ threshold place bias := Nat.le_max_left ..
  have := Nat.div_le_self (n - threshold place bias) (36 - threshold place bias)
  omega

/-- What has been written of the inserted characters: how many characters there are so far, and the
steps from the last inserted one. -/
structure Progress where
  delta : Nat
  bias : Nat
  size : Nat
  isFirst : Bool
  digits : List Char

/-- Passes a character of the text while those with one code point are inserted. -/
def Progress.pass (code : Nat) (progress : Progress) (c : Char) : Progress :=
  if c.toNat < code then { progress with delta := progress.delta + 1 }
  else if c.toNat = code then
    { delta := 0
      bias := adapt progress.delta progress.isFirst (progress.size + 1)
      size := progress.size + 1
      isFirst := false
      digits := progress.digits ++ numeral progress.bias 0 progress.delta }
  else progress

def encodeFrom (text : List Char) (code : Nat) (progress : Progress) : List Nat → List Char
  | [] => progress.digits
  | next :: later =>
    let progress :=
      { progress with delta := progress.delta + (next - code) * (progress.size + 1) }
    let progress := text.foldl (Progress.pass next) progress
    encodeFrom text (next + 1) { progress with delta := progress.delta + 1 } later

/-- The plain characters of a text, a hyphen if there are any, and how the others are inserted. -/
def encode (text : List Char) : List Char :=
  let base := text.filter (·.toNat < 0x80)
  let others := ((text.filter (0x80 ≤ ·.toNat)).map Char.toNat).mergeSort.eraseDups
  (if base.isEmpty then [] else base ++ ['-']) ++
    encodeFrom text 0x80 ⟨0, 72, base.length, true, []⟩ others

end SqlRoutes.Encoding.Punycode
