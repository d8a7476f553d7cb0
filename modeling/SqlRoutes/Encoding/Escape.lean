import SqlRoutes.Encoding.Fault
import SqlRoutes.Text.Names
import SqlRoutes.Value.Scalar

/-!
Text with escapes, in which every other byte is the character of its number. Characters are written
with hexadecimal digits after `\\u` and `\\U`; unless the text is raw there are further escapes, and
characters may also be named, in braces after `\\N`. The text is read as code points, since a code
may be half of a surrogate pair.
-/
namespace SqlRoutes.Encoding.Escape

def label (raw : Bool) : String := if raw then "rawunicodeescape" else "unicodeescape"

def charOf (b : UInt8) : Char := Char.ofNat b.toNat

def letters : List (Char × List Char) :=
  [('\n', []), ('\\', ['\\']), ('\'', ['\'']), ('"', ['"']), ('b', ['\x08']), ('f', ['\x0c']),
   ('t', ['\t']), ('n', ['\n']), ('r', ['\r']), ('v', ['\x0b']), ('a', ['\x07'])]

def hexLength? (raw : Bool) (c : Char) : Option Nat :=
  if c = 'u' then some 4
  else if c = 'U' then some 8
  else if c = 'x' && !raw then some 2
  else none

def octal (bytes : List UInt8) : List Char :=
  ((bytes.take 3).map charOf).takeWhile fun c => (Scalar.digit? 8 c).isSome && c.toNat < 0x80

/-- The character that is named after `\\N`, with the number of bytes after the backslash; or the
number of bytes up to the fault. -/
def readName : List UInt8 → Except (Nat × Reason) (List Nat × Nat)
  | [] => .error (1, .malformedName)
  | b :: rest =>
    let name := (rest.map charOf).takeWhile (· ≠ '}')
    if charOf b ≠ '{' then .error (1, .malformedName)
    else if name.isEmpty || name.length = rest.length then
      .error (2 + name.length, .malformedName)
    else
      match Text.Names.find? name with
      | some c => .ok ([c.toNat], 3 + name.length)
      | none => .error (3 + name.length, .unknownName)

/-- What an escape stands for, with the number of bytes after the backslash; or the number of bytes
up to the fault. -/
def read (raw : Bool) (rest : List UInt8) : Except (Nat × Reason) (List Nat × Nat) :=
  let codes (text : List Char) := text.map Char.toNat
  match rest with
  | [] => if raw then .ok (codes ['\\'], 0) else .error (0, .finalBackslash)
  | b :: rest =>
    let c := charOf b
    match hexLength? raw c with
    | some length =>
      let digits := ((rest.take length).map charOf).takeWhile fun c =>
        c.toNat < 0x80 && (Scalar.digit? 16 c).isSome
      if digits.length < length then .error (1 + digits.length, .truncatedEscape c length)
      else
        let code := (Scalar.digits? 16 digits).getD 0
        if 0x10ffff < code then .error (1 + length, if raw then .wideEscape else .illegalCharacter)
        else .ok ([code], 1 + length)
    | none =>
      if raw then .ok (codes ['\\', c], 1)
      else if c = 'N' then readName rest
      else
        match letters.lookup c, octal (b :: rest) with
        | some text, _ => .ok (codes text, 1)
        | none, [] => .ok (codes ['\\', c], 1)
        | none, digits => .ok ([(Scalar.digits? 8 digits).getD 0], digits.length)

/-- Reads all bytes, of which the first stands at `position`. -/
def decodeFrom (raw : Bool) (position : Nat) : List UInt8 → Except Fault (List Nat)
  | [] => .ok []
  | b :: rest =>
    if charOf b = '\\' then
      match read raw rest with
      | .ok (codes, length) =>
        (decodeFrom raw (position + 1 + length) (rest.drop length)).map (codes ++ ·)
      | .error (length, reason) =>
        .error ⟨label raw, b, position, position + 1 + length, reason⟩
    else (decodeFrom raw (position + 1) rest).map (b.toNat :: ·)
termination_by bytes => bytes.length

end SqlRoutes.Encoding.Escape
