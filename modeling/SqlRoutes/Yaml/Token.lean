import SqlRoutes.Encoding.Utf8
import SqlRoutes.Yaml.Cursor

namespace SqlRoutes.Yaml

inductive Directive where
  | version (major : Nat)
  | tag (handle start : List Char)
  | other
  deriving DecidableEq, Repr

inductive Token.Kind where
  | streamStart
  | streamEnd
  | directive (directive : Directive)
  | documentStart
  | documentEnd
  | blockSequenceStart
  | blockMappingStart
  | blockEnd
  | flowSequenceStart
  | flowSequenceEnd
  | flowMappingStart
  | flowMappingEnd
  | blockEntry
  | flowEntry
  | key
  | value
  | alias (name : List Char)
  | anchor (name : List Char)
  | tag (handle : Option (List Char)) (suffix : List Char)
  | scalar (text : List Char) (plain : Bool)
  deriving DecidableEq, Repr

structure Token where
  kind : Token.Kind
  line : Nat
  deriving DecidableEq, Repr

namespace Name

open Scan

def isNameChar (c : Char) : Bool := c.isAlphanum || c = '-' || c = '_'

def anchor : Scan (List Char) := do
  skip 1
  let name ← takeWhile isNameChar
  if name.isEmpty then fail .invalidAnchor
  let follows : List Char := ['?', ':', ',', ']', '\x7d', '%', '@', '\x60']
  let next ← peek 0
  if !(endsToken next || next.any follows.contains) then fail .invalidAnchor
  return name

def isUriChar (c : Char) : Bool :=
  c.isAlphanum ||
    ['-', ';', '/', '?', ':', '@', '&', '=', '+', '$', ',', '_', '.', '!', '~', '*', '\'', '(',
      ')', '[', ']'].contains c

def hexPair? : List Char → Option Nat
  | a :: b :: _ => if isHex a && isHex b then Scalar.digits? 16 [a, b] else none
  | _ => none

/-- Bytes written as `%` and two hexadecimal digits each. -/
def escapedBytes : Nat → Scan (List UInt8)
  | 0 => return []
  | limit + 1 => do
    if (← peek 0) = some '%' then
      skip 1
      match hexPair? (← get).rest with
      | some n =>
        skip 2
        return UInt8.ofNat n :: (← escapedBytes limit)
      | none => fail .invalidTag
    else return []

/-- Characters of a resource name, escaped ones included. -/
def uriText : Nat → Scan (List Char)
  | 0 => return []
  | limit + 1 => do
    let text ← takeWhile isUriChar
    if (← peek 0) = some '%' then
      let start ← get
      let content ← escapedBytes limit
      match Encoding.Utf8.decode content with
      | .ok escaped => return text ++ escaped ++ (← uriText limit)
      | .error _ => throw (.problem .invalidTag (some (start.line + 1)))
    else return text

def uri (bound : Nat) : Scan (List Char) := do
  let text ← uriText bound
  if text.isEmpty then fail .invalidTag
  return text

/-- A handle: an exclamation mark, or a name between two of them. -/
def handle : Scan (List Char) := do
  match (← get).rest with
  | '!' :: ' ' :: _ =>
    skip 1
    return ['!']
  | '!' :: rest =>
    let name := rest.takeWhile isNameChar
    skip (1 + name.length)
    if (← peek 0) = some '!' then
      skip 1
      return '!' :: name ++ ['!']
    else fail .invalidTag
  | _ => fail .invalidTag

/-- A tag from its exclamation mark on: its handle, if it has one, and the rest. -/
def tag (bound : Nat) : Scan (Option (List Char) × List Char) := do
  let next ← peek 1
  let result ←
    if next = some '<' then do
      skip 2
      let suffix ← uri bound
      if (← peek 0) ≠ some '>' then fail .invalidTag
      skip 1
      pure (none, suffix)
    else if endsToken next then do
      skip 1
      pure (none, ['!'])
    else do
      let word := (← get).rest.tail.takeWhile fun c => !endsWord (some c)
      let named := word.contains '!'
      let handle ← if named then handle else do
        skip 1
        pure ['!']
      pure (some handle, ← uri bound)
  if !endsWord (← peek 0) then fail .invalidTag
  return result

def number : Scan Nat := do
  let digits ← takeWhile Char.isDigit
  if digits.isEmpty then fail .invalidDirective
  match Scalar.overlong? 10 digits with
  | some e => throw (.scalar (.overlong e))
  | none => return (Scalar.digits? 10 digits).getD 0

def skipSpaces : Scan Unit := do
  let _ ← takeWhile (· = ' ')

def directiveValue (name : List Char) (bound : Nat) : Scan Directive := do
  if name = ['Y', 'A', 'M', 'L'] then
    skipSpaces
    let major ← number
    if (← peek 0) ≠ some '.' then fail .invalidDirective
    skip 1
    let _ ← number
    if !endsWord (← peek 0) then fail .invalidDirective
    return .version major
  else if name = ['T', 'A', 'G'] then
    skipSpaces
    let handle ← handle
    if (← peek 0) ≠ some ' ' then fail .invalidDirective
    skipSpaces
    let start ← uri bound
    if !endsWord (← peek 0) then fail .invalidDirective
    return .tag handle start
  else
    let _ ← takeWhile fun c => !isBreak c
    return .other

/-- A directive from its percent sign on, with the end of its line. -/
def directive (bound : Nat) : Scan Directive := do
  skip 1
  let name ← takeWhile isNameChar
  if name.isEmpty || !endsWord (← peek 0) then fail .invalidDirective
  let result ← directiveValue name bound
  skipSpaces
  if (← peek 0) = some '#' then
    let _ ← takeWhile fun c => !isBreak c
  if !endsLine (← peek 0) then fail .invalidDirective
  let _ ← lineBreak
  return result

end Name

end SqlRoutes.Yaml
