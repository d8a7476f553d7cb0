import SqlRoutes.Value.Scalar

namespace SqlRoutes.Yaml

inductive Cause where
  | characterNotAllowed
  | characterStartsNothing
  | entryNotAllowed
  | keyNotAllowed
  | valueNotAllowed
  | colonExpected
  | unclosedQuote
  | separatorInQuote
  | unknownEscape
  | invalidEscape
  | invalidDirective
  | invalidVersion
  | duplicateDirective
  | invalidAnchor
  | invalidTag
  | undefinedHandle
  | invalidBlockHeader
  | documentStartExpected
  | contentExpected
  | blockEndExpected
  | separatorExpected
  | undefinedAlias
  | duplicateAnchor
  | secondDocument
  | wrongNode
  | unknownTag
  | keyNotHashable
  | invalidMerge
  | invalidBinary
  deriving DecidableEq, Repr

/-- How reading a document fails: a problem on a line, counted from one where it is known, or a
scalar that is no value of its type, or an escape for half of a surrogate pair, which is no
character here. -/
inductive Failure where
  | problem (cause : Cause) (line : Option Nat)
  | scalar (e : Scalar.Invalid)
  | surrogate
  deriving DecidableEq, Repr

/-- The characters that are left, and the place of the first of them, counted from zero. -/
structure Cursor where
  rest : List Char
  index : Nat
  line : Nat
  column : Nat
  deriving Repr

def isBreak (c : Char) : Bool :=
  c = '\n' || c = '\r' || c = '\u0085' || c = '\u2028' || c = '\u2029'

def isHex (c : Char) : Bool :=
  c.isDigit || ('a' ≤ c && c ≤ 'f') || ('A' ≤ c && c ≤ 'F')

def endsLine : Option Char → Bool
  | none => true
  | some c => isBreak c

def endsWord : Option Char → Bool
  | none => true
  | some c => c = ' ' || isBreak c

def endsToken : Option Char → Bool
  | none => true
  | some c => c = ' ' || c = '\t' || isBreak c

namespace Cursor

/-- Past one character. A carriage return before a line feed ends no line, and a byte-order mark
takes no column. -/
def next (cursor : Cursor) : Cursor :=
  match cursor.rest with
  | [] => cursor
  | c :: rest =>
    if isBreak c && !(c = '\r' && rest.head? = some '\n') then
      ⟨rest, cursor.index + 1, cursor.line + 1, 0⟩
    else
      ⟨rest, cursor.index + 1, cursor.line,
        if c = '\ufeff' then cursor.column else cursor.column + 1⟩

def skip : Nat → Cursor → Cursor
  | 0, cursor => cursor
  | count + 1, cursor => skip count cursor.next

def atSeparator (cursor : Cursor) : Bool :=
  match cursor.rest with
  | '-' :: '-' :: '-' :: rest => endsToken rest.head?
  | '.' :: '.' :: '.' :: rest => endsToken rest.head?
  | _ => false

end Cursor

/-- Scanning moves the cursor or fails. A scan with a loop has a bound on its rounds, which is more
than the number of characters left. -/
abbrev Scan := StateT Cursor (Except Failure)

namespace Scan

def fail {α : Type} (cause : Cause) : Scan α := do
  throw (.problem cause (some ((← get).line + 1)))

def peek (ahead : Nat) : Scan (Option Char) := return (← get).rest[ahead]?

def skip (count : Nat) : Scan Unit := modify (Cursor.skip count)

def takeWhile (p : Char → Bool) : Scan (List Char) := do
  let text := (← get).rest.takeWhile p
  skip text.length
  return text

/-- Steps over a break, which counts as a line feed unless it is a separator character. -/
def lineBreak : Scan (List Char) := do
  match (← get).rest with
  | '\r' :: '\n' :: _ =>
    skip 2
    return ['\n']
  | c :: _ =>
    if c = '\n' || c = '\r' || c = '\u0085' then
      skip 1
      return ['\n']
    else if isBreak c then
      skip 1
      return [c]
    else return []
  | [] => return []

end Scan

def allowed (c : Char) : Bool :=
  let n := c.toNat
  n = 0x09 || n = 0x0a || n = 0x0d || (0x20 ≤ n && n ≤ 0x7e) || n = 0x85 ||
  (0xa0 ≤ n && n ≤ 0xd7ff) || (0xe000 ≤ n && n ≤ 0xfffd) || 0x10000 ≤ n

end SqlRoutes.Yaml
