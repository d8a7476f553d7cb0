import SqlRoutes.Yaml.Cursor

namespace SqlRoutes.Yaml.Block

open Scan

inductive Chomping where
  | clip
  | strip
  | keep
  deriving DecidableEq, Repr

def chomping? : Option Char → Option Chomping
  | some '+' => some .keep
  | some '-' => some .strip
  | _ => none

def increment? : Scan (Option Nat) := do
  match ← peek 0 with
  | some c =>
    if c = '0' then fail .invalidBlockHeader
    else if c.isDigit then
      skip 1
      return some (c.toNat - '0'.toNat)
    else return none
  | none => return none

def indicators : Scan (Chomping × Option Nat) := do
  match chomping? (← peek 0) with
  | some chomping =>
    skip 1
    return (chomping, ← increment?)
  | none =>
    let increment ← increment?
    match increment, chomping? (← peek 0) with
    | some _, some chomping =>
      skip 1
      return (chomping, increment)
    | _, _ => return (.clip, increment)

def header : Scan (Chomping × Option Nat) := do
  let result ← indicators
  if !endsWord (← peek 0) then fail .invalidBlockHeader
  let _ ← takeWhile (· = ' ')
  if (← peek 0) = some '#' then
    let _ ← takeWhile fun c => !isBreak c
  if !endsLine (← peek 0) then fail .invalidBlockHeader
  let _ ← lineBreak
  return result

/-- Breaks before the first line of text, and the greatest indentation among them. -/
def leading (deepest : Nat) : Nat → Scan (List Char × Nat)
  | 0 => return ([], deepest)
  | bound + 1 => do
    let _ ← takeWhile (· = ' ')
    let deepest := max deepest (← get).column
    let first ← lineBreak
    if first.isEmpty then return ([], deepest)
    else
      let (more, deepest) ← leading deepest bound
      return (first ++ more, deepest)

def indentTo (column : Nat) : Scan Unit := do
  let cursor ← get
  skip ((cursor.rest.take (column - cursor.column)).takeWhile (· = ' ')).length

def breaks (column : Nat) : Nat → Scan (List Char)
  | 0 => return []
  | bound + 1 => do
    indentTo column
    let first ← lineBreak
    if first.isEmpty then return []
    else return first ++ (← breaks column bound)

/-- Lines of text from here on, after `pending` breaks: the text, the break after its last line and
the breaks after that. -/
def lines (folded : Bool) (column : Nat) (pending : List Char) :
    Nat → Scan (List Char × List Char × List Char)
  | 0 => return ([], [], pending)
  | limit + 1 => do
    let cursor ← get
    if cursor.column ≠ column || cursor.rest.isEmpty then return ([], [], pending)
    else
      let indented (c? : Option Char) : Bool := c? = some ' ' || c? = some '\t'
      let startsFlush := !indented cursor.rest.head?
      let text ← takeWhile fun c => !isBreak c
      let first ← lineBreak
      let after ← breaks column limit
      let cursor ← get
      if cursor.column = column && !cursor.rest.isEmpty then
        let joint :=
          if folded && first = ['\n'] && startsFlush && !indented cursor.rest.head? then
            if after.isEmpty then [' '] else []
          else first
        let (more, last, trailing) ← lines folded column after limit
        return (pending ++ text ++ joint ++ more, last, trailing)
      else return (pending ++ text, first, after)

/-- A scalar from its mark on; `indent` is the column of the collection it stands in. -/
def scalar (folded : Bool) (indent : Int) (bound : Nat) : Scan (List Char) := do
  skip 1
  let (chomping, increment) ← header
  let least := (max (indent + 1) 1).toNat
  let (pending, column) ←
    match increment with
    | none => do
      let (pending, deepest) ← leading 0 bound
      pure (pending, max least deepest)
    | some increment => do
      let column := least + increment - 1
      pure (← breaks column bound, column)
  let (text, last, trailing) ← lines folded column pending bound
  match chomping with
  | .strip => return text
  | .clip => return text ++ last
  | .keep => return text ++ last ++ trailing

end SqlRoutes.Yaml.Block
