import SqlRoutes.Yaml.Cursor

namespace SqlRoutes.Yaml.Plain

open Scan

def isFlowMark (c : Char) : Bool := c = ',' || c = '[' || c = ']' || c = '\x7b' || c = '\x7d'

/-- The text up to white space, a colon that makes it a key, or a mark of a flow collection. -/
def chunk (flow : Bool) : List Char → List Char
  | [] => []
  | c :: rest =>
    if endsToken (some c) ||
        (c = ':' && (endsToken rest.head? || (flow && rest.head?.any isFlowMark))) ||
        (flow && (c = '?' || isFlowMark c)) then []
    else c :: chunk flow rest

/-- What ends a gap between chunks: its text, whether a line break was in it, and whether the scalar
ends because a line separates documents. -/
structure Gap where
  text : List Char
  broken : Bool
  separated : Bool

/-- Further breaks and spaces after a break, and whether they lead to a separator. -/
def breaks : Nat → Scan (List Char × Bool)
  | 0 => return ([], false)
  | bound + 1 => do
    let _ ← takeWhile (· = ' ')
    let first ← lineBreak
    if first.isEmpty then return ([], false)
    else if (← get).atSeparator then return (first, true)
    else
      let (more, separated) ← breaks bound
      return (first ++ more, separated)

/-- White space between chunks: spaces as they are, or folded breaks. -/
def gap (bound : Nat) : Scan Gap := do
  let blanks ← takeWhile (· = ' ')
  let first ← lineBreak
  if first.isEmpty then return ⟨blanks, false, false⟩
  else if (← get).atSeparator then return ⟨[], true, true⟩
  else
    let (more, separated) ← breaks bound
    if separated then return ⟨[], true, true⟩
    else if first ≠ ['\n'] then return ⟨first ++ more, true, false⟩
    else if more.isEmpty then return ⟨[' '], true, false⟩
    else return ⟨more, true, false⟩

/-- The chunks of a scalar with the gaps between them, and whether a break came after the last. -/
def chunks (flow : Bool) (indent : Int) (before : List Char) (broken : Bool) :
    Nat → Scan (List Char × Bool)
  | 0 => return ([], broken)
  | bound + 1 => do
    let cursor ← get
    let text := chunk flow cursor.rest
    if cursor.rest.head? = some '#' || text.isEmpty then return ([], broken)
    else
      skip text.length
      let space ← gap bound
      let cursor ← get
      if space.text.isEmpty || cursor.rest.head? = some '#' ||
          (!flow && (cursor.column : Int) < indent) then
        return (before ++ text, space.broken)
      else
        let (more, broken) ← chunks flow indent space.text space.broken bound
        return (before ++ text ++ more, broken)

/-- A scalar, and whether a line break was passed after its last chunk. -/
def scalar (flow : Bool) (indent : Int) (bound : Nat) : Scan (List Char × Bool) :=
  chunks flow indent [] false bound

end SqlRoutes.Yaml.Plain
