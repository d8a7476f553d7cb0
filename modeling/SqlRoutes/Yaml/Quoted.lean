import SqlRoutes.Yaml.Cursor

namespace SqlRoutes.Yaml.Quoted

open Scan

def escapes : List (Char × Char) :=
  [('0', '\u0000'), ('a', '\u0007'), ('b', '\u0008'), ('t', '\t'), ('\t', '\t'), ('n', '\n'),
   ('v', '\u000b'), ('f', '\u000c'), ('r', '\r'), ('e', '\u001b'), (' ', ' '), ('"', '"'),
   ('\\', '\\'), ('/', '/'), ('N', '\u0085'), ('_', '\u00a0'), ('L', '\u2028'), ('P', '\u2029')]

def escapeLength? (c : Char) : Option Nat := [('x', 2), ('u', 4), ('U', 8)].lookup c

/-- The breaks of empty lines, up to text. A line that separates documents may not come. -/
def breaks : Nat → Scan (List Char)
  | 0 => return []
  | bound + 1 => do
    if (← get).atSeparator then fail .separatorInQuote
    let _ ← takeWhile fun c => c = ' ' || c = '\t'
    let first ← lineBreak
    if first.isEmpty then return []
    else return first ++ (← breaks bound)

def codePoint (length : Nat) : Scan (List Char) := do
  let digits := (← get).rest.take length
  if digits.length = length && digits.all isHex then
    let code := (Scalar.digits? 16 digits).getD 0
    if 0x7fffffff < code then throw (.scalar .wideCodePoint)
    if 0x10ffff < code then throw (.scalar .codePoint)
    if !code.isValidChar then throw .surrogate
    skip length
    return [Char.ofNat code]
  else fail .invalidEscape

def escape (bound : Nat) : Scan (List Char) := do
  match ← peek 0 with
  | none => fail .unknownEscape
  | some c =>
    match escapes.lookup c, escapeLength? c with
    | some value, _ =>
      skip 1
      return [value]
    | none, some length =>
      skip 1
      codePoint length
    | none, none =>
      if isBreak c then
        let _ ← lineBreak
        breaks bound
      else fail .unknownEscape

def isOrdinary (c : Char) : Bool :=
  !(c = '\'' || c = '"' || c = '\\' || c = ' ' || c = '\t' || isBreak c)

def word (double : Bool) : Nat → Scan (List Char)
  | 0 => return []
  | bound + 1 => do
    let text ← takeWhile isOrdinary
    match (← get).rest with
    | c :: rest =>
      if !double && c = '\'' && rest.head? = some '\'' then
        skip 2
        return text ++ '\'' :: (← word double bound)
      else if (double && c = '\'') || (!double && (c = '"' || c = '\\')) then
        skip 1
        return text ++ c :: (← word double bound)
      else if double && c = '\\' then
        skip 1
        let value ← escape bound
        return text ++ value ++ (← word double bound)
      else return text
    | [] => return text

/-- White space inside quotes: blanks as they are, or folded breaks. -/
def gap (bound : Nat) : Scan (List Char) := do
  let blanks ← takeWhile fun c => c = ' ' || c = '\t'
  match ← peek 0 with
  | none => fail .unclosedQuote
  | some c =>
    if isBreak c then
      let first ← lineBreak
      let more ← breaks bound
      if first ≠ ['\n'] then return first ++ more
      else if more.isEmpty then return [' ']
      else return more
    else return blanks

def words (double : Bool) (quote : Char) : Nat → Scan (List Char)
  | 0 => return []
  | bound + 1 => do
    if (← peek 0) = some quote then return []
    else
      let blanks ← gap bound
      let text ← word double bound
      return blanks ++ text ++ (← words double quote bound)

def scalar (double : Bool) (bound : Nat) : Scan (List Char) := do
  skip 1
  let first ← word double bound
  let more ← words double (if double then '"' else '\'') bound
  skip 1
  return first ++ more

end SqlRoutes.Yaml.Quoted
