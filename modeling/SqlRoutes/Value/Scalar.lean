import SqlRoutes.Text.Case
import SqlRoutes.Value.Atom

namespace SqlRoutes.Scalar

inductive Invalid where
  | whole (base : Nat) (text : String)
  | number (text : String)
  | empty
  | truth (text : String)
  | timestamp
  | year (year : Nat)
  | month
  | day
  | hour
  | minute
  | second
  | offset (seconds : Int)
  | codePoint
  | wideCodePoint
  | overlong (e : Overlong)
  | wideBase
  | notText
  | endless
  deriving DecidableEq, Repr

def Invalid.message : Invalid → String
  | .whole base text =>
    let shown := String.ofList ((Text.quoted text.toList).take 200)
    s!"invalid literal for int() with base {base}: {shown}"
  | .number text => s!"could not convert string to float: {text.quoted}"
  | .empty => "string index out of range"
  | .truth text => text
  | .timestamp => "'NoneType' object has no attribute 'groupdict'"
  | .year n => s!"year {n} is out of range"
  | .month => "month must be in 1..12"
  | .day => "day is out of range for month"
  | .hour => "hour must be in 0..23"
  | .minute => "minute must be in 0..59"
  | .second => "second must be in 0..59"
  | .offset seconds =>
    "offset must be a timedelta strictly between -timedelta(hours=24) and " ++
      s!"timedelta(hours=24), not {Moment.spanDescribed seconds}."
  | .codePoint => "chr() arg not in range(0x110000)"
  | .wideCodePoint => "Python int too large to convert to C int"
  | .overlong e => e.message
  | .wideBase => "int too large to convert to float"
  | .notText => "expected string or bytes-like object, got 'list'"
  | .endless => "maximum recursion depth exceeded"

/-- The value of a character as a digit: decimal digits of any script, and Latin letters. -/
def digit? (base : Nat) (c : Char) : Option Nat :=
  let value :=
    if 'a' ≤ c && c ≤ 'z' then some (c.toNat - 'a'.toNat + 10)
    else if 'A' ≤ c && c ≤ 'Z' then some (c.toNat - 'A'.toNat + 10)
    else Text.digitValue? c
  value.filter (· < base)

def digits? (base : Nat) (text : List Char) : Option Nat :=
  if text.isEmpty then none
  else text.foldlM (fun value c => (digit? base c).map (value * base + ·)) 0

/-- A mark such as `0x` that repeats the base. -/
def dropMark (base : Nat) (text : List Char) : List Char :=
  let mark := if base = 16 then 'x' else if base = 8 then 'o' else if base = 2 then 'b' else '0'
  match text with
  | '0' :: c :: rest => if mark ≠ '0' && c.toLower = mark then rest else text
  | text => text

/-- How many digits a text has in front, if those of a decimal number are too many. -/
def overlong? (base : Nat) (text : List Char) : Option Overlong :=
  let count := (text.takeWhile fun c => (digit? base c).isSome).length
  if base = 10 && digitLimit < count then some ⟨some count⟩ else none

/-- A whole number with a sign, and white space around it. -/
def whole (base : Nat) (text : List Char) : Except Invalid Int :=
  let (negative, body) := Decimal.takeSign (Decimal.trim text)
  match overlong? base body, digits? base (dropMark base body) with
  | some e, _ => .error (.overlong e)
  | none, some value => .ok (if negative then -(value : Int) else value)
  | none, none => .error (.whole base (.ofList text))

def parts (text : List Char) : List (List Char) :=
  text.foldr (fun c parts =>
    if c = ':' then [] :: parts
    else
      match parts with
      | [] => [[c]]
      | part :: parts => (c :: part) :: parts) [[]]

/-- A whole number as documents write it: binary, octal and hexadecimal by their marks, and base
sixty with colons. Underscores are ignored. -/
def int (text : List Char) : Except Invalid Int := do
  let text := text.filter (· ≠ '_')
  if text.isEmpty then throw .empty
  let (negative, text) := Decimal.takeSign text
  let signed (value : Int) : Int := if negative then -value else value
  match text with
  | [] => throw .empty
  | ['0'] => return 0
  | '0' :: 'b' :: rest => return signed (← whole 2 rest)
  | '0' :: 'x' :: rest => return signed (← whole 16 rest)
  | '0' :: _ => return signed (← whole 8 text)
  | text =>
    if text.contains ':' then
      let places ← (parts text).mapM (whole 10)
      return signed (places.foldl (fun value place => value * 60 + place) 0)
    else return signed (← whole 10 text)

def number (text : List Char) : Except Invalid Float :=
  match Decimal.read? text with
  | some x => .ok x
  | none => .error (.number (.ofList text))

def namesUndefined (text : List Char) : Bool :=
  let text := Text.lower (text.filter (· ≠ '_'))
  (Decimal.takeSign text).2 = ['.', 'n', 'a', 'n']

/-- The sum of places in base sixty, the last of which counts once. A base that is no number with
a point any more cannot be used. -/
def sexagesimal (sum : Float) (base : Nat) : List Float → Except Invalid Float
  | [] => .ok sum
  | place :: places => do
    let factor := Decimal.nearest false base 1
    if factor.isInf then throw .wideBase
    sexagesimal (sum + place * factor) (base * 60) places

/-- A number with a point as documents write it, in base sixty with colons. -/
def float (text : List Char) : Except Invalid Float := do
  let text := Text.lower (text.filter (· ≠ '_'))
  if text.isEmpty then throw .empty
  let (negative, text) := Decimal.takeSign text
  let signed (x : Float) : Float := if negative then -x else x
  if text = ['.', 'i', 'n', 'f'] then return signed (Decimal.nearest false (Nat.pow 2 1024) 1)
  else if text.contains ':' then
    let places ← (parts text).mapM number
    return signed (← sexagesimal 0.0 1 places.reverse)
  else return signed (← number text)

def truth (text : List Char) : Except Invalid Bool :=
  let word := String.ofList (Text.lower text)
  if ["yes", "true", "on"].contains word then .ok true
  else if ["no", "false", "off"].contains word then .ok false
  else .error (.truth word)

/-- Between `low` and `high` digits, read as a number. -/
def field? (low high : Nat) (text : List Char) : Option (Nat × List Char) :=
  let digits := (text.take high).takeWhile Char.isDigit
  if low ≤ digits.length then
    (digits? 10 digits).map fun value => (value, text.drop digits.length)
  else none

def expect? (mark : Char) : List Char → Option (List Char)
  | [] => none
  | c :: rest => if c = mark then some rest else none

def skipBlanks (text : List Char) : List Char := text.dropWhile fun c => c = ' ' || c = '\t'

structure Stamp where
  year : Nat
  month : Nat
  day : Nat
  clock : Option (Nat × Nat × Nat × Nat × Option Int)
  deriving DecidableEq, Repr

/-- The fraction of a second in millionths; further digits are dropped. -/
def micro (digits : List Char) : Nat :=
  let kept := digits.take 6
  ((digits? 10 kept).getD 0) * Nat.pow 10 (6 - kept.length)

/-- Minutes after a colon that take the whole text; none are needed. -/
def minutes? : List Char → Option Nat
  | [] => some 0
  | text => do
    let (minutes, rest) ← field? 2 2 (← expect? ':' text)
    guard rest.isEmpty
    return minutes

def offset? (text : List Char) : Option (Option Int) :=
  match skipBlanks text with
  | [] => if text.isEmpty then some none else none
  | ['Z'] => some (some 0)
  | sign :: rest => do
    guard (sign = '+' || sign = '-')
    let (hours, rest) ← field? 1 2 rest
    let minutes ← minutes? rest
    let seconds : Int := (hours * 60 + minutes) * 60
    return some (if sign = '-' then -seconds else seconds)

def clock? (text : List Char) : Option (Nat × Nat × Nat × Nat × Option Int) := do
  let (hour, rest) ← field? 1 2 text
  let (minute, rest) ← field? 2 2 (← expect? ':' rest)
  let (second, rest) ← field? 2 2 (← expect? ':' rest)
  let (fraction, rest) :=
    match rest with
    | '.' :: rest => (rest.takeWhile Char.isDigit, rest.dropWhile Char.isDigit)
    | rest => ([], rest)
  let offset ← offset? rest
  return (hour, minute, second, micro fraction, offset)

/-- A text without a line feed at its end, unless it is nothing else. -/
def dropFinalBreak (text : List Char) : List Char :=
  if text.getLast? = some '\n' && text ≠ ['\n'] then text.dropLast else text

def stamp? (text : List Char) : Option Stamp := do
  let (year, rest) ← field? 4 4 text
  let (month, rest) ← field? 1 2 (← expect? '-' rest)
  let (day, rest) ← field? 1 2 (← expect? '-' rest)
  match rest with
  | [] => return ⟨year, month, day, none⟩
  | c :: rest =>
    if c = 'T' || c = 't' then return ⟨year, month, day, some (← clock? rest)⟩
    else
      guard (c = ' ' || c = '\t')
      return ⟨year, month, day, some (← clock? (skipBlanks rest))⟩

def date (year month day : Nat) : Except Invalid Date := do
  if year = 0 then throw (.year year)
  if month < 1 || 12 < month then throw .month
  if day < 1 || monthLength year month < day then throw .day
  return ⟨year, month, day⟩

def timestamp (text : List Char) : Except Invalid Atom := do
  match stamp? (dropFinalBreak text) with
  | none => throw .timestamp
  | some stamp =>
    match stamp.clock with
    | none => return .date (← date stamp.year stamp.month stamp.day)
    | some (hour, minute, second, micro, offset) =>
      match offset with
      | some seconds => if 86400 ≤ seconds.natAbs then throw (.offset seconds)
      | none => pure ()
      let day ← date stamp.year stamp.month stamp.day
      if 23 < hour then throw .hour
      if 59 < minute then throw .minute
      if 59 < second then throw .second
      return .moment ⟨day, hour, minute, second, micro, offset⟩

end SqlRoutes.Scalar
