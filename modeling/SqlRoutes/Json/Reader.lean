import SqlRoutes.Decimal.Notation
import SqlRoutes.Encoding.Utf16
import SqlRoutes.Encoding.Utf8
import SqlRoutes.Value.Basic

namespace SqlRoutes.Json

open Encoding.Utf8 (Piece pieces)

/-- Why a document cannot be read: it breaks the grammar, or the bytes of a string are no text. -/
inductive Unreadable where
  | malformed
  | text (fault : Encoding.Fault)
  deriving DecidableEq, Repr

def Unreadable.message : Unreadable → String
  | .malformed => "Invalid JSON document"
  | .text fault => fault.message

def isSpace (piece : Piece) : Bool :=
  piece = .char ' ' || piece = .char '\t' || piece = .char '\n' || piece = .char '\r'

def skipSpace (input : List Piece) : List Piece := input.dropWhile isSpace

/-- The content of a string, escapes and all, up to its closing quote, and what follows. -/
def closing : List Piece → Option (List Piece × List Piece)
  | [] => none
  | .char '"' :: rest => some ([], rest)
  | .char '\\' :: c :: rest =>
    (closing rest).map fun parts => (.char '\\' :: c :: parts.1, parts.2)
  | c :: rest => (closing rest).map fun parts => (c :: parts.1, parts.2)

def hexValue? (c : Char) : Option Nat :=
  let n := c.toNat
  if '0' ≤ c && c ≤ '9' then some (n - '0'.toNat)
  else if 'a' ≤ c && c ≤ 'f' then some (n - 'a'.toNat + 10)
  else if 'A' ≤ c && c ≤ 'F' then some (n - 'A'.toNat + 10)
  else none

def unit? (digits : List Char) : Option Nat :=
  digits.foldlM (fun value c => (hexValue? c).map (value * 16 + ·)) 0

def unescaped? : Char → Option Char
  | '"' => some '"'
  | '\\' => some '\\'
  | '/' => some '/'
  | 'b' => some '\x08'
  | 'f' => some '\x0c'
  | 'n' => some '\n'
  | 'r' => some '\r'
  | 't' => some '\t'
  | _ => none

def isControl : Piece → Bool
  | .char c => c.toNat < 0x20
  | .stray _ => false

/-- Undoes escapes. After the first half `high` of a surrogate pair the second one has to come; no
half stands alone. -/
def unescape? (high : Option Nat) : List Piece → Option (List Piece)
  | [] => if high.isNone then some [] else none
  | .char '\\' :: .char 'u' :: .char a :: .char b :: .char c :: .char d :: rest => do
    let unit ← unit? [a, b, c, d]
    match high with
    | some first =>
      if Encoding.Utf16.isLow unit then
        (unescape? none rest).map (.char (Encoding.Utf16.join first unit) :: ·)
      else none
    | none =>
      if Encoding.Utf16.isHigh unit then unescape? (some unit) rest
      else if Encoding.Utf16.isLow unit then none
      else (unescape? none rest).map (.char (Char.ofNat unit) :: ·)
  | .char '\\' :: .char c :: rest =>
    if high.isSome then none
    else do
      let c ← unescaped? c
      (unescape? none rest).map (.char c :: ·)
  | c :: rest =>
    if high.isSome || isControl c || c = .char '\\' then none
    else (unescape? none rest).map (c :: ·)

/-- The text of a string after its opening quote, and what follows the closing one. -/
def string (input : List Piece) : Except Unreadable (String × List Piece) :=
  match closing input with
  | none => .error .malformed
  | some (content, rest) =>
    match unescape? none content with
    | none => .error .malformed
    | some content =>
      match Encoding.Utf8.decode (content.flatMap Piece.bytes) with
      | .ok text => .ok (.ofList text, rest)
      | .error fault => .error (.text fault)

def numberChar? : Piece → Option Char
  | .char c =>
    if c.isDigit || c = '-' || c = '+' || c = '.' || c = 'e' || c = 'E' then some c else none
  | .stray _ => none

def takeNumber : List Piece → List Char × List Piece
  | [] => ([], [])
  | piece :: rest =>
    match numberChar? piece with
    | some c => (c :: (takeNumber rest).1, (takeNumber rest).2)
    | none => ([], piece :: rest)

def wholeValue (digits : List Char) : Nat :=
  digits.foldl (fun value c => value * 10 + (c.toNat - '0'.toNat)) 0

/-- The size of an exponent. Once it is ten thousand or more, further digits do not count. -/
def exponentSize (digits : List Char) : Nat :=
  digits.foldl (fun size c =>
    if size < 10000 then size * 10 + (c.toNat - '0'.toNat) else size) 0

/-- A sign and digits after an exponent mark, or nothing. -/
def exponent? : List Char → Option Int
  | [] => some 0
  | mark :: rest =>
    let (negative, digits) := Decimal.takeSign rest
    if (mark = 'e' || mark = 'E') && !digits.isEmpty && digits.all Char.isDigit then
      some (if negative then -(exponentSize digits : Int) else exponentSize digits)
    else none

/-- A number that goes on after its whole digits: with a point and digits, an exponent, or both. -/
def fraction? (whole rest : List Char) : Option Decimal.Scientific :=
  match rest with
  | '.' :: rest =>
    let part := rest.takeWhile Char.isDigit
    if part.isEmpty then none
    else
      (exponent? (rest.dropWhile Char.isDigit)).map fun e =>
        ⟨wholeValue (whole ++ part), e - part.length⟩
  | rest => (exponent? rest).map fun e => ⟨wholeValue whole, e⟩

def longestWhole : Nat := 4300

/-- The value of a number, if its text is one: digits without a zero in front, then perhaps a
fraction. Numbers with a fraction have to be finite. -/
def numberValue? (text : List Char) : Option Value :=
  let (negative, body) :=
    match text with
    | '-' :: rest => (true, rest)
    | text => (false, text)
  let whole := body.takeWhile Char.isDigit
  let rest := body.dropWhile Char.isDigit
  if whole.isEmpty || (whole.head? = some '0' && whole ≠ ['0']) then none
  else if rest.isEmpty then
    if longestWhole < text.length then none
    else
      let value : Int := wholeValue whole
      some (.int (if negative then -value else value))
  else
    (fraction? whole rest).bind fun d =>
      let x := d.toFloat negative
      if x.isInf then none else some (.float x)

def word? (word : List Char) (value : Value) (input : List Piece) : Option (Value × List Piece) :=
  if input.take word.length = word.map Piece.char then some (value, input.drop word.length)
  else none

def plain? (input : List Piece) : Option (Value × List Piece) :=
  match word? ['n', 'u', 'l', 'l'] .null input with
  | some found => some found
  | none =>
    match word? ['t', 'r', 'u', 'e'] (.bool true) input with
    | some found => some found
    | none =>
      match word? ['f', 'a', 'l', 's', 'e'] (.bool false) input with
      | some found => some found
      | none => (numberValue? (takeNumber input).1).map (·, (takeNumber input).2)

mutual

/-- A value and what follows it. Every step inwards and every further item takes one unit of
`fuel`. -/
def value (fuel : Nat) (input : List Piece) : Except Unreadable (Value × List Piece) :=
  match fuel with
  | 0 => .error .malformed
  | fuel + 1 =>
    match skipSpace input with
    | .char '"' :: rest => do
      let (text, rest) ← string rest
      return (.text text, rest)
    | .char '[' :: rest =>
      match skipSpace rest with
      | .char ']' :: rest => .ok (.list [], rest)
      | rest => do
        let (items, rest) ← items fuel rest
        return (.list items, rest)
    | .char '\x7b' :: rest =>
      match skipSpace rest with
      | .char '\x7d' :: rest => .ok (.map [], rest)
      | rest => do
        let (entries, rest) ← entries fuel [] rest
        return (.map entries, rest)
    | input =>
      match plain? input with
      | some found => .ok found
      | none => .error .malformed

def items (fuel : Nat) (input : List Piece) : Except Unreadable (List Value × List Piece) :=
  match fuel with
  | 0 => .error .malformed
  | fuel + 1 => do
    let (item, rest) ← value fuel input
    match skipSpace rest with
    | .char ',' :: rest => do
      let (items, rest) ← items fuel rest
      return (item :: items, rest)
    | .char ']' :: rest => return ([item], rest)
    | _ => .error .malformed

/-- The entries of an object up to its end, at least one, after those that are done. -/
def entries (fuel : Nat) (done : List (Value × Value)) (input : List Piece) :
    Except Unreadable (List (Value × Value) × List Piece) :=
  match fuel with
  | 0 => .error .malformed
  | fuel + 1 =>
    match skipSpace input with
    | .char '"' :: rest => do
      let (name, rest) ← string rest
      match skipSpace rest with
      | .char ':' :: rest => do
        let (item, rest) ← value fuel rest
        let done := Value.insertEntry done (.text name) item
        match skipSpace rest with
        | .char ',' :: rest => entries fuel done rest
        | .char '\x7d' :: rest => return (done, rest)
        | _ => .error .malformed
      | _ => .error .malformed
    | _ => .error .malformed

end

def read (input : List Piece) : Except Unreadable Value := do
  let (value, rest) ← value (2 * input.length + 2) input
  if (skipSpace rest).isEmpty then return value else throw .malformed

def readText (text : List Char) : Except Unreadable Value := read (text.map .char)

def readBytes (bytes : List UInt8) : Except Unreadable Value := read (pieces bytes)

end SqlRoutes.Json
