import SqlRoutes.Encoding.Base64
import SqlRoutes.Encoding.Utf8
import SqlRoutes.Value.Basic

namespace SqlRoutes

namespace Json

/-- A value of the kind `kind` that has no JSON text, for something in it has no text. -/
structure Unwritable where
  kind : String
  deriving DecidableEq, Repr

def Unwritable.message (e : Unwritable) : String := s!"Unable to encode {e.kind} to JSON"

def escaped (c : Char) : List Char :=
  if c = '"' || c = '\\' then ['\\', c]
  else if c = '\n' then ['\\', 'n']
  else if c = '\r' then ['\\', 'r']
  else if c = '\t' then ['\\', 't']
  else if c = '\x08' then ['\\', 'b']
  else if c = '\x0c' then ['\\', 'f']
  else if c.toNat < 0x20 then '\\' :: 'u' :: Text.hexDigits 4 c.toNat
  else [c]

def quoted (text : List Char) : List Char := '"' :: text.flatMap escaped ++ ['"']

def isFinite (x : Float) : Bool := !x.isNaN && !x.isInf

/-- The text of an atom. A number that is not finite is null. -/
def atomText : Atom → List Char
  | .null => ['n', 'u', 'l', 'l']
  | .bool b => if b then ['t', 'r', 'u', 'e'] else ['f', 'a', 'l', 's', 'e']
  | .int i => (toString i).toList
  | .float x => if isFinite x then Decimal.interchange.finite x else ['n', 'u', 'l', 'l']
  | .bytes content => quoted (Base64.encode content)
  | atom => quoted atom.display.toList

/-- The name that an entry has in an object. A number that is not finite has a name of its own. -/
def name? : Value → Option (List Char)
  | .float x => some (if isFinite x then Decimal.interchange.finite x else Decimal.text x)
  | .bytes content => some (Base64.encode content)
  | .foreign none => none
  | key => some key.display.toList

def enclosed (left right : Char) (parts : List (List Char)) : List Char :=
  left :: [','].intercalate parts ++ [right]

mutual

/-- The JSON text of a value. Members of a set are in the order of their texts. -/
def text? : Value → Option (List Char)
  | .atom a => some (atomText a)
  | .list items => (texts? items).map (enclosed '[' ']')
  | .tuple items => (texts? items).map (enclosed '[' ']')
  | .set items =>
    (texts? items).map fun texts =>
      let shown := (items.map Value.display).zip texts
      enclosed '[' ']' ((shown.mergeSort fun a b => a.1 ≤ b.1).map (·.2))
  | .map entries => (entryTexts? entries).map (enclosed '\x7b' '\x7d')
  | .foreign shown => shown.map fun s => quoted s.toList

def texts? : List Value → Option (List (List Char))
  | [] => some []
  | item :: items => do
    let text ← text? item
    let texts ← texts? items
    return text :: texts

def entryTexts? : List (Value × Value) → Option (List (List Char))
  | [] => some []
  | (key, value) :: entries => do
    let name ← name? key
    let text ← text? value
    let texts ← entryTexts? entries
    return (quoted name ++ ':' :: text) :: texts

end

def write (value : Value) : Except Unwritable (List Char) :=
  match text? value with
  | some text => .ok text
  | none => .error ⟨value.kindName⟩

def writeBytes (value : Value) : Except Unwritable (List UInt8) :=
  (write value).map Encoding.Utf8.encode

end Json

end SqlRoutes
