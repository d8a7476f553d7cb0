import SqlRoutes.Text.Printable

/-!
Texts in quotes, as messages show them: single quotes unless the text holds a single quote and no
double one; hidden characters as escapes of two, four or eight hexadecimal digits.
-/
namespace SqlRoutes.Text

/-- Lower-case hexadecimal digits of `n`, with zeros in front up to `width`. -/
def hexDigits (width n : Nat) : List Char :=
  let digits := Nat.toDigits 16 n
  List.replicate (width - digits.length) '0' ++ digits

def escaped (quote c : Char) : List Char :=
  if c = quote || c = '\\' then ['\\', c]
  else if c = '\n' then ['\\', 'n']
  else if c = '\r' then ['\\', 'r']
  else if c = '\t' then ['\\', 't']
  else if isPrintable c then [c]
  else if c.toNat < 0x100 then '\\' :: 'x' :: hexDigits 2 c.toNat
  else if c.toNat < 0x10000 then '\\' :: 'u' :: hexDigits 4 c.toNat
  else '\\' :: 'U' :: hexDigits 8 c.toNat

def quoteFor (text : List Char) : Char :=
  if '\'' ∈ text && '"' ∉ text then '"' else '\''

def quoted (text : List Char) : List Char :=
  let quote := quoteFor text
  quote :: text.flatMap (escaped quote) ++ [quote]

end SqlRoutes.Text

def String.quoted (text : String) : String :=
  .ofList (SqlRoutes.Text.quoted text.toList)

namespace SqlRoutes.Text

def quotedList (texts : List String) : String :=
  "[" ++ ", ".intercalate (texts.map String.quoted) ++ "]"

end SqlRoutes.Text
