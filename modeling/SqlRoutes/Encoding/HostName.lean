import SqlRoutes.Encoding.HostName.Table
import SqlRoutes.Encoding.Punycode
import SqlRoutes.Text.Case
import SqlRoutes.Text.Normal
import SqlRoutes.Value.Atom

/-!
Host names: labels between points. Those that begin with `xn--` stand for labels with other
characters, and have to be what these are written as.
-/
namespace SqlRoutes.Encoding.HostName

inductive Error where
  | fault (e : Fault)
  | unreadable (e : Punycode.Error)
  | length
  | refused (code : Nat)
  | bothDirections
  | leftwardInside
  | announced
  | otherForm (label written : List UInt8)
  deriving DecidableEq, Repr

def Error.message : Error → String
  | .fault e => e.message
  | .unreadable e => s!"decoding with 'punycode' codec failed (UnicodeError: {e.message})"
  | .length => "label empty or too long"
  | .refused code =>
    let character :=
      if code.isValidChar then (String.singleton (Char.ofNat code)).quoted
      else String.ofList ("'\\u".toList ++ Text.hexDigits 4 code ++ ['\''])
    s!"Invalid character {character}"
  | .bothDirections => "Violation of BIDI requirement 2"
  | .leftwardInside => "Violation of BIDI requirement 3"
  | .announced => "Label starts with ACE prefix"
  | .otherForm label written =>
    s!"('IDNA does not round-trip', {Atom.bytesText label}, {Atom.bytesText written})"

def within (ranges : List (Nat × Nat)) (n : Nat) : Bool :=
  ranges.any fun (first, last) => first ≤ n && n ≤ last

def small (c : Char) : List Char :=
  (Text.Normal.formOf? folded longFolded c).getD (Text.lowerChar c)

/-- The small form, which is taken once more if there is another one for its normal form. -/
def fold (c : Char) : List Char :=
  let normal := Text.Normal.normal (small c)
  let again := Text.Normal.normal (normal.flatMap small)
  if again = normal then small c else again

/-- Code points that have a character, up to the first that has none. -/
def characters (label : List Nat) : List Char :=
  (label.takeWhile (·.isValidChar)).map Char.ofNat

def prepared (label : List Nat) : Except Error (List Char) := do
  let kept := (characters label).filter fun c => !within silent c.toNat
  let text := Text.Normal.normal (kept.flatMap fold)
  match text.find? fun c => within refused c.toNat, label.find? (!·.isValidChar) with
  | some c, _ => throw (.refused c.toNat)
  | none, some code => throw (.refused code)
  | none, none => pure ()
  let isLeftward (c : Char) := within leftward c.toNat
  if text.any isLeftward then
    if text.any fun c => within rightward c.toNat then throw .bothDirections
    if !(text.head?.any isLeftward && text.getLast?.any isLeftward) then throw .leftwardInside
  return text

def announcement : List Char := ['x', 'n', '-', '-']

/-- A label that is written in plain characters has from one to sixty-three of them. -/
def ofLength (label : List Char) : Except Error (List Char) :=
  if 0 < label.length && label.length < 64 then .ok label else .error .length

def written (label : List Nat) : Except Error (List Char) := do
  if label.all (· < 0x80) then ofLength (characters label)
  else
    let text ← prepared label
    if text.all (·.toNat < 0x80) then ofLength text
    else if announcement.isPrefixOf text then throw .announced
    else ofLength (announcement ++ Punycode.encode text)

def plainBytes (text : List Char) : List UInt8 := text.map (·.toNat.toUInt8)

def decodeLabel (label : List Char) : Except Error (List Char) := do
  if announcement.isPrefixOf label then
    let codes ← (Punycode.codes (plainBytes (label.drop announcement.length))).mapError .unreadable
    let form ← written codes
    if label.map Char.toLower ≠ form then
      throw (.otherForm (plainBytes label) (plainBytes form))
    return characters codes
  else return label

def decode (bytes : List UInt8) : Except Error (List Char) := do
  let text ← (Punycode.plain 0 bytes).mapError fun
    | .fault e => .fault e
    | e => .unreadable e
  return ['.'].intercalate (← (text.splitOn '.').mapM decodeLabel)

end SqlRoutes.Encoding.HostName
