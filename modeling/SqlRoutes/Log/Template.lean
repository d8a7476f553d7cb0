import SqlRoutes.Decimal.Places
import SqlRoutes.Value.Basic

/-!
Messages with places for values. A place is written as `%`, perhaps the name of a value in
parentheses, flags, a least width, a point with a count of digits or characters, and a letter that
says what form the value has there; `%%` is a percent sign.
-/
namespace SqlRoutes.Log.Template

inductive Misfit where
  | incomplete
  | incompleteName
  | unknownLetter (letter : Char) (index : Nat)
  | tooWide
  | tooPrecise
  | namesWanted
  | missingName (name : String)
  | tooFew
  | tooMany
  | countWanted
  | outsideWord
  | outsideHalfWord
  | tooManyDigits
  | noSpace
  | wholeWanted (letter : Char) (kind : String)
  | numberWanted (letter : Char) (kind : String)
  | realWanted (kind : String)
  | characterWanted
  | noCharacter
  /-- The character is half of a surrogate pair, which is none here. -/
  | surrogate
  | infinite
  | undefined
  | tooLarge
  | overlong (e : Overlong)
  deriving DecidableEq, Repr

def Misfit.message : Misfit → String
  | .incomplete => "incomplete format"
  | .incompleteName => "incomplete format key"
  | .unknownLetter letter index =>
    let shown := if 31 ≤ letter.toNat && letter.toNat ≤ 126 then letter else '?'
    let code := String.ofList (Nat.toDigits 16 letter.toNat)
    s!"unsupported format character '{shown}' (0x{code}) at index {index}"
  | .tooWide => "width too big"
  | .tooPrecise => "precision too big"
  | .namesWanted => "format requires a mapping"
  | .missingName name => name
  | .tooFew => "not enough arguments for format string"
  | .tooMany => "not all arguments converted during string formatting"
  | .countWanted => "* wants int"
  | .outsideWord => "Python int too large to convert to C ssize_t"
  | .outsideHalfWord => "Python int too large to convert to C int"
  | .tooManyDigits => "precision too large"
  | .noSpace => ""
  | .wholeWanted letter kind => s!"%{letter} format: an integer is required, not {kind}"
  | .numberWanted letter kind => s!"%{letter} format: a real number is required, not {kind}"
  | .realWanted kind => s!"must be real number, not {kind}"
  | .characterWanted => "%c requires int or char"
  | .noCharacter => "%c arg not in range(0x110000)"
  | .surrogate => "surrogate without its other half"
  | .infinite => "cannot convert float infinity to integer"
  | .undefined => "cannot convert float NaN to integer"
  | .tooLarge => "int too large to convert to float"
  | .overlong e => e.message

structure Layout where
  left : Bool := false
  plus : Bool := false
  blank : Bool := false
  marked : Bool := false
  zeros : Bool := false
  width : Nat := 0
  digits : Option Nat := none
  deriving DecidableEq, Repr

/-- The characters that are left, the first of them at `index`; the values that were not used; and
the values by name, if names can be used. -/
structure State where
  rest : List Char
  index : Nat
  values : List Value
  named : Option (List (Value × Value))

abbrev Fill := StateT State (Except Misfit)

namespace Fill

def peek : Fill (Option Char) := return (← get).rest.head?

def skip : Fill Unit :=
  modify fun state => { state with rest := state.rest.tail, index := state.index + 1 }

def nextValue : Fill Value := do
  match (← get).values with
  | [] => throw .tooFew
  | value :: values =>
    modify fun state => { state with values }
    return value

/-- The name in front, with balanced parentheses in it, and what follows its end. -/
def takeName (depth : Nat) : List Char → Option (List Char × List Char)
  | [] => none
  | c :: rest =>
    if c = ')' then
      match depth with
      | 0 => some ([], rest)
      | depth + 1 => (takeName depth rest).map fun parts => (c :: parts.1, parts.2)
    else
      let depth := if c = '(' then depth + 1 else depth
      (takeName depth rest).map fun parts => (c :: parts.1, parts.2)

/-- A named value is the only one that the place can use. -/
def name : Fill Unit := do
  if (← peek) = some '(' then
    let some entries := (← get).named | throw .namesWanted
    skip
    let some (name, rest) := takeName 0 (← get).rest | throw .incompleteName
    let name := String.ofList name
    match entries.find? fun entry => entry.1.same (.text name) with
    | none => throw (.missingName name)
    | some (_, value) =>
      modify fun state => { state with
        rest, index := state.index + (state.rest.length - rest.length), values := [value] }

def flag? (layout : Layout) : Char → Option Layout
  | '-' => some { layout with left := true }
  | '+' => some { layout with plus := true }
  | ' ' => some { layout with blank := true }
  | '#' => some { layout with marked := true }
  | '0' => some { layout with zeros := true }
  | _ => none

def flags (layout : Layout) : Nat → Fill Layout
  | 0 => return layout
  | bound + 1 => do
    match (← peek).bind (flag? layout) with
    | none => return layout
    | some layout =>
      skip
      flags layout bound

def count (limit : Nat) (excess : Misfit) (value : Nat) : Nat → Fill Nat
  | 0 => return value
  | bound + 1 => do
    match (← peek).filter Char.isDigit with
    | none => return value
    | some c =>
      let d := c.toNat - '0'.toNat
      if (limit - d) / 10 < value then throw excess
      skip
      count limit excess (value * 10 + d) bound

/-- A count taken from the values, which has to fit a signed word of so many bits. -/
def countValue (bits : Nat) (excess : Misfit) : Fill Int := do
  match ← nextValue with
  | .int i =>
    let beyond : Int := Nat.pow 2 (bits - 1)
    if -beyond ≤ i && i < beyond then return i else throw excess
  | .bool b => return if b then 1 else 0
  | _ => throw .countWanted

def width (layout : Layout) (bound : Nat) : Fill Layout := do
  if (← peek) = some '*' then
    skip
    let width ← countValue 64 .outsideWord
    let lowest : Int := -Nat.pow 2 63
    return { layout with
      left := layout.left || width < 0, width := if width = lowest then 0 else width.natAbs }
  else return { layout with width := ← count (Nat.pow 2 63 - 1) .tooWide 0 bound }

def digits (layout : Layout) (bound : Nat) : Fill Layout := do
  if (← peek) = some '.' then
    skip
    if (← peek) = some '*' then
      skip
      return { layout with digits := some (← countValue 32 .outsideHalfWord).toNat }
    else return { layout with digits := some (← count (Nat.pow 2 31 - 1) .tooPrecise 0 bound) }
  else return layout

end Fill

/-- A form of a value: signs and marks that stand before any zeros, and the rest. -/
structure Form where
  sign : List Char := []
  mark : List Char := []
  body : List Char

/-- Blanks fill up before or after the whole form, zeros between its marks and its body. -/
def Form.laidOut (form : Form) (layout : Layout) (zeros : Bool) : List Char :=
  let front := form.sign ++ form.mark
  let missing := layout.width - (front.length + form.body.length)
  if layout.left then front ++ form.body ++ List.replicate missing ' '
  else if zeros then front ++ List.replicate missing '0' ++ form.body
  else List.replicate missing ' ' ++ front ++ form.body

def signOf (layout : Layout) (negative : Bool) : List Char :=
  if negative then ['-'] else if layout.plus then ['+'] else if layout.blank then [' '] else []

def textForm (layout : Layout) (text : String) : List Char :=
  let body := match layout.digits with
    | some count => text.toList.take count
    | none => text.toList
  Form.laidOut { body } layout false

/-- The form of a value in which characters outside the first 128 are written as escapes. -/
def plainText (value : Value) : String :=
  .ofList (value.described.toList.flatMap fun c =>
    if c.toNat < 128 then [c]
    else if c.toNat < 0x100 then '\\' :: 'x' :: Text.hexDigits 2 c.toNat
    else if c.toNat < 0x10000 then '\\' :: 'u' :: Text.hexDigits 4 c.toNat
    else '\\' :: 'U' :: Text.hexDigits 8 c.toNat)

/-- A whole number in a base, with the base marked if the layout asks for it. -/
def wholeForm (layout : Layout) (letter : Char) (i : Int) : List Char :=
  let base := if letter = 'o' then 8 else if letter = 'x' || letter = 'X' then 16 else 10
  let digits := Nat.toDigits base i.natAbs
  let digits := if letter = 'X' then digits.map Char.toUpper else digits
  let body := List.replicate (layout.digits.getD 0 - digits.length) '0' ++ digits
  let mark := if layout.marked && base ≠ 10 then ['0', letter] else []
  Form.laidOut { sign := signOf layout (i < 0), mark, body } layout layout.zeros

/-- The whole number that a value is in the form of a letter: in base ten parts after the point are
cut off. -/
def whole (letter : Char) (value : Value) : Except Misfit Int :=
  match value with
  | .int i => .ok i
  | .bool b => .ok (if b then 1 else 0)
  | .float x =>
    if letter = 'o' || letter = 'x' || letter = 'X' then
      .error (.wholeWanted letter value.kindName)
    else if x.isNaN then .error .undefined
    else if x.isInf then .error .infinite
    else
      let b := Decimal.Binary.ofFloat x
      let size : Int := (b.m * Decimal.power 2 b.q / Decimal.power 2 (-b.q) : Nat)
      .ok (if b.negative then -size else size)
  | value =>
    if letter = 'o' || letter = 'x' || letter = 'X' then
      .error (.wholeWanted letter value.kindName)
    else .error (.numberWanted letter value.kindName)

def real (value : Value) : Except Misfit Float :=
  let ofInt (i : Int) : Except Misfit Float :=
    let x := Decimal.nearest (i < 0) i.natAbs 1
    if x.isInf then .error .tooLarge else .ok x
  match value with
  | .float x => .ok x
  | .int i => ofInt i
  | .bool b => ofInt (if b then 1 else 0)
  | value => .error (.realWanted value.kindName)

/-- A number with a point, with an exponent, or in the shorter of the two ways. -/
def realForm (layout : Layout) (letter : Char) (x : Float) : List Char :=
  let b := Decimal.Binary.ofFloat x
  let count := layout.digits.getD 6
  let body :=
    if x.isNaN then ['n', 'a', 'n']
    else if x.isInf then ['i', 'n', 'f']
    else if letter.toLower = 'f' then b.fixed layout.marked count
    else if letter.toLower = 'e' then b.scientific layout.marked count
    else b.general layout.marked count
  let body := if letter.isUpper then body.map Char.toUpper else body
  Form.laidOut { sign := signOf layout (b.negative && !x.isNaN), body } layout layout.zeros

def character (value : Value) : Except Misfit Char :=
  let ofCode (i : Int) : Except Misfit Char :=
    if i < 0 || 0x110000 ≤ i then .error .noCharacter
    else if i.toNat.isValidChar then .ok (Char.ofNat i.toNat)
    else .error .surrogate
  match value with
  | .text s =>
    match s.toList with
    | [c] => .ok c
    | _ => .error .characterWanted
  | .int i => ofCode i
  | .bool b => ofCode (if b then 1 else 0)
  | _ => .error .characterWanted

/-- The form of a value in a place with a letter at `index`. -/
def form (layout : Layout) (letter : Char) (index : Nat) (value : Value) :
    Except Misfit (List Char) := do
  if letter = 's' then return textForm layout value.display
  else if letter = 'r' then return textForm layout value.described
  else if letter = 'a' then return textForm layout (plainText value)
  else if letter = 'c' then
    return Form.laidOut { body := [← character value] } layout false
  else if ['d', 'i', 'u', 'o', 'x', 'X'].contains letter then
    let i ← whole letter value
    if ['d', 'i', 'u'].contains letter && (Atom.int i).isOverlong then throw (.overlong ⟨none⟩)
    return wholeForm layout letter i
  else if ['e', 'E', 'f', 'F', 'g', 'G'].contains letter then
    return realForm layout letter (← real value)
  else throw (.unknownLetter letter index)

def Layout.limit : Nat := Nat.pow 2 28

/-- The form of a value, unless its digits or its width are beyond what can be held. Characters of a
text are only taken away. -/
def boundedForm (layout : Layout) (letter : Char) (index : Nat) (value : Value) :
    Except Misfit (List Char) := do
  let digits := layout.digits.getD 0
  if ['d', 'i', 'u', 'o', 'x', 'X'].contains letter then
    let _ ← whole letter value
    if Nat.pow 2 31 - 4 < digits then throw .tooManyDigits
    if Layout.limit < digits then throw .noSpace
  else if ['e', 'E', 'f', 'F', 'g', 'G'].contains letter then
    let _ ← real value
    if Layout.limit < digits then throw .noSpace
  let _ ← form { layout with width := 0 } letter index value
  if Layout.limit < layout.width then throw .noSpace
  form layout letter index value

def placeText (bound : Nat) : Fill (List Char) := do
  if (← Fill.peek) = some '%' then
    Fill.skip
    return ['%']
  else
    Fill.name
    let layout ← Fill.flags {} bound
    let layout ← Fill.width layout bound
    let layout ← Fill.digits layout bound
    if (← Fill.peek).any ['h', 'l', 'L'].contains then Fill.skip
    let index := (← get).index
    match ← Fill.peek with
    | none => throw .incomplete
    | some letter =>
      Fill.skip
      boundedForm layout letter index (← Fill.nextValue)

def texts : Nat → Fill (List Char)
  | 0 => return []
  | bound + 1 => do
    match ← Fill.peek with
    | none => return []
    | some c =>
      Fill.skip
      let text ← if c = '%' then placeText bound else pure [c]
      return text ++ (← texts bound)

/-- The names that values can be used by: the keys of a map that is the only value. -/
def names? : List Value → Option (List (Value × Value))
  | [.map entries] => if entries.isEmpty then none else some entries
  | _ => none

/-- A template with its values put in. All values have to be used, unless they have names. -/
def fill (template : List Char) (values : List Value) : Except Misfit (List Char) := do
  let start : State := ⟨template, 0, values, names? values⟩
  let (text, left) ← (texts (template.length + 1)).run start
  if left.named.isNone && !left.values.isEmpty then throw .tooMany
  return text

end SqlRoutes.Log.Template

namespace SqlRoutes.Log

/-- A message with its values. Without values it is taken as it is. -/
def message (template : String) (values : List Value) : Except Template.Misfit String :=
  if values.isEmpty then .ok template
  else (Template.fill template.toList values).map String.ofList

end SqlRoutes.Log
