import SqlRoutes.Yaml.Block
import SqlRoutes.Yaml.Plain
import SqlRoutes.Yaml.Quoted
import SqlRoutes.Yaml.Token

/-!
From text to a row of tokens. A colon can turn a token that was read already into a key, so places
in the row are remembered where a key mark could still have to go. When reading stops at a failure,
the tokens that a reader could have taken before it are kept.
-/
namespace SqlRoutes.Yaml

/-- A token that a colon may still make a key: its number in the row and its place. A required one
starts a line of a block mapping and can be nothing else. -/
structure SimpleKey where
  number : Nat
  required : Bool
  place : Cursor

/-- State of reading tokens. Simple keys are held by the flow level they are on, where a level
below zero comes from a closing mark too many. -/
structure Lexer where
  cursor : Cursor
  tokens : Array Token
  flow : Int
  indent : Int
  indents : List Int
  keysAllowed : Bool
  keys : List (Int × SimpleKey)

abbrev Lex := EStateM Failure Lexer

namespace Lex

def scan {α : Type} (action : Scan α) : Lex α := do
  match action.run (← get).cursor with
  | .ok (result, cursor) =>
    modify fun lexer => { lexer with cursor }
    return result
  | .error failure => throw failure

def fail {α : Type} (cause : Cause) : Lex α := scan (Scan.fail cause)

def push (kind : Token.Kind) (line : Nat) : Lex Unit :=
  modify fun lexer => { lexer with tokens := lexer.tokens.push ⟨kind, line⟩ }

def insert (number : Nat) (token : Token) : Lex Unit :=
  modify fun lexer => { lexer with tokens := lexer.tokens.insertIdxIfInBounds number token }

def allowKeys (allowed : Bool) : Lex Unit :=
  modify fun lexer => { lexer with keysAllowed := allowed }

def inFlow : Lex Bool := return (← get).flow ≠ 0

def line : Lex Nat := return (← get).cursor.line

def column : Lex Int := return ((← get).cursor.column : Int)

/-- Keys that are not on this line, or too far back, are keys no more. -/
def dropStaleKeys : Lex Unit := do
  let lexer ← get
  let stale (key : SimpleKey) : Bool :=
    key.place.line ≠ lexer.cursor.line || 1024 < lexer.cursor.index - key.place.index
  if lexer.keys.any fun entry => stale entry.2 && entry.2.required then fail .colonExpected
  set { lexer with keys := lexer.keys.filter fun entry => !stale entry.2 }

def dropKey : Lex Unit := do
  let lexer ← get
  match lexer.keys.lookup lexer.flow with
  | some key =>
    if key.required then fail .colonExpected
    set { lexer with keys := lexer.keys.filter (·.1 ≠ lexer.flow) }
  | none => return ()

def saveKey : Lex Unit := do
  let lexer ← get
  let required := lexer.flow = 0 && lexer.indent = lexer.cursor.column
  if lexer.keysAllowed then
    dropKey
    modify fun lexer =>
      { lexer with
        keys := lexer.keys ++ [(lexer.flow, ⟨lexer.tokens.size, required, lexer.cursor⟩)] }

/-- Closes the block collections that are indented more deeply than a column. -/
def unwind (column : Int) : Lex Unit := do
  let lexer ← get
  if lexer.flow = 0 then
    let closed := (lexer.indent :: lexer.indents).takeWhile fun indent => column < indent
    let left := (lexer.indent :: lexer.indents).dropWhile fun indent => column < indent
    let ends := closed.map fun _ => (⟨.blockEnd, lexer.cursor.line⟩ : Token)
    set { lexer with
      tokens := lexer.tokens ++ ends.toArray
      indent := left.headD (-1)
      indents := left.tail }

/-- Opens a block collection at a column, if it is deeper than the current one. -/
def deepen (column : Int) : Lex Bool := do
  let lexer ← get
  if lexer.indent < column then
    set { lexer with indent := column, indents := lexer.indent :: lexer.indents }
    return true
  else return false

def mark (kind : Token.Kind) (length : Nat) : Lex Unit := do
  push kind (← line)
  scan (Scan.skip length)

def streamEnd : Lex Unit := do
  unwind (-1)
  dropKey
  push .streamEnd (← line)

def directive (bound : Nat) : Lex Unit := do
  unwind (-1)
  dropKey
  allowKeys false
  let line ← line
  push (.directive (← scan (Name.directive bound))) line

def documentMark (kind : Token.Kind) : Lex Unit := do
  unwind (-1)
  dropKey
  allowKeys false
  mark kind 3

def flowStart (kind : Token.Kind) : Lex Unit := do
  saveKey
  allowKeys true
  modify fun lexer => { lexer with flow := lexer.flow + 1 }
  mark kind 1

def flowEnd (kind : Token.Kind) : Lex Unit := do
  dropKey
  allowKeys false
  modify fun lexer => { lexer with flow := lexer.flow - 1 }
  mark kind 1

def flowEntry : Lex Unit := do
  allowKeys true
  dropKey
  mark .flowEntry 1

def blockEntry : Lex Unit := do
  if !(← inFlow) then
    if !(← get).keysAllowed then fail .entryNotAllowed
    if ← deepen (← column) then push .blockSequenceStart (← line)
  allowKeys true
  dropKey
  mark .blockEntry 1

def key : Lex Unit := do
  let flow ← inFlow
  if !flow then
    if !(← get).keysAllowed then fail .keyNotAllowed
    if ← deepen (← column) then push .blockMappingStart (← line)
  allowKeys !flow
  dropKey
  mark .key 1

def value : Lex Unit := do
  let flow ← inFlow
  let lexer ← get
  match lexer.keys.lookup lexer.flow with
  | some key =>
    set { lexer with keys := lexer.keys.filter (·.1 ≠ lexer.flow) }
    insert key.number ⟨.key, key.place.line⟩
    if !flow then
      if ← deepen key.place.column then
        insert key.number ⟨.blockMappingStart, key.place.line⟩
    allowKeys false
  | none =>
    if !flow then
      if !lexer.keysAllowed then fail .valueNotAllowed
      if ← deepen (← column) then push .blockMappingStart (← line)
    allowKeys !flow
    dropKey
  mark .value 1

def keyLike (action : Scan Token.Kind) : Lex Unit := do
  saveKey
  allowKeys false
  let line ← line
  push (← scan action) line

def block (folded : Bool) (bound : Nat) : Lex Unit := do
  allowKeys true
  dropKey
  let line ← line
  let indent := (← get).indent
  push (.scalar (← scan (Block.scalar folded indent bound)) false) line

def plain (bound : Nat) : Lex Unit := do
  saveKey
  let line ← line
  let (text, broken) ← scan (Plain.scalar (← inFlow) ((← get).indent + 1) bound)
  allowKeys broken
  push (.scalar text true) line

/-- Steps over spaces, comments and breaks. Outside flow collections a break allows keys again. -/
def toNextToken : Nat → Lex Unit
  | 0 => return ()
  | bound + 1 => do
    let _ ← scan (Scan.takeWhile (· = ' '))
    if (← scan (Scan.peek 0)) = some '#' then
      let _ ← scan (Scan.takeWhile fun c => !isBreak c)
    let broken ← scan Scan.lineBreak
    if !broken.isEmpty then
      if !(← inFlow) then allowKeys true
      toNextToken bound

/-- Characters that cannot start a plain scalar by themselves. -/
def indicators : List Char :=
  ['-', '?', ':', ',', '[', ']', '\x7b', '\x7d', '#', '&', '*', '!', '|', '>', '\'', '"', '%',
   '@', '\x60']

def startsPlain (flow : Bool) (c : Char) (next : Option Char) : Bool :=
  !(endsToken (some c) || indicators.contains c) ||
    (!endsToken next && (c = '-' || (!flow && (c = '?' || c = ':'))))

def fetch (c : Char) (next : Option Char) (bound : Nat) : Lex Unit := do
  let lexer ← get
  let flow := lexer.flow ≠ 0
  let atStart := lexer.cursor.column = 0
  if c = '%' && atStart then directive bound
  else if c = '-' && atStart && lexer.cursor.atSeparator then documentMark .documentStart
  else if c = '.' && atStart && lexer.cursor.atSeparator then documentMark .documentEnd
  else if c = '[' then flowStart .flowSequenceStart
  else if c = '\x7b' then flowStart .flowMappingStart
  else if c = ']' then flowEnd .flowSequenceEnd
  else if c = '\x7d' then flowEnd .flowMappingEnd
  else if c = ',' then flowEntry
  else if c = '-' && endsToken next then blockEntry
  else if c = '?' && (flow || endsToken next) then key
  else if c = ':' && (flow || endsToken next) then value
  else if c = '*' then keyLike (Token.Kind.alias <$> Name.anchor)
  else if c = '&' then keyLike (Token.Kind.anchor <$> Name.anchor)
  else if c = '!' then keyLike ((fun tag => Token.Kind.tag tag.1 tag.2) <$> Name.tag bound)
  else if c = '|' && !flow then block false bound
  else if c = '>' && !flow then block true bound
  else if c = '\'' then keyLike ((Token.Kind.scalar · false) <$> Quoted.scalar false bound)
  else if c = '"' then keyLike ((Token.Kind.scalar · false) <$> Quoted.scalar true bound)
  else if startsPlain flow c next then plain bound
  else fail .characterStartsNothing

def step (bound : Nat) : Lex Bool := do
  if (← get).cursor.index = 0 && (← scan (Scan.peek 0)) = some '\ufeff' then scan (Scan.skip 1)
  toNextToken bound
  dropStaleKeys
  unwind (← column)
  match (← get).cursor.rest with
  | [] =>
    streamEnd
    return true
  | c :: rest =>
    fetch c rest.head? bound
    return false

end Lex

/-- The tokens that a reader gets, and the failure that it then meets, if it meets one. -/
structure TokenRow where
  tokens : List Token
  failure : Option Failure

namespace Lexer

def start (text : List Char) : Lexer where
  cursor := ⟨text, 0, 0, 0⟩
  tokens := #[⟨.streamStart, 0⟩]
  flow := 0
  indent := -1
  indents := []
  keysAllowed := true
  keys := []

/-- The number of the first token that may still become a key, or else of the next one. -/
def settled (lexer : Lexer) : Nat :=
  (lexer.keys.map (·.2.number)).foldl min lexer.tokens.size

def stopped (lexer : Lexer) (count : Nat) (failure : Failure) : TokenRow :=
  ⟨lexer.tokens.toList.take count, some failure⟩

/-- Reads on until the end or a failure. A reader asks for more when it has taken all tokens that
are settled, and so meets a failure after `count` tokens: those that were settled before the step
in which it occurs, and which it leaves as they are. Stale keys are looked for once more when a step
is done. -/
def run (lexer : Lexer) (count : Nat) : Nat → TokenRow
  | 0 => ⟨lexer.tokens.toList, none⟩
  | bound + 1 =>
    match Lex.dropStaleKeys.run lexer with
    | .error failure lexer => lexer.stopped count failure
    | .ok () lexer =>
      let settled := lexer.settled
      match (Lex.step (bound + 1)).run lexer with
      | .error failure lexer => lexer.stopped settled failure
      | .ok true lexer => ⟨lexer.tokens.toList, none⟩
      | .ok false lexer => lexer.run settled bound

end Lexer

def tokenRow (text : List Char) : TokenRow :=
  let lexer := Lexer.start text
  lexer.run lexer.settled (text.length + 2)

end SqlRoutes.Yaml
