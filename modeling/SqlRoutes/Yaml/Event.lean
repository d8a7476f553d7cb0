import SqlRoutes.Yaml.Lexer

/-!
From tokens to events: the start and end of every document and collection, and the scalars and
aliases in between. As with tokens, the events before a failure are kept.
-/
namespace SqlRoutes.Yaml

inductive Event.Kind where
  | documentStart
  | documentEnd
  | streamEnd
  | alias (name : List Char)
  /-- A plain scalar's type may depend on its text. -/
  | scalar (anchor tag : Option (List Char)) (text : List Char) (plain : Bool)
  | sequenceStart (anchor tag : Option (List Char))
  | sequenceEnd
  | mappingStart (anchor tag : Option (List Char))
  | mappingEnd
  deriving DecidableEq, Repr

structure Event where
  kind : Event.Kind
  line : Nat
  deriving DecidableEq, Repr

inductive Expectation where
  | firstDocument
  | document
  | documentEnd
  | documentContent
  | blockNode
  | blockSequenceStart
  | blockSequenceEntry
  | indentlessEntry
  | blockMappingStart
  | blockMappingKey
  | blockMappingValue
  | flowSequenceFirst
  | flowSequenceEntry
  | flowPairKey
  | flowPairValue
  | flowPairEnd
  | flowMappingFirst
  | flowMappingKey
  | flowMappingValue
  | flowMappingEmptyValue
  | nothing
  deriving DecidableEq, Repr

/-- State of reading events: the tokens left, what comes next and what after that, and the tag
handles of the document. -/
structure Outline where
  tokens : List Token
  failure : Option Failure
  expected : Expectation
  later : List Expectation
  handles : List (List Char × List Char)

abbrev Parse := StateT Outline (Except Failure)

namespace Parse

def peek : Parse Token := do
  let outline ← get
  match outline.tokens, outline.failure with
  | token :: _, _ => return token
  | [], some failure => throw failure
  | [], none => return ⟨.streamEnd, 0⟩

def drop : Parse Unit := modify fun outline => { outline with tokens := outline.tokens.tail }

def take : Parse Token := do
  let token ← peek
  drop
  return token

def at? (kinds : List Token.Kind) : Parse Bool := return kinds.contains (← peek).kind

def expect (expected : Expectation) : Parse Unit := modify fun outline => { outline with expected }

def expectLater (expected : Expectation) : Parse Unit :=
  modify fun outline => { outline with later := expected :: outline.later }

def resume : Parse Unit := modify fun outline =>
  { outline with expected := outline.later.headD .nothing, later := outline.later.tail }

def failAt {α : Type} (cause : Cause) (line : Nat) : Parse α :=
  throw (.problem cause (some (line + 1)))

def emptyScalar (line : Nat) : Event := ⟨.scalar none none [] true, line⟩

def defaultHandles : List (List Char × List Char) :=
  [(['!'], ['!']), (['!', '!'], "tag:yaml.org,2002:".toList)]

def directives (version : Bool) : Nat → Parse Unit
  | 0 => return ()
  | bound + 1 => do
    let token ← peek
    match token.kind with
    | .directive directive =>
      drop
      match directive with
      | .version major =>
        if version then failAt .duplicateDirective token.line
        if major ≠ 1 then failAt .invalidVersion token.line
        directives true bound
      | .tag handle start =>
        if ((← get).handles.lookup handle).isSome then failAt .duplicateDirective token.line
        modify fun outline => { outline with handles := outline.handles ++ [(handle, start)] }
        directives version bound
      | .other => directives version bound
    | _ => return ()

def skipDocumentEnds : Nat → Parse Unit
  | 0 => return ()
  | bound + 1 => do
    if (← peek).kind = .documentEnd then
      drop
      skipDocumentEnds bound

def bound : Parse Nat := return (← get).tokens.length + 1

def document : Parse Event := do
  skipDocumentEnds (← bound)
  let first ← peek
  if first.kind = .streamEnd then
    drop
    expect .nothing
    return ⟨.streamEnd, first.line⟩
  else
    modify fun outline => { outline with handles := [] }
    directives false (← bound)
    modify fun outline => { outline with
      handles := outline.handles ++ defaultHandles.filter fun entry =>
        (outline.handles.lookup entry.1).isNone }
    let token ← peek
    if token.kind ≠ .documentStart then failAt .documentStartExpected token.line
    drop
    expectLater .documentEnd
    expect .documentContent
    return ⟨.documentStart, first.line⟩

def firstDocument : Parse Event := do
  let token ← peek
  match token.kind with
  | .directive _ | .documentStart | .streamEnd => document
  | _ =>
    modify fun outline => { outline with handles := defaultHandles }
    expectLater .documentEnd
    expect .blockNode
    return ⟨.documentStart, token.line⟩

def documentEnd : Parse Event := do
  let token ← peek
  if token.kind = .documentEnd then drop
  expect .document
  return ⟨.documentEnd, token.line⟩

/-- The anchor and the tag in front of a node, in either order, with the line of the first. -/
structure Properties where
  anchor : Option (List Char)
  tag : Option (Option (List Char) × List Char × Nat)
  line : Option Nat

def properties : Parse Properties := do
  let token ← peek
  match token.kind with
  | .anchor name =>
    drop
    let next ← peek
    match next.kind with
    | .tag handle suffix =>
      drop
      return ⟨some name, some (handle, suffix, next.line), some token.line⟩
    | _ => return ⟨some name, none, some token.line⟩
  | .tag handle suffix =>
    drop
    let tag := some (handle, suffix, token.line)
    let next ← peek
    match next.kind with
    | .anchor name =>
      drop
      return ⟨some name, tag, some token.line⟩
    | _ => return ⟨none, tag, some token.line⟩
  | _ => return ⟨none, none, none⟩

def fullTag (properties : Properties) : Parse (Option (List Char)) := do
  match properties.tag with
  | none => return none
  | some (none, suffix, _) => return some suffix
  | some (some handle, suffix, line) =>
    match (← get).handles.lookup handle with
    | some start => return some (start ++ suffix)
    | none => failAt .undefinedHandle line

/-- A node. Block collections, and sequences without indentation, are read only where they may
stand. -/
def node (block indentless : Bool) : Parse Event := do
  let first ← peek
  match first.kind with
  | .alias name =>
    drop
    resume
    return ⟨.alias name, first.line⟩
  | _ =>
    let properties ← properties
    let tag ← fullTag properties
    let anchor := properties.anchor
    let token ← peek
    let line := properties.line.getD token.line
    let untyped := tag.isNone || tag = some ['!']
    let collection (kind : Event.Kind) (expected : Expectation) : Parse Event := do
      expect expected
      return ⟨kind, line⟩
    match token.kind with
    | .scalar text plain =>
      drop
      resume
      return ⟨.scalar anchor tag text ((plain && tag.isNone) || tag = some ['!']), line⟩
    | .flowSequenceStart => collection (.sequenceStart anchor tag) .flowSequenceFirst
    | .flowMappingStart => collection (.mappingStart anchor tag) .flowMappingFirst
    | kind =>
      if indentless && kind = .blockEntry then
        collection (.sequenceStart anchor tag) .indentlessEntry
      else if block && kind = .blockSequenceStart then
        collection (.sequenceStart anchor tag) .blockSequenceStart
      else if block && kind = .blockMappingStart then
        collection (.mappingStart anchor tag) .blockMappingStart
      else if properties.line.isSome then
        resume
        return ⟨.scalar anchor tag [] untyped, line⟩
      else failAt .contentExpected token.line

/-- A node, after which something else is to come; or an empty scalar at `line` before one of some
tokens. -/
def nodeUnless (kinds : List Token.Kind) (later : Expectation) (line : Nat)
    (node : Parse Event) : Parse Event := do
  if ← at? kinds then
    expect later
    return emptyScalar line
  else
    expectLater later
    node

def documentContent : Parse Event := do
  let token ← peek
  match token.kind with
  | .directive _ | .documentStart | .documentEnd | .streamEnd =>
    resume
    return emptyScalar token.line
  | _ => node true false

def finish (kind : Event.Kind) (line : Nat) : Parse Event := do
  drop
  resume
  return ⟨kind, line⟩

def blockSequenceEntry : Parse Event := do
  let token ← peek
  match token.kind with
  | .blockEntry =>
    drop
    nodeUnless [.blockEntry, .blockEnd] .blockSequenceEntry token.line (node true false)
  | .blockEnd => finish .sequenceEnd token.line
  | _ => failAt .blockEndExpected token.line

def indentlessEntry : Parse Event := do
  let token ← peek
  match token.kind with
  | .blockEntry =>
    drop
    nodeUnless [.blockEntry, .key, .value, .blockEnd] .indentlessEntry token.line (node true false)
  | _ =>
    resume
    return ⟨.sequenceEnd, token.line⟩

def blockMappingKey : Parse Event := do
  let token ← peek
  match token.kind with
  | .key =>
    drop
    nodeUnless [.key, .value, .blockEnd] .blockMappingValue token.line (node true true)
  | .blockEnd => finish .mappingEnd token.line
  | _ => failAt .blockEndExpected token.line

def blockMappingValue : Parse Event := do
  let token ← peek
  match token.kind with
  | .value =>
    drop
    nodeUnless [.key, .value, .blockEnd] .blockMappingKey token.line (node true true)
  | _ =>
    expect .blockMappingKey
    return emptyScalar token.line

def separator (first : Bool) : Parse Unit := do
  if !first then
    let token ← peek
    if token.kind = .flowEntry then drop else failAt .separatorExpected token.line

def flowSequenceEntry (first : Bool) : Parse Event := do
  let token ← peek
  if token.kind = .flowSequenceEnd then finish .sequenceEnd token.line
  else
    separator first
    let token ← peek
    match token.kind with
    | .key =>
      expect .flowPairKey
      return ⟨.mappingStart none none, token.line⟩
    | .flowSequenceEnd => finish .sequenceEnd token.line
    | _ =>
      expectLater .flowSequenceEntry
      node false false

def flowPairKey : Parse Event := do
  let token ← take
  nodeUnless [.value, .flowEntry, .flowSequenceEnd] .flowPairValue token.line (node false false)

def flowPairValue : Parse Event := do
  let token ← peek
  match token.kind with
  | .value =>
    drop
    nodeUnless [.flowEntry, .flowSequenceEnd] .flowPairEnd token.line (node false false)
  | _ =>
    expect .flowPairEnd
    return emptyScalar token.line

def flowPairEnd : Parse Event := do
  expect .flowSequenceEntry
  return ⟨.mappingEnd, (← peek).line⟩

def flowMappingKey (first : Bool) : Parse Event := do
  let token ← peek
  if token.kind = .flowMappingEnd then finish .mappingEnd token.line
  else
    separator first
    let token ← peek
    match token.kind with
    | .key =>
      drop
      nodeUnless [.value, .flowEntry, .flowMappingEnd] .flowMappingValue token.line
        (node false false)
    | .flowMappingEnd => finish .mappingEnd token.line
    | _ =>
      expectLater .flowMappingEmptyValue
      node false false

def flowMappingValue : Parse Event := do
  let token ← peek
  match token.kind with
  | .value =>
    drop
    nodeUnless [.flowEntry, .flowMappingEnd] .flowMappingKey token.line (node false false)
  | _ =>
    expect .flowMappingKey
    return emptyScalar token.line

def flowMappingEmptyValue : Parse Event := do
  expect .flowMappingKey
  return emptyScalar (← peek).line

def step : Parse Event := do
  match (← get).expected with
  | .firstDocument => firstDocument
  | .document => document
  | .documentEnd => documentEnd
  | .documentContent => documentContent
  | .blockNode => node true false
  | .blockSequenceStart =>
    drop
    blockSequenceEntry
  | .blockSequenceEntry => blockSequenceEntry
  | .indentlessEntry => indentlessEntry
  | .blockMappingStart =>
    drop
    blockMappingKey
  | .blockMappingKey => blockMappingKey
  | .blockMappingValue => blockMappingValue
  | .flowSequenceFirst =>
    drop
    flowSequenceEntry true
  | .flowSequenceEntry => flowSequenceEntry false
  | .flowPairKey => flowPairKey
  | .flowPairValue => flowPairValue
  | .flowPairEnd => flowPairEnd
  | .flowMappingFirst =>
    drop
    flowMappingKey true
  | .flowMappingKey => flowMappingKey false
  | .flowMappingValue => flowMappingValue
  | .flowMappingEmptyValue => flowMappingEmptyValue
  | .nothing => return ⟨.streamEnd, 0⟩

end Parse

/-- The events up to the end of the stream, or up to a failure. -/
structure EventRow where
  events : List Event
  failure : Option Failure

def Outline.run (outline : Outline) (events : Array Event) : Nat → EventRow
  | 0 => ⟨events.toList, none⟩
  | bound + 1 =>
    match Parse.step.run outline with
    | .error failure => ⟨events.toList, some failure⟩
    | .ok (event, outline) =>
      if event.kind = .streamEnd then ⟨(events.push event).toList, none⟩
      else outline.run (events.push event) bound

/-- Between two tokens there are only a few events that take none. -/
def eventRow (row : TokenRow) : EventRow :=
  let outline : Outline := ⟨row.tokens.tail, row.failure, .firstDocument, [], []⟩
  outline.run #[] (8 * row.tokens.length + 16)

end SqlRoutes.Yaml
