/-!
Lexemes of SQL text: how far the piece of text at the front reaches, and of which kind it is.
Nothing is rejected; quotes and comments that are never closed reach to the end. Main statement:
a lexeme and what follows it make up the text again, and no lexeme is empty.
-/
namespace SqlRoutes.Sql

inductive Kind where
  | whitespace
  | lineComment
  | blockComment
  | identifier
  | quotedIdentifier
  | stringLiteral
  | numeric
  | operator
  | endOfInput
  deriving DecidableEq, Repr

def Kind.label : Kind → String
  | .whitespace => "WHITESPACE"
  | .lineComment => "COMMENT_LINE"
  | .blockComment => "COMMENT_BLOCK"
  | .identifier => "IDENTIFIER"
  | .quotedIdentifier => "QUOTED_IDENTIFIER"
  | .stringLiteral => "STRING_LITERAL"
  | .numeric => "NUMERIC"
  | .operator => "OPERATOR"
  | .endOfInput => "EOF"

def Kind.all : List Kind :=
  [.whitespace, .lineComment, .blockComment, .identifier, .quotedIdentifier, .stringLiteral,
   .numeric, .operator, .endOfInput]

def Kind.ofLabel? (label : String) : Option Kind := Kind.all.find? (·.label = label)

structure Lexeme where
  kind : Kind
  text : List Char
  deriving DecidableEq, Repr

def isSpace (c : Char) : Bool := c = ' ' || c = '\t' || c = '\r' || c = '\n'

def delimiters : List Char :=
  [' ', '\t', '\r', '\n', '\'', '"', '(', ')', '[', ']', ',', ';', '$', ':', '.', '+', '-', '*',
   '/', '<', '>', '=', '~', '!', '@', '#', '%', '^', '&', '|', '\x60', '?']

def continuesName (c : Char) : Bool := !delimiters.contains c

def operatorStarts : List Char :=
  ['?', '(', ')', '<', '=', '>', '|', ':', '.', '!', '[', ']', ',', ';', '+', '-', '^', '*', '/',
   '%']

def threeCharOperators : List (List Char) := [['?', '?', '('], ['?', '?', ')']]

def twoCharOperators : List (List Char) :=
  [['<', '='], ['<', '>'], ['>', '='], ['|', '|'], [':', ':'], ['.', '.'], ['-', '>'], ['!', '=']]

def oneCharOperators : List (List Char) :=
  [['('], [')'], ['['], [']'], [','], [';'], ['.'], ['+'], ['-'], ['^'], ['*'], ['/'], ['%'],
   ['<'], ['>'], ['=']]

def operators : List (List Char) := threeCharOperators ++ twoCharOperators ++ oneCharOperators

/-- The first characters of a text, if the table has them. -/
def front? (table : List (List Char)) (count : Nat) (text : List Char) : Option (List Char) :=
  if table.contains (text.take count) then some (text.take count) else none

/-- The operator at the front; the tables are tried one after the other. -/
def operator? (text : List Char) : Option (List Char) :=
  (front? threeCharOperators 3 text).or
    ((front? twoCharOperators 2 text).or (front? oneCharOperators 1 text))

/-- A split of a text moves with characters put in front of it. -/
def onto (front : List Char) (split : List Char × List Char) : List Char × List Char :=
  (front ++ split.1, split.2)

/-- Splits after the closing quote. A quote written twice stands for itself, one alone closes. -/
def splitQuoted (quote : Char) : List Char → List Char × List Char
  | [] => ([], [])
  | [c] => ([c], [])
  | c :: d :: rest =>
    if c = quote then
      if d = quote then onto [c, d] (splitQuoted quote rest) else ([c], d :: rest)
    else onto [c] (splitQuoted quote (d :: rest))

def splitLine : List Char → List Char × List Char
  | [] => ([], [])
  | c :: rest => if c = '\n' then ([c], rest) else onto [c] (splitLine rest)

/-- Splits after the end of a block comment in which `depth` further ones are open. -/
def splitComment (depth : Nat) : List Char → List Char × List Char
  | [] => ([], [])
  | '*' :: '/' :: rest =>
    match depth with
    | 0 => (['*', '/'], rest)
    | depth + 1 => onto ['*', '/'] (splitComment depth rest)
  | '/' :: '*' :: rest => onto ['/', '*'] (splitComment (depth + 1) rest)
  | c :: rest => onto [c] (splitComment depth rest)

/-- Comment levels that are still open where `splitComment` stops; after the mark that closes the
last one there are none. -/
def levelsLeft (depth : Nat) : List Char → Nat
  | [] => depth + 1
  | '*' :: '/' :: rest =>
    match depth with
    | 0 => 0
    | depth + 1 => levelsLeft depth rest
  | '/' :: '*' :: rest => levelsLeft (depth + 1) rest
  | _ :: rest => levelsLeft depth rest

/-- Splits after a number. `fraction` and `exponent` say whether a point and an exponent mark have
been passed; the exponent has a fraction of its own. -/
def splitNumber (fraction exponent : Bool) : List Char → List Char × List Char
  | [] => ([], [])
  | [c] =>
    if c.isDigit || (c = 'e' || c = 'E') && !exponent || c = '.' && !fraction then ([c], [])
    else ([], [c])
  | c :: d :: rest =>
    if c.isDigit then onto [c] (splitNumber fraction exponent (d :: rest))
    else if c = 'e' || c = 'E' then
      if exponent then ([], c :: d :: rest)
      else if d = '+' || d = '-' then onto [c, d] (splitNumber false true rest)
      else onto [c] (splitNumber false true (d :: rest))
    else if c = '.' then
      if fraction then ([], c :: d :: rest)
      else onto [c] (splitNumber true exponent (d :: rest))
    else ([], c :: d :: rest)

def startsNumber (c : Char) (rest : List Char) : Bool :=
  c.isDigit || c = '.' && rest.head?.any Char.isDigit

/-- The extent of a name whose first character is taken already. -/
def splitName (rest : List Char) : List Char × List Char :=
  (rest.takeWhile continuesName, rest.dropWhile continuesName)

def splitOperator (c : Char) (rest : List Char) : Kind × List Char × List Char :=
  match operator? (c :: rest) with
  | some operator => (.operator, operator, (c :: rest).drop operator.length)
  | none => (.identifier, onto [c] (splitName rest))

/-- The kind of the lexeme at the front, with the split after it. -/
def split (c : Char) (rest : List Char) : Kind × List Char × List Char :=
  if c = '\'' then (.stringLiteral, onto [c] (splitQuoted c rest))
  else if c = '"' then (.quotedIdentifier, onto [c] (splitQuoted c rest))
  else if c = '-' && rest.head? = some '-' then (.lineComment, onto [c] (splitLine rest))
  else if c = '/' && rest.head? = some '*' then
    (.blockComment, onto ['/', '*'] (splitComment 0 rest.tail))
  else if startsNumber c rest then (.numeric, splitNumber false false (c :: rest))
  else if isSpace c then
    (.whitespace, onto [c] (rest.takeWhile isSpace, rest.dropWhile isSpace))
  else if operatorStarts.contains c then splitOperator c rest
  else (.identifier, onto [c] (splitName rest))

theorem onto_joined {front text : List Char} {split : List Char × List Char}
    (joined : split.1 ++ split.2 = text) :
    (onto front split).1 ++ (onto front split).2 = front ++ text := by
  simp [onto, joined]

theorem splitQuoted_joined (quote : Char) (text : List Char) :
    (splitQuoted quote text).1 ++ (splitQuoted quote text).2 = text := by
  fun_induction splitQuoted quote text with
  | case1 => rfl
  | case2 => rfl
  | case3 rest ih => exact onto_joined ih
  | case4 => rfl
  | case5 c d rest other ih => exact onto_joined ih

theorem splitLine_joined (text : List Char) : (splitLine text).1 ++ (splitLine text).2 = text := by
  fun_induction splitLine text with
  | case1 => rfl
  | case2 => rfl
  | case3 c rest other ih => exact onto_joined ih

theorem splitComment_joined (depth : Nat) (text : List Char) :
    (splitComment depth text).1 ++ (splitComment depth text).2 = text := by
  fun_induction splitComment depth text with
  | case1 => rfl
  | case2 => rfl
  | case3 rest depth ih => exact onto_joined ih
  | case4 depth rest ih => exact onto_joined ih
  | case5 depth c rest closes opens ih => exact onto_joined ih

theorem splitNumber_joined (fraction exponent : Bool) (text : List Char) :
    (splitNumber fraction exponent text).1 ++ (splitNumber fraction exponent text).2 = text := by
  fun_induction splitNumber fraction exponent text <;> first | rfl | exact onto_joined ‹_›

theorem splitNumber_ne_nil {c : Char} {rest : List Char} (starts : startsNumber c rest) :
    (splitNumber false false (c :: rest)).1 ≠ [] := by
  simp only [startsNumber, Bool.or_eq_true, Bool.and_eq_true, decide_eq_true_eq] at starts
  cases rest with
  | nil => rcases starts with digit | ⟨_, none⟩ <;> simp_all [splitNumber]
  | cons d rest => rcases starts with digit | ⟨rfl, _⟩ <;> simp_all [splitNumber, onto]

theorem front?_eq_some {table : List (List Char)} {count : Nat} {text front : List Char}
    (found : front? table count text = some front) : front ∈ table ∧ front <+: text := by
  unfold front? at found
  split at found
  · next taken =>
    obtain rfl := Option.some.inj found
    exact ⟨by simpa using taken, List.take_prefix count text⟩
  · cases found

theorem operator?_eq_some {text operator : List Char} (found : operator? text = some operator) :
    operator ∈ operators ∧ operator <+: text := by
  simp only [operator?, Option.or_eq_some_iff] at found
  simp only [operators, List.mem_append]
  rcases found with three | ⟨-, two | ⟨-, one⟩⟩
  · exact ⟨.inl (.inl (front?_eq_some three).1), (front?_eq_some three).2⟩
  · exact ⟨.inl (.inr (front?_eq_some two).1), (front?_eq_some two).2⟩
  · exact ⟨.inr (front?_eq_some one).1, (front?_eq_some one).2⟩

theorem splitOperator_joined (c : Char) (rest : List Char) :
    (splitOperator c rest).2.1 ++ (splitOperator c rest).2.2 = c :: rest := by
  unfold splitOperator
  split
  · next found =>
    obtain ⟨-, after, joined⟩ := operator?_eq_some found
    simp [← joined]
  · exact onto_joined (List.takeWhile_append_dropWhile)

theorem splitOperator_ne_nil (c : Char) (rest : List Char) : (splitOperator c rest).2.1 ≠ [] := by
  unfold splitOperator
  split
  · next found =>
    rintro rfl
    have member := (operator?_eq_some found).1
    simp [operators, threeCharOperators, twoCharOperators, oneCharOperators] at member
  · simp [onto]

theorem split_joined (c : Char) (rest : List Char) :
    (split c rest).2.1 ++ (split c rest).2.2 = c :: rest := by
  unfold split
  split
  · exact onto_joined (splitQuoted_joined c rest)
  split
  · exact onto_joined (splitQuoted_joined c rest)
  split
  · exact onto_joined (splitLine_joined rest)
  split
  · next opens =>
    obtain ⟨rfl, star⟩ := by simpa using opens
    obtain ⟨tail, rfl⟩ : ∃ tail, rest = '*' :: tail := by
      cases rest with
      | nil => simp at star
      | cons d tail => exact ⟨tail, by simpa using star⟩
    exact onto_joined (splitComment_joined 0 tail)
  split
  · exact splitNumber_joined false false (c :: rest)
  split
  · exact onto_joined (List.takeWhile_append_dropWhile)
  split
  · exact splitOperator_joined c rest
  · exact onto_joined (List.takeWhile_append_dropWhile)

theorem split_ne_nil (c : Char) (rest : List Char) : (split c rest).2.1 ≠ [] := by
  unfold split
  split
  · simp [onto]
  split
  · simp [onto]
  split
  · simp [onto]
  split
  · simp [onto]
  split
  · next starts => exact splitNumber_ne_nil starts
  split
  · simp [onto]
  split
  · exact splitOperator_ne_nil c rest
  · simp [onto]

theorem length_split_lt (c : Char) (rest : List Char) :
    (split c rest).2.2.length < (c :: rest).length := by
  have joined := congrArg List.length (split_joined c rest)
  have positive := List.length_pos_iff.2 (split_ne_nil c rest)
  rw [List.length_append] at joined
  omega

def lexemes : List Char → List Lexeme
  | [] => []
  | c :: rest =>
    let front := split c rest
    ⟨front.1, front.2.1⟩ :: lexemes front.2.2
termination_by text => text.length
decreasing_by exact length_split_lt c rest

end SqlRoutes.Sql
