import SqlRoutes.Sql.Lexeme
import SqlRoutes.Text.Quoted

/-!
Tokens are lexemes with their place in the text; the last one marks the end. A `Scanner` hands
them out one at a time.
-/
namespace SqlRoutes.Sql

structure Token where
  kind : Kind
  position : Int
  text : List Char
  deriving DecidableEq, Repr

namespace Token

/-- The place just past the token. -/
def stop (token : Token) : Int := token.position + token.text.length

def describe (token : Token) : String :=
  s!"Token({token.kind.label}, {token.position}, {String.ofList (Text.quoted token.text)})"

end Token

/-- Lexemes in a row, the first of them at `position`, and the end of the input after them. -/
def place (position : Nat) : List Lexeme → List Token
  | [] => [⟨.endOfInput, position, []⟩]
  | lexeme :: lexemes =>
    ⟨lexeme.kind, position, lexeme.text⟩ :: place (position + lexeme.text.length) lexemes

def tokens (text : List Char) : List Token := place 0 (lexemes text)

/-- What is still to be scanned, and where it starts; a finished scanner has handed out the end. -/
structure Scanner where
  rest : List Char
  position : Nat
  /-- Levels of block comment that are open. -/
  depth : Nat
  finished : Bool
  deriving DecidableEq, Repr

namespace Scanner

def start (text : List Char) : Scanner := ⟨text, 0, 0, false⟩

/-- Open levels after the lexeme that `c` starts. A comment counts its own, and the end of the
text closes those it leaves; other lexemes leave the count as it is. -/
def depthAfter (depth : Nat) (c : Char) (rest : List Char) : Nat :=
  let front := split c rest
  if front.1 = .blockComment then
    if front.2.2.isEmpty then 0 else levelsLeft 0 rest.tail
  else depth

def next? (scanner : Scanner) : Option (Token × Scanner) :=
  if scanner.finished then none
  else
    match scanner.rest with
    | [] =>
      some (⟨.endOfInput, scanner.position, []⟩, { scanner with finished := true })
    | c :: rest =>
      let front := split c rest
      some (⟨front.1, scanner.position, front.2.1⟩,
        { rest := front.2.2
          position := scanner.position + front.2.1.length
          depth := depthAfter scanner.depth c rest
          finished := false })

def remaining (scanner : Scanner) : List Token :=
  if scanner.finished then [] else place scanner.position (lexemes scanner.rest)

end Scanner

end SqlRoutes.Sql
