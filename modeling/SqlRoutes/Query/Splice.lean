import SqlRoutes.Placeholder
import SqlRoutes.Sql.Token

/-!
Bind variables of SQL text and the placeholders that take their places. `splice` copies the text
between the variables by offsets; `substitute` says token by token what the result is.
-/
namespace SqlRoutes.Query

open Sql

/-- A bind variable is an identifier that starts with the bind marker. -/
def isVariable (kind : Kind) (text : List Char) : Bool :=
  kind = .identifier && text.head? = some bindMarker

def slice (text : List Char) (start stop : Nat) : List Char := (text.drop start).take (stop - start)

/-- The text for the driver as far as it is made up, the names of the bind variables in it, and
the place in the configured text up to which it stands. -/
structure Progress where
  chunks : List (List Char)
  names : List String
  offset : Nat
  deriving DecidableEq, Repr

/-- A bind variable takes along the text between the last one and itself. -/
def Progress.pass (sql : List Char) (p : Placeholder) (progress : Progress) (token : Token) :
    Progress :=
  if isVariable token.kind token.text then
    { chunks := progress.chunks ++
        [slice sql progress.offset token.position.toNat,
         p.render token.text progress.names.length]
      names := progress.names ++ [String.ofList (token.text.drop 1)]
      offset := token.stop.toNat }
  else progress

/-- The text for the driver, and the names of the bind variables in order of appearance. -/
def splice (sql : List Char) (p : Placeholder) : List Char × List String :=
  let progress := (tokens sql).foldl (Progress.pass sql p) ⟨[], [], 0⟩
  if progress.names.isEmpty then (sql, [])
  else ((progress.chunks ++ [sql.drop progress.offset]).flatten, progress.names)

/-- Lexemes with a placeholder for every bind variable, the first of them as occurrence `index`. -/
def substitute (p : Placeholder) (index : Nat) : List Lexeme → List (List Char)
  | [] => []
  | lexeme :: rest =>
    if isVariable lexeme.kind lexeme.text then
      p.render lexeme.text index :: substitute p (index + 1) rest
    else lexeme.text :: substitute p index rest

def variableNames (lexemes : List Lexeme) : List String :=
  lexemes.filterMap fun lexeme =>
    if isVariable lexeme.kind lexeme.text then some (String.ofList (lexeme.text.drop 1)) else none

end SqlRoutes.Query
