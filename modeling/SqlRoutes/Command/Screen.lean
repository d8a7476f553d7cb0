namespace SqlRoutes.Command

inductive Item where
  | line (text : String)
  | rule (text : String)
  | table (title : String) (header : Option (List String)) (rows : List (List String))
  deriving DecidableEq, Repr

namespace Screen

def startsTag (c : Char) : Bool := ('a' ≤ c && c ≤ 'z') || c = '#' || c = '/' || c = '@'

/-- Whether the text after an opening bracket makes it a tag, closed before another one opens. -/
def opensTag : List Char → Bool
  | [] => false
  | c :: rest => startsTag c && (rest.dropWhile fun c => c ≠ '[' && c ≠ ']').head? = some ']'

/-- Tags appear as they are. A backslash before another bracket does not appear. -/
def unmarked (inTag : Bool) : List Char → List Char
  | [] => []
  | c :: rest =>
    if inTag then c :: unmarked (c ≠ ']') rest
    else if c = '[' && opensTag rest then c :: unmarked true rest
    else if c = '\\' && rest.head? = some '[' && !opensTag (rest.drop 1) then unmarked false rest
    else c :: unmarked false rest

def isCursorControl (c : Char) : Bool :=
  let n := c.toNat
  n = 7 || n = 8 || n = 11 || n = 12 || n = 13

def shown (text : String) : String :=
  .ofList ((unmarked false text.toList).filter fun c => !isCursorControl c)

end Screen

end SqlRoutes.Command
