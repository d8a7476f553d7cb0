namespace SqlRoutes.Encoding

/-- The characters row by row. `�` stands in places without one. -/
structure Grid where
  width : Nat
  characters : Array Char

namespace Grid

/-- The characters of some lines, which need not be rows. -/
def ofLines (width : Nat) (lines : List String) : Grid :=
  ⟨width, (lines.flatMap String.toList).toArray⟩

/-- The character at a place; rows and columns are counted from zero. -/
def char? (grid : Grid) (row column : Nat) : Option Char :=
  if column < grid.width then
    grid.characters[row * grid.width + column]?.filter (· ≠ '�')
  else none

end Grid

end SqlRoutes.Encoding
