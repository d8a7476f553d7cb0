import SqlRoutes.Encoding.Front
import SqlRoutes.Encoding.Grid.Jisx0208
import SqlRoutes.Encoding.Grid.Jisx0212
import SqlRoutes.Encoding.Grid.Jisx0213

namespace SqlRoutes.Encoding.Japanese

def jisx0208? (row column : Nat) : Option Char :=
  if row < 8 then Grid.jisx0208.char? row column
  else if row < 15 then none
  else Grid.jisx0208.char? (row - 7) column

def jisx0212? (row column : Nat) : Option Char :=
  if row = 0 then none else Grid.jisx0212.char? (row - 1) column

def halfWidth? (b : Nat) : Option Char :=
  if 0xa1 ≤ b && b ≤ 0xdf then some (Char.ofNat (0xff61 + (b - 0xa1))) else none

inductive Issue where
  | first
  | second
  deriving DecidableEq, Repr

def isLate (issue : Issue) (row column : Nat) : Bool :=
  issue = .first && Grid.jisx0213Late.contains (row, column)

/-- The first plane of JIS X 0213, which has all of JIS X 0208. -/
def plane1? (issue : Issue) (row column : Nat) : Option (List Char) :=
  if isLate issue row column then none
  else
    let added : Option Char := do
      Grid.jisx0213.char? (← Grid.jisx0213Rows.idxOf? row) column
    let pair := Grid.jisx0213Pairs.find? fun pair => pair.1 = row && pair.2.1 = column
    (jisx0208? row column <|> added).map ([·]) <|>
      pair.map fun pair => [pair.2.2.1, pair.2.2.2]

def plane2? (issue : Issue) (row column : Nat) : Option Char :=
  if issue = .first && row = 92 && column = 26 then some '鬝'
  else do Grid.jisx0213Second.char? (← Grid.jisx0213SecondRows.idxOf? row) column

/-- The characters of the code page 932, the rows 95 to 114 of which are for private use. -/
def cp932? (row column : Nat) : Option Char :=
  let ibm (n : Nat) : Option Char := Grid.ibm115.characters[n]?.filter (· ≠ '�')
  if row = 12 then Grid.nec13.char? 0 column
  else if 88 ≤ row && row ≤ 91 then
    let n := (row - 88) * 94 + column
    if n < 360 then ibm (n + 28)
    else if 362 ≤ n && n < 372 then ibm (n - 362)
    else if 372 ≤ n then ibm (n - 352)
    else none
  else if 94 ≤ row && row ≤ 113 then some (Char.ofNat (0xe000 + (row - 94) * 94 + column))
  else if 114 ≤ row then Grid.ibm115.char? (row - 114) column
  else
    match row, column with
    | 0, 32 => some '～'
    | 0, 33 => some '∥'
    | 0, 60 => some '－'
    | 0, 80 => some '￠'
    | 0, 81 => some '￡'
    | 1, 43 => some '￢'
    | row, column => jisx0208? row column

/-- Row and column of two bytes, the first of which is moved away from the half-width letters. -/
def shifted? (b c : Nat) : Option (Nat × Nat) := do
  let column ←
    if 0x40 ≤ c && c ≤ 0x7e then some (c - 0x40)
    else if 0x80 ≤ c && c ≤ 0xfc then some (c - 0x41)
    else none
  let row := 2 * (b - if b < 0xe0 then 0x81 else 0xc1)
  return (row + column / 94, column % 94)

/-- The row of the second plane that follows the first one. -/
def secondRow (row : Nat) : Nat :=
  if 0x67 ≤ row then row + 7 - 0x21
  else if 0x63 ≤ row || row = 0x5f then row - 0x58
  else row - 0x5e

end SqlRoutes.Encoding.Japanese
