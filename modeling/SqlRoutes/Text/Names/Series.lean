/-!
Names of characters in a row that begin alike. In these tables `_` stands for a blank in a name.
-/
namespace SqlRoutes.Text.Names

def ending? (stem : String) (name : List Char) : Option (List Char) :=
  if stem.toList.isPrefixOf name then some (name.drop stem.length) else none

/-- Characters from `first` on, by lines of the endings of their names with blanks between them. `�`
stands for a character without a name. -/
structure Series where
  first : Nat
  stem : String
  endings : List String

def Series.find? (series : Series) (name : List Char) : Option Char := do
  let ending ← ending? series.stem name
  let place ← (series.endings.flatMap (·.splitOn " ")).idxOf? (.ofList ending)
  return Char.ofNat (series.first + place)

/-- Characters from `first` on that are numbered from `start` on, with so many digits at least. -/
structure Numbered where
  first : Nat
  count : Nat
  stem : String
  base : Nat
  width : Nat
  start : Nat

def Numbered.ending (numbered : Numbered) (place : Nat) : List Char :=
  let digits := (Nat.toDigits numbered.base (numbered.start + place)).map Char.toUpper
  List.replicate (numbered.width - digits.length) '0' ++ digits

def Numbered.find? (numbered : Numbered) (name : List Char) : Option Char := do
  let ending ← ending? numbered.stem name
  let place ← (List.range numbered.count).find? fun place => numbered.ending place = ending
  return Char.ofNat (numbered.first + place)

end SqlRoutes.Text.Names
