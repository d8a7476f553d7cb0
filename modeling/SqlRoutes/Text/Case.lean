import SqlRoutes.Text.CaseTable

namespace SqlRoutes.Text

open CaseTable

private def mapped (special : List (Nat × List Nat)) (runs : List Run) (c : Char) : List Char :=
  let n := c.toNat
  match special.lookup n with
  | some parts => parts.map Char.ofNat
  | none =>
    match runs.find? (·.covers n) with
    | some run => [Char.ofNat ((n : Int) + run.shift).toNat]
    | none => [c]

private def within (ranges : List (Nat × Nat)) (c : Char) : Bool :=
  ranges.any fun range => range.1 ≤ c.toNat && c.toNat ≤ range.2

/-- Whether the nearest character that is not skipped is a letter with case. -/
def meetsLetter : List Char → Bool
  | [] => false
  | c :: rest => if within ignorable c then meetsLetter rest else within cased c

def lowerChar (c : Char) : List Char :=
  if c.toNat < 128 then [c.toLower] else mapped lowerSpecial lowerRuns c

def upperChar (c : Char) : List Char :=
  if c.toNat < 128 then [c.toUpper] else mapped upperSpecial upperRuns c

/-- Lower case of a text; `seen` holds what stands before it, nearest first. -/
def lowerFrom (seen : List Char) : List Char → List Char
  | [] => []
  | c :: rest =>
    let form :=
      if c = 'Σ' then (if meetsLetter seen && !meetsLetter rest then ['ς'] else ['σ'])
      else lowerChar c
    form ++ lowerFrom (c :: seen) rest

def lower (text : List Char) : List Char := lowerFrom [] text

def upper (text : List Char) : List Char := text.flatMap upperChar

end SqlRoutes.Text
