import SqlRoutes.Text.Normal.Table

namespace SqlRoutes.Text.Normal

def listed? {α : Type} (table : List (Nat × List α)) (c : Char) : Option α :=
  table.findSome? fun (first, row) => if first ≤ c.toNat then row[c.toNat - first]? else none

/-- What a character is a form of, by a table of single characters and one of several. -/
def formOf? (table : List (Nat × String)) (longTable : List (Nat × List String)) (c : Char) :
    Option (List Char) :=
  let part? := (listed? (table.map fun (first, row) => (first, row.toList)) c).filter (· ≠ '�')
  part?.map ([·]) <|> (listed? longTable c).map String.toList

def halves? (whole : Char) : Option (Char × Char) :=
  wholes.findSome? fun (second, firsts, joined) =>
    (joined.toList.idxOf? whole).bind fun i => (firsts.toList[i]?).map (·, second)

def join? (first second : Char) : Option Char :=
  wholes.findSome? fun (mark, firsts, joined) =>
    if mark = second then (firsts.toList.idxOf? first).bind (joined.toList[·]?) else none

/-- The first and the last Hangul syllable, and the parts of syllables. -/
def firstSyllable : Nat := 0xac00

def leadBase : Nat := 0x1100

def vowelBase : Nat := 0x1161

def tailBase : Nat := 0x11a7

def isSyllable (n : Nat) : Bool := firstSyllable ≤ n && n < firstSyllable + 19 * 21 * 28

def syllableParts (n : Nat) : List Char :=
  let place := n - firstSyllable
  let tail := place % 28
  [Char.ofNat (leadBase + place / 588), Char.ofNat (vowelBase + place % 588 / 28)] ++
    if tail = 0 then [] else [Char.ofNat (tailBase + tail)]

/-- The parts of a character. No whole has parts more than five deep. -/
def parts (c : Char) : Nat → List Char
  | 0 => [c]
  | depth + 1 =>
    if c.toNat < 0xa0 then [c]
    else if isSyllable c.toNat then syllableParts c.toNat
    else
      match halves? c with
      | some (first, second) => parts first depth ++ parts second depth
      | none => (formOf? forms longForms c).getD [c]

def weight (c : Char) : Nat :=
  ((weights.find? fun (first, last, _) => first ≤ c.toNat && c.toNat ≤ last).map (·.2.2)).getD 0

/-- Puts a character before others, behind the lighter marks among them if it is a mark itself. -/
def place (c : Char) : List Char → List Char
  | [] => [c]
  | d :: rest =>
    if weight c ≠ 0 && weight d ≠ 0 && weight d < weight c then d :: place c rest
    else c :: d :: rest

def arranged (text : List Char) : List Char := text.foldr place []

/-- Joins a character with those after it; a mark is in the way of others that are no heavier. What
is not joined stays. -/
def absorb (c : Char) (heaviest : Nat) : List Char → Char × List Char
  | [] => (c, [])
  | d :: rest =>
    let stays (heaviest : Nat) :=
      let (whole, rest) := absorb c heaviest rest
      (whole, d :: rest)
    if heaviest ≠ 0 && weight d = 0 then (c, d :: rest)
    else if heaviest ≠ 0 && weight d ≤ heaviest then stays heaviest
    else
      match join? c d with
      | some whole => absorb whole heaviest rest
      | none => if weight d = 0 then (c, d :: rest) else stays (weight d)

theorem length_absorb_le (c : Char) (heaviest : Nat) (text : List Char) :
    (absorb c heaviest text).2.length ≤ text.length := by
  induction text generalizing c heaviest with
  | nil => simp [absorb]
  | cons d rest ih =>
    rw [absorb]
    split
    · simp
    · split
      · simpa using ih c heaviest
      · split
        · exact Nat.le_succ_of_le (ih _ heaviest)
        · split
          · simp
          · simpa using ih c (weight d)

/-- The syllable that a character makes with those after it, and what follows. -/
def syllable? (lead : Char) : List Char → Option (Char × List Char)
  | [] => none
  | vowel :: rest =>
    let i := lead.toNat - leadBase
    let j := vowel.toNat - vowelBase
    if leadBase ≤ lead.toNat && i < 19 && vowelBase ≤ vowel.toNat && j < 21 then
      let code := firstSyllable + (i * 21 + j) * 28
      match rest with
      | [] => some (Char.ofNat code, [])
      | tail :: after =>
        if tailBase < tail.toNat && tail.toNat < tailBase + 28 then
          some (Char.ofNat (code + (tail.toNat - tailBase)), after)
        else some (Char.ofNat code, tail :: after)
    else none

theorem length_lt_of_syllable? {lead c : Char} {text rest : List Char}
    (made : syllable? lead text = some (c, rest)) : rest.length < text.length := by
  cases text with
  | nil => simp [syllable?] at made
  | cons vowel text =>
    simp only [syllable?] at made
    split at made
    · cases text with
      | nil => simp_all
      | cons tail after =>
        dsimp only at made
        split at made <;> simp only [Option.some.injEq, Prod.mk.injEq] at made <;>
          simp only [← made.2, List.length_cons] <;> omega
    · simp at made

def joined : List Char → List Char
  | [] => []
  | c :: rest =>
    match _ : syllable? c rest with
    | some (syllable, after) => syllable :: joined after
    | none => (absorb c 0 rest).1 :: joined (absorb c 0 rest).2
termination_by text => text.length
decreasing_by
  · have := length_lt_of_syllable? ‹syllable? c rest = some (syllable, after)›
    simp; omega
  · have := length_absorb_le c 0 rest
    simp; omega

def normal (text : List Char) : List Char := joined (arranged (text.flatMap (parts · 5)))

end SqlRoutes.Text.Normal
