import SqlRoutes.Encoding.Front
import SqlRoutes.Encoding.Grid.Ksx1001

namespace SqlRoutes.Encoding.Korean

def initials : List Char := "ㄱㄲㄴㄷㄸㄹㅁㅂㅃㅅㅆㅇㅈㅉㅊㅋㅌㅍㅎ".toList

def medials : List Char := "ㅏㅐㅑㅒㅓㅔㅕㅖㅗㅘㅙㅚㅛㅜㅝㅞㅟㅠㅡㅢㅣ".toList

def finals : List Char := "ㄱㄲㄳㄴㄵㄶㄷㄹㄺㄻㄼㄽㄾㄿㅀㅁㅂㅄㅅㅆㅇㅈㅊㅋㅌㅍㅎ".toList

/-- The syllable of three letters by their numbers; an end of number zero is none. -/
def syllable (initial medial final : Nat) : Char :=
  Char.ofNat (0xac00 + (initial * 21 + medial) * 28 + final)

def ksx1001? (b c : Nat) : Option Char :=
  if 0xa1 ≤ b && 0xa1 ≤ c then Grid.ksx1001.char? (b - 0xa1) (c - 0xa1) else none

/-- What is left of an ascending list without the members of another one. -/
def without : List Nat → List Nat → List Nat
  | [], _ => []
  | n :: ns, [] => n :: ns
  | n :: ns, m :: ms => if n = m then without ns ms else n :: without ns (m :: ms)

def rareSyllables : Array Char :=
  let common := (Grid.ksx1001.characters.toList.drop (15 * 94)).take (25 * 94)
  let all := (List.range (19 * 21 * 28)).map (0xac00 + ·)
  ((without all (common.map Char.toNat)).map Char.ofNat).toArray

def rarePlace? (c : Nat) : Option Nat :=
  if 0x41 ≤ c && c ≤ 0x5a then some (c - 0x41)
  else if 0x61 ≤ c && c ≤ 0x7a then some (c - 0x61 + 26)
  else if 0x81 ≤ c && c ≤ 0xfe then some (c - 0x81 + 52)
  else none

/-- Rows of 178 rare syllables, then rows of 84 of them before those of KS X 1001. -/
def rare? (b c : Nat) : Option Char := do
  let place ← rarePlace? c
  if 0x81 ≤ b && b ≤ 0xa0 then rareSyllables[(b - 0x81) * 178 + place]?
  else if 0xa1 ≤ b && place < 84 then rareSyllables[32 * 178 + (b - 0xa1) * 84 + place]?
  else none

def cp949? (b c : Nat) : Option Char := ksx1001? b c <|> rare? b c

/-- The letter of a byte in a syllable that is written letter by letter. -/
def letter? (c : Nat) : Option Char :=
  if 0xa1 ≤ c && c ≤ 0xbe then some (Char.ofNat (0x3131 + (c - 0xa1))) else none

/-- A syllable of three letters, each by its byte; a filler stands for no end. -/
def spelled? (initial medial final : Nat) : Option Char := do
  let initial ← initials.idxOf? (← letter? initial)
  guard (0xbf ≤ medial && medial ≤ 0xd3)
  if final = 0xd4 then return syllable initial (medial - 0xbf) 0
  else
    let final ← finals.idxOf? (← letter? final)
    return syllable initial (medial - 0xbf) (final + 1)

inductive Part where
  | filler
  | letter (index : Nat)
  deriving DecidableEq, Repr

def initialPart? (n : Nat) : Option Part :=
  if n = 1 then some .filler
  else if 2 ≤ n && n ≤ 20 then some (.letter (n - 2))
  else none

def medialPart? (n : Nat) : Option Part :=
  if n = 2 then some .filler
  else if 3 ≤ n && n ≤ 7 then some (.letter (n - 3))
  else if 10 ≤ n && n ≤ 15 then some (.letter (n - 5))
  else if 18 ≤ n && n ≤ 23 then some (.letter (n - 7))
  else if 26 ≤ n && n ≤ 29 then some (.letter (n - 9))
  else none

def finalPart? (n : Nat) : Option Part :=
  if n = 1 then some .filler
  else if 2 ≤ n && n ≤ 17 then some (.letter (n - 2))
  else if 19 ≤ n && n ≤ 29 then some (.letter (n - 3))
  else none

/-- A syllable, or a letter of its own, from sixteen bits. -/
def assembled? (n : Nat) : Option Char := do
  match ← initialPart? (n / 1024 % 32), ← medialPart? (n / 32 % 32), ← finalPart? (n % 32) with
  | .filler, .filler, .filler => some '\u3000'
  | .filler, .filler, .letter k => finals[k]?
  | .filler, .letter j, .filler => medials[j]?
  | .letter i, .filler, .filler => initials[i]?
  | .letter i, .letter j, .filler => some (syllable i j 0)
  | .letter i, .letter j, .letter k => some (syllable i j (k + 1))
  | _, _, _ => none

/-- Other characters of KS X 1001, two of its rows to a row. -/
def rearranged? (b c : Nat) : Option Char :=
  if b < 0xd9 || b = 0xdf || 0xf9 < b || c < 0x31 || 0x80 ≤ c && c < 0x91 || c % 0x80 = 0x7f ||
      b = 0xda && 0xa1 ≤ c && c ≤ 0xd3 then none
  else
    let row := if b < 0xe0 then 2 * (b - 0xd9) else 2 * b - 0x197
    let column := if c < 0x91 then c - 0x31 else c - 0x43
    Grid.ksx1001.char? (row + column / 94) (column % 94)

def johab? (b c : Nat) : Option Char :=
  if b < 0xd8 then assembled? (b * 256 + c) else rearranged? b c

end SqlRoutes.Encoding.Korean
