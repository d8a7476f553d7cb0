import SqlRoutes.Text.Names.Latin
import SqlRoutes.Text.Names.European
import SqlRoutes.Text.Names.Arabic
import SqlRoutes.Text.Names.WestAsian
import SqlRoutes.Text.Names.African
import SqlRoutes.Text.Names.American
import SqlRoutes.Text.Names.SouthAsian
import SqlRoutes.Text.Names.SoutheastAsian
import SqlRoutes.Text.Names.CentralAsian
import SqlRoutes.Text.Names.EastAsian
import SqlRoutes.Text.Names.Ancient
import SqlRoutes.Text.Names.Marks
import SqlRoutes.Text.Names.Mathematical
import SqlRoutes.Text.Names.Technical
import SqlRoutes.Text.Names.Musical
import SqlRoutes.Text.Names.Signing
import SqlRoutes.Text.Names.Pictorial
import SqlRoutes.Text.Names.Further

/-!
Characters by their names in the character standard, version 14. Most names stand in tables, in
which case does not matter; those of Hangul syllables and unified ideographs follow a rule and are
in capitals.
-/
namespace SqlRoutes.Text.Names

def numbered : List Numbered :=
  [⟨0xf900, 366, "CJK_COMPATIBILITY_IDEOGRAPH-", 16, 4, 0xf900⟩,
   ⟨0xfa70, 106, "CJK_COMPATIBILITY_IDEOGRAPH-", 16, 4, 0xfa70⟩,
   ⟨0x2f800, 542, "CJK_COMPATIBILITY_IDEOGRAPH-", 16, 4, 0x2f800⟩,
   ⟨0xfe00, 16, "VARIATION_SELECTOR-", 10, 1, 1⟩,
   ⟨0xe0100, 240, "VARIATION_SELECTOR-", 10, 1, 17⟩,
   ⟨0xfe00, 16, "VS", 10, 1, 1⟩,
   ⟨0xe0100, 240, "VS", 10, 1, 17⟩,
   ⟨0x18800, 768, "TANGUT_COMPONENT-", 10, 3, 1⟩,
   ⟨0x18b00, 470, "KHITAN_SMALL_SCRIPT_CHARACTER-", 16, 4, 0x18b00⟩,
   ⟨0x1b170, 396, "NUSHU_CHARACTER-", 16, 4, 0x1b170⟩]

def tables : List (List Series) :=
  [latin, european, arabic, westAsian, african, american, southAsian, southeastAsian, centralAsian,
   eastAsian, ancient, marks, mathematical, technical, musical, signing, pictorial]

def leads : List String :=
  ["G", "GG", "N", "D", "DD", "R", "M", "B", "BB", "S", "SS", "", "J", "JJ", "C", "K", "T", "P", "H"]

def vowels : List String :=
  ["A", "AE", "YA", "YAE", "EO", "E", "YEO", "YE", "O", "WA", "WAE", "OE", "YO", "U", "WEO", "WE",
   "WI", "YU", "EU", "YI", "I"]

def tails : List String :=
  ["", "G", "GG", "GS", "N", "NJ", "NH", "D", "L", "LG", "LM", "LB", "LS", "LT", "LP", "LH", "M",
   "B", "BS", "S", "SS", "NG", "J", "C", "K", "T", "P", "H"]

/-- A Hangul syllable is named by the sounds of its parts, of which the first and the last may have
none. -/
def syllable? (name : List Char) : Option Char := do
  let sounds ← ending? "HANGUL SYLLABLE " name
  leads.zipIdx.findSome? fun (lead, i) => do
    let sounds ← ending? lead sounds
    vowels.zipIdx.findSome? fun (vowel, j) => do
      let sounds ← ending? vowel sounds
      let k ← tails.idxOf? (.ofList sounds)
      return Char.ofNat (0xac00 + (i * vowels.length + j) * tails.length + k)

def ideographs : List (Nat × Nat) :=
  [(0x3400, 0x4dbf), (0x4e00, 0x9fff), (0x20000, 0x2a6df), (0x2a700, 0x2b738), (0x2b740, 0x2b81d),
   (0x2b820, 0x2cea1), (0x2ceb0, 0x2ebe0), (0x30000, 0x3134a)]

/-- A unified ideograph is named by its number in four or five digits. -/
def ideograph? (name : List Char) : Option Char := do
  let digits ← ending? "CJK UNIFIED IDEOGRAPH-" name
  guard (digits.length = 4 || digits.length = 5)
  let number ← digits.foldlM (fun number c =>
    ("0123456789ABCDEF".toList.idxOf? c).map (number * 16 + ·)) 0
  guard (ideographs.any fun (first, last) => first ≤ number && number ≤ last)
  return Char.ofNat number

def written? (name : List Char) : Option (List Char) :=
  if name.any fun c => c = '_' || c = '�' then none
  else some (name.map fun c => if c = ' ' then '_' else c.toUpper)

def listed? (name : List Char) : Option Char := do
  let name ← written? name
  tables.findSome? (·.findSome? (·.find? name)) <|>
    numbered.findSome? (·.find? name) <|>
    furtherNames.findSome? fun (number, names) =>
      if (names.splitOn " ").contains (.ofList name) then some (Char.ofNat number) else none

def find? (name : List Char) : Option Char := syllable? name <|> ideograph? name <|> listed? name

end SqlRoutes.Text.Names
