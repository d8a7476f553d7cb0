import SqlRoutes.Encoding.Front
import SqlRoutes.Encoding.Grid.Big5
import SqlRoutes.Encoding.Grid.Gb18030
import SqlRoutes.Encoding.Grid.Hkscs

namespace SqlRoutes.Encoding.Chinese

def gbColumn? (c : Nat) : Option Nat :=
  if 0x40 ≤ c && c ≤ 0x7e then some (c - 0x40)
  else if 0x80 ≤ c && c ≤ 0xfe then some (c - 0x41)
  else none

def private? (b c : Nat) : Option Char :=
  if 0xaa ≤ b && b ≤ 0xaf && 0xa1 ≤ c then
    some (Char.ofNat (0xe000 + (b - 0xaa) * 94 + (c - 0xa1)))
  else if 0xf8 ≤ b && 0xa1 ≤ c then some (Char.ofNat (0xe234 + (b - 0xf8) * 94 + (c - 0xa1)))
  else if 0xa1 ≤ b && b ≤ 0xa7 && c ≤ 0xa0 then
    (gbColumn? c).map fun column => Char.ofNat (0xe4c6 + (b - 0xa1) * 96 + column)
  else none

def gb18030? (b c : Nat) : Option Char := do
  guard (0x81 ≤ b && b ≤ 0xfe)
  let column ← gbColumn? c
  private? b c <|> Grid.gb18030.char? (b - 0x81) column

def isPrivate (c : Char) : Bool := 0xe000 ≤ c.toNat && c.toNat ≤ 0xf8ff

def gbk? (b c : Nat) : Option Char :=
  (gb18030? b c).filter fun char => !isPrivate char && !Grid.sinceGbk.contains char

def gb2312? (b c : Nat) : Option Char :=
  if b < 0xa1 || 0xf7 < b || c < 0xa1 then none
  else if b = 0xa1 && c = 0xa4 then some '・'
  else if b = 0xa1 && c = 0xaa then some '―'
  else (gbk? b c).filter fun char => !Grid.sinceGb2312.contains char

/-- The character of GB 18030 with a number, among those of four bytes. -/
def numbered? (n : Nat) : Option Char :=
  if n < 39420 then
    (Grid.gb18030Ranges.reverse.find? (·.1 ≤ n)).map fun range =>
      Char.ofNat (range.2 + (n - range.1))
  else if 189000 ≤ n && n - 189000 < 0x100000 then some (Char.ofNat (0x10000 + (n - 189000)))
  else none

def isFurther (c : Nat) : Bool := 0x30 ≤ c && c ≤ 0x39

/-- The character of four bytes, the second and the fourth of which are digits. -/
def gb18030Long? (b c d e : Nat) : Option Char :=
  if 0x81 ≤ b && b ≤ 0xfe && 0x81 ≤ d && d ≤ 0xfe && isFurther e then
    numbered? ((((b - 0x81) * 10 + (c - 0x30)) * 126 + (d - 0x81)) * 10 + (e - 0x30))
  else none

def big5Column? (c : Nat) : Option Nat :=
  if 0x40 ≤ c && c ≤ 0x7e then some (c - 0x40)
  else if 0xa1 ≤ c && c ≤ 0xfe then some (c - 0xa1 + 63)
  else none

/-- Big5, and the places in its rows that it leaves to code pages. -/
def big5Full? (b c : Nat) : Option Char := do
  guard (0xa1 ≤ b)
  Grid.big5.char? (b - 0xa1) (← big5Column? c)

def big5? (b c : Nat) : Option Char :=
  if b = 0xf9 && 0xd6 ≤ c || b = 0xa3 && c = 0xe1 then none else big5Full? b c

def cp950? (b c : Nat) : Option Char := do
  let column ← big5Column? c
  match Grid.cp950Own.find? fun own => own.1 = b - 0xa1 && own.2.1 = column with
  | some own => if 0xa1 ≤ b then some own.2.2 else none
  | none => big5Full? b c

/-- Letters of the Hong Kong set with a mark that is a character of its own. -/
def marked? (b c : Nat) : Option (List Char) :=
  if b ≠ 0x88 then none
  else if c = 0x62 then some ['Ê', '\u0304']
  else if c = 0x64 then some ['Ê', '\u030c']
  else if c = 0xa3 then some ['ê', '\u0304']
  else if c = 0xa5 then some ['ê', '\u030c']
  else none

def hkscs? (b c : Nat) : Option (List Char) := do
  let column ← big5Column? c
  let single : Option Char :=
    if 0x87 ≤ b && b ≤ 0xa0 then Grid.hkscsFront.char? (b - 0x87) column
    else if 0xc6 ≤ b && b ≤ 0xc8 then Grid.hkscsMiddle.char? (b - 0xc6) column
    else if 0xf9 ≤ b && b ≤ 0xfe then Grid.hkscsEnd.char? (b - 0xf9) column
    else big5? b c
  marked? b c <|> single.map ([·])

end SqlRoutes.Encoding.Chinese
