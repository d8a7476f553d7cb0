import SqlRoutes.Encoding.CodePage
import SqlRoutes.Encoding.DoubleByte

namespace SqlRoutes.Encoding.Shifted

inductive Repertoire where
  | ascii
  | roman
  | halfWidth
  | latin
  | greek
  | jisx0208
  | jisx0212
  | gb2312
  | ksx1001
  | plane1 (issue : Japanese.Issue)
  | plane2 (issue : Japanese.Issue)
  deriving DecidableEq, Repr

namespace Repertoire

def width : Repertoire → Nat
  | .ascii | .roman | .halfWidth | .latin | .greek => 1
  | _ => 2

def narrow? (repertoire : Repertoire) (b : UInt8) : Option Char :=
  match repertoire with
  | .roman => DoubleByte.roman? b.toNat
  | .halfWidth => Japanese.halfWidth? (b.toNat + 0x80)
  | _ => none

def wide? (repertoire : Repertoire) (b c : UInt8) : Option (List Char) :=
  let one (char? : Nat → Nat → Option Char) : Option (List Char) :=
    if 0x21 ≤ b.toNat && 0x21 ≤ c.toNat then
      (char? (b.toNat - 0x21) (c.toNat - 0x21)).map ([·])
    else none
  match repertoire with
  | .jisx0208 => one Japanese.jisx0208?
  | .jisx0212 => one Japanese.jisx0212?
  | .gb2312 => one fun row column => Chinese.gb2312? (row + 0xa1) (column + 0xa1)
  | .ksx1001 => one Grid.ksx1001.char?
  | .plane1 issue =>
    if b.toNat < 0x21 || c.toNat < 0x21 then none
    else if b = 0x22 && c = 0x32 then some ['~']
    else Japanese.plane1? issue (b.toNat - 0x21) (c.toNat - 0x21)
  | .plane2 issue => one (Japanese.plane2? issue)
  | _ => none

end Repertoire

/-- How an encoding lets its reader choose: sets by the mark that names them, and those of two bytes
by another mark; whether two control characters switch between two sets; whether a third set can be
had for single characters; and whether a set may have another issue. -/
structure Scheme where
  name : String
  narrow : List (Char × Repertoire)
  wide : List (Char × Repertoire)
  switches : Bool := false
  third : Bool := false
  reissued : Bool := false
  deriving DecidableEq, Repr

/-- The chosen sets, the second of which is in use when it has been `shifted` to, and whether an
unknown sequence is being skipped. -/
structure State where
  first : Repertoire := .ascii
  second : Repertoire := .ascii
  third : Repertoire := .ascii
  shifted : Bool := false
  skipping : Bool := false
  deriving DecidableEq, Repr

def isFinal (b : UInt8) : Bool := 0x40 ≤ b.toNat && b.toNat ≤ 0x5a

/-- The length of a sequence after its first byte: up to a final byte, among at most fifteen bytes.
None if the bytes end before it; zero if there is no final byte. The announcement of another issue
does not end it. -/
def sequenceLength? (scheme : Scheme) : Nat → Nat → List UInt8 → Option Nat
  | 0, _, _ => some 0
  | _, _, [] => none
  | bound + 1, before, b :: rest =>
    if isFinal b then some (before + 1)
    else if scheme.reissued && b = 0x26 && rest.head? = some 0x40 then
      sequenceLength? scheme (bound - 2) (before + 3) (rest.drop 2)
    else sequenceLength? scheme bound (before + 1) rest

/-- The set that a sequence of bytes after the escape chooses, and the place it takes. -/
def choice? (scheme : Scheme) (sequence : List Char) : Option (Fin 3 × Repertoire) := do
  let narrow (mark : Char) : Option Repertoire :=
    if mark = 'B' then some .ascii else scheme.narrow.lookup mark
  match sequence with
  | ['$', mark] => return (0, ← scheme.wide.lookup mark)
  | ['(', mark] => return (0, ← narrow mark)
  | [')', mark] => return (1, ← narrow mark)
  | ['.', mark] => if scheme.third then return (2, ← narrow mark) else none
  | ['$', '(', mark] => return (0, ← scheme.wide.lookup mark)
  | ['$', ')', mark] => return (1, ← scheme.wide.lookup mark)
  | [_, _, '\x1b', '$', 'B'] => if scheme.reissued then return (0, .jisx0208) else none
  | _ => none

def State.choose (state : State) (place : Fin 3) (repertoire : Repertoire) : State :=
  match place with
  | 0 => { state with first := repertoire }
  | 1 => { state with second := repertoire }
  | 2 => { state with third := repertoire }

def chosen (scheme : Scheme) (state : State) (rest : List UInt8) : Front State :=
  match sequenceLength? scheme 15 0 rest with
  | none => .cut
  | some 0 => .meaningless 1
  | some length =>
    let sequence := (rest.take length).map fun b => Char.ofNat b.toNat
    match choice? scheme sequence with
    | some (place, repertoire) => .letters [] (length + 1) (state.choose place repertoire)
    | none => .meaningless (length + 1)

/-- The Greek letters of a page of eight bits, by their bytes. -/
def greek? (b : UInt8) : Option Char := do
  let page ← CodePage.ofName? "iso8859_7"
  let old := [0xa4, 0xa5, 0xaa]
  if old.contains b.toNat then none else CodePage.char? page.characters b

def fromThird (state : State) (b : UInt8) : Front State :=
  let high := b.toNat + 0x80
  match state.third with
  | .latin => if b.toNat < 0x80 then .letters [Char.ofNat high] 3 state else .meaningless 3
  | .greek =>
    .ofLetter state 3 (if b.toNat < 0x80 then greek? (UInt8.ofNat high) else
      some (Char.ofNat (b.toNat - 0x80))) 3
  | _ => if b.toNat < 0x80 then .letters [Char.ofNat b.toNat] 3 state else .meaningless 3

def plain (state : State) (b : UInt8) (rest : List UInt8) : Front State :=
  let repertoire := if state.shifted then state.second else state.first
  if repertoire = .ascii then .letters [Char.ofNat b.toNat] 1 state
  else if repertoire.width = 1 then .ofLetter state 1 (repertoire.narrow? b) 1
  else
    match rest with
    | [] => .cut
    | c :: _ =>
      match repertoire.wide? b c with
      | some text => .letters text 2 state
      | none => .meaningless 2

def front (scheme : Scheme) (state : State) (b : UInt8) (rest : List UInt8) : Front State :=
  let itself (state : State) : Front State := .letters [Char.ofNat b.toNat] 1 state
  if state.skipping then itself { state with skipping := !isFinal b }
  else if b = 0x1b then
    match rest with
    | [] => .cut
    | c :: more =>
      if [0x28, 0x29, 0x24, 0x2e, 0x26].contains c.toNat then chosen scheme state rest
      else if scheme.third && c = 0x4e then
        match more with
        | [] => .cut
        | d :: _ => fromThird state d
      else itself { state with skipping := true }
  else if scheme.switches && (b = 0x0e || b = 0x0f) then
    .letters [] 1 { state with shifted := b = 0x0e }
  else if b = 0x0a then itself { state with shifted := false }
  else if b.toNat < 0x20 then itself state
  else if 0x80 ≤ b.toNat then .meaningless 1
  else plain state b rest

def schemes : List Scheme :=
  let old : List (Char × Repertoire) := [('B', .jisx0208), ('@', .jisx0208)]
  let later (issue : Japanese.Issue) (mark : Char) : List (Char × Repertoire) :=
    [(mark, .plane1 issue), ('B', .jisx0208), ('P', .plane2 issue)]
  [{ name := "iso2022_kr", narrow := [], wide := [('C', .ksx1001)], switches := true },
   { name := "iso2022_jp", narrow := [('J', .roman)], wide := old, reissued := true },
   { name := "iso2022_jp_1", narrow := [('J', .roman)], wide := ('D', .jisx0212) :: old
     reissued := true },
   { name := "iso2022_jp_2", narrow := [('J', .roman), ('A', .latin), ('F', .greek)]
     wide := ('D', .jisx0212) :: ('C', .ksx1001) :: ('A', .gb2312) :: old
     third := true, reissued := true },
   { name := "iso2022_jp_2004", narrow := [], wide := later .second 'Q', reissued := true },
   { name := "iso2022_jp_3", narrow := [], wide := later .first 'O', reissued := true },
   { name := "iso2022_jp_ext", narrow := [('J', .roman), ('I', .halfWidth)]
     wide := ('D', .jisx0212) :: old, reissued := true }]

def decode (scheme : Scheme) : List UInt8 → Except Fault (List Char) :=
  Front.decode scheme.name (front scheme) {}

/-- Text between tildes with braces is in the Chinese set; a tilde before a line end continues the
line. -/
def bracedFront (chinese : Bool) (b : UInt8) (rest : List UInt8) : Front Bool :=
  if b = 0x7e then
    match rest with
    | [] => .cut
    | c :: _ =>
      if chinese then if c = 0x7d then .letters [] 2 false else .meaningless 1
      else if c = 0x7e then .letters ['~'] 2 false
      else if c = 0x7b then .letters [] 2 true
      else if c = 0x0a then .letters [] 2 false
      else .meaningless 1
  else if 0x80 ≤ b.toNat then .meaningless 1
  else if chinese then
    match rest with
    | [] => .cut
    | c :: _ =>
      .ofLetter true 2 (if c.toNat < 0x80 then Chinese.gb2312? (b.toNat + 0x80) (c.toNat + 0x80)
        else none) 1
  else .letters [Char.ofNat b.toNat] 1 false

def decodeBraced : List UInt8 → Except Fault (List Char) :=
  Front.decode "hz" bracedFront false

end SqlRoutes.Encoding.Shifted
