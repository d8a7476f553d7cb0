import SqlRoutes.Encoding.Chinese
import SqlRoutes.Encoding.Japanese
import SqlRoutes.Encoding.Korean

namespace SqlRoutes.Encoding

inductive DoubleByte where
  | gb2312
  | gbk
  | gb18030
  | big5
  | cp950
  | hkscs
  | eucKr
  | cp949
  | johab
  | shiftJis
  | cp932
  | shiftJisx0213 (issue : Japanese.Issue)
  | eucJp
  | eucJisx0213 (issue : Japanese.Issue)
  deriving DecidableEq, Repr

namespace DoubleByte

def name : DoubleByte → String
  | .gb2312 => "gb2312"
  | .gbk => "gbk"
  | .gb18030 => "gb18030"
  | .big5 => "big5"
  | .cp950 => "cp950"
  | .hkscs => "big5hkscs"
  | .eucKr => "euc_kr"
  | .cp949 => "cp949"
  | .johab => "johab"
  | .shiftJis => "shift_jis"
  | .cp932 => "cp932"
  | .shiftJisx0213 .first => "shift_jisx0213"
  | .shiftJisx0213 .second => "shift_jis_2004"
  | .eucJp => "euc_jp"
  | .eucJisx0213 .first => "euc_jisx0213"
  | .eucJisx0213 .second => "euc_jis_2004"

def all : List DoubleByte :=
  [.gb2312, .gbk, .gb18030, .big5, .cp950, .hkscs, .eucKr, .cp949, .johab, .shiftJis, .cp932,
   .shiftJisx0213 .first, .shiftJisx0213 .second, .eucJp, .eucJisx0213 .first,
   .eucJisx0213 .second]

abbrev Start := Front Unit

def single (c : Char) : Start := .letters [c] 1 ()

def letters (text? : Option (List Char)) (length : Nat) : Start :=
  match text? with
  | some text => .letters text length ()
  | none => .meaningless 1

def paired (text? : Nat → Nat → Option (List Char)) (b : UInt8) (rest : List UInt8) : Start :=
  if b.toNat < 0x80 then single (Char.ofNat b.toNat)
  else
    match rest with
    | [] => .cut
    | c :: _ => letters (text? b.toNat c.toNat) 2

def pairedLetters (char? : Nat → Nat → Option Char) : UInt8 → List UInt8 → Start :=
  paired fun b c => (char? b c).map ([·])

def gb18030Front (b : UInt8) (rest : List UInt8) : Start :=
  match rest with
  | c :: more =>
    if 0x80 ≤ b.toNat && Chinese.isFurther c.toNat then
      match more with
      | d :: e :: _ =>
        letters ((Chinese.gb18030Long? b.toNat c.toNat d.toNat e.toNat).map ([·])) 4
      | _ => .cut
    else pairedLetters Chinese.gb18030? b rest
  | [] => pairedLetters Chinese.gb18030? b rest

/-- A filler begins a syllable that is written letter by letter, each in two bytes. -/
def eucKrFront (b : UInt8) (rest : List UInt8) : Start :=
  match rest with
  | 0xd4 :: more =>
    if b = 0xa4 then
      match more with
      | p :: initial :: q :: medial :: r :: final :: _ =>
        if p = 0xa4 && q = 0xa4 && r = 0xa4 then
          letters ((Korean.spelled? initial.toNat medial.toNat final.toNat).map ([·])) 8
        else .meaningless 1
      | _ => .cut
    else pairedLetters Korean.ksx1001? b rest
  | rest => pairedLetters Korean.ksx1001? b rest

/-- Bytes that are letters alone, and bytes that begin pairs; the others have no meaning. -/
def shifted (alone? : Nat → Option Char) (begins : Nat → Bool) (pair : Nat → Nat → Start)
    (b : UInt8) (rest : List UInt8) : Start :=
  match alone? b.toNat with
  | some c => single c
  | none =>
    if begins b.toNat then
      match rest with
      | [] => .cut
      | c :: _ =>
        match Japanese.shifted? b.toNat c.toNat with
        | some (row, column) => pair row column
        | none => .meaningless 1
    else .meaningless 1

def ascii? (b : Nat) : Option Char := if b < 0x80 then some (Char.ofNat b) else none

def roman? (b : Nat) : Option Char :=
  if b = 0x5c then some '¥' else if b = 0x7e then some '‾' else ascii? b

def shiftJisFront : UInt8 → List UInt8 → Start :=
  shifted (fun b => ascii? b <|> Japanese.halfWidth? b)
    (fun b => 0x81 ≤ b && b ≤ 0x9f || 0xe0 ≤ b && b ≤ 0xea)
    fun row column => letters ((Japanese.jisx0208? row column).map ([·])) 2

def cp932Front : UInt8 → List UInt8 → Start :=
  let own? (b : Nat) : Option Char :=
    if b = 0x80 then some '\u0080'
    else if b = 0xa0 then some '\uf8f0'
    else if 0xfd ≤ b then some (Char.ofNat (0xf8f1 + (b - 0xfd)))
    else none
  shifted (fun b => ascii? b <|> Japanese.halfWidth? b <|> own? b) (fun _ => true)
    fun row column => letters ((Japanese.cp932? row column).map ([·])) 2

/-- The character of a place in the first plane. One that was added late is not known as such, but
its two bytes are taken together. -/
def plane1 (issue : Japanese.Issue) (row column : Nat) : Start :=
  if Japanese.isLate issue row column then .meaningless 2
  else letters (Japanese.plane1? issue row column) 2

def shiftJisx0213Front (issue : Japanese.Issue) : UInt8 → List UInt8 → Start :=
  shifted (fun b => roman? b <|> Japanese.halfWidth? b)
    (fun b => 0x81 ≤ b && b ≤ 0x9f || 0xe0 ≤ b && b ≤ 0xfc)
    fun row column =>
      if row = 0 && column = 31 then letters (some ['\\']) 2
      else if row = 1 && column = 17 then letters (some ['~']) 2
      else if row < 94 then plane1 issue row column
      else letters ((Japanese.plane2? issue (Japanese.secondRow row) column).map ([·])) 2

/-- One byte announces half-width letters, another one sequences of three bytes. -/
def eucFront (pair : Nat → Nat → Start) (third? : Nat → Nat → Option Char) (b : UInt8)
    (rest : List UInt8) : Start :=
  let place (b : UInt8) : Nat := b.toNat - 0xa1
  if b.toNat < 0x80 then single (Char.ofNat b.toNat)
  else
    match rest with
    | [] => .cut
    | c :: more =>
      if b = 0x8e then letters ((Japanese.halfWidth? c.toNat).map ([·])) 2
      else if b = 0x8f then
        match more with
        | [] => .cut
        | d :: _ =>
          if 0xa1 ≤ c.toNat && 0xa1 ≤ d.toNat then
            letters ((third? (place c) (place d)).map ([·])) 3
          else .meaningless 1
      else if 0xa1 ≤ b.toNat && 0xa1 ≤ c.toNat then pair (place b) (place c)
      else .meaningless 1

def eucJpFront : UInt8 → List UInt8 → Start :=
  eucFront (fun row column => letters ((Japanese.jisx0208? row column).map ([·])) 2)
    Japanese.jisx0212?

def eucJisx0213Front (issue : Japanese.Issue) : UInt8 → List UInt8 → Start :=
  eucFront (plane1 issue) fun row column =>
    Japanese.plane2? issue row column <|> Japanese.jisx0212? row column

def front : DoubleByte → UInt8 → List UInt8 → Start
  | .gb2312 => pairedLetters Chinese.gb2312?
  | .gbk => pairedLetters Chinese.gbk?
  | .gb18030 => gb18030Front
  | .big5 => pairedLetters Chinese.big5?
  | .cp950 => pairedLetters Chinese.cp950?
  | .hkscs => paired Chinese.hkscs?
  | .eucKr => eucKrFront
  | .cp949 => pairedLetters Korean.cp949?
  | .johab => pairedLetters Korean.johab?
  | .shiftJis => shiftJisFront
  | .cp932 => cp932Front
  | .shiftJisx0213 issue => shiftJisx0213Front issue
  | .eucJp => eucJpFront
  | .eucJisx0213 issue => eucJisx0213Front issue

def decode (scheme : DoubleByte) : List UInt8 → Except Fault (List Char) :=
  Front.decode scheme.name (fun _ => scheme.front) ()

end DoubleByte

end SqlRoutes.Encoding
