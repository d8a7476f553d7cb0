import SqlRoutes.Encoding.CodePage
import SqlRoutes.Encoding.Escape
import SqlRoutes.Encoding.HostName
import SqlRoutes.Encoding.Name
import SqlRoutes.Encoding.Shifted
import SqlRoutes.Encoding.Utf32
import SqlRoutes.Encoding.Utf7
import SqlRoutes.Encoding.Utf8

namespace SqlRoutes

inductive Charset where
  | utf8
  | utf8Marked
  | utf7
  | utf16 (order : Encoding.Utf16.Order)
  | utf16Marked
  | utf32 (order : Encoding.Utf16.Order)
  | utf32Marked
  | ascii
  | latin1
  | page (codes : Encoding.CodePage)
  | escaped (raw : Bool)
  | doubleByte (scheme : Encoding.DoubleByte)
  | shifted (scheme : Encoding.Shifted.Scheme)
  | braced
  | punycode
  | hostName
  /-- An encoding that no bytes are in. -/
  | empty
  deriving DecidableEq, Repr

namespace Charset

inductive Error where
  | zeroInName
  | unknown (name : String)
  /-- What the name stands for turns bytes into bytes. -/
  | noText (name : String)
  | undecodable (fault : Encoding.Fault)
  | punycode (e : Encoding.Punycode.Error)
  | hostName (e : Encoding.HostName.Error)
  | unmarked (width : Nat)
  | empty
  /-- Half of a surrogate pair is in the text, which is no character here. -/
  | surrogate
  deriving DecidableEq, Repr

def Error.message : Error → String
  | .zeroInName => "embedded null character"
  | .unknown name => s!"unknown encoding: {name}"
  | .noText name =>
    s!"'{name}' is not a text encoding; use codecs.open() to handle arbitrary codecs"
  | .undecodable fault => fault.message
  | .punycode e => e.message
  | .hostName e => e.message
  | .unmarked width => s!"UTF-{width} stream does not start with BOM"
  | .empty => "undefined encoding"
  | .surrogate => "surrogate without its other half"

def table : List (String × Charset) :=
  [("utf_8", .utf8), ("utf_8_sig", .utf8Marked), ("utf_7", .utf7), ("ascii", .ascii),
   ("latin_1", .latin1), ("iso8859_1", .latin1), ("charmap", .latin1),
   ("utf_16", .utf16Marked), ("utf_16_le", .utf16 .little), ("utf_16_be", .utf16 .big),
   ("utf_32", .utf32Marked), ("utf_32_le", .utf32 .little), ("utf_32_be", .utf32 .big),
   ("unicode_escape", .escaped false), ("raw_unicode_escape", .escaped true),
   ("hz", .braced), ("punycode", .punycode),
   ("idna", .hostName), ("undefined", .empty)]

def transformations : List String :=
  ["base64_codec", "bz2_codec", "hex_codec", "quopri_codec", "rot_13", "uu_codec", "zlib_codec"]

def ofMainName? (name : String) : Option Charset :=
  table.lookup name <|> (Encoding.CodePage.ofName? name).map .page <|>
    (Encoding.DoubleByte.all.find? (·.name = name)).map .doubleByte <|>
    (Encoding.Shifted.schemes.find? (·.name = name)).map .shifted

/-- The encoding of a name; the word `locale` is another name of the eight-bit format. -/
def ofName (name : String) : Except Error Charset :=
  let meanings := Encoding.Name.meanings name
  if name.toList.contains '\x00' then .error .zeroInName
  else if name = "locale" then .ok .utf8
  else
    match meanings.findSome? ofMainName? with
    | some charset => .ok charset
    | none =>
      if meanings.any transformations.contains then .error (.noText name)
      else .error (.unknown name)

def decodeSingle (label : String) (reason : Encoding.Reason) (char? : UInt8 → Option Char) :
    Nat → List UInt8 → Except Encoding.Fault (List Char)
  | _, [] => .ok []
  | position, b :: rest =>
    match char? b with
    | none => .error ⟨label, b, position, position + 1, reason⟩
    | some c => (decodeSingle label reason char? (position + 1) rest).map (c :: ·)

def asciiChar? (b : UInt8) : Option Char :=
  if b.toNat < 0x80 then some (Char.ofNat b.toNat) else none

/-- Sixteen-bit units after a byte-order mark. Without a mark nothing but the empty text is
accepted, once the bytes are readable in the little order. -/
def decodeMarked16 (bytes : List UInt8) : Except Error (List Char) :=
  match bytes with
  | 0xff :: 0xfe :: rest =>
    (Encoding.Utf16.decodeFrom .little 2 rest).mapError .undecodable
  | 0xfe :: 0xff :: rest =>
    (Encoding.Utf16.decodeFrom .big 2 rest).mapError .undecodable
  | [] => .ok []
  | bytes => do
    let _ ← (Encoding.Utf16.decodeFrom .little 0 bytes).mapError .undecodable
    .error (.unmarked 16)

def decodeMarked32 (bytes : List UInt8) : Except Error (List Char) :=
  match bytes with
  | 0xff :: 0xfe :: 0 :: 0 :: rest =>
    (Encoding.Utf32.decodeFrom .little 4 rest).mapError .undecodable
  | 0 :: 0 :: 0xfe :: 0xff :: rest =>
    (Encoding.Utf32.decodeFrom .big 4 rest).mapError .undecodable
  | [] => .ok []
  | bytes => do
    let _ ← (Encoding.Utf32.decodeFrom .little 0 bytes).mapError .undecodable
    .error (.unmarked 32)

def punycodeError : Encoding.Punycode.Error → Error
  | .fault fault => .undecodable fault
  | e => .punycode e

def hostNameError : Encoding.HostName.Error → Error
  | .fault fault => .undecodable fault
  | e => .hostName e

def ofCodes (codes : List Nat) : Except Error (List Char) :=
  if codes.all (·.isValidChar) then .ok (codes.map Char.ofNat) else .error .surrogate

/-- The text of bytes. An incomplete mark alone is the empty text where a mark may stand. -/
def decode (charset : Charset) (bytes : List UInt8) : Except Error (List Char) :=
  match charset with
  | .utf8 => (Encoding.Utf8.decode bytes).mapError .undecodable
  | .utf8Marked =>
    let body :=
      match bytes with
      | 0xef :: 0xbb :: 0xbf :: rest => rest
      | [0xef] | [0xef, 0xbb] => []
      | bytes => bytes
    (Encoding.Utf8.decode body).mapError .undecodable
  | .ascii => (decodeSingle "ascii" .outOfRange asciiChar? 0 bytes).mapError .undecodable
  | .latin1 => .ok (bytes.map fun b => Char.ofNat b.toNat)
  | .page codes =>
    let char? := Encoding.CodePage.char? codes.characters
    (decodeSingle "charmap" .unmapped char? 0 bytes).mapError .undecodable
  | .utf7 => do ofCodes (← (Encoding.Utf7.decodeFrom 0 none bytes).mapError .undecodable)
  | .utf16 order => (Encoding.Utf16.decodeFrom order 0 bytes).mapError .undecodable
  | .utf16Marked => decodeMarked16 bytes
  | .utf32 order => (Encoding.Utf32.decodeFrom order 0 bytes).mapError .undecodable
  | .utf32Marked => decodeMarked32 bytes
  | .escaped raw => do ofCodes (← (Encoding.Escape.decodeFrom raw 0 bytes).mapError .undecodable)
  | .doubleByte scheme => (scheme.decode bytes).mapError .undecodable
  | .shifted scheme => (Encoding.Shifted.decode scheme bytes).mapError .undecodable
  | .braced => (Encoding.Shifted.decodeBraced bytes).mapError .undecodable
  | .punycode => do ofCodes (← (Encoding.Punycode.codes bytes).mapError punycodeError)
  | .hostName => (Encoding.HostName.decode bytes).mapError hostNameError
  | .empty => .error .empty

end Charset

end SqlRoutes
