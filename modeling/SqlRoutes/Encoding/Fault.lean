import SqlRoutes.Text.Quoted

namespace SqlRoutes.Encoding

inductive Reason where
  | invalidStart
  | invalidContinuation
  | unexpectedEnd
  | truncated
  | illegalEncoding
  | illegalSurrogate
  | outOfRange
  | unmapped
  | surrogateCode
  | wideCode
  | partialLetter
  | paddingBits
  | illFormed
  | specialCharacter
  | unterminatedRun
  | finalBackslash
  | truncatedEscape (letter : Char) (length : Nat)
  | wideEscape
  | illegalCharacter
  | malformedName
  | unknownName
  | cutSequence
  | meaningless
  deriving DecidableEq, Repr

def Reason.text : Reason → String
  | .invalidStart => "invalid start byte"
  | .invalidContinuation => "invalid continuation byte"
  | .unexpectedEnd => "unexpected end of data"
  | .truncated => "truncated data"
  | .illegalEncoding => "illegal encoding"
  | .illegalSurrogate => "illegal UTF-16 surrogate"
  | .outOfRange => "ordinal not in range(128)"
  | .unmapped => "character maps to <undefined>"
  | .surrogateCode => "code point in surrogate code point range(0xd800, 0xe000)"
  | .wideCode => "code point not in range(0x110000)"
  | .partialLetter => "partial character in shift sequence"
  | .paddingBits => "non-zero padding bits in shift sequence"
  | .illFormed => "ill-formed sequence"
  | .specialCharacter => "unexpected special character"
  | .unterminatedRun => "unterminated shift sequence"
  | .finalBackslash => "\\ at end of string"
  | .truncatedEscape letter length =>
    let digits := String.ofList (List.replicate length 'X')
    s!"truncated \\{letter}{digits} escape"
  | .wideEscape => "\\Uxxxxxxxx out of range"
  | .illegalCharacter => "illegal Unicode character"
  | .malformedName => "malformed \\N character escape"
  | .unknownName => "unknown Unicode character name"
  | .cutSequence => "incomplete multibyte sequence"
  | .meaningless => "illegal multibyte sequence"

/-- The bytes from `start` to before `stop` cannot be read; `first` is the first of them. -/
structure Fault where
  encoding : String
  first : UInt8
  start : Nat
  stop : Nat
  reason : Reason
  deriving DecidableEq, Repr

def Fault.message (fault : Fault) : String :=
  let place :=
    if fault.stop = fault.start + 1 then
      s!"byte 0x{String.ofList (Text.hexDigits 2 fault.first.toNat)} in position {fault.start}"
    else s!"bytes in position {fault.start}-{fault.stop - 1}"
  s!"'{fault.encoding}' codec can't decode {place}: {fault.reason.text}"

end SqlRoutes.Encoding
