import SqlRoutes.Value.Scalar

namespace SqlRoutes.Yaml

inductive Tag where
  | null
  | bool
  | int
  | float
  | binary
  | timestamp
  | omap
  | pairs
  | set
  | str
  | seq
  | map
  | merge
  | value
  | other (name : List Char)
  deriving DecidableEq, Repr

namespace Tag

def names : List (String × Tag) :=
  [("null", .null), ("bool", .bool), ("int", .int), ("float", .float), ("binary", .binary),
   ("timestamp", .timestamp), ("omap", .omap), ("pairs", .pairs), ("set", .set), ("str", .str),
   ("seq", .seq), ("map", .map), ("merge", .merge), ("value", .value)]

def ofName (name : List Char) : Tag :=
  let named := names.find? fun entry => ("tag:yaml.org,2002:" ++ entry.1).toList = name
  (named.map (·.2)).getD (.other name)

/-- Values with items or entries, which are filled in after the value itself exists. -/
def isCollection : Tag → Bool
  | .seq | .map | .set | .omap | .pairs => true
  | _ => false

def boolWords : List String :=
  ["yes", "Yes", "YES", "no", "No", "NO", "true", "True", "TRUE", "false", "False", "FALSE",
   "on", "On", "ON", "off", "Off", "OFF"]

def nullWords : List String := ["", "~", "null", "Null", "NULL"]

def unsigned (text : List Char) : List Char := (Decimal.takeSign text).2

def isNumeral : List Char → Bool
  | [] => false
  | c :: rest => c.isDigit && rest.all fun c => c.isDigit || c = '_'

def isSixtieth : List Char → Bool
  | [c] => c.isDigit
  | [c, d] => '0' ≤ c && c ≤ '5' && d.isDigit
  | _ => false

def isExponent : List Char → Bool
  | [] => true
  | e :: sign :: digits =>
    (e = 'e' || e = 'E') && (sign = '-' || sign = '+') && !digits.isEmpty &&
      digits.all Char.isDigit
  | _ => false

/-- Digits and underscores after a point, then possibly an exponent. -/
def isFractionTail (text : List Char) : Bool :=
  isExponent (text.dropWhile fun c => c.isDigit || c = '_')

def isInt (text : List Char) : Bool :=
  match unsigned text with
  | ['0'] => true
  | '0' :: 'b' :: rest => !rest.isEmpty && rest.all fun c => c = '0' || c = '1' || c = '_'
  | '0' :: 'x' :: rest =>
    !rest.isEmpty && rest.all fun c => c = '_' || (Scalar.digit? 16 c).isSome && c.toNat < 128
  | '0' :: rest => rest.all fun c => ('0' ≤ c && c ≤ '7') || c = '_'
  | text =>
    match Scalar.parts text with
    | [] => false
    | whole :: places => isNumeral whole && places.all isSixtieth

def isFloat (text : List Char) : Bool :=
  let body := unsigned text
  match body with
  | '.' :: rest =>
    let name := String.ofList rest
    ["inf", "Inf", "INF"].contains name ||
      (body = text && (["nan", "NaN", "NAN"].contains name ||
        (rest.head?.any Char.isDigit && isFractionTail rest)))
  | body =>
    match Text.cut? '.' body with
    | none => false
    | some (before, after) =>
      match Scalar.parts before with
      | [whole] => isNumeral whole && isFractionTail after
      | whole :: places =>
        isNumeral whole && places.all isSixtieth && after.all fun c => c.isDigit || c = '_'
      | [] => false

def isTimestamp (text : List Char) : Bool :=
  match Scalar.stamp? text with
  | none => false
  | some stamp => stamp.clock.isSome || text.length = 10

/-- The tag of a plain scalar without one. A line break at the end does not count. -/
def ofPlain (text : List Char) : Tag :=
  let text := Scalar.dropFinalBreak text
  let word := String.ofList text
  if boolWords.contains word then .bool
  else if isFloat text then .float
  else if isInt text then .int
  else if word = "<<" then .merge
  else if nullWords.contains word then .null
  else if isTimestamp text then .timestamp
  else if word = "=" then .value
  else .str

end Tag

end SqlRoutes.Yaml
