import BuilderAudit.Json.Lexer

/-!
# Values of the core tags

A scalar with one of the tags for nulls, truth values, integers and floating point numbers has to be a word of that
type. `hasCoreType` says whether it is.
-/

namespace BuilderAudit.Yaml

def isNullWord (text : List Char) : Bool :=
  ["null", "Null", "NULL", "~"].any fun word => word.toList = text

def isBoolWord (text : List Char) : Bool :=
  ["true", "True", "TRUE", "false", "False", "FALSE"].any fun word => word.toList = text

/-- The value of a digit in a base up to sixteen. -/
def digitValue? (base : Nat) (c : Char) : Option Nat :=
  (hexValue? c).filter (· < base)

/-- The number that digits stand for, if there is at least one digit and nothing else. -/
def natOf? (base : Nat) (digits : List Char) : Option Nat :=
  if digits.isEmpty then none
  else digits.foldlM (fun n c => (digitValue? base c).map (n * base + ·)) 0

/-- The base that a number is written in, and its digits. -/
def splitBase : List Char → Nat × List Char
  | '0' :: 'x' :: digits => (16, digits)
  | '0' :: 'o' :: digits => (8, digits)
  | '0' :: 'b' :: digits => (2, digits)
  | digits => (10, digits)

/-- Is the text a sign and a number below `bound`, or its digits alone? A decimal number has no leading zero. -/
def isNatBelow (bound : Nat) (digits : List Char) : Bool :=
  let (base, ds) := splitBase digits
  let leadingZero := base = 10 && ds.length > 1 && ds.head? = some '0' && ds.all Char.isDigit
  !leadingZero && (natOf? base ds).any (· < bound)

/-- The words for integers of at most 128 bits. -/
def isIntWord : List Char → Bool
  | '-' :: digits => isNatBelow (Nat.pow 2 127 + 1) digits
  | '+' :: digits => isNatBelow (Nat.pow 2 128) digits
  | digits => isNatBelow (Nat.pow 2 128) digits

/-- Is the text a number with a point, an exponent, or neither, in the range of double precision? -/
def isDecimal (text : List Char) : Bool :=
  let (whole, rest) := Json.digits text
  let (places, rest) := match rest with
    | '.' :: rest => Json.digits rest
    | rest => ([], rest)
  match Json.exponent? rest with
  | some (e, []) =>
    !(whole ++ places).isEmpty && !Json.isInfinite (Json.valueOf (whole ++ places)) (e - places.length)
  | _ => false

def isFloatWord (text : List Char) : Bool :=
  let infinities := [".inf", ".Inf", ".INF"]
  let special := infinities ++ infinities.map ("+" ++ ·) ++ infinities.map ("-" ++ ·) ++ [".nan", ".NaN", ".NAN"]
  special.any (fun word => word.toList = text) ||
    isDecimal (match text with | '-' :: rest | '+' :: rest => rest | rest => rest)

/-- Is the text a word of the type that a core tag asks for? Other tags ask for nothing. -/
def hasCoreType (tag text : List Char) : Bool :=
  let is (name : String) : Bool := tag = ("tag:yaml.org,2002:" ++ name).toList
  if is "null" then isNullWord text
  else if is "bool" then isBoolWord text
  else if is "int" then isIntWord text
  else if is "float" then isFloatWord text
  else true

end BuilderAudit.Yaml
