import HingeRank.Document.Tag
import HingeRank.Value.Conversion

/-!
# What scalars stand for

Which kind of value a scalar without a tag describes, and the value that it describes.
-/

namespace HingeRank.Document

/-!
## Kinds of scalars

A plain scalar without a tag is taken for a truth value, a number, a date and so
on if it looks like one; otherwise it is a text.  Each kind has its own patterns.
-/

/-- What a node stands for. -/
inductive Tag where
  | null
  | bool
  | int
  | float
  | timestamp
  | text
  | binary
  | sequence
  | mapping
  | set
  /-- A sequence of single entries. -/
  | pairs
  /-- A key whose value is merged into the mapping around it. -/
  | merge
  /-- A key whose value stands for the mapping around it. -/
  | value
  | unknown
  deriving DecidableEq, Repr

namespace Tag

/-- The beginning of all tags with a meaning of their own. -/
def standardStem : String := "tag:yaml.org,2002:"

/-- The tags that have a name. -/
def named : List (String × Tag) :=
  [("null", null), ("bool", bool), ("int", int), ("float", float), ("timestamp", timestamp),
   ("str", text), ("binary", binary), ("seq", sequence), ("map", mapping), ("set", set),
   ("omap", pairs), ("pairs", pairs), ("merge", merge), ("value", value)]

/-- The tag with a full name. -/
def ofName (name : String) : Tag :=
  ((named.find? fun (short, _) => standardStem ++ short == name).map (·.2)).getD unknown

end Tag

namespace Pattern

/-- Digits and the low lines that may separate them. -/
def isDigitOrLow (c : Char) : Bool := c.isDigit || c == '_'

/-- What follows a sign that may come first. -/
def dropSign : List Char → List Char
  | c :: rest => if c == '-' || c == '+' then rest else c :: rest
  | [] => []

/-- Not empty, and all characters pass a test. -/
def isRun (test : Char → Bool) (chars : List Char) : Bool := !chars.isEmpty && chars.all test

/-- A digit before further digits and low lines, and what follows them. -/
def digits? : List Char → Option (List Char)
  | c :: rest => if c.isDigit then some (rest.dropWhile isDigitOrLow) else none
  | [] => none

/-- A truth value. -/
def isBool (chars : List Char) : Bool :=
  ["yes", "Yes", "YES", "no", "No", "NO", "true", "True", "TRUE", "false", "False", "FALSE",
    "on", "On", "ON", "off", "Off", "OFF"].contains (String.ofList chars)

/-- The absent value. -/
def isNull (chars : List Char) : Bool :=
  ["", "~", "null", "Null", "NULL"].contains (String.ofList chars)

/-- An exponent with its sign, or nothing. -/
def isExponent : List Char → Bool
  | [] => true
  | mark :: sign :: digits =>
      (mark == 'e' || mark == 'E') && (sign == '-' || sign == '+') && isRun Char.isDigit digits
  | _ => false

/-- Digits and low lines before an exponent that may follow. -/
def isFraction (chars : List Char) : Bool := isExponent (chars.dropWhile isDigitOrLow)

/-- Parts of sixty, each after a colon, and what follows them. -/
def dropSixtieths : List Char → List Char
  | ':' :: high :: low :: rest =>
      if high.isDigit && high < '6' && low.isDigit then dropSixtieths rest
      else if high.isDigit then dropSixtieths (low :: rest)
      else ':' :: high :: low :: rest
  | [':', single] => if single.isDigit then [] else [':', single]
  | chars => chars

/-- One or more parts of sixty, and what follows them. -/
def sixtieths? (chars : List Char) : Option (List Char) :=
  let rest := dropSixtieths chars
  if rest.length < chars.length then some rest else none

/-- A number with a point, or one of the words for infinity and for no number. -/
def isFloat (chars : List Char) : Bool :=
  let unsigned := dropSign chars
  match chars with
  | '.' :: c :: rest =>
      (c.isDigit && isFraction rest) ||
        ["inf", "Inf", "INF", "nan", "NaN", "NAN"].contains (String.ofList (c :: rest))
  | _ =>
      match unsigned, digits? unsigned with
      | '.' :: rest, _ => ["inf", "Inf", "INF"].contains (String.ofList rest)
      | _, some ('.' :: rest) => isFraction rest
      | _, some rest =>
          match sixtieths? rest with
          | some ('.' :: rest) => rest.all isDigitOrLow
          | _ => false
      | _, none => false

/-- A whole number in base two, eight, ten, sixteen or sixty. -/
def isInt (chars : List Char) : Bool :=
  match dropSign chars with
  | ['0'] => true
  | '0' :: 'b' :: rest => isRun (fun c => c == '0' || c == '1' || c == '_') rest
  | '0' :: 'x' :: rest =>
      isRun (fun c => (Text.valueInBase? 16 c).isSome || c == '_') rest
  | '0' :: rest => isRun (fun c => ('0' ≤ c && c ≤ '7') || c == '_') rest
  | unsigned =>
      match digits? unsigned with
      | some [] => true
      | some rest => sixtieths? rest == some []
      | none => false

end Pattern

namespace Tag

/-- The tag of a scalar without one.  A line feed at its end does not count, unless
nothing else is there. -/
def ofPlain (content : String) : Tag :=
  let chars := content.toList
  let body :=
    match chars.reverse with
    | '\n' :: rest => if rest.isEmpty then chars else rest.reverse
    | _ => chars
  if Pattern.isBool body then bool
  else if Pattern.isFloat body then float
  else if Pattern.isInt body then int
  else if body == ['<', '<'] then merge
  else if Pattern.isNull body then null
  else if Timestamp.isPlain body then timestamp
  else if body == ['='] then value
  else if body == ['!'] || body == ['&'] || body == ['*'] then unknown
  else text

end Tag

/-!
## What scalars stand for

The tag of a scalar says how its text is read.
-/

namespace Scalar

/-- Parts between colons, the first being the highest in base sixty. -/
def parts (chars : List Char) : List (List Char) :=
  chars.foldr (fun c parts =>
    match parts with
    | [] => [[c]]
    | part :: rest => if c == ':' then [] :: part :: rest else (c :: part) :: rest) [[]]

/-- The truth value that a word stands for, in letters of any case. -/
def isTrue? (content : String) : Except Fault Bool :=
  let word := String.ofList (content.toList.map Char.toLower)
  if ["yes", "true", "on"].contains word then .ok true
  else if ["no", "false", "off"].contains word then .ok false
  else .error .missingEntry

/-- The size of a whole number, whose beginning shows its base. -/
def size? (chars : List Char) : Option Int :=
  match chars with
  | '0' :: 'b' :: digits => Text.readWhole? 2 digits
  | '0' :: 'x' :: digits => Text.readWhole? 16 digits
  | '0' :: _ :: _ => Text.readWhole? 8 chars
  | chars => do
      let parts ← (parts chars).mapM (Text.readWhole? 10)
      return parts.foldl (fun total part => 60 * total + part) 0

/-- The sign and the rest of a number without low lines; there must be something. -/
def signed? (content : String) : Except Fault (Bool × List Char) :=
  let chars := content.toList.filter (· != '_')
  if chars.isEmpty then .error .badPosition else .ok (Decimal.readSign chars)

/-- A whole number. -/
def int? (content : String) : Except Fault Int := do
  let (negative, unsigned) ← signed? content
  if unsigned.isEmpty then throw .badPosition
  match size? unsigned with
  | some size => return if negative then -size else size
  | none => throw .badValue

/-- Parts in base sixty as one number, added up from the lowest on. -/
def sexagesimal? (place : Nat) (total : Float) : List Float → Except Fault Float
  | [] => .ok total
  | part :: higher => do
      let factor ← (Number.whole place).toFloat?
      sexagesimal? (60 * place) (total + part * factor) higher

/-- A number with a point, infinity or no number. -/
def float? (content : String) : Except Fault Float := do
  let (negative, unsigned) ← signed? content
  let unsigned := unsigned.map Char.toLower
  let word := String.ofList unsigned
  if word == ".nan" then return 0.0 / 0.0
  let size ←
    if word == ".inf" then pure (1.0 / 0.0)
    else
      match (parts unsigned).mapM fun part => Decimal.readFloat? (String.ofList part) with
      | none => throw .badValue
      | some [single] => pure single
      | some parts => sexagesimal? 1 0 parts.reverse
  return if negative then -size else size

/-- Bytes in base sixty-four. -/
def bytes? (content : String) : Outcome (List UInt8) :=
  let chars := content.toList
  match if chars.all (·.toNat < 128) then Text.decodeBase64? chars else none with
  | some bytes => .ok bytes
  | none => .error .malformed

/-- A valid timestamp; a line feed at its end does not count. -/
def timestamp? (content : String) : Except Fault Value :=
  let chars := content.toList
  let body := if chars.getLast? == some '\n' then chars.dropLast else chars
  match Timestamp.ofText? body with
  | none => .error .missingPart
  | some timestamp =>
      if !timestamp.isValid then .error .badValue
      else
        match timestamp with
        | .day date => .ok (.date date)
        | .time moment => .ok (.moment moment)

/-- The value of a scalar with a tag. -/
def value? (tag : Tag) (content : Text.Points) : Outcome Value := do
  let text := content.toText
  match tag with
  | .null => return .null
  | .bool => return .bool (← (isTrue? text).mapError .fault)
  | .int => return .int (← (int? text).mapError .fault)
  | .float => return .float (← (float? text).mapError .fault)
  | .binary => return .bytes (← bytes? text)
  | .timestamp => (timestamp? text).mapError .fault
  | .text => return .ofPoints content
  | _ => throw .malformed

/-- The text stands for the one value that is no number, which is the same wherever
it stands. -/
def isNaN (content : String) : Bool :=
  let (_, unsigned) := Decimal.readSign (content.toList.filter (· != '_'))
  String.ofList (unsigned.map Char.toLower) == ".nan"

end Scalar

end HingeRank.Document
