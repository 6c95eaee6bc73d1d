import HingeRank.Calendar
import HingeRank.Sparse

/-!
# Values and their text

All that a source of samples or settings can deliver, and how it is shown in messages.
-/

namespace HingeRank

/-!
## Values of unknown shape

Samples, settings and configuration files arrive as values whose shape is not
known beforehand.  `Value` holds all that such a source can deliver; the rest of
the library turns values into its own types or says why it cannot.
-/

/-- The kinds of collections that may contain themselves. -/
inductive Collection where
  | list
  | mapping
  deriving DecidableEq, Repr

/-- A value as it was handed in. -/
inductive Value where
  | null
  | bool (flag : Bool)
  | int (number : Int)
  | float (number : Float)
  | text (content : String)
  /-- A text in which there are surrogates. -/
  | points (content : Text.Points)
  | bytes (content : List UInt8)
  | date (day : Date)
  | moment (time : Moment)
  | list (items : List Value)
  | tuple (items : List Value)
  | set (members : List Value)
  /-- Keys with their values, in the order of first insertion. -/
  | mapping (entries : List (Value × Value))
  | matrix (content : Sparse.Matrix Float)
  /-- A collection that contains itself, seen from so far inside that its content
  does not matter any more. -/
  | endless (kind : Collection)

namespace Value

/-- The name of a value's type in messages. -/
def typeName : Value → String
  | null => "NoneType"
  | bool _ => "bool"
  | int _ => "int"
  | float _ => "float"
  | text _ | points _ => "str"
  | bytes _ => "bytes"
  | date _ => "date"
  | moment _ => "datetime"
  | list _ => "list"
  | tuple _ => "tuple"
  | set _ => "set"
  | mapping _ => "dict"
  | matrix content =>
      match content.storage with
      | .triplets => "coo_matrix"
      | .compressedRows => "csr_matrix"
  | endless .list => "list"
  | endless .mapping => "dict"

/-- The name of a value's type where types are named in full. -/
def fullTypeName : Value → String
  | date _ => "datetime.date"
  | moment _ => "datetime.datetime"
  | value => value.typeName

/-- The text that consists of these code points. -/
def ofPoints (content : Text.Points) : Value :=
  if content.isPlain then text content.toText else points content

/-- The value, or another one in place of the absent value. -/
def orElse (value other : Value) : Value :=
  match value with
  | null => other
  | value => value

/-- Values that can serve as keys. -/
def isKey : Value → Bool
  | list _ | set _ | mapping _ | matrix _ | endless _ => false
  | tuple items => items.attach.all fun ⟨item, _⟩ => isKey item
  | _ => true

/-- The value at a text key. -/
def get? (entries : List (Value × Value)) (key : String) : Option Value :=
  (entries.find? fun
    | (text content, _) => content == key
    | _ => false).map (·.2)

end Value

/-!
## The text of a value

A value is shown in messages as plain text, and inside another value as a
literal.  The two differ only for texts, points of time and matrices.
-/

namespace Value

mutual

/-- A value as it stands inside another one. -/
def literal : Value → String
  | null => "None"
  | bool flag => if flag then "True" else "False"
  | int number => toString number
  | float number => Decimal.exactText number
  | text content => Text.quoted content
  | points content => Text.quotedPoints content
  | bytes content => Text.quotedBytes content
  | date day => "datetime.date(" ++
      ", ".intercalate ([day.year, day.month, day.day].map toString) ++ ")"
  | moment time => "datetime.datetime(" ++ ", ".intercalate
      ([time.date.year, time.date.month, time.date.day, time.hour, time.minute].map toString) ++ ")"
  | list items => "[" ++ ", ".intercalate (literals items) ++ "]"
  | tuple items =>
      match literals items with
      | [item] => "(" ++ item ++ ",)"
      | items => "(" ++ ", ".intercalate items ++ ")"
  | set members =>
      if members.isEmpty then "set()"
      else "\x7b" ++ ", ".intercalate (literals members) ++ "\x7d"
  | mapping entries => "\x7b" ++ ", ".intercalate (entryLiterals entries) ++ "\x7d"
  | matrix content => content.summary
  | endless .list => "[...]"
  | endless .mapping => "\x7b...\x7d"

/-- The literals of several values. -/
def literals : List Value → List String
  | [] => []
  | item :: rest => literal item :: literals rest

/-- The literals of keys with their values. -/
def entryLiterals : List (Value × Value) → List String
  | [] => []
  | (key, value) :: rest => (literal key ++ ": " ++ literal value) :: entryLiterals rest

end

/-- A value on its own; surrogates in it are replaced. -/
def toText : Value → String
  | text content => content
  | points content => content.toText
  | date day => day.text
  | moment time => time.text
  | matrix content => content.text
  | value => value.literal

/-- A value on its own with all its code points. -/
def toPoints : Value → Text.Points
  | points content => content
  | value => value.toText

end Value

end HingeRank
