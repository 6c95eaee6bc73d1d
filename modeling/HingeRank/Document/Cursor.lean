import HingeRank.Error

/-!
# Characters of a document

The text of a document as it is decoded, and the place up to which it has been read.
-/

namespace HingeRank.Document

/-!
## Places in a document

Settings are written in YAML 1.1, where line breaks, columns and the distance on
a line matter.  A cursor is a place in such a text together with its line and its
column; it only moves forward.
-/

/-- Why a document cannot be read: it breaks the rules of the format, it ends within
one of its parts, or one of its parts stands for no value. -/
inductive Problem where
  | malformed
  | unfinished
  | fault (kind : Fault)
  deriving DecidableEq, Repr

/-- The result of reading a part of a document. -/
abbrev Outcome (α : Type) := Except Problem α

/-- Characters that end a line. -/
def isBreak (c : Char) : Bool :=
  c == '\n' || c == '\r' || c == '\u0085' || c == '\u2028' || c == '\u2029'

/-- Blanks within a line. -/
def isSpaceOrTab (c : Char) : Bool := c == ' ' || c == '\t'

def isSpaceOrBreak (c : Char) : Bool := c == ' ' || isBreak c

/-- Characters that separate one thing from the next. -/
def isGap (c : Char) : Bool := c == '\t' || isSpaceOrBreak c

/-- Characters that a document may contain. -/
def isAllowed (c : Char) : Bool :=
  c == '\t' || c == '\n' || c == '\r' || c == '\u0085' || (' ' ≤ c && c ≤ '~') ||
    (0xa0 ≤ c.toNat && c.toNat ≤ 0xfffd) || 0x10000 ≤ c.toNat

/-- A place in a text: what follows it, and how far it is from the start of the
text and of the line. -/
structure Cursor where
  rest : List Char
  index : Nat
  line : Nat
  column : Nat

namespace Cursor

/-- The place before a text. -/
def start (text : List Char) : Cursor := ⟨text, 0, 0, 0⟩

/-- One character further.  A mark of byte order takes no column. -/
def step (cursor : Cursor) : Cursor :=
  match cursor.rest with
  | [] => cursor
  | c :: rest =>
      if isBreak c then ⟨rest, cursor.index + 1, cursor.line + 1, 0⟩
      else if c == '\ufeff' then ⟨rest, cursor.index + 1, cursor.line, cursor.column⟩
      else ⟨rest, cursor.index + 1, cursor.line, cursor.column + 1⟩

/-- A number of characters further. -/
def advance (cursor : Cursor) : (count : Nat) → Cursor
  | 0 => cursor
  | count + 1 => cursor.step.advance count

/-- The longest run of characters that pass a test, and the place after it. -/
def span (cursor : Cursor) (keep : Char → Bool) : List Char × Cursor :=
  let run := cursor.rest.takeWhile keep
  (run, cursor.advance run.length)

/-- The place after the longest run of characters that pass a test. -/
def skip (cursor : Cursor) (keep : Char → Bool) : Cursor := (cursor.span keep).2

/-- A character that passes the test comes next. -/
def meets (cursor : Cursor) (test : Char → Bool) : Bool := cursor.rest.head?.any test

/-- The text ends here or goes on with a character that passes the test. -/
def endsOr (cursor : Cursor) (test : Char → Bool) : Bool := cursor.rest.head?.all test

/-- The line break that comes next, and the place after it.  The usual breaks
count as a line feed. -/
def lineBreak? (cursor : Cursor) : Option (Char × Cursor) :=
  match cursor.rest with
  | '\r' :: '\n' :: _ => some ('\n', cursor.advance 2)
  | c :: _ =>
      if c == '\u2028' || c == '\u2029' then some (c, cursor.step)
      else if isBreak c then some ('\n', cursor.step)
      else none
  | [] => none

/-- The place after a comment that may come next. -/
def skipComment (cursor : Cursor) : Cursor :=
  if cursor.meets (· == '#') then cursor.skip (!isBreak ·) else cursor

/-- The start of the next line, if nothing but a comment stands before it. -/
def nextLine? (cursor : Cursor) : Outcome Cursor :=
  let cursor := (cursor.skip (· == ' ')).skipComment
  match cursor.lineBreak? with
  | some (_, next) => .ok next
  | none => if cursor.rest.isEmpty then .ok cursor else .error .malformed

/-- Three dashes or three points on their own, which begin and end documents at
the start of a line. -/
def atDocumentMark (cursor : Cursor) : Bool :=
  (cursor.rest.take 3 == ['-', '-', '-'] || cursor.rest.take 3 == ['.', '.', '.']) &&
    (cursor.rest.drop 3).head?.all isGap

end Cursor

/-- How a line break followed by empty lines reads within a scalar: a single line
feed stands for a space, and of several the first one is dropped. -/
def foldedBreaks (first : Char) (emptyLines : List Char) : List Char :=
  if first != '\n' then first :: emptyLines
  else if emptyLines.isEmpty then [' ']
  else emptyLines

/-!
## The text of a file

A file is decoded block by block and checked piece by piece, each piece when the
reading of the document comes to it.  Bytes that spell no text and characters that a
document may not contain therefore matter only if the document is sound up to the
piece with them.  The first two pieces are read before anything else.
-/

/-- A text as far as it can be read, and the problem that ends it if there is one. -/
structure Source where
  text : List Char
  problem : Option Problem

/-- Line breaks of all systems as line feeds. -/
def unifyBreaks : List Char → List Char
  | '\r' :: '\n' :: rest => '\n' :: unifyBreaks rest
  | '\r' :: rest => '\n' :: unifyBreaks rest
  | c :: rest => c :: unifyBreaks rest
  | [] => []

/-- The characters from a place in some bytes on, up to the first byte that begins
none. -/
def charactersFrom (bytes : ByteArray) (place : Nat) : (fuel : Nat) → List Char
  | 0 => []
  | fuel + 1 =>
      match bytes.utf8DecodeChar? place with
      | some c => c :: charactersFrom bytes (place + c.utf8Size) fuel
      | none => []

namespace Source

/-- The number of characters in a piece. -/
def pieceSize : Nat := 4096

/-- The number of bytes in a block. -/
def blockSize : Nat := 8192

/-- The number of characters before the piece with a certain one; nothing comes before
the first two pieces. -/
def readBefore (index : Nat) : Nat :=
  if index < 2 * pieceSize then 0 else index / pieceSize * pieceSize

/-- The number of characters that the first bytes spell.  A carriage return at their end
waits for the next block. -/
def decodedLength (bytes : ByteArray) (size : Nat) : Nat :=
  let characters := charactersFrom (bytes.extract 0 size) 0 size
  let settled :=
    if characters.getLast? == some '\r' then characters.dropLast else characters
  (unifyBreaks settled).length

/-- The text that bytes spell, up to the piece that is the first with a problem.  In one
piece, bytes that spell nothing come to light before anything else. -/
def ofBytes (bytes : List UInt8) : Source :=
  let bytes : ByteArray := ⟨bytes.toArray⟩
  let characters := charactersFrom bytes 0 bytes.size
  let size := (characters.map Char.utf8Size).foldr (· + ·) 0
  let text := unifyBreaks characters
  let undecoded :=
    if size = bytes.size then none
    else some (readBefore (decodedLength bytes (size / blockSize * blockSize)))
  let refused := (text.findIdx? (!isAllowed ·)).map readBefore
  match undecoded, refused with
  | none, none => ⟨text, none⟩
  | some undecoded, none => ⟨text.take undecoded, some (.fault .badEncoding)⟩
  | none, some refused => ⟨text.take refused, some .malformed⟩
  | some undecoded, some refused =>
      if undecoded ≤ refused then ⟨text.take undecoded, some (.fault .badEncoding)⟩
      else ⟨text.take refused, some .malformed⟩

end Source

end HingeRank.Document
