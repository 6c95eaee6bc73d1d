import HingeRank.Document.Cursor

/-!
# Tags and tokens

Tags of nodes, and the tokens that a document consists of.
-/

namespace HingeRank.Document

/-!
## Names in a document

Nodes are named by anchors and typed by tags; directives at the head of a
document give a version or abbreviate the beginnings of tags.  This module reads
such names.
-/

/-- A tag as it is written: its handle, if it has one, abbreviates a beginning. -/
structure TagName where
  handle : Option String
  suffix : String
  deriving DecidableEq, Repr

/-- A line at the head of a document. -/
inductive Directive where
  | version (major : Nat)
  | abbreviation (handle stem : String)
  /-- A directive that means nothing here. -/
  | other
  deriving DecidableEq, Repr

/-- Characters of anchors and of handles. -/
def isNameChar (c : Char) : Bool := c.isAlphanum || c == '-' || c == '_'

/-- Characters of tags, apart from escapes. -/
def isUriChar (c : Char) : Bool := c.isAlphanum || "-;/?:@&=+$,_.!~*'()[]".contains c

namespace Cursor

/-- A name of at least one character. -/
def name? (cursor : Cursor) : Outcome (String × Cursor) :=
  let (name, cursor) := cursor.span isNameChar
  if name.isEmpty then .error .malformed else .ok (String.ofList name, cursor)

/-- The name after the mark of an anchor or of an alias. -/
def anchor? (cursor : Cursor) : Outcome (String × Cursor) := do
  let (name, cursor) ← cursor.step.name?
  if cursor.endsOr fun c => isGap c || "?:,]\x7d%@\x60".contains c then return (name, cursor)
  else throw .malformed

/-- The bytes of escapes that follow each other, each written with two digits. -/
def escapedBytes? : List Char → Outcome (List UInt8)
  | '%' :: high :: low :: rest =>
      match Text.readBase? 16 [high, low] with
      | some byte => do return byte.toUInt8 :: (← escapedBytes? rest)
      | none => .error .malformed
  | '%' :: _ => .error .malformed
  | _ => .ok []

/-- A run of escapes, whose bytes form a text. -/
def escapes? (cursor : Cursor) : Outcome (List Char × Cursor) := do
  let bytes ← escapedBytes? cursor.rest
  match String.fromUTF8? ⟨bytes.toArray⟩ with
  | some text => return (text.toList, cursor.advance (3 * bytes.length))
  | none => throw .malformed

/-- The pieces of a tag, with escapes read. -/
def uriPieces? : (fuel : Nat) → Cursor → Outcome (List Char × Cursor)
  | 0, _ => .error .malformed
  | fuel + 1, cursor => do
      let (plain, cursor) := cursor.span isUriChar
      if !cursor.meets (· == '%') then return (plain, cursor)
      let (escaped, cursor) ← cursor.escapes?
      let (pieces, cursor) ← uriPieces? fuel cursor
      return (plain ++ escaped ++ pieces, cursor)

/-- A tag or the beginning of one, which is not empty. -/
def uri? (cursor : Cursor) : Outcome (String × Cursor) := do
  if !cursor.meets fun c => isUriChar c || c == '%' then throw .malformed
  let (pieces, cursor) ← uriPieces? (cursor.rest.length + 1) cursor
  return (String.ofList pieces, cursor)

/-- A handle: a mark alone, or a name between two marks. -/
def handle? (cursor : Cursor) : Outcome (String × Cursor) := do
  if !cursor.meets (· == '!') then throw .malformed
  if cursor.step.meets (· == ' ') then return ("!", cursor.step)
  let (name, cursor) := cursor.step.span isNameChar
  if cursor.meets (· == '!') then return ("!" ++ String.ofList name ++ "!", cursor.step)
  else throw .malformed

/-- The end of a tag. -/
def tagEnd? (tag : TagName) (cursor : Cursor) : Outcome (TagName × Cursor) :=
  if cursor.endsOr isSpaceOrBreak then .ok (tag, cursor) else .error .malformed

/-- A tag: in full between angle brackets, a mark alone, or abbreviated. -/
def tag? (cursor : Cursor) : Outcome (TagName × Cursor) := do
  let next := cursor.step
  if next.meets (· == '<') then
    let (suffix, cursor) ← next.step.uri?
    if !cursor.meets (· == '>') then throw .malformed
    cursor.step.tagEnd? ⟨none, suffix⟩
  else if next.endsOr isGap then next.tagEnd? ⟨none, "!"⟩
  else
    let word := next.rest.takeWhile (!isSpaceOrBreak ·)
    let (handle, cursor) ← if word.contains '!' then cursor.handle? else pure ("!", next)
    let (suffix, cursor) ← cursor.uri?
    cursor.tagEnd? ⟨some handle, suffix⟩

/-- Digits of a version. -/
def versionNumber? (cursor : Cursor) : Outcome (Nat × Cursor) := do
  let (digits, cursor) := cursor.span Char.isDigit
  if digits.isEmpty then throw .malformed
  if Text.longestWhole < digits.length then throw (.fault .badValue)
  return (Text.readDecimal digits, cursor)

/-- Two numbers with a point between them. -/
def version? (cursor : Cursor) : Outcome (Directive × Cursor) := do
  let (major, cursor) ← (cursor.skip (· == ' ')).versionNumber?
  if !cursor.meets (· == '.') then throw .malformed
  let (_, cursor) ← cursor.step.versionNumber?
  if cursor.endsOr isSpaceOrBreak then return (.version major, cursor) else throw .malformed

/-- A handle and the beginning it stands for. -/
def abbreviation? (cursor : Cursor) : Outcome (Directive × Cursor) := do
  let (handle, cursor) ← (cursor.skip (· == ' ')).handle?
  if !cursor.meets (· == ' ') then throw .malformed
  let (stem, cursor) ← (cursor.skip (· == ' ')).uri?
  if cursor.endsOr isSpaceOrBreak then return (.abbreviation handle stem, cursor)
  else throw .malformed

/-- A directive up to the start of the next line. -/
def directive? (cursor : Cursor) : Outcome (Directive × Cursor) := do
  let (name, cursor) ← cursor.step.name?
  if !cursor.endsOr isSpaceOrBreak then throw .malformed
  let (directive, cursor) ←
    if name == "YAML" then cursor.version?
    else if name == "TAG" then cursor.abbreviation?
    else pure (.other, cursor.skip (!isBreak ·))
  return (directive, ← cursor.nextLine?)

end Cursor

/-!
## Tokens of a document

A document is read as a sequence of tokens.  Indentation shows in them as the
starts and ends of block collections.  Where the text cannot be divided into
tokens any further, the sequence ends with the problem.
-/

/-- The brackets around a collection. -/
inductive Bracket where
  | square
  | curly
  deriving DecidableEq, Repr

/-- A unit of a document. -/
inductive Token where
  | directive (content : Directive)
  | documentStart
  | documentEnd
  | blockSequence
  | blockMapping
  | blockEnd
  | opening (bracket : Bracket)
  | closing (bracket : Bracket)
  /-- A dash before an entry of a block sequence. -/
  | dash
  /-- A comma between entries in brackets. -/
  | comma
  /-- What follows is a key. -/
  | key
  /-- What follows is the value of a key. -/
  | value
  | alias (name : String)
  | anchor (name : String)
  | tag (name : TagName)
  | scalar (content : Text.Points) (isPlain : Bool)
  deriving DecidableEq, Repr

/-- The tokens of a text, and the problem at their end if there is one. -/
structure Tokens where
  items : List Token
  problem : Option Problem

end HingeRank.Document
