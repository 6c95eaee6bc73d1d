import HingeRank.Document.Cursor

/-!
# Scalars

Plain scalars, quoted scalars and block scalars.
-/

namespace HingeRank.Document

/-!
## Plain scalars

A plain scalar has no quotes.  It ends before a colon that separates a key from
its value, before a comment and, within brackets, before the punctuation of
collections.  It goes on over line breaks, which are folded, as long as the
following lines are indented enough.
-/

/-- Punctuation of collections in brackets. -/
def isBracketPunctuation (c : Char) : Bool := ",[]\x7b\x7d".contains c

/-- A plain scalar as far as it was read. -/
structure PlainScalar where
  content : List Char
  /-- The place after it and after all blanks and breaks that follow. -/
  after : Cursor
  /-- It is followed by a line break. -/
  endsLine : Bool

namespace Cursor

/-- A plain scalar cannot contain what comes next. -/
def endsPlain (inBrackets : Bool) (c : Char) (rest : List Char) : Bool :=
  let isEnd (next : Char) : Bool := isGap next || (inBrackets && isBracketPunctuation next)
  isEnd c || (inBrackets && c == '?') || (c == ':' && rest.head?.all isEnd)

/-- The characters of a plain scalar on this line up to the first blank. -/
def plainWord (inBrackets : Bool) : List Char → List Char
  | [] => []
  | c :: rest =>
      if endsPlain inBrackets c rest then [] else c :: plainWord inBrackets rest

/-- Empty lines up to the text of the next line; nothing is left to fold at a mark
of the document. -/
def plainEmptyLines : (fuel : Nat) → Cursor → Option (List Char) × Cursor
  | 0, cursor => (none, cursor)
  | fuel + 1, cursor =>
      if cursor.atDocumentMark then (none, cursor)
      else
        let cursor := cursor.skip (· == ' ')
        match cursor.lineBreak? with
        | none => (some [], cursor)
        | some (mark, next) =>
            let (marks, cursor) := plainEmptyLines fuel next
            (marks.map (mark :: ·), cursor)

/-- What stands between two pieces of a plain scalar, as far as it can go on, with
the place after it and whether a line break was among it. -/
def plainGap (cursor : Cursor) : Option (List Char) × Cursor × Bool :=
  let (blanks, cursor) := cursor.span (· == ' ')
  match cursor.lineBreak? with
  | none => (if blanks.isEmpty then none else some blanks, cursor, false)
  | some (mark, next) =>
      let (marks, cursor) := plainEmptyLines (next.rest.length + 1) next
      (marks.map (foldedBreaks mark), cursor, true)

/-- The pieces of a plain scalar from here on, after the gap that precedes them. -/
def plainPieces (inBrackets : Bool) (indent : Nat) (gap : List Char) (endsLine : Bool) :
    (fuel : Nat) → Cursor → PlainScalar
  | 0, cursor => ⟨[], cursor, endsLine⟩
  | fuel + 1, cursor =>
      let word := if cursor.meets (· == '#') then [] else plainWord inBrackets cursor.rest
      if word.isEmpty then ⟨[], cursor, endsLine⟩
      else
        match (cursor.advance word.length).plainGap with
        | (none, after, endsLine) => ⟨gap ++ word, after, endsLine⟩
        | (some blanks, after, endsLine) =>
            if after.meets (· == '#') || (!inBrackets && after.column < indent) then
              ⟨gap ++ word, after, endsLine⟩
            else
              let further := plainPieces inBrackets indent blanks endsLine fuel after
              { further with content := gap ++ word ++ further.content }

/-- The plain scalar that begins here; outside of brackets its lines are indented at
least so far. -/
def plain (inBrackets : Bool) (indent : Nat) (cursor : Cursor) : PlainScalar :=
  plainPieces inBrackets indent [] false (cursor.rest.length + 1) cursor

end Cursor

/-!
## Quoted scalars

A quoted scalar ends with the quote it began with and may run over several lines,
which are folded.  Between single quotes only the quote itself is special, and it
is written twice.  Between double quotes a backslash begins an escape.
-/

/-- The two kinds of quotes. -/
inductive Quote where
  | single
  | double
  deriving DecidableEq, Repr

/-- Characters that stand for themselves between quotes, wherever they are. -/
def isQuotedText (c : Char) : Bool :=
  !(c == '\'' || c == '"' || c == '\\' || isGap c)

/-- What a letter stands for after a backslash. -/
def escapeLetter? : Char → Option Char
  | '0' => some '\x00'
  | 'a' => some '\x07'
  | 'b' => some '\x08'
  | 't' => some '\t'
  | '\t' => some '\t'
  | 'n' => some '\n'
  | 'v' => some '\x0b'
  | 'f' => some '\x0c'
  | 'r' => some '\r'
  | 'e' => some '\x1b'
  | ' ' => some ' '
  | '"' => some '"'
  | '\\' => some '\\'
  | '/' => some '/'
  | 'N' => some '\u0085'
  | '_' => some '\u00a0'
  | 'L' => some '\u2028'
  | 'P' => some '\u2029'
  | _ => none

/-- The number of digits of a numeric escape. -/
def escapeWidth? : Char → Option Nat
  | 'x' => some 2
  | 'u' => some 4
  | 'U' => some 8
  | _ => none

namespace Cursor

/-- The breaks of empty lines, up to the text of the next line.  A line that marks
the end of the document cannot stand between quotes. -/
def emptyLines? : (fuel : Nat) → Cursor → Outcome (List Char × Cursor)
  | 0, _ => .error .malformed
  | fuel + 1, cursor =>
      if cursor.atDocumentMark then .error .malformed
      else
        let cursor := cursor.skip isSpaceOrTab
        match cursor.lineBreak? with
        | none => .ok ([], cursor)
        | some (mark, next) => do
            let (marks, cursor) ← emptyLines? fuel next
            return (mark :: marks, cursor)

/-- The empty lines after a line break. -/
def emptyLinesAfter? (cursor : Cursor) : Outcome (List Char × Cursor) :=
  emptyLines? (cursor.rest.length + 1) cursor

/-- Blanks and line breaks between two pieces of text. -/
def quotedGap? (cursor : Cursor) : Outcome (List Char × Cursor) :=
  let (blanks, cursor) := cursor.span isSpaceOrTab
  match cursor.lineBreak? with
  | none => .ok (blanks, cursor)
  | some (mark, next) => do
      let (marks, cursor) ← next.emptyLinesAfter?
      return (foldedBreaks mark marks, cursor)

/-- A piece by its code points. -/
def coded (piece : List Char × Cursor) : List Nat × Cursor := (piece.1.map Char.toNat, piece.2)

/-- The code point written by so many digits.  There are fewer code points than such
numbers, and some numbers are out of all proportion. -/
def numericEscape? (width : Nat) (cursor : Cursor) : Outcome (List Nat × Cursor) :=
  let digits := cursor.rest.take width
  match Text.readBase? 16 digits with
  | some point =>
      if digits.length < width then .error .unfinished
      else if Nat.pow 2 31 ≤ point then .error (.fault .tooLarge)
      else if 0x110000 ≤ point then .error (.fault .badValue)
      else .ok ([point], cursor.advance width)
  | none => .error .malformed

/-- An escape from its first character after the backslash on.  A line break that
is escaped vanishes, and only empty lines after it remain. -/
def escape? (cursor : Cursor) : Outcome (List Nat × Cursor) :=
  match cursor.rest with
  | [] => .error .unfinished
  | c :: _ =>
      match escapeLetter? c, escapeWidth? c, cursor.lineBreak? with
      | some meant, _, _ => .ok ([meant.toNat], cursor.step)
      | none, some width, _ => cursor.step.numericEscape? width
      | none, none, some (_, next) => next.emptyLinesAfter?.map coded
      | none, none, none => .error .malformed

/-- A piece of a quoted scalar, or nothing at the closing quote. -/
def quotedPiece? (quote : Quote) (cursor : Cursor) : Outcome (Option (List Nat × Cursor)) :=
  match cursor.rest with
  | [] => .error .unfinished
  | c :: _ =>
      if isQuotedText c then .ok (some (coded (cursor.span isQuotedText)))
      else if isGap c then cursor.quotedGap?.map (some ∘ coded)
      else
        match quote, c with
        | .single, '\'' =>
            if cursor.step.meets (· == '\'') then .ok (some ([c.toNat], cursor.advance 2))
            else .ok none
        | .double, '"' => .ok none
        | .double, '\\' => cursor.step.escape?.map some
        | _, c => .ok (some ([c.toNat], cursor.step))

/-- The pieces of a quoted scalar and the place after its closing quote. -/
def quotedPieces? (quote : Quote) : (fuel : Nat) → Cursor → Outcome (List Nat × Cursor)
  | 0, _ => .error .malformed
  | fuel + 1, cursor => do
      match ← cursor.quotedPiece? quote with
      | none => return ([], cursor.step)
      | some (piece, cursor) =>
          let (pieces, cursor) ← quotedPieces? quote fuel cursor
          return (piece ++ pieces, cursor)

/-- The quoted scalar that begins with a quote here. -/
def quoted? (quote : Quote) (cursor : Cursor) : Outcome (Text.Points × Cursor) := do
  let (pieces, cursor) ← quotedPieces? quote (cursor.rest.length + 1) cursor.step
  return (⟨pieces⟩, cursor)

end Cursor

/-!
## Block scalars

A block scalar consists of the indented lines after its header.  Its lines are
kept as they are or folded.  The header may fix the indentation, which is
otherwise that of the first line, and says what becomes of the line breaks at the
end.
-/

/-- What becomes of the line breaks at the end of a block scalar. -/
inductive Chomping where
  | strip
  /-- Only the first one stays. -/
  | clip
  | keep
  deriving DecidableEq, Repr

/-- What the header of a block scalar says. -/
structure BlockHeader where
  chomping : Chomping
  /-- Further indentation than that of the surrounding collection. -/
  indentation : Option Nat
  deriving DecidableEq, Repr

namespace Cursor

/-- The mark for the line breaks at the end, if it comes next. -/
def chomping (cursor : Cursor) : Chomping × Cursor :=
  if cursor.meets (· == '+') then (.keep, cursor.step)
  else if cursor.meets (· == '-') then (.strip, cursor.step)
  else (.clip, cursor)

/-- The digit for the indentation, which is not zero, if it comes next. -/
def indentation? (cursor : Cursor) : Outcome (Option Nat × Cursor) :=
  match cursor.rest with
  | c :: _ =>
      if c == '0' then .error .malformed
      else if c.isDigit then .ok (some (c.toNat - '0'.toNat), cursor.step)
      else .ok (none, cursor)
  | [] => .ok (none, cursor)

/-- The header in either order of its two parts, and the start of the next line. -/
def blockHeader? (cursor : Cursor) : Outcome (BlockHeader × Cursor) := do
  let (first, cursor) := cursor.chomping
  let (indentation, cursor) ← cursor.indentation?
  let (chomping, cursor) := if first == .clip then cursor.chomping else (first, cursor)
  if !cursor.endsOr isSpaceOrBreak then throw .malformed
  return (⟨chomping, indentation⟩, ← cursor.nextLine?)

/-- Empty lines before the first line of text, and the greatest column among the
spaces before it. -/
def leadingLines (widest : Nat) : (fuel : Nat) → Cursor → List Char × Nat × Cursor
  | 0, cursor => ([], widest, cursor)
  | fuel + 1, cursor =>
      let cursor := cursor.skip (· == ' ')
      let widest := max widest cursor.column
      match cursor.lineBreak? with
      | none => ([], widest, cursor)
      | some (mark, next) =>
          let (marks, widest, cursor) := leadingLines widest fuel next
          (mark :: marks, widest, cursor)

/-- The place after spaces up to a column. -/
def indentTo (column : Nat) (cursor : Cursor) : Cursor :=
  cursor.advance ((cursor.rest.takeWhile (· == ' ')).length.min (column - cursor.column))

/-- Empty lines within a block scalar of this indentation. -/
def blockBreaks (indent : Nat) : (fuel : Nat) → Cursor → List Char × Cursor
  | 0, cursor => ([], cursor)
  | fuel + 1, cursor =>
      let cursor := cursor.indentTo indent
      match cursor.lineBreak? with
      | none => ([], cursor)
      | some (mark, next) =>
          let (marks, cursor) := blockBreaks indent fuel next
          (mark :: marks, cursor)

/-- What joins a line to the next one: a break between two lines of text that is
folded turns into a space, or vanishes before empty lines. -/
def joint (folded : Bool) (mark : Char) (marks : List Char) (line next : Cursor) : List Char :=
  if folded && mark == '\n' && !line.meets isSpaceOrTab && !next.meets isSpaceOrTab then
    if marks.isEmpty then [' '] else marks
  else mark :: marks

/-- The lines of a block scalar from here on, without the line breaks at the end,
then those breaks: the one that ends the last line, and those of empty lines. -/
def blockLines (folded : Bool) (indent : Nat) :
    (fuel : Nat) → Cursor → List Char × List Char × List Char × Cursor
  | 0, cursor => ([], [], [], cursor)
  | fuel + 1, line =>
      let (text, cursor) := line.span (!isBreak ·)
      match cursor.lineBreak? with
      | none => (text, [], [], cursor)
      | some (mark, next) =>
          let (marks, next) := blockBreaks indent (next.rest.length + 1) next
          if next.column == indent && !next.rest.isEmpty then
            let (lines, last, marksAfter, cursor) := blockLines folded indent fuel next
            (text ++ joint folded mark marks line next ++ lines, last, marksAfter, cursor)
          else (text, [mark], marks, next)

/-- The block scalar whose header follows here, inside a collection of this
indentation. -/
def block? (folded : Bool) (outer : Option Nat) (cursor : Cursor) :
    Outcome (Text.Points × Cursor) := do
  let (header, cursor) ← cursor.step.blockHeader?
  let least := max 1 (outer.elim 0 (· + 1))
  let fuel := cursor.rest.length + 1
  let (indent, leading, cursor) :=
    match header.indentation with
    | some further =>
        let indent := least + further - 1
        let (marks, cursor) := blockBreaks indent fuel cursor
        (indent, marks, cursor)
    | none =>
        let (marks, widest, cursor) := leadingLines 0 fuel cursor
        (max least widest, marks, cursor)
  let (lines, last, marks, cursor) :=
    if cursor.column == indent && !cursor.rest.isEmpty then
      let (lines, last, marks, cursor) := blockLines folded indent fuel cursor
      (leading ++ lines, last, marks, cursor)
    else ([], [], leading, cursor)
  let ending :=
    match header.chomping with
    | .strip => []
    | .clip => last
    | .keep => last ++ marks
  return (.ofChars (lines ++ ending), cursor)

end Cursor

end HingeRank.Document
