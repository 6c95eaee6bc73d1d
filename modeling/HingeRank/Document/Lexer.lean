import HingeRank.Document.Scalar
import HingeRank.Document.Tag

/-!
# Dividing a document into tokens

A key is recognised late, by the colon after it.  A token that may turn out to be
the start of a key is therefore remembered, one on each level of brackets, and
the token for the key is put in front of it when the colon arrives.  A key stands
on one line and is not longer than 1024 characters.

In a block, columns decide: a dash, a question mark or a key in a column beyond
the current one starts a collection, and a token before that column ends it.
-/

namespace HingeRank.Document

/-- A place where a key may have begun. -/
structure KeyStart where
  /-- The number of tokens before it. -/
  position : Nat
  /-- It stands where only a key can stand. -/
  required : Bool
  index : Nat
  line : Nat
  column : Nat

/-- A key is no longer than this. -/
def longestKey : Nat := 1024

namespace KeyStart

/-- A key that began there cannot end at the cursor any more. -/
def isStale (start : KeyStart) (cursor : Cursor) : Bool :=
  start.line != cursor.line || longestKey < cursor.index - start.index

end KeyStart

/-- How far a text has been divided. -/
structure Lexer where
  cursor : Cursor
  tokens : Array Token
  /-- Columns of the open block collections, the innermost first. -/
  indents : List Nat
  /-- Where a key may have begun on this level of brackets. -/
  keyStart : Option KeyStart
  /-- The same for the levels around this one, the innermost first. -/
  outerStarts : List (Option KeyStart)
  /-- The next token may begin a key. -/
  keyAllowed : Bool
  atEnd : Bool

namespace Lexer

/-- The state before the first token. -/
def start (cursor : Cursor) : Lexer :=
  ⟨cursor, #[], [], none, [], true, false⟩

/-- Some bracket is open. -/
def inBrackets (lexer : Lexer) : Bool := !lexer.outerStarts.isEmpty

/-- Append a token. -/
def emit (token : Token) (lexer : Lexer) : Lexer := { lexer with tokens := lexer.tokens.push token }

/-- Put tokens in front of all but the first `position` ones. -/
def insertAt (position : Nat) (inserted : List Token) (lexer : Lexer) : Lexer :=
  { lexer with
    tokens := lexer.tokens.take position ++ inserted ++ lexer.tokens.drop position }

/-- Move over the sign for a token. -/
def emitSign (width : Nat) (token : Token) (lexer : Lexer) : Lexer :=
  { lexer.emit token with cursor := lexer.cursor.advance width }

/-- Move over spaces, comments and line breaks.  In a block a key may follow a line
break. -/
def skipGaps : (fuel : Nat) → Lexer → Lexer
  | 0, lexer => lexer
  | fuel + 1, lexer =>
      let cursor := (lexer.cursor.skip (· == ' ')).skipComment
      match cursor.lineBreak? with
      | none => { lexer with cursor }
      | some (_, next) =>
          skipGaps fuel
            { lexer with cursor := next, keyAllowed := lexer.keyAllowed || !lexer.inBrackets }

/-- The start of a key, unless it is stale; a required one must not become so. -/
def freshStart? (cursor : Cursor) : Option KeyStart → Outcome (Option KeyStart)
  | none => .ok none
  | some start =>
      if !start.isStale cursor then .ok (some start)
      else if start.required then .error .malformed
      else .ok none

/-- Forget starts of keys that are stale. -/
def dropStale? (lexer : Lexer) : Outcome Lexer := do
  return { lexer with
    keyStart := ← freshStart? lexer.cursor lexer.keyStart
    outerStarts := ← lexer.outerStarts.mapM (freshStart? lexer.cursor) }

/-- Forget the start of a key on this level, where no key can end any more. -/
def dropStart? (lexer : Lexer) : Outcome Lexer :=
  if lexer.keyStart.any (·.required) then .error .malformed
  else .ok { lexer with keyStart := none }

/-- Remember that a key may begin here. -/
def markStart? (lexer : Lexer) : Outcome Lexer :=
  if lexer.keyAllowed then do
    let lexer ← lexer.dropStart?
    let cursor := lexer.cursor
    let required := !lexer.inBrackets && lexer.indents.head? == some cursor.column
    return { lexer with
      keyStart :=
        some ⟨lexer.tokens.size, required, cursor.index, cursor.line, cursor.column⟩ }
  else .ok lexer

/-- End the block collections that an indentation leaves; brackets have none. -/
def leaveBlocks (isLeft : Nat → Bool) (lexer : Lexer) : Lexer :=
  if lexer.inBrackets then lexer
  else
    let left := lexer.indents.takeWhile isLeft
    { lexer with
      indents := lexer.indents.drop left.length
      tokens := lexer.tokens ++ left.map fun _ => Token.blockEnd }

/-- Whether a column lies beyond that of the innermost block collection. -/
def isDeeper (lexer : Lexer) (column : Nat) : Bool := lexer.indents.head?.all (· < column)

/-- Start a block collection here, if the column lies beyond the current one. -/
def enterBlock (collection : Token) (lexer : Lexer) : Lexer :=
  if lexer.isDeeper lexer.cursor.column then
    { lexer.emit collection with indents := lexer.cursor.column :: lexer.indents }
  else lexer

/-- In a block, a sign that may start a collection stands only where a key may. -/
def enterBlock? (collection : Token) (lexer : Lexer) : Outcome Lexer :=
  if lexer.inBrackets then .ok lexer
  else if lexer.keyAllowed then .ok (lexer.enterBlock collection)
  else .error .malformed

/-- A token at which all block collections end. -/
def atMargin? (lexer : Lexer) : Outcome Lexer := do
  let lexer ← (lexer.leaveBlocks fun _ => true).dropStart?
  return { lexer with keyAllowed := false }

/-- The end of the text. -/
def finish? (lexer : Lexer) : Outcome Lexer := do
  return { ← lexer.atMargin? with outerStarts := [], atEnd := true }

/-- A line at the head of a document. -/
def directive? (lexer : Lexer) : Outcome Lexer := do
  let lexer ← lexer.atMargin?
  let (directive, cursor) ← lexer.cursor.directive?
  return { lexer.emit (.directive directive) with cursor }

/-- A mark that begins or ends a document. -/
def documentMark? (token : Token) (lexer : Lexer) : Outcome Lexer := do
  return (← lexer.atMargin?).emitSign 3 token

/-- An opening bracket, which may begin a key itself. -/
def opening? (bracket : Bracket) (lexer : Lexer) : Outcome Lexer := do
  let lexer ← lexer.markStart?
  return { lexer.emitSign 1 (.opening bracket) with
    keyStart := none
    outerStarts := lexer.keyStart :: lexer.outerStarts
    keyAllowed := true }

/-- A closing bracket; one must be open. -/
def closing? (bracket : Bracket) (lexer : Lexer) : Outcome Lexer := do
  let lexer ← lexer.dropStart?
  match lexer.outerStarts with
  | [] => throw .malformed
  | keyStart :: outerStarts =>
      return { lexer.emitSign 1 (.closing bracket) with
        keyStart, outerStarts, keyAllowed := false }

/-- A comma, after which a key may begin. -/
def comma? (lexer : Lexer) : Outcome Lexer := do
  return { (← lexer.dropStart?).emitSign 1 .comma with keyAllowed := true }

/-- A dash, after which a key may begin. -/
def dash? (lexer : Lexer) : Outcome Lexer := do
  let lexer ← (← lexer.enterBlock? .blockSequence).dropStart?
  return { lexer.emitSign 1 .dash with keyAllowed := true }

/-- A question mark before a key. -/
def key? (lexer : Lexer) : Outcome Lexer := do
  let lexer ← (← lexer.enterBlock? .blockMapping).dropStart?
  return { lexer.emitSign 1 .key with keyAllowed := !lexer.inBrackets }

/-- A colon: what it ends is a key, or the key before it is empty. -/
def value? (lexer : Lexer) : Outcome Lexer := do
  match lexer.keyStart with
  | some start =>
      let opensBlock := !lexer.inBrackets && lexer.isDeeper start.column
      let lexer := lexer.insertAt start.position
        (if opensBlock then [.blockMapping, .key] else [.key])
      return { lexer.emitSign 1 .value with
        indents := if opensBlock then start.column :: lexer.indents else lexer.indents
        keyStart := none
        keyAllowed := false }
  | none =>
      let lexer ← lexer.enterBlock? .blockMapping
      return { lexer.emitSign 1 .value with keyAllowed := !lexer.inBrackets }

/-- A token that may begin a key and that is read from here on. -/
def keyPart? (read : Cursor → Outcome (Token × Cursor)) (lexer : Lexer) : Outcome Lexer := do
  let lexer ← lexer.markStart?
  let (token, cursor) ← read lexer.cursor
  return { lexer.emit token with cursor, keyAllowed := false }

/-- A block scalar, after which a key may begin. -/
def block? (folded : Bool) (lexer : Lexer) : Outcome Lexer := do
  let lexer ← lexer.dropStart?
  let (content, cursor) ← lexer.cursor.block? folded lexer.indents.head?
  return { lexer.emit (.scalar content false) with cursor, keyAllowed := true }

/-- A plain scalar; a key may follow if a line break does. -/
def plain? (lexer : Lexer) : Outcome Lexer := do
  let lexer ← lexer.markStart?
  let indent := lexer.indents.head?.elim 0 (· + 1)
  let scalar := lexer.cursor.plain lexer.inBrackets indent
  return { lexer.emit (.scalar (.ofChars scalar.content) true) with
    cursor := scalar.after
    keyAllowed := scalar.endsLine }

/-- A token for a quoted scalar. -/
def quoted (quote : Quote) (cursor : Cursor) : Outcome (Token × Cursor) := do
  let (content, cursor) ← cursor.quoted? quote
  return (.scalar content false, cursor)

/-- A token for an anchor or an alias. -/
def named (token : String → Token) (cursor : Cursor) : Outcome (Token × Cursor) := do
  let (name, cursor) ← cursor.anchor?
  return (token name, cursor)

/-- A token for a tag. -/
def tagged (cursor : Cursor) : Outcome (Token × Cursor) := do
  let (name, cursor) ← cursor.tag?
  return (.tag name, cursor)

/-- Whether a character may begin a plain scalar.  Some signs may if no blank
follows. -/
def beginsPlain (lexer : Lexer) (c : Char) : Bool :=
  !(isGap c || "-?:,[]\x7b\x7d#&*!|>'\"%@\x60".contains c) ||
    (!lexer.cursor.step.endsOr isGap && (c == '-' || (!lexer.inBrackets && (c == '?' || c == ':'))))

/-- The next token, which begins with this character. -/
def dispatch? (lexer : Lexer) (c : Char) : Outcome Lexer :=
  let isAlone := lexer.cursor.step.endsOr isGap
  let isSign := lexer.inBrackets || isAlone
  let atMargin := lexer.cursor.column == 0
  if atMargin && c == '%' then lexer.directive?
  else if atMargin && lexer.cursor.atDocumentMark then
    lexer.documentMark? (if c == '-' then .documentStart else .documentEnd)
  else
    match c with
    | '[' => lexer.opening? .square
    | '{' => lexer.opening? .curly
    | ']' => lexer.closing? .square
    | '}' => lexer.closing? .curly
    | ',' => lexer.comma?
    | '*' => lexer.keyPart? (named .alias)
    | '&' => lexer.keyPart? (named .anchor)
    | '!' => lexer.keyPart? tagged
    | '\'' => lexer.keyPart? (quoted .single)
    | '"' => lexer.keyPart? (quoted .double)
    | c =>
        if c == '-' && isAlone then lexer.dash?
        else if c == '?' && isSign then lexer.key?
        else if c == ':' && isSign then lexer.value?
        else if c == '|' && !lexer.inBrackets then lexer.block? false
        else if c == '>' && !lexer.inBrackets then lexer.block? true
        else if lexer.beginsPlain c then lexer.plain?
        else .error .malformed

/-- Read the next token, with what precedes it. -/
def advance? (lexer : Lexer) : Outcome Lexer := do
  let lexer := skipGaps (lexer.cursor.rest.length + 1) lexer
  let lexer ← lexer.dropStale?
  let column := lexer.cursor.column
  let lexer := lexer.leaveBlocks (column < ·)
  match lexer.cursor.rest with
  | [] => lexer.finish?
  | c :: _ => lexer.dispatch? c

/-- The tokens up to a problem.  Those from the first possible start of a key on
could not be told before the problem was met. -/
def stopAt (problem : Problem) (lexer : Lexer) : Tokens :=
  let starts := (lexer.keyStart :: lexer.outerStarts).filterMap fun start =>
    (start.filter fun start => !start.isStale lexer.cursor).map (·.position)
  let tokens := lexer.tokens.toList
  ⟨starts.foldl (fun tokens position => tokens.take position) tokens, some problem⟩

/-- Nothing but gaps is left. -/
def isExhausted (lexer : Lexer) : Bool :=
  (skipGaps (lexer.cursor.rest.length + 1) lexer).cursor.rest.isEmpty

/-- Read tokens until the text ends, or until a token can only be told with what
follows the text and cannot be read. -/
def run (beyond : Option Problem) : (fuel : Nat) → Lexer → Tokens
  | 0, lexer => lexer.stopAt .malformed
  | fuel + 1, lexer =>
      if lexer.atEnd then ⟨lexer.tokens.toList, none⟩
      else
        match beyond, lexer.advance? with
        | none, .ok next => run beyond fuel next
        | none, .error problem => lexer.stopAt problem
        | some problem, .ok next =>
            if next.cursor.rest.isEmpty then lexer.stopAt problem else run beyond fuel next
        | some problem, .error earlier =>
            if lexer.isExhausted || earlier == .unfinished then lexer.stopAt problem
            else lexer.stopAt earlier

end Lexer

/-- The tokens of a text.  A mark of byte order at its start is left out. -/
def Tokens.ofSource (source : Source) : Tokens :=
  let cursor := Cursor.start source.text
  let cursor := if cursor.meets (· == '\ufeff') then cursor.step else cursor
  Lexer.run source.problem (source.text.length + 2) (Lexer.start cursor)

end HingeRank.Document
