import HingeRank.Document.Schema

/-!
# Nodes of a document

A document consists of scalars, sequences and mappings, each with a tag.  An alias
repeats the node that an anchor named before, even one that is not complete yet.
The nodes therefore form a graph: they stand in the order in which they begin, and
collections hold the places of their parts.
-/

namespace HingeRank.Document

/-- What a node holds. -/
inductive Body where
  | scalar (content : Text.Points)
  /-- The places of the items. -/
  | sequence (items : List Nat)
  /-- The places of keys and values in the order of the text. -/
  | mapping (entries : List (Nat × Nat))
  deriving DecidableEq, Repr

/-- A part of a document. -/
structure Node where
  tag : Tag
  body : Body
  deriving DecidableEq, Repr

/-- A scalar that is not written. -/
def Node.empty : Node := ⟨.null, .scalar ⟨[]⟩⟩

/-- The nodes of a document by their places. -/
abbrev Nodes := Array Node

/-- How far the tokens have been read, and what is known by then. -/
structure Reading where
  tokens : List Token
  problem : Option Problem
  /-- Handles with the beginnings of tags that they stand for. -/
  handles : List (String × String)
  /-- Anchors with the places of their nodes. -/
  anchors : List (String × Nat)
  nodes : Nodes
  /-- The number of collections that are not complete. -/
  depth : Nat

/-- Collections are nested no deeper than this. -/
def deepestNesting : Nat := 488

/-- Readers of nodes. -/
abbrev NodeReader (α : Type) := StateT Reading Outcome α

namespace NodeReader

/-- The next token; there is none at the end of the text. -/
def peek : NodeReader (Option Token) := do
  let reading ← get
  match reading.tokens, reading.problem with
  | token :: _, _ => return some token
  | [], some problem => throw problem
  | [], none => return none

/-- Leave the next token behind. -/
def drop : NodeReader Unit := modify fun reading => { reading with tokens := reading.tokens.drop 1 }

/-- Leave a certain token behind, if it comes next. -/
def accept (token : Token) : NodeReader Bool := do
  if (← peek) == some token then
    drop
    return true
  else return false

/-- Leave a certain token behind, which must come next. -/
def expect (token : Token) : NodeReader Unit := do
  if !(← accept token) then throw .malformed

/-- One of several tokens comes next. -/
def sees (tokens : List Token) : NodeReader Bool := do
  return (← peek).any tokens.contains

/-- What may stand before a node: an anchor and a tag in either order. -/
structure Properties where
  anchor : Option String
  tag : Option TagName

/-- An anchor, if one comes next. -/
def anchor? : NodeReader (Option String) := do
  match ← peek with
  | some (.anchor name) => drop; return some name
  | _ => return none

/-- A tag, if one comes next. -/
def tag? : NodeReader (Option TagName) := do
  match ← peek with
  | some (.tag name) => drop; return some name
  | _ => return none

/-- The properties of the node that begins here. -/
def properties : NodeReader Properties := do
  match ← anchor? with
  | some anchor => return ⟨some anchor, ← tag?⟩
  | none =>
      match ← tag? with
      | some tag => return ⟨← anchor?, some tag⟩
      | none => return ⟨none, none⟩

/-- The full name of a tag; its handle must be known. -/
def fullName (tag : TagName) : NodeReader String := do
  match tag.handle with
  | none => return tag.suffix
  | some handle =>
      match (← get).handles.lookup handle with
      | some stem => return stem ++ tag.suffix
      | none => throw .malformed

/-- Add a node, which may have a name; a name is given only once. -/
def add (anchor : Option String) (node : Node) : NodeReader Nat := do
  let reading ← get
  let place := reading.nodes.size
  let anchors ←
    match anchor with
    | none => pure reading.anchors
    | some name =>
        if (reading.anchors.lookup name).isSome then throw .malformed
        pure ((name, place) :: reading.anchors)
  set { reading with nodes := reading.nodes.push node, anchors }
  return place

/-- Add a scalar that is not written. -/
def addEmpty : NodeReader Nat := add none .empty

/-- Add a collection whose parts come next. -/
def begin (anchor : Option String) (tag : Tag) (body : Body) : NodeReader Nat := do
  let place ← add anchor ⟨tag, body⟩
  let reading ← get
  if deepestNesting ≤ reading.depth then throw (.fault .tooDeep)
  set { reading with depth := reading.depth + 1 }
  return place

/-- Complete a collection. -/
def complete (place : Nat) (body : Body) : NodeReader Nat := do
  modify fun reading =>
    { reading with
      nodes := reading.nodes.modify place fun node => { node with body }
      depth := reading.depth - 1 }
  return place

/-- The node that an alias repeats. -/
def aliased (name : String) : NodeReader Nat := do
  match (← get).anchors.lookup name with
  | some place => return place
  | none => throw .malformed

/-- The tag of a collection: without a tag, or with the mark alone, the usual one. -/
def collectionTag (usual : Tag) (name : Option String) : Tag :=
  match name with
  | none => usual
  | some name => if name == "!" then usual else .ofName name

/-- The tag of a scalar: a plain one without a tag, and any one with the mark alone,
is taken for what it looks like. -/
def scalarTag (name : Option String) (isPlain : Bool) (content : Text.Points) : Tag :=
  match name with
  | none => if isPlain then .ofPlain content.toText else .text
  | some name => if name == "!" then .ofPlain content.toText else .ofName name

mutual

/-- A node.  In a block it may be a block collection, and as a key or a value also a
sequence whose dashes are not indented. -/
def node (inBlock dashed : Bool) : (fuel : Nat) → NodeReader Nat
  | 0 => throw .malformed
  | fuel + 1 => do
      if let some (.alias name) ← peek then
        drop
        return ← aliased name
      let properties ← properties
      let name ← properties.tag.mapM fullName
      let beginSequence := begin properties.anchor (collectionTag .sequence name) (.sequence [])
      let beginMapping := begin properties.anchor (collectionTag .mapping name) (.mapping [])
      let next ← peek
      if let some (.scalar content isPlain) := next then
        drop
        add properties.anchor ⟨scalarTag name isPlain content, .scalar content⟩
      else if dashed && next == some .dash then
        let place ← beginSequence
        complete place (.sequence (← dashedItems fuel))
      else if next == some (.opening .square) then
        let place ← beginSequence
        drop
        complete place (.sequence (← squareItems true fuel))
      else if next == some (.opening .curly) then
        let place ← beginMapping
        drop
        complete place (.mapping (← curlyEntries true fuel))
      else if inBlock && next == some .blockSequence then
        let place ← beginSequence
        drop
        complete place (.sequence (← blockItems fuel))
      else if inBlock && next == some .blockMapping then
        let place ← beginMapping
        drop
        complete place (.mapping (← blockEntries fuel))
      else if properties.anchor.isSome || properties.tag.isSome then
        add properties.anchor ⟨scalarTag name true ⟨[]⟩, .scalar ⟨[]⟩⟩
      else throw .malformed

/-- A node, or an empty scalar before one of the given tokens. -/
def nodeUnless (stops : List Token) (inBlock dashed : Bool) : (fuel : Nat) → NodeReader Nat
  | 0 => throw .malformed
  | fuel + 1 => do
      if ← sees stops then addEmpty else node inBlock dashed fuel

/-- A value after its colon, or an empty scalar. -/
def valueUnless (stops : List Token) (inBlock : Bool) : (fuel : Nat) → NodeReader Nat
  | 0 => throw .malformed
  | fuel + 1 => do
      if ← accept .value then nodeUnless stops inBlock inBlock fuel else addEmpty

/-- The items of a block sequence up to its end. -/
def blockItems : (fuel : Nat) → NodeReader (List Nat)
  | 0 => throw .malformed
  | fuel + 1 => do
      if ← accept .dash then
        let item ← nodeUnless [.dash, .blockEnd] true false fuel
        return item :: (← blockItems fuel)
      else
        expect .blockEnd
        return []

/-- The items of a sequence that is not indented. -/
def dashedItems : (fuel : Nat) → NodeReader (List Nat)
  | 0 => throw .malformed
  | fuel + 1 => do
      if ← accept .dash then
        let item ← nodeUnless [.dash, .key, .value, .blockEnd] true false fuel
        return item :: (← dashedItems fuel)
      else return []

/-- The entries of a block mapping up to its end. -/
def blockEntries : (fuel : Nat) → NodeReader (List (Nat × Nat))
  | 0 => throw .malformed
  | fuel + 1 => do
      if ← accept .key then
        let stops := [Token.key, .value, .blockEnd]
        let key ← nodeUnless stops true true fuel
        let value ← valueUnless stops true fuel
        return (key, value) :: (← blockEntries fuel)
      else
        expect .blockEnd
        return []

/-- The items of a sequence in brackets up to the closing one.  A key makes an item a
mapping with a single entry. -/
def squareItems (isFirst : Bool) : (fuel : Nat) → NodeReader (List Nat)
  | 0 => throw .malformed
  | fuel + 1 => do
      if ← accept (.closing .square) then return []
      if !isFirst then expect .comma
      if ← accept .key then
        let stops := [Token.comma, .closing .square]
        let place ← begin none .mapping (.mapping [])
        let key ← nodeUnless (.value :: stops) false false fuel
        let value ← valueUnless stops false fuel
        let item ← complete place (.mapping [(key, value)])
        return item :: (← squareItems false fuel)
      if ← accept (.closing .square) then return []
      let item ← node false false fuel
      return item :: (← squareItems false fuel)

/-- The entries of a mapping in brackets up to the closing one.  A node that is no key
has no value. -/
def curlyEntries (isFirst : Bool) : (fuel : Nat) → NodeReader (List (Nat × Nat))
  | 0 => throw .malformed
  | fuel + 1 => do
      if ← accept (.closing .curly) then return []
      if !isFirst then expect .comma
      if ← accept .key then
        let stops := [Token.comma, .closing .curly]
        let key ← nodeUnless (.value :: stops) false false fuel
        let value ← valueUnless stops false fuel
        return (key, value) :: (← curlyEntries false fuel)
      if ← accept (.closing .curly) then return []
      let key ← node false false fuel
      let value ← addEmpty
      return (key, value) :: (← curlyEntries false fuel)

end

/-- Handles that are always known. -/
def usualHandles : List (String × String) := [("!", "!"), ("!!", Tag.standardStem)]

/-- The directives before a document.  Only the first version of the format is known,
and nothing is said twice. -/
def directives (versionSeen : Bool) : (fuel : Nat) → NodeReader Unit
  | 0 => throw .malformed
  | fuel + 1 => do
      match ← peek with
      | some (.directive (.version major)) =>
          if versionSeen || major != 1 then throw .malformed
          drop
          directives true fuel
      | some (.directive (.abbreviation handle stem)) =>
          if ((← get).handles.lookup handle).isSome then throw .malformed
          modify fun reading => { reading with handles := (handle, stem) :: reading.handles }
          drop
          directives versionSeen fuel
      | some (.directive .other) =>
          drop
          directives versionSeen fuel
      | _ => modify fun reading => { reading with handles := reading.handles ++ usualHandles }

/-- Leave marks for the end of a document behind. -/
def documentEnds : (fuel : Nat) → NodeReader Unit
  | 0 => throw .malformed
  | fuel + 1 => do
      if ← accept .documentEnd then documentEnds fuel

/-- The root of a document. -/
def root (fuel : Nat) : NodeReader Nat := do
  match ← peek with
  | some (.directive _) | some .documentStart =>
      directives false fuel
      expect .documentStart
      match ← peek with
      | none | some (.directive _) | some .documentStart | some .documentEnd => addEmpty
      | some _ => node true false fuel
  | _ =>
      directives false fuel
      node true false fuel

/-- The root of the only document, if there is a document at all. -/
def single? (fuel : Nat) : NodeReader (Option Nat) := do
  if (← peek).isNone then return none
  let root ← root fuel
  documentEnds fuel
  if (← peek).isNone then return some root
  directives false fuel
  let _ ← peek
  throw .malformed

end NodeReader

/-- The nodes of the only document that tokens form and the place of its root, if
they form a document at all. -/
def Nodes.ofTokens? (tokens : Tokens) : Outcome (Nodes × Option Nat) := do
  let fuel := 4 * (tokens.items.length + 4)
  let (root, reading) ← (NodeReader.single? fuel).run
    ⟨tokens.items, tokens.problem, [], [], #[], 0⟩
  return (reading.nodes, root)

end HingeRank.Document
