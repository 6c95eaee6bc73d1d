import HingeRank.Document.Lexer
import HingeRank.Document.Node

/-!
# Values of documents

Mappings are merged, nodes are assembled, and what they stand for becomes a value.
-/

namespace HingeRank.Document

/-!
## Merged mappings

The value at a merging key is a mapping, or a sequence of mappings, whose entries
are put in front of those of the mapping around it.  Merging changes that mapping
for every place where it is used, and the mappings that are merged into it undergo
the same change first.  A mapping may even be merged into itself: what it merges
then are the entries that it has by that time.
-/

namespace Nodes

/-- The tag of the node at a place. -/
def tagAt (nodes : Nodes) (place : Nat) : Tag := nodes[place]?.elim .unknown (·.tag)

/-- What the node at a place holds. -/
def bodyAt? (nodes : Nodes) (place : Nat) : Option Body := nodes[place]?.map (·.body)

/-- The entries of the mapping at a place. -/
def entriesAt (nodes : Nodes) (place : Nat) : List (Nat × Nat) :=
  match nodes.bodyAt? place with
  | some (.mapping entries) => entries
  | _ => []

/-- Give the mapping at a place other entries. -/
def putEntries (nodes : Nodes) (place : Nat) (entries : List (Nat × Nat)) : Nodes :=
  nodes.modify place fun node => { node with body := .mapping entries }

/-- A key that stands for the mapping around it is a text once the mapping itself is
needed. -/
def spellKeys (nodes : Nodes) (place : Nat) : Nodes :=
  (nodes.entriesAt place).foldl (fun nodes (key, _) =>
    nodes.modify key fun node =>
      if node.tag == .value then { node with tag := .text } else node) nodes

/-- The number of entries in all mappings. -/
def entryCount (nodes : Nodes) : Nat :=
  nodes.foldl (fun count node =>
    match node.body with
    | .mapping entries => count + entries.length
    | _ => count) 0

end Nodes

/-- Changes of the nodes of a document. -/
abbrev NodeEditor (α : Type) := StateT Nodes Outcome α

namespace NodeEditor

/-- Take the first entry with a merging key out of a mapping, and return its value. -/
def takeMerge? (place : Nat) : NodeEditor (Option Nat) := do
  let nodes ← get
  let entries := nodes.entriesAt place
  match entries.findIdx? fun (key, _) => nodes.tagAt key == .merge with
  | none => return none
  | some position =>
      set (nodes.putEntries place (entries.eraseIdx position))
      return entries[position]?.map (·.2)

mutual

/-- Carry out all merging in a mapping. -/
def flatten (place : Nat) : (fuel : Nat) → NodeEditor Unit
  | 0 => throw .malformed
  | fuel + 1 => do
      let merged ← gather place fuel
      modify fun nodes =>
        let nodes := nodes.spellKeys place
        if merged.isEmpty then nodes
        else nodes.putEntries place (merged ++ nodes.entriesAt place)

/-- The entries that are merged into a mapping, in the order of its merging keys. -/
def gather (place : Nat) : (fuel : Nat) → NodeEditor (List (Nat × Nat))
  | 0 => throw .malformed
  | fuel + 1 => do
      match ← takeMerge? place with
      | none => return []
      | some source =>
          let merged ← entriesFrom source fuel
          return merged ++ (← gather place fuel)

/-- The entries of a mapping or of several ones, of which the last comes first. -/
def entriesFrom (source : Nat) : (fuel : Nat) → NodeEditor (List (Nat × Nat))
  | 0 => throw .malformed
  | fuel + 1 => do
      match (← get).bodyAt? source with
      | some (.mapping _) =>
          flatten source fuel
          return (← get).entriesAt source
      | some (.sequence items) =>
          let merged ← items.mapM fun item => do
            match (← get).bodyAt? item with
            | some (.mapping _) =>
                flatten item fuel
                return (← get).entriesAt item
            | _ => throw .malformed
          return merged.reverse.flatten
      | _ => throw .malformed

end

end NodeEditor

/-!
## What nodes stand for

A collection is made in two steps: it is empty when it is met first, and its parts
are added later, when all collections that were met before it have theirs.  Hence a
collection can be a part of itself, and of several problems in a document the one
nearest to the root counts.  Every node is made once, however often it is repeated.
-/

/-- A key of a mapping.  What is no number is the same key only as itself, so the node
it comes from belongs to it. -/
structure Key where
  value : Value
  node : Option Nat

namespace Key

def same (left right : Key) : Bool := left.value.sameKey right.value && left.node == right.node

/-- The key that a scalar at a place stands for. -/
def ofScalar (value : Value) (content : Text.Points) (place : Nat) : Key :=
  match value with
  | .float number =>
      ⟨value, if number.isNaN && !Scalar.isNaN content.toText then some place else none⟩
  | value => ⟨value, none⟩

end Key

/-- What has been made of a node; its parts are given by their places. -/
inductive Made where
  | scalar (key : Key)
  | list (items : List Nat)
  | pairs (items : List (Nat × Nat))
  | mapping (entries : List (Key × Nat))
  | set (members : List Key)

/-- How far a document has been assembled. -/
structure Assembly where
  nodes : Nodes
  made : Array (Option Made)
  /-- The places of all collections in the order in which they were met. -/
  met : Array Nat
  /-- More than the number of merges in the document. -/
  mergeBound : Nat

/-- Steps of assembling. -/
abbrev Assembler (α : Type) := StateT Assembly Outcome α

namespace Assembler

/-- The text of a scalar, or of the scalar that stands for a mapping. -/
def contentAt? (nodes : Nodes) (place : Nat) : (fuel : Nat) → Outcome Text.Points
  | 0 => .error (.fault .tooDeep)
  | fuel + 1 =>
      match nodes.bodyAt? place with
      | some (.scalar content) => .ok content
      | some (.mapping entries) =>
          match entries.find? fun (key, _) => nodes.tagAt key == .value with
          | some (_, value) => contentAt? nodes value fuel
          | none => .error .malformed
      | _ => .error .malformed

/-- The value of the node at a place, which has the tag of a scalar. -/
def scalarAt? (nodes : Nodes) (place : Nat) : Outcome Made := do
  let tag := nodes.tagAt place
  if tag matches .merge | .value | .unknown then throw .malformed
  let content ← contentAt? nodes place (nodes.size + 1)
  let isMapping := nodes.bodyAt? place matches some (.mapping _)
  if tag == .timestamp && isMapping then throw (.fault .wrongType)
  return .scalar (.ofScalar (← Scalar.value? tag content) content place)

/-- Record what has been made of the node at a place. -/
def record (place : Nat) (made : Made) : Assembler Unit :=
  modify fun assembly =>
    { assembly with made := assembly.made.setIfInBounds place (some made) }

/-- Make an empty collection, whose parts are added later. -/
def beginCollection (place : Nat) (made : Made) : Assembler Unit := do
  record place made
  modify fun assembly => { assembly with met := assembly.met.push place }

/-- Make something of the node at a place unless that is done. -/
def meet (place : Nat) : Assembler Unit := do
  let assembly ← get
  if assembly.made[place]?.join.isSome then return
  match assembly.nodes.tagAt place with
  | .sequence => beginCollection place (.list [])
  | .pairs => beginCollection place (.pairs [])
  | .mapping => beginCollection place (.mapping [])
  | .set => beginCollection place (.set [])
  | _ => record place (← scalarAt? assembly.nodes place)

/-- The key that was made of the node at a place; collections cannot be keys. -/
def keyAt? (place : Nat) : Assembler Key := do
  match (← get).made[place]?.join with
  | some (.scalar key) => return key
  | _ => throw .malformed

/-- The entries of the mapping at a place, once everything is merged into it. -/
def entriesAt? (place : Nat) : Assembler (List (Key × Nat)) := do
  let assembly ← get
  let (_, nodes) ← (NodeEditor.flatten place assembly.mergeBound).run assembly.nodes
  set { assembly with nodes }
  (nodes.entriesAt place).foldlM (fun written (key, value) => do
    meet key
    let key ← keyAt? key
    meet value
    return Value.insertEntry Key.same written key value) []

/-- The single entry of a mapping. -/
def pairAt? (place : Nat) : Assembler (Nat × Nat) := do
  match (← get).nodes.bodyAt? place with
  | some (.mapping [(key, value)]) =>
      meet key
      meet value
      return (key, value)
  | _ => throw .malformed

/-- Add the parts of the collection at a place. -/
def fill (place : Nat) : Assembler Unit := do
  let assembly ← get
  match assembly.made[place]?.join, assembly.nodes.bodyAt? place with
  | some (.list _), some (.sequence items) =>
      items.forM meet
      record place (.list items)
  | some (.pairs _), some (.sequence items) => record place (.pairs (← items.mapM pairAt?))
  | some (.mapping _), some (.mapping _) => record place (.mapping (← entriesAt? place))
  | some (.set _), some (.mapping _) =>
      record place (.set ((← entriesAt? place).map (·.1)))
  | _, _ => throw .malformed

/-- Add the parts of all collections from a position in their order on. -/
def fillFrom (position : Nat) : (fuel : Nat) → Assembler Unit
  | 0 => return
  | fuel + 1 => do
      match (← get).met[position]? with
      | none => return
      | some place =>
          fill place
          fillFrom (position + 1) fuel

end Assembler

/-- What the nodes of a document stand for, as far as its root needs them. -/
def Nodes.assemble? (nodes : Nodes) (root : Nat) : Outcome (Array (Option Made)) := do
  let start : Assembly := ⟨nodes, nodes.map fun _ => none, #[], 4 * (nodes.entryCount + 2)⟩
  let (_, assembly) ← (do
    Assembler.meet root
    Assembler.fillFrom 0 (nodes.size + 1) : Assembler Unit).run start
  return assembly.made

/-!
## The value that a document describes

What the nodes stand for refers to its parts by their places.  A collection from
which no way leads back to itself becomes a value of its own, once for all places
that share it.  Any other collection has no end; it is followed for as many levels
as a configuration has, and what lies below is only named.
-/

/-- What is known about the value at a place. -/
inductive Prospect where
  | whole (value : Value)
  /-- It is being followed, or it is known to have no end. -/
  | endless

/-- What the nodes of a document stand for. -/
abbrev Parts := Array (Option Made)

namespace Parts

/-- The value at a place, if it is known to be whole. -/
def wholeAt? (prospects : Array (Option Prospect)) (place : Nat) : Option Value :=
  match prospects[place]?.join with
  | some (.whole value) => some value
  | _ => none

/-- The kind of what has no end. -/
def kindAt (parts : Parts) (place : Nat) : Collection :=
  match parts[place]?.join with
  | some (.mapping _) => .mapping
  | _ => .list

/-- The value of a scalar, or the name of a collection. -/
def nameAt (parts : Parts) (place : Nat) : Value :=
  match parts[place]?.join with
  | some (.scalar key) => key.value
  | _ => .endless (parts.kindAt place)

/-- The value of a collection, given those of its parts.  A pair is never shown, so that
collections in it are only named. -/
def valueWith {m : Type → Type} [Monad m] (parts : Parts) (part : Nat → m Value) :
    Made → m Value
  | .scalar key => return key.value
  | .list items => return .list (← items.mapM part)
  | .pairs items =>
      return .list (items.map fun (key, value) =>
        .tuple [parts.nameAt key, parts.nameAt value])
  | .mapping entries => do
      return .mapping (← entries.mapM fun (key, value) => do return (key.value, ← part value))
  | .set members => return .set (members.map (·.value))

/-- The places of the parts of a collection that are shown with it. -/
def partsOf : Made → List Nat
  | .scalar _ | .pairs _ | .set _ => []
  | .list items => items
  | .mapping entries => entries.map (·.2)

/-- Settle whether the value at a place has an end, after those of all its parts.  A
part that is being followed already leads back to itself. -/
def settle (parts : Parts) (place : Nat) : (fuel : Nat) → StateM (Array (Option Prospect)) Unit
  | 0 => return
  | fuel + 1 => do
      if (← get)[place]?.join.isSome then return
      modify (·.setIfInBounds place (some .endless))
      if let some made := parts[place]?.join then
        (partsOf made).forM (settle parts · fuel)
        if let some value := parts.valueWith (wholeAt? (← get)) made then
          modify (·.setIfInBounds place (some (.whole value)))

/-- The value at a place, of which so many levels are followed if it has no end. -/
def unfold (parts : Parts) (prospects : Array (Option Prospect)) (place : Nat) :
    (levels : Nat) → Value
  | 0 => (wholeAt? prospects place).getD (.endless (parts.kindAt place))
  | levels + 1 =>
      match wholeAt? prospects place, parts[place]?.join with
      | some value, _ => value
      | none, some made => Id.run (parts.valueWith (unfold parts prospects · levels) made)
      | none, none => .endless .list

/-- The value at a place; a configuration has a level of sections and one of
settings. -/
def value (parts : Parts) (root : Nat) : Value :=
  let (_, prospects) := (parts.settle root (parts.size + 1)).run (parts.map fun _ => none)
  parts.unfold prospects root 2

end Parts

/-- The value that a text describes; a text without a document describes none. -/
def read? (source : Source) : Outcome Value := do
  match ← Nodes.ofTokens? (Tokens.ofSource source) with
  | (_, none) => return .null
  | (nodes, some root) =>
      let parts : Parts ← nodes.assemble? root
      return parts.value root

end HingeRank.Document
