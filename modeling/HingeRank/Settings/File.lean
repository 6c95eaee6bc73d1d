import HingeRank.Document.Assembly
import HingeRank.Trainer

/-!
# Configurations

Settings in two sections of a mapping, and files that hold such a mapping.
-/

namespace HingeRank

/-!
## Settings in two sections

A configuration is a mapping with a section for the trainer and one for the
optimizer.  A section that is absent or counts as false is empty.  Settings that
the trainer decides for the optimizer must not stand in the optimizer's section,
whatever kind of value that section is, as long as it can be run through.
-/

/-- Checked settings of both sections. -/
structure Configuration where
  trainer : TrainerSettings
  optimizer : OptimizerSettings

namespace Configuration

/-- Optimizer settings that the trainer decides, in alphabetical order. -/
def trainerOwned : List String :=
  ["epsilon", "max_iterations", "max_seconds", "nonnegative", "verbose"]

/-- The value of a section, or an empty mapping. -/
def sectionOf? (name : String) (entries : List (Value × Value)) : Except Fault Value := do
  match Value.get? entries name with
  | some value => return if ← value.isTrue? then value else .mapping []
  | none => return .mapping []

/-- The trainer's settings that a section runs through.  Everything it runs
through must be fit to be a key. -/
def ownedIn? (given : Value) : Except Fault (List String) := do
  let items ← given.items?
  if !items.all (·.isKey) then throw .wrongType
  return trainerOwned.filter fun name =>
    items.any fun
      | .text content => content == name
      | _ => false

/-- The record of settings that a section describes. -/
def record? {α : Type} (layout : Settings.Layout α) (given : Value) : Except Error α :=
  match given with
  | .mapping entries => layout.ofEntries? entries
  | given => .error (.groupNotMapping layout.group given.fullTypeName)

/-- The checked settings that a mapping describes. -/
def ofEntries? (entries : List (Value × Value)) : Except Error Configuration := do
  let trainerSection ← (sectionOf? "trainer" entries).mapError .fault
  let optimizerSection ← (sectionOf? "optimizer" entries).mapError .fault
  let owned ← (ownedIn? optimizerSection).mapError .fault
  if !owned.isEmpty then throw (.misplacedSettings owned)
  let trainer ← record? TrainerSettings.layout trainerSection
  let optimizer ← record? OptimizerSettings.layout optimizerSection
  trainer.validate
  optimizer.validate
  return ⟨trainer, optimizer⟩

/-- The checked settings that a value describes; only mappings have sections. -/
def ofValue? : Value → Except Error Configuration
  | .mapping entries => ofEntries? entries
  | _ => .error (.fault .missingPart)

/-- A trainer with these settings. -/
def trainerOf? (configuration : Configuration) : Except Error TrainerSession :=
  TrainerSession.create? none (some configuration.trainer) (some configuration.optimizer)

end Configuration

/-!
## Settings in a file

A file with settings holds a mapping.  A file whose content counts as false holds
no settings at all.
-/

namespace Settings

/-- The value that a file describes; there may be no such file. -/
def document? (file : Option (List UInt8)) : Except Error Value :=
  match file with
  | none => .error .unreadableFile
  | some bytes =>
      (Document.read? (.ofBytes bytes)).mapError fun
        | .malformed | .unfinished => .unreadableFile
        | .fault kind => .fault kind

/-- The entries of the value that the file with this path describes. -/
def entriesOf? (path : String) (document : Value) : Except Error (List (Value × Value)) :=
  if !document.isTrue then .ok []
  else
    match document with
    | .mapping entries => .ok entries
    | _ => .error (.fileNotMapping path)

/-- The entries in a file. -/
def load? (path : String) (file : Option (List UInt8)) : Except Error (List (Value × Value)) := do
  entriesOf? path (← document? file)

end Settings

end HingeRank
