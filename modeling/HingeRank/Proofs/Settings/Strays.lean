import HingeRank.Proofs.Settings.Ranges
import HingeRank.Proofs.Settings.Sections

/-!
# What stands in place of a mapping

A file should hold a mapping, and so should each section in it.  What stands there instead is
refused only if it counts as true: an empty list, a zero or an empty text is taken for an empty
mapping, like the absent value.

The optimizer's section is run through before it has to be a mapping.  What cannot be run
through, such as a number, therefore fails without being refused.
-/

namespace HingeRank

open Settings

/-- Neither a mapping nor absent. -/
def Value.IsStray : Value → Prop
  | null | mapping _ => False
  | _ => True

/-! ## Files -/

namespace Settings

variable {path : String} {bytes : List UInt8} {document : Value}

/-- Only the value that a file describes matters. -/
theorem load?_eq (found : Document.read? (.ofBytes bytes) = .ok document) :
    load? path (some bytes) = entriesOf? path document := by
  rw [load?, document?, found]
  rfl

theorem entriesOf?_of_false (isFalse : document.isTrue = false) :
    entriesOf? path document = .ok [] := by
  unfold entriesOf?
  rw [isFalse]
  rfl

theorem entriesOf?_of_stray (stray : document.IsStray) (isTrue : document.isTrue = true) :
    entriesOf? path document = .error (.fileNotMapping path) := by
  unfold entriesOf?
  rw [isTrue]
  cases document with
  | mapping => exact stray.elim
  | _ => rfl

end Settings

/-! ## Sections -/

namespace Configuration

variable {entries : List (Value × Value)} {name : String} {given : Value}

/-- Only the two sections of a mapping matter. -/
theorem ofEntries?_congr {others : List (Value × Value)}
    (trainer : sectionOf? "trainer" others = sectionOf? "trainer" entries)
    (optimizer : sectionOf? "optimizer" others = sectionOf? "optimizer" entries) :
    ofEntries? others = ofEntries? entries := by
  simp only [ofEntries?, trainer, optimizer]

/-- The mapping without the value at a name. -/
def without (name : String) (entries : List (Value × Value)) : List (Value × Value) :=
  entries.filter fun
    | (.text content, _) => content != name
    | _ => true

@[simp] theorem get?_without_self (name : String) (entries : List (Value × Value)) :
    Value.get? (without name entries) name = none := by
  refine Value.get?_eq_none fun member => ?_
  obtain ⟨⟨key, value⟩, member, rfl⟩ := List.mem_map.mp member
  simpa using (List.mem_filter.mp member).2

theorem get?_without_of_ne {other : String} (different : other ≠ name)
    (entries : List (Value × Value)) :
    Value.get? (without name entries) other = Value.get? entries other := by
  rw [Value.get?, without, List.find?_filter, Value.get?]
  congr 2
  funext entry
  obtain ⟨key, value⟩ := entry
  cases key with
  | text content =>
      by_cases same : content = other
      · simp [same, different]
      · simp [same]
  | _ => rfl

theorem sectionOf?_congr {others : List (Value × Value)}
    (same : Value.get? others name = Value.get? entries name) :
    sectionOf? name others = sectionOf? name entries := by
  simp only [sectionOf?, same]

/-- A section that counts as false is empty. -/
theorem sectionOf?_of_false (found : Value.get? entries name = some given)
    (isFalse : given.isTrue? = .ok false) : sectionOf? name entries = .ok (.mapping []) := by
  rw [sectionOf?, found]
  dsimp only
  rw [isFalse]
  rfl

theorem sectionOf?_of_true (found : Value.get? entries name = some given)
    (isTrue : given.isTrue? = .ok true) : sectionOf? name entries = .ok given := by
  rw [sectionOf?, found]
  dsimp only
  rw [isTrue]
  rfl

theorem sectionOf?_of_absent (absent : Value.get? entries name = none) :
    sectionOf? name entries = .ok (.mapping []) := by
  rw [sectionOf?, absent]
  rfl

/-- A section that counts as false is as good as absent. -/
theorem ofEntries?_without (found : Value.get? entries name = some given)
    (isFalse : given.isTrue? = .ok false) :
    ofEntries? (without name entries) = ofEntries? entries := by
  have unchanged (other : String) :
      sectionOf? other (without name entries) = sectionOf? other entries := by
    by_cases same : other = name
    · rw [same, sectionOf?_of_absent (get?_without_self name entries),
        sectionOf?_of_false found isFalse]
    · exact sectionOf?_congr (get?_without_of_ne same entries)
  exact ofEntries?_congr (unchanged "trainer") (unchanged "optimizer")

/-- What is done with both sections before they have to be mappings can be done. -/
structure Examinable (entries : List (Value × Value)) : Prop where
  trainer : ∃ given, sectionOf? "trainer" entries = .ok given
  optimizer : ∃ given items, sectionOf? "optimizer" entries = .ok given ∧
    given.items? = .ok items ∧ ∀ item ∈ items, item.isKey = true

/-- Something else than a mapping, which counts as true, stands for one of the sections. -/
def HasStray (entries : List (Value × Value)) : Prop :=
  ∃ name ∈ ["trainer", "optimizer"], ∃ given, Value.get? entries name = some given ∧
    given.IsStray ∧ given.isTrue? = .ok true

/-- Which of the trainer's settings a section runs through. -/
theorem ownedIn?_eq {items : List Value} (runs : given.items? = .ok items)
    (keys : ∀ item ∈ items, item.isKey = true) : ∃ owned, ownedIn? given = .ok owned ∧
      ∀ name, name ∈ owned ↔ name ∈ trainerOwned ∧ .text name ∈ items := by
  have fit : items.all (·.isKey) = true := List.all_eq_true.mpr keys
  rw [ownedIn?, runs, ok_bind, fit]
  refine ⟨_, rfl, fun name => ?_⟩
  rw [List.mem_filter, List.any_eq_true]
  refine and_congr_right fun _ => ⟨?_, fun member => ⟨_, member, beq_self_eq_true name⟩⟩
  rintro ⟨item, member, named⟩
  cases item with
  | text content => exact eq_of_beq named ▸ member
  | _ => cases named

theorem record?_of_stray {α : Type} (layout : Layout α) (stray : given.IsStray) :
    record? layout given = .error (.groupNotMapping layout.group given.fullTypeName) := by
  cases given with
  | mapping => exact stray.elim
  | _ => rfl

/-- Every failure to make a record is a complaint. -/
theorem complaint_of_record? {α : Type} {layout : Layout α} {problem : Error}
    (failed : record? layout given = .error problem) : problem.isA .configuration = true := by
  have fails : FailsOnly (Error.ComplaintOr fun _ => False) (record? layout given) :=
    record?_fails layout given
  rcases fails problem failed with complaint | ⟨-, -, impossible⟩
  · exact complaint
  · exact impossible.elim

/-- Once both sections have been examined they are refused, or both make a record. -/
theorem refused_or_made {trainerSection optimizerSection : Value} {owned : List String}
    (trainerFound : sectionOf? "trainer" entries = .ok trainerSection)
    (optimizerFound : sectionOf? "optimizer" entries = .ok optimizerSection)
    (ownedFound : ownedIn? optimizerSection = .ok owned) :
    (∃ problem, ofEntries? entries = .error problem ∧ problem.isA .configuration = true) ∨
      owned = [] ∧ (∃ trainer, record? TrainerSettings.layout trainerSection = .ok trainer) ∧
        ∃ optimizer, record? OptimizerSettings.layout optimizerSection = .ok optimizer := by
  simp only [ofEntries?, trainerFound, optimizerFound, ownedFound, mapError_ok, ok_bind]
  cases owned with
  | cons => exact .inl ⟨_, rfl, rfl⟩
  | nil =>
  cases trainerMade : record? TrainerSettings.layout trainerSection with
  | error problem => exact .inl ⟨problem, rfl, complaint_of_record? trainerMade⟩
  | ok trainer =>
  cases optimizerMade : record? OptimizerSettings.layout optimizerSection with
  | error problem => exact .inl ⟨problem, rfl, complaint_of_record? optimizerMade⟩
  | ok optimizer => exact .inr ⟨rfl, ⟨trainer, rfl⟩, optimizer, rfl⟩

/-- A stray section is refused as soon as both sections have been examined. -/
theorem ofEntries?_of_hasStray (examinable : Examinable entries) (stray : HasStray entries) :
    ∃ problem, ofEntries? entries = .error problem ∧ problem.isA .configuration = true := by
  obtain ⟨trainerSection, trainerFound⟩ := examinable.trainer
  obtain ⟨optimizerSection, items, optimizerFound, runs, keys⟩ := examinable.optimizer
  obtain ⟨owned, ownedFound, -⟩ := ownedIn?_eq runs keys
  rcases refused_or_made trainerFound optimizerFound ownedFound with
    refused | ⟨-, ⟨trainer, trainerMade⟩, optimizer, optimizerMade⟩
  · exact refused
  · obtain ⟨name, nameMem, given, found, isStray, isTrue⟩ := stray
    have taken := sectionOf?_of_true found isTrue
    rcases List.mem_pair.mp nameMem with rfl | rfl
    · cases taken.symm.trans trainerFound
      rw [record?_of_stray _ isStray] at trainerMade
      cases trainerMade
    · cases taken.symm.trans optimizerFound
      rw [record?_of_stray _ isStray] at optimizerMade
      cases optimizerMade

/-- Sections that cannot be examined fail before anything is refused. -/
theorem ofEntries?_of_not_examinable (unfit : ¬ Examinable entries) :
    ∃ kind, ofEntries? entries = .error (.fault kind) := by
  rw [ofEntries?]
  cases trainerFound : sectionOf? "trainer" entries with
  | error kind => exact ⟨kind, rfl⟩
  | ok trainer =>
  cases optimizerFound : sectionOf? "optimizer" entries with
  | error kind => exact ⟨kind, rfl⟩
  | ok optimizer =>
  simp only [mapError_ok, ok_bind]
  cases ownedFound : ownedIn? optimizer with
  | error kind => exact ⟨kind, rfl⟩
  | ok owned =>
  refine absurd ⟨⟨trainer, trainerFound⟩, optimizer, ?_⟩ unfit
  unfold ownedIn? at ownedFound
  obtain ⟨items, runs, ownedFound⟩ := of_bind ownedFound
  refine ⟨items, optimizerFound, runs, List.all_eq_true.mp ?_⟩
  cases fit : items.all (·.isKey) with
  | true => rfl
  | false =>
      rw [fit] at ownedFound
      cases ownedFound

/-- How a file is taken for a mapping, and the sections of one. -/
structure Mapped (entries : List (Value × Value)) (path : String) (bytes : List UInt8) :
    Prop where
  file_mapping : ∀ settings, Document.read? (.ofBytes bytes) = .ok (.mapping settings) →
    load? path (some bytes) = .ok settings
  file_empty : Document.read? (.ofBytes bytes) = .ok .null → load? path (some bytes) = .ok []
  file_refused : ∀ document, Document.read? (.ofBytes bytes) = .ok document →
    document.IsStray → document.isTrue = true →
      load? path (some bytes) = .error (.fileNotMapping path)
  /-- What counts as false is not refused. -/
  file_ignored : ∀ document, Document.read? (.ofBytes bytes) = .ok document →
    document.isTrue = false → load? path (some bytes) = .ok []
  section_refused : HasStray entries → Examinable entries →
    ∃ problem, ofEntries? entries = .error problem ∧ problem.isA .configuration = true
  /-- What cannot be examined is not refused. -/
  section_failed : ¬ Examinable entries → ∃ kind, ofEntries? entries = .error (.fault kind)
  /-- What counts as false is not refused. -/
  section_ignored : ∀ name given, Value.get? entries name = some given →
    given.isTrue? = .ok false → ofEntries? entries = ofEntries? (without name entries)

/-- **Only what counts as true is refused** in place of a mapping, and in the optimizer's
section only if it can be run through. -/
theorem true_strays_refused (entries : List (Value × Value)) (path : String)
    (bytes : List UInt8) : Mapped entries path bytes where
  file_mapping := fun _ found => load?_mapping path found
  file_empty := fun found => (load?_eq found).trans (entriesOf?_of_false rfl)
  file_refused := fun _ found stray isTrue =>
    (load?_eq found).trans (entriesOf?_of_stray stray isTrue)
  file_ignored := fun _ found isFalse => (load?_eq found).trans (entriesOf?_of_false isFalse)
  section_refused := fun stray examinable => ofEntries?_of_hasStray examinable stray
  section_failed := ofEntries?_of_not_examinable
  section_ignored := fun _ _ found isFalse => (ofEntries?_without found isFalse).symm

/-- An empty list passes for an empty mapping, as a file and as a section, and a number in
place of the optimizer's section is not refused either. -/
theorem strays_accepted :
    load? "settings.yaml" (some [0x5B, 0x5D, 0x0A]) = .ok [] ∧
      Document.read? (.ofBytes [0x5B, 0x5D, 0x0A]) = .ok (.list []) ∧
      (Value.list []).IsStray ∧
      ofEntries? [(.text "trainer", .list [])] = .ok ⟨.default, .default⟩ ∧
      ofEntries? [(.text "optimizer", .list [])] = .ok ⟨.default, .default⟩ ∧
      ofEntries? [(.text "optimizer", .int 5)] = .error (.fault .wrongType) ∧
      (Error.fault .wrongType).isA .configuration = false :=
  ⟨by cbv, by cbv, trivial, rfl, rfl, rfl, rfl⟩

end Configuration

end HingeRank
