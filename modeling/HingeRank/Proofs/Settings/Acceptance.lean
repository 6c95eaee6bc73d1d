import HingeRank.Proofs.Settings.Strays
import HingeRank.Proofs.Trainer.LastWritten

/-!
# Which configurations are accepted

A configuration of finite numbers and truth values is accepted exactly if all its settings are
known, those of the optimizer are not the trainer's to decide, and all numbers are in their
ranges.  What is accepted is what was given, completed by defaults.

Of several settings out of range the first one is complained about, unless it has too many digits
to be shown.
-/

namespace HingeRank

open Settings

/-! ## Sections -/

namespace Configuration

variable {entries settings trainer optimizer : List (Value × Value)} {name : String}

/-- The settings of a section that is a mapping or absent. -/
inductive SectionHolds (entries : List (Value × Value)) (name : String) :
    List (Value × Value) → Prop
  | absent (found : Value.get? entries name = none) : SectionHolds entries name []
  | null (found : Value.get? entries name = some .null) : SectionHolds entries name []
  | mapping (settings : List (Value × Value))
      (found : Value.get? entries name = some (.mapping settings)) :
      SectionHolds entries name settings

theorem SectionHolds.sectionOf?_eq (holds : SectionHolds entries name settings) :
    sectionOf? name entries = .ok (.mapping settings) := by
  cases holds with
  | absent found => exact sectionOf?_of_absent found
  | null found => exact sectionOf?_of_false found rfl
  | mapping settings found =>
      cases settings with
      | nil => exact sectionOf?_of_false found rfl
      | cons => exact sectionOf?_of_true found rfl

/-- Finite numbers and truth values by different names; a time limit may be absent. -/
structure IsNumeric (settings : List (Value × Value)) : Prop where
  distinct : (settings.map (·.1)).Nodup
  texts : ∀ key ∈ settings.map (·.1), key.IsText
  numeric : ∀ entry ∈ settings,
    entry.2.IsNumeric ∨ entry.1 = .text "max_seconds" ∧ entry.2 = .null

/-- All settings are known, and those of the optimizer are not the trainer's to decide. -/
structure Known (trainer optimizer : List (Value × Value)) : Prop where
  trainer_named : NamedAmong ["C", "epsilon", "max_iterations", "nonnegative_weights", "verbose",
    "num_threads", "max_seconds"] trainer
  optimizer_named : NamedAmong ["epsilon", "max_iterations", "nonnegative", "qp_epsilon",
    "qp_max_iterations", "inactive_plane_threshold", "max_seconds", "verbose"] optimizer
  not_owned : ∀ owned ∈ ["epsilon", "max_iterations", "max_seconds", "nonnegative", "verbose"],
    .text owned ∉ optimizer.map (·.1)

/-- The trainer's settings that are given, and defaults for the others. -/
def trainerGiven (settings : List (Value × Value)) : TrainerSettings where
  tradeoff := valueIn settings "C" TrainerSettings.default.tradeoff
  epsilon := valueIn settings "epsilon" TrainerSettings.default.epsilon
  maxIterations := valueIn settings "max_iterations" TrainerSettings.default.maxIterations
  nonnegativeWeights :=
    valueIn settings "nonnegative_weights" TrainerSettings.default.nonnegativeWeights
  verbose := valueIn settings "verbose" TrainerSettings.default.verbose
  workers := valueIn settings "num_threads" TrainerSettings.default.workers
  maxSeconds := valueIn settings "max_seconds" TrainerSettings.default.maxSeconds

/-- The optimizer's own settings that are given, and defaults for the others. -/
def optimizerGiven (settings : List (Value × Value)) : OptimizerSettings :=
  { OptimizerSettings.default with
    qpEpsilon := valueIn settings "qp_epsilon" OptimizerSettings.default.qpEpsilon
    qpMaxIterations :=
      valueIn settings "qp_max_iterations" OptimizerSettings.default.qpMaxIterations
    inactivePlaneThreshold := valueIn settings "inactive_plane_threshold"
      OptimizerSettings.default.inactivePlaneThreshold }

/-- The trainer's settings that have to be in a range, in the order of their checks. -/
def trainerRanges (settings : List (Value × Value)) : List Ranged :=
  let given := trainerGiven settings
  [⟨"C", .positive, given.tradeoff, false⟩,
   ⟨"epsilon", .positive, given.epsilon, false⟩,
   ⟨"max_iterations", .atLeast 0, given.maxIterations, false⟩,
   ⟨"num_threads", .atLeast 1, given.workers, false⟩,
   ⟨"max_seconds", .positive, given.maxSeconds, true⟩]

/-- The optimizer's own settings that have to be in a range, in the order of their checks. -/
def optimizerRanges (settings : List (Value × Value)) : List Ranged :=
  let given := optimizerGiven settings
  [⟨"qp_epsilon", .positive, given.qpEpsilon, false⟩,
   ⟨"qp_max_iterations", .atLeast 1, given.qpMaxIterations, false⟩,
   ⟨"inactive_plane_threshold", .atLeast 1, given.inactivePlaneThreshold, false⟩]

/-- All settings that have to be in a range. -/
def ranges (trainer optimizer : List (Value × Value)) : List Ranged :=
  trainerRanges trainer ++ optimizerRanges optimizer

theorem checkTimeLimit_eq (given : Value) :
    checkTimeLimit given = (Ranged.mk "max_seconds" .positive given true).examine := by
  cases given <;> rfl

theorem trainerGiven_validate (settings : List (Value × Value)) :
    (trainerGiven settings).validate = (trainerRanges settings).forM Ranged.examine := by
  simp only [TrainerSettings.validate, trainerRanges, List.forM_eq_forM, List.forM_cons,
    List.forM_nil, bind_pure_unit, checkTimeLimit_eq]
  rfl

/-- The settings that the trainer decides have defaults, which are in their ranges. -/
theorem optimizerGiven_validate (settings : List (Value × Value)) :
    (optimizerGiven settings).validate = (optimizerRanges settings).forM Ranged.examine := by
  have epsilon : check "epsilon" .positive OptimizerSettings.default.epsilon = .ok () := rfl
  have maxIterations :
      check "max_iterations" (.atLeast 0) OptimizerSettings.default.maxIterations = .ok () := rfl
  simp only [OptimizerSettings.validate, optimizerRanges, List.forM_eq_forM, List.forM_cons,
    List.forM_nil, optimizerGiven, epsilon, maxIterations]
  rfl

/-! ### What is given -/

theorem valueIn_comparable (numeric : IsNumeric settings) {setting : String}
    {requirement : Requirement} {other : Value} {optional : Bool}
    (representable : requirement.IsExact)
    (other_numeric : other.IsNumeric ∨ optional = true ∧ other = .null)
    (may : setting = "max_seconds" → optional = true) :
    (Ranged.mk setting requirement (valueIn settings setting other) optional).Comparable where
  representable := representable
  numeric := by
    dsimp only
    rcases valueIn_cases settings setting other with member | absent
    · refine (numeric.numeric _ member).imp_right fun ⟨named, null⟩ => ⟨may ?_, null⟩
      simpa using named
    · rwa [absent]

theorem trainerRanges_comparable (numeric : IsNumeric settings) :
    ∀ ranged ∈ trainerRanges settings, ranged.Comparable := by
  simp only [trainerRanges, List.forall_mem_cons]
  refine ⟨?_, ?_, ?_, ?_, ?_, nofun⟩
  · exact valueIn_comparable numeric trivial (.inl rfl) (by decide)
  · exact valueIn_comparable numeric trivial (.inl rfl) (by decide)
  · exact valueIn_comparable numeric rfl (.inl trivial) (by decide)
  · exact valueIn_comparable numeric rfl (.inl trivial) (by decide)
  · exact valueIn_comparable numeric trivial (.inr ⟨rfl, rfl⟩) (by decide)

theorem optimizerRanges_comparable (numeric : IsNumeric settings) :
    ∀ ranged ∈ optimizerRanges settings, ranged.Comparable := by
  simp only [optimizerRanges, List.forall_mem_cons]
  refine ⟨?_, ?_, ?_, nofun⟩
  · exact valueIn_comparable numeric trivial (.inl rfl) (by decide)
  · exact valueIn_comparable numeric rfl (.inl trivial) (by decide)
  · exact valueIn_comparable numeric rfl (.inl trivial) (by decide)

theorem ranges_comparable (trainerNumeric : IsNumeric trainer)
    (optimizerNumeric : IsNumeric optimizer) :
    ∀ ranged ∈ ranges trainer optimizer, ranged.Comparable :=
  List.forall_mem_append.mpr
    ⟨trainerRanges_comparable trainerNumeric, optimizerRanges_comparable optimizerNumeric⟩

theorem ofEntries?_trainer (numeric : IsNumeric trainer) (known : Known trainer optimizer) :
    TrainerSettings.layout.ofEntries? trainer = .ok (trainerGiven trainer) := by
  obtain ⟨record, made, entries_eq⟩ :=
    TrainerSettings.layout_addressed.ofEntries?_eq known.trainer_named numeric.distinct
  rw [made]
  cases record
  simp only [TrainerSettings.entries, TrainerSettings.layout, List.map_cons, List.cons.injEq,
    Prod.mk.injEq, true_and] at entries_eq
  simp only [trainerGiven, entries_eq]

theorem ofEntries?_optimizer (numeric : IsNumeric optimizer) (known : Known trainer optimizer) :
    OptimizerSettings.layout.ofEntries? optimizer = .ok (optimizerGiven optimizer) := by
  obtain ⟨record, made, entries_eq⟩ :=
    OptimizerSettings.layout_addressed.ofEntries?_eq known.optimizer_named numeric.distinct
  have unowned (owned : String)
      (member : owned ∈ ["epsilon", "max_iterations", "max_seconds", "nonnegative", "verbose"])
      (other : Value) : valueIn optimizer owned other = other :=
    valueIn_of_absent (known.not_owned owned member) other
  rw [made]
  cases record
  simp only [OptimizerSettings.entries, OptimizerSettings.layout, List.map_cons, List.cons.injEq,
    Prod.mk.injEq, true_and] at entries_eq
  simp [optimizerGiven, entries_eq, unowned]

/-- Which of the trainer's settings stand in the optimizer's section can be decided. -/
theorem exists_ownedIn? (numeric : IsNumeric optimizer) :
    ∃ owned, ownedIn? (.mapping optimizer) = .ok owned ∧
      ∀ name, name ∈ owned ↔ name ∈ trainerOwned ∧ .text name ∈ optimizer.map (·.1) :=
  ownedIn?_eq rfl fun key member => Value.isKey_of_isText (numeric.texts key member)

/-- Sections of numbers, where there are sections. -/
structure NumericSections (entries trainer optimizer : List (Value × Value)) : Prop where
  trainer_holds : SectionHolds entries "trainer" trainer
  optimizer_holds : SectionHolds entries "optimizer" optimizer
  trainer_numeric : IsNumeric trainer
  optimizer_numeric : IsNumeric optimizer

namespace NumericSections

/-- Known settings only have to be in their ranges. -/
theorem ofEntries?_of_known (sections : NumericSections entries trainer optimizer)
    (known : Known trainer optimizer) :
    ofEntries? entries = (do
      (ranges trainer optimizer).forM Ranged.examine
      return ⟨trainerGiven trainer, optimizerGiven optimizer⟩) := by
  obtain ⟨owned, ownedFound, owned_iff⟩ := exists_ownedIn? sections.optimizer_numeric
  have none_owned : owned = [] := List.eq_nil_iff_forall_not_mem.mpr fun name member =>
    known.not_owned name ((owned_iff name).mp member).1 ((owned_iff name).mp member).2
  have describes : Describes entries (trainerGiven trainer) (optimizerGiven optimizer) := by
    constructor
    case trainer_made =>
      exact ⟨_, sections.trainer_holds.sectionOf?_eq,
        ofEntries?_trainer sections.trainer_numeric known⟩
    case optimizer_made =>
      exact ⟨_, sections.optimizer_holds.sectionOf?_eq, none_owned ▸ ownedFound,
        ofEntries?_optimizer sections.optimizer_numeric known⟩
  rw [describes.ofEntries?_eq, trainerGiven_validate, optimizerGiven_validate, ranges,
    List.forM_eq_forM, List.forM_append, bind_assoc]

/-- Unknown settings and those that the trainer decides are refused. -/
theorem ofEntries?_of_not_known (sections : NumericSections entries trainer optimizer)
    (unknown : ¬ Known trainer optimizer) :
    ∃ problem, ofEntries? entries = .error problem ∧ problem.isA .configuration = true := by
  obtain ⟨owned, ownedFound, owned_iff⟩ := exists_ownedIn? sections.optimizer_numeric
  rcases refused_or_made sections.trainer_holds.sectionOf?_eq
      sections.optimizer_holds.sectionOf?_eq ownedFound with
    refused | ⟨none_owned, ⟨trainerRecord, trainerMade⟩, optimizerRecord, optimizerMade⟩
  · exact refused
  · refine absurd ⟨?_, ?_, ?_⟩ unknown
    · exact TrainerSettings.layout_addressed.namedAmong_of_ofEntries?
        sections.trainer_numeric.texts trainerMade
    · exact OptimizerSettings.layout_addressed.namedAmong_of_ofEntries?
        sections.optimizer_numeric.texts optimizerMade
    · intro name member present
      have isOwned := (owned_iff name).mpr ⟨member, present⟩
      rw [none_owned] at isOwned
      cases isOwned

/-- Of known settings the first one out of range decides. -/
theorem exists_checked (sections : NumericSections entries trainer optimizer)
    (known : Known trainer optimizer) {ranged : Ranged}
    (first : ranged.IsFirstOutside (ranges trainer optimizer)) :
    ∃ result, Checked ranged.setting ranged.requirement ranged.given ranged.Holds result ∧
      ofEntries? entries = (do
        result
        return ⟨trainerGiven trainer, optimizerGiven optimizer⟩) :=
  have comparable := ranges_comparable sections.trainer_numeric sections.optimizer_numeric
  ⟨_, first.forM_examine comparable, sections.ofEntries?_of_known known⟩

theorem first_refused (sections : NumericSections entries trainer optimizer)
    (known : Known trainer optimizer) {ranged : Ranged}
    (first : ranged.IsFirstOutside (ranges trainer optimizer)) (short : ¬ ranged.given.IsTooLong) :
    ofEntries? entries =
      .error (.settingOutOfRange ranged.setting ranged.requirement ranged.given) := by
  obtain ⟨result, checked, made⟩ := sections.exists_checked known first
  rw [made, checked.refuses first.outside short]
  rfl

theorem first_failed (sections : NumericSections entries trainer optimizer)
    (known : Known trainer optimizer) {ranged : Ranged}
    (first : ranged.IsFirstOutside (ranges trainer optimizer)) (long : ranged.given.IsTooLong) :
    ofEntries? entries = .error (.fault .badValue) := by
  obtain ⟨result, checked, made⟩ := sections.exists_checked known first
  rw [made, checked.fails first.outside long]
  rfl

end NumericSections

/-! ## Acceptance -/

/-- All settings are known and in their ranges. -/
structure Acceptable (trainer optimizer : List (Value × Value)) : Prop where
  known : Known trainer optimizer
  in_range : ∀ ranged ∈ ranges trainer optimizer, ranged.Holds

/-- How the making of a configuration from two sections of numbers ends. -/
structure Acceptance (entries trainer optimizer : List (Value × Value)) : Prop where
  accepted_iff : (∃ configuration, ofEntries? entries = .ok configuration) ↔
    Acceptable trainer optimizer
  /-- What is not given has its default. -/
  completed : ∀ configuration, ofEntries? entries = .ok configuration →
    configuration = ⟨trainerGiven trainer, optimizerGiven optimizer⟩
  /-- The optimizer's settings of a trainer that is made from both. -/
  resolved : ∀ configuration, ofEntries? entries = .ok configuration →
    ∃ session, trainerOf? configuration = .ok session ∧
      (TrainerSession.getOptimizer.run session).1 = .ok {
        epsilon := (trainerGiven trainer).epsilon
        maxIterations := (trainerGiven trainer).maxIterations
        nonnegative := (trainerGiven trainer).nonnegativeWeights
        verbose := (trainerGiven trainer).verbose
        maxSeconds := (trainerGiven trainer).maxSeconds
        qpEpsilon := (optimizerGiven optimizer).qpEpsilon
        qpMaxIterations := (optimizerGiven optimizer).qpMaxIterations
        inactivePlaneThreshold := (optimizerGiven optimizer).inactivePlaneThreshold }
  unknown_refused : ¬ Known trainer optimizer →
    ∃ problem, ofEntries? entries = .error problem ∧ problem.isA .configuration = true
  first_refused : Known trainer optimizer → ∀ ranged : Ranged,
    ranged.IsFirstOutside (ranges trainer optimizer) → ¬ ranged.given.IsTooLong →
      ofEntries? entries =
        .error (.settingOutOfRange ranged.setting ranged.requirement ranged.given)
  /-- What is too long to be shown is not refused. -/
  first_failed : Known trainer optimizer → ∀ ranged : Ranged,
    ranged.IsFirstOutside (ranges trainer optimizer) → ranged.given.IsTooLong →
      ofEntries? entries = .error (.fault .badValue)

theorem exists_trainerOf? {configuration : Configuration}
    (valid : configuration.trainer.validate = .ok ()) :
    ∃ session, trainerOf? configuration = .ok session ∧
      session.trainer = ⟨configuration.trainer, configuration.optimizer⟩ := by
  have own : (TrainerSession.copySettings none (some configuration.trainer)).current =
      configuration.trainer :=
    TrainerSession.current_copySettings (some configuration.optimizer)
  obtain ⟨session, created⟩ : ∃ session, trainerOf? configuration = .ok session := by
    rw [trainerOf?, TrainerSession.create?, own, valid]
    exact ⟨_, rfl⟩
  exact ⟨session, created, (TrainerSession.of_create? created).2.1⟩

theorem NumericSections.ofEntries?_eq (sections : NumericSections entries trainer optimizer)
    (acceptable : Acceptable trainer optimizer) :
    ofEntries? entries = .ok ⟨trainerGiven trainer, optimizerGiven optimizer⟩ := by
  have comparable := ranges_comparable sections.trainer_numeric sections.optimizer_numeric
  rw [sections.ofEntries?_of_known acceptable.known,
    Ranged.forM_examine_eq_ok comparable acceptable.in_range]
  rfl

/-- What is accepted is acceptable. -/
theorem NumericSections.acceptable (sections : NumericSections entries trainer optimizer)
    {configuration : Configuration} (made : ofEntries? entries = .ok configuration) :
    Acceptable trainer optimizer := by
  have known : Known trainer optimizer := by
    by_contra unknown
    obtain ⟨problem, failed, -⟩ := sections.ofEntries?_of_not_known unknown
    cases failed.symm.trans made
  refine ⟨known, ?_⟩
  by_contra outside
  obtain ⟨ranged, first⟩ := Ranged.exists_isFirstOutside outside
  by_cases long : ranged.given.IsTooLong
  · cases (sections.first_failed known first long).symm.trans made
  · cases (sections.first_refused known first long).symm.trans made

/-- **A configuration of numbers is accepted** exactly if all settings are known and in their
ranges, and is what was given, completed by defaults. -/
theorem acceptance (sections : NumericSections entries trainer optimizer) :
    Acceptance entries trainer optimizer where
  accepted_iff :=
    ⟨fun ⟨_, made⟩ => sections.acceptable made, fun fit => ⟨_, sections.ofEntries?_eq fit⟩⟩
  completed := fun configuration made =>
    Except.ok.inj (made.symm.trans (sections.ofEntries?_eq (sections.acceptable made)))
  resolved := fun configuration made => by
    obtain ⟨session, created, trainer_eq⟩ := exists_trainerOf? (ofEntries?_valid made).1
    refine ⟨session, created, ?_⟩
    have shown : (TrainerSession.getOptimizer.run session).1 = .ok session.trainer.inForce := rfl
    cases made.symm.trans (sections.ofEntries?_eq (sections.acceptable made))
    rw [shown, trainer_eq]
    rfl
  unknown_refused := sections.ofEntries?_of_not_known
  first_refused := fun known _ first short => sections.first_refused known first short
  first_failed := fun known _ first long => sections.first_failed known first long

section Example

def exampleTrainer : List (Value × Value) :=
  [(.text "C", .float 10), (.text "num_threads", .bool true), (.text "max_seconds", .null)]

def exampleOptimizer : List (Value × Value) := [(.text "inactive_plane_threshold", .int 30)]

def exampleEntries : List (Value × Value) :=
  [(.text "trainer", .mapping exampleTrainer), (.text "optimizer", .mapping exampleOptimizer)]

theorem example_sections : NumericSections exampleEntries exampleTrainer exampleOptimizer where
  trainer_holds := .mapping _ rfl
  optimizer_holds := .mapping _ rfl
  trainer_numeric :=
    { distinct := by simp [exampleTrainer]
      texts := by simp [exampleTrainer, Value.IsText]
      numeric := List.forall_mem_cons.mpr ⟨.inl rfl, by simp [Value.IsNumeric]⟩ }
  optimizer_numeric :=
    { distinct := by simp [exampleOptimizer]
      texts := by simp [exampleOptimizer, Value.IsText]
      numeric := by simp [exampleOptimizer, Value.IsNumeric] }

theorem example_acceptable : Acceptable exampleTrainer exampleOptimizer where
  known :=
    { trainer_named := by simp [NamedAmong, exampleTrainer]
      optimizer_named := by simp [NamedAmong, exampleOptimizer]
      not_owned := by simp [exampleOptimizer] }
  in_range := by
    have tradeoff : (0 : Float) < 10 := by decide
    have epsilon : (0 : Float) < 0.001 := by decide
    have tolerance : (0 : Float) < 0.1 := by decide
    simp only [ranges, trainerRanges, optimizerRanges, List.forall_mem_append,
      List.forall_mem_cons]
    exact ⟨⟨.inr tradeoff, .inr epsilon, .inr (by decide : (0 : Int) ≤ 10000),
        .inr (by decide : 1 ≤ true.toNat), .inl ⟨rfl, rfl⟩, nofun⟩,
      .inr tolerance, .inr (by decide : (1 : Int) ≤ 50000), .inr (by decide : (1 : Int) ≤ 30),
      nofun⟩

theorem acceptance_example :
    NumericSections exampleEntries exampleTrainer exampleOptimizer ∧
      Acceptance exampleEntries exampleTrainer exampleOptimizer ∧
      ofEntries? exampleEntries =
        .ok ⟨{ TrainerSettings.default with tradeoff := .float 10, workers := .bool true },
          { OptimizerSettings.default with inactivePlaneThreshold := .int 30 }⟩ :=
  ⟨example_sections, acceptance example_sections, example_sections.ofEntries?_eq example_acceptable⟩

end Example

/-! ## Numbers that are too long -/

/-- A mapping with nothing but a tradeoff. -/
def withTradeoff (number : Int) : List (Value × Value) :=
  [(.text "trainer", .mapping [(.text "C", .int number)])]

theorem withTradeoff_sections (number : Int) :
    NumericSections (withTradeoff number) [(.text "C", .int number)] [] where
  trainer_holds := .mapping _ rfl
  optimizer_holds := .absent rfl
  trainer_numeric :=
    { distinct := by simp
      texts := by simp [Value.IsText]
      numeric := by simp [Value.IsNumeric] }
  optimizer_numeric := ⟨List.nodup_nil, nofun, nofun⟩

theorem withTradeoff_known (number : Int) : Known [(.text "C", .int number)] [] where
  trainer_named := by simp [NamedAmong]
  optimizer_named := nofun
  not_owned := fun _ _ => nofun

/-- The first check fails, whatever the others say. -/
theorem withTradeoff_first {number : Int} (negative : number < 0) :
    (Ranged.mk "C" .positive (.int number) false).IsFirstOutside
      (ranges [(.text "C", .int number)] []) := by
  refine ⟨[], _, rfl, nofun, ?_⟩
  rintro (⟨impossible, -⟩ | positive)
  · cases impossible
  · exact (lt_asymm negative positive).elim

/-- A negative tradeoff with very many digits is not refused as a configuration. -/
theorem tooLong_not_refused :
    NumericSections (withTradeoff (-Nat.pow 10 Text.longestWhole))
        [(.text "C", .int (-Nat.pow 10 Text.longestWhole))] [] ∧
      ofEntries? (withTradeoff (-Nat.pow 10 Text.longestWhole)) = .error (.fault .badValue) ∧
      (Error.fault .badValue).isA .configuration = false := by
  have negative (digits : Nat) : -(Nat.pow 10 digits : Int) < 0 :=
    neg_neg_of_pos (Int.natCast_pos.mpr (Nat.pow_pos (by decide)))
  have long (digits : Nat) : Nat.pow 10 digits ≤ (-(Nat.pow 10 digits : Int)).natAbs := by
    rw [Int.natAbs_neg, Int.natAbs_natCast]
  have sections := withTradeoff_sections (-Nat.pow 10 Text.longestWhole)
  exact ⟨sections, sections.first_failed (withTradeoff_known _)
    (withTradeoff_first (negative _)) (long _), rfl⟩

end Configuration

end HingeRank
