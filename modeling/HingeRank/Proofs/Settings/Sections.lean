import Mathlib
import HingeRank.Proofs.Exact.Sequence
import HingeRank.Settings.File

/-!
# What can go wrong in a configuration

A configuration whose settings are out of range, unknown or misplaced is refused as
such.  At three places, however, an elementary operation on the given values fails
before anything is refused: where the optimizer's section is run through, where a setting
is compared with a number, and where a number is shown in a complaint.
-/

namespace HingeRank

open Settings

/-- An error that is a complaint about the configuration, or a fault with a certain cause. -/
def Error.ComplaintOr (cause : Fault → Prop) (problem : Error) : Prop :=
  problem.isA .configuration = true ∨ ∃ kind, problem = .fault kind ∧ cause kind

open Error

variable {cause : Fault → Prop}

theorem complaintOr_fault {kind : Fault} (caused : cause kind) :
    ComplaintOr cause (.fault kind) :=
  .inr ⟨kind, rfl, caused⟩

theorem FailsOnly.because {α : Type} {other : Fault → Prop} {result : Except Error α}
    (fails : FailsOnly (ComplaintOr cause) result) (causes : ∀ kind, cause kind → other kind) :
    FailsOnly (ComplaintOr other) result :=
  fails.mono fun _ => Or.imp_right fun ⟨kind, same, caused⟩ => ⟨kind, same, causes kind caused⟩

/-! ## Single settings -/

/-- Settings that are compared with a number, by their names. -/
def comparedSettings : List String :=
  ["C", "epsilon", "max_iterations", "num_threads", "max_seconds", "qp_epsilon",
    "qp_max_iterations", "inactive_plane_threshold"]

/-- Why a value of a setting cannot be examined: it is no number, or one that is too long
to be shown.  A time limit may be absent. -/
structure Unfit (setting : String) (given : Value) (kind : Fault) : Prop where
  compared : setting ∈ comparedSettings
  present : setting = "max_seconds" → given ≠ .null
  fails : given.comparand? = .error kind ∨ given.checkShowable = .error kind

/-- Numbers with few digits and an absent time limit. -/
def readilyExamined (setting : String) : Value → Bool
  | .float _ | .bool _ => true
  | .int number => number.natAbs < 10 ^ 9
  | .null => setting == "max_seconds"
  | _ => false

theorem checkShowable_int {number : Int} (short : number.natAbs < 10 ^ 9) :
    (Value.int number).checkShowable = .ok () := by
  -- For any number of digits, so that the power is not computed.
  have grows (digits : Nat) (more : 9 ≤ digits) : 10 ^ 9 ≤ Nat.pow 10 digits :=
    Nat.pow_le_pow_right (by decide) more
  have showable : number.natAbs < Nat.pow 10 Text.longestWhole :=
    Nat.lt_of_lt_of_le short (grows _ (by decide))
  rw [Value.checkShowable, if_pos showable]

theorem not_unfit_of_readilyExamined {setting : String} {given : Value}
    (readily : readilyExamined setting given = true) (kind : Fault) :
    ¬ Unfit setting given kind := by
  rintro ⟨-, present, failed⟩
  cases given with
  | float number => rcases failed with failed | failed <;> cases failed
  | bool flag => rcases failed with failed | failed <;> cases failed
  | int number =>
      rcases failed with failed | failed
      · cases failed
      · rw [checkShowable_int (of_decide_eq_true readily)] at failed
        cases failed
  | null => exact present (of_decide_eq_true readily) rfl
  | text | points | bytes | date | moment | list | tuple | set | mapping | matrix | endless =>
      cases readily

theorem check_fails {setting : String} (requirement : Requirement) (given : Value)
    (compared : setting ∈ comparedSettings) (present : setting = "max_seconds" → given ≠ .null) :
    FailsOnly (ComplaintOr (Unfit setting given)) (check setting requirement given) := by
  have complain : FailsOnly (ComplaintOr (Unfit setting given)) (do
      given.checkShowable.mapError .fault
      throw (.settingOutOfRange setting requirement given) : Except Error Unit) := by
    refine .bind (.mapError fun fault failed => ?_) fun _ _ => .error (Or.inl rfl)
    exact complaintOr_fault ⟨compared, present, .inr failed⟩
  refine .bind (.mapError fun fault failed => ?_) fun number _ => ?_
  · exact complaintOr_fault ⟨compared, present, .inl failed⟩
  cases requirement with
  | positive | atLeast least =>
      dsimp only
      split
      · exact complain
      · exact .ok ()

theorem checkTimeLimit_fails (given : Value) :
    FailsOnly (ComplaintOr (Unfit "max_seconds" given)) (checkTimeLimit given) := by
  unfold checkTimeLimit
  split
  · exact .ok ()
  next present => exact check_fails _ _ (by decide) fun _ => present

/-! ## Records -/

/-- Some setting of a record cannot be examined. -/
def SomeUnfit (entries : List (String × Value)) (kind : Fault) : Prop :=
  ∃ setting given, (setting, given) ∈ entries ∧ Unfit setting given kind

theorem SomeUnfit.intro {entries : List (String × Value)} {setting : String} {given : Value}
    (member : (setting, given) ∈ entries) (kind : Fault) (unfit : Unfit setting given kind) :
    SomeUnfit entries kind :=
  ⟨setting, given, member, unfit⟩

theorem check_fails_in {entries : List (String × Value)} {setting : String}
    (requirement : Requirement) {given : Value} (compared : setting ∈ comparedSettings)
    (other : setting ≠ "max_seconds") (member : (setting, given) ∈ entries) :
    FailsOnly (ComplaintOr (SomeUnfit entries)) (check setting requirement given) :=
  (check_fails requirement given compared fun same => absurd same other).because
    (SomeUnfit.intro member)

theorem checkTimeLimit_fails_in {entries : List (String × Value)} {given : Value}
    (member : ("max_seconds", given) ∈ entries) :
    FailsOnly (ComplaintOr (SomeUnfit entries)) (checkTimeLimit given) :=
  (checkTimeLimit_fails given).because (SomeUnfit.intro member)

theorem TrainerSettings.validate_fails (settings : TrainerSettings) :
    FailsOnly (ComplaintOr (SomeUnfit settings.entries)) settings.validate := by
  refine .bind (check_fails_in _ (by decide) (by decide) (by simp [entries])) fun _ _ => ?_
  refine .bind (check_fails_in _ (by decide) (by decide) (by simp [entries])) fun _ _ => ?_
  refine .bind (check_fails_in _ (by decide) (by decide) (by simp [entries])) fun _ _ => ?_
  refine .bind (check_fails_in _ (by decide) (by decide) (by simp [entries])) fun _ _ => ?_
  exact checkTimeLimit_fails_in (by simp [entries])

theorem OptimizerSettings.validate_fails (settings : OptimizerSettings) :
    FailsOnly (ComplaintOr (SomeUnfit settings.entries)) settings.validate := by
  refine .bind (check_fails_in _ (by decide) (by decide) (by simp [entries])) fun _ _ => ?_
  refine .bind (check_fails_in _ (by decide) (by decide) (by simp [entries])) fun _ _ => ?_
  refine .bind (check_fails_in _ (by decide) (by decide) (by simp [entries])) fun _ _ => ?_
  refine .bind (check_fails_in _ (by decide) (by decide) (by simp [entries])) fun _ _ => ?_
  refine .bind (check_fails_in _ (by decide) (by decide) (by simp [entries])) fun _ _ => ?_
  exact checkTimeLimit_fails_in (by simp [entries])

/-! ## Where settings come from -/

namespace Settings.Layout

variable {α : Type} {layout : Layout α} {entriesOf : α → List (String × Value)}

/-- Writing a setting changes that setting alone, and the settings that a record starts
with are readily examined. -/
structure Faithful (layout : Layout α) (entriesOf : α → List (String × Value)) : Prop where
  written : ∀ name given record next, layout.write? name given record = some next →
    ∀ entry ∈ entriesOf next, entry ∈ entriesOf record ∨ entry = (name, given)
  fresh_readily : ((entriesOf layout.fresh).all fun entry => readilyExamined entry.1 entry.2) = true

theorem Faithful.fresh_fit (faithful : layout.Faithful entriesOf) (kind : Fault) :
    ¬ SomeUnfit (entriesOf layout.fresh) kind := by
  rintro ⟨setting, given, member, unfit⟩
  have readily := List.all_eq_true.mp faithful.fresh_readily _ member
  exact not_unfit_of_readilyExamined readily kind unfit

/-- The induction is on the settings that are written. -/
theorem Faithful.writeAll (faithful : layout.Faithful entriesOf) {given : List (Value × Value)}
    {record last : α} (written : layout.writeAll given record = .ok last) :
    ∀ entry ∈ entriesOf last, entry ∈ entriesOf record ∨
      ∃ key, (key, entry.2) ∈ given ∧ key.toText = entry.1 := by
  induction given generalizing record with
  | nil =>
      cases written
      exact fun entry member => .inl member
  | cons first rest ih =>
      obtain ⟨key, value⟩ := first
      unfold Layout.writeAll at written
      split at written
      next next found =>
        intro entry member
        rcases ih written entry member with before | ⟨key, later, same⟩
        · rcases faithful.written _ _ _ _ found entry before with kept | rfl
          · exact .inl kept
          · exact .inr ⟨key, List.mem_cons_self, rfl⟩
        · exact .inr ⟨key, List.mem_cons_of_mem _ later, same⟩
      next => split at written <;> cases written

theorem writeAll_fails (layout : Layout α) (given : List (Value × Value)) (record : α) :
    FailsOnly (ComplaintOr cause) (layout.writeAll given record) := by
  induction given generalizing record with
  | nil => exact .ok record
  | cons first rest ih =>
      obtain ⟨key, value⟩ := first
      unfold writeAll
      split
      · exact ih _
      · split
        · exact .error (Or.inl rfl)
        · exact .error (Or.inl rfl)

end Settings.Layout

theorem TrainerSettings.layout_faithful : layout.Faithful entries where
  written := fun name given record next written entry member => by
    simp only [layout, write?] at written
    split at written <;> cases written <;> simp only [entries] at member ⊢ <;> grind
  fresh_readily := rfl

theorem OptimizerSettings.layout_faithful : layout.Faithful entries where
  written := fun name given record next written entry member => by
    simp only [layout, write?] at written
    split at written <;> cases written <;> simp only [entries] at member ⊢ <;> grind
  fresh_readily := rfl

/-! ## Sections -/

namespace Configuration

theorem record?_fails {α : Type} (layout : Layout α) (given : Value) :
    FailsOnly (ComplaintOr cause) (record? layout given) := by
  unfold record?
  split
  next entries =>
    unfold Layout.ofEntries?
    split
    · exact layout.writeAll_fails entries layout.fresh
    · exact .error (Or.inl rfl)
  next => exact .error (Or.inl rfl)

/-- What cannot be examined in a record stands in the section from which it was made. -/
theorem record?_unfit {α : Type} {layout : Layout α} {entriesOf : α → List (String × Value)}
    (faithful : layout.Faithful entriesOf) {given : Value} {record : α}
    (made : record? layout given = .ok record) {kind : Fault}
    (unfit : SomeUnfit (entriesOf record) kind) :
    ∃ settings key value, given = .mapping settings ∧ (key, value) ∈ settings ∧
      Unfit key.toText value kind := by
  unfold record? at made
  split at made
  next settings =>
    unfold Layout.ofEntries? at made
    split at made
    next =>
      obtain ⟨setting, value, member, unfit⟩ := unfit
      rcases faithful.writeAll made _ member with fresh | ⟨key, written, rfl⟩
      · exact absurd ⟨setting, value, fresh, unfit⟩ (faithful.fresh_fit kind)
      · exact ⟨settings, key, value, rfl, written, unfit⟩
    next => cases made
  next => cases made

/-- Why a configuration fails before anything in it is refused. -/
inductive Unguarded (entries : List (Value × Value)) (kind : Fault) : Prop
  /-- It is not decided whether a section counts as true. -/
  | truth (name : String) (given : Value) (found : Value.get? entries name = some given)
      (undecided : given.isTrue? = .error kind)
  /-- The optimizer's section cannot be run through. -/
  | items (given : Value) (found : sectionOf? "optimizer" entries = .ok given)
      (fails : given.items? = .error kind)
  /-- Something in the optimizer's section is not fit to be a key. -/
  | key (given : Value) (items : List Value) (item : Value)
      (found : sectionOf? "optimizer" entries = .ok given) (runs : given.items? = .ok items)
      (member : item ∈ items) (unfit : item.isKey = false) (same : kind = .wrongType)
  /-- A setting in one of the sections cannot be examined. -/
  | setting (name : String) (settings : List (Value × Value)) (key given : Value)
      (found : sectionOf? name entries = .ok (.mapping settings))
      (member : (key, given) ∈ settings) (unfit : Unfit key.toText given kind)

variable {entries : List (Value × Value)}

theorem sectionOf?_fault {name : String} {kind : Fault}
    (failed : sectionOf? name entries = .error kind) : Unguarded entries kind := by
  unfold sectionOf? at failed
  split at failed
  next given found =>
    cases decided : given.isTrue? with
    | ok flag =>
        rw [decided] at failed
        cases failed
    | error fault =>
        rw [decided] at failed
        cases failed
        exact .truth name given found decided
  next => cases failed

theorem ownedIn?_fault {given : Value} {kind : Fault}
    (found : sectionOf? "optimizer" entries = .ok given)
    (failed : ownedIn? given = .error kind) : Unguarded entries kind := by
  unfold ownedIn? at failed
  cases runs : given.items? with
  | error fault =>
      rw [runs] at failed
      cases failed
      exact .items given found runs
  | ok items =>
      rw [runs, ok_bind] at failed
      split at failed
      next unfit =>
        cases failed
        simp only [Bool.not_eq_true', List.all_eq_false] at unfit
        obtain ⟨item, member, unfit⟩ := unfit
        exact .key given items item found runs member (by simpa using unfit) rfl
      next => cases failed

theorem ofEntries?_fails (entries : List (Value × Value)) :
    FailsOnly (ComplaintOr (Unguarded entries)) (ofEntries? entries) := by
  refine .bind (.mapError fun fault failed => complaintOr_fault (sectionOf?_fault failed))
    fun trainerSection trainerFound => ?_
  refine .bind (.mapError fun fault failed => complaintOr_fault (sectionOf?_fault failed))
    fun optimizerSection optimizerFound => ?_
  have trainerIs := of_mapError trainerFound
  have optimizerIs := of_mapError optimizerFound
  refine .bind (.mapError fun fault failed => ?_) fun owned _ => ?_
  · exact complaintOr_fault (ownedIn?_fault optimizerIs failed)
  split
  · exact .error (Or.inl rfl)
  refine .bind (record?_fails _ _) fun trainer trainerMade => ?_
  refine .bind (record?_fails _ _) fun optimizer optimizerMade => ?_
  refine .bind (trainer.validate_fails.because fun kind unfit => ?_) fun _ _ => ?_
  · obtain ⟨settings, key, value, rfl, member, unfit⟩ :=
      record?_unfit TrainerSettings.layout_faithful trainerMade unfit
    exact .setting "trainer" settings key value trainerIs member unfit
  refine .bind (optimizer.validate_fails.because fun kind unfit => ?_) fun _ _ => .ok _
  obtain ⟨settings, key, value, rfl, member, unfit⟩ :=
    record?_unfit OptimizerSettings.layout_faithful optimizerMade unfit
  exact .setting "optimizer" settings key value optimizerIs member unfit

theorem ofEntries?_valid {configuration : Configuration}
    (made : ofEntries? entries = .ok configuration) :
    configuration.trainer.validate = .ok () ∧ configuration.optimizer.validate = .ok () := by
  unfold ofEntries? at made
  obtain ⟨trainerSection, -, made⟩ := of_bind made
  obtain ⟨optimizerSection, -, made⟩ := of_bind made
  obtain ⟨owned, -, made⟩ := of_bind made
  split at made
  next => cases made
  next =>
    obtain ⟨trainer, -, made⟩ := of_bind made
    obtain ⟨optimizer, -, made⟩ := of_bind made
    obtain ⟨⟨⟩, trainerValid, made⟩ := of_bind made
    obtain ⟨⟨⟩, optimizerValid, made⟩ := of_bind made
    cases made
    exact ⟨trainerValid, optimizerValid⟩

/-- A section of the optimizer that cannot be run through is not refused. -/
theorem ofEntries?_not_iterable {trainerSection given : Value} {kind : Fault}
    (trainerFound : sectionOf? "trainer" entries = .ok trainerSection)
    (found : sectionOf? "optimizer" entries = .ok given) (fails : given.items? = .error kind) :
    ofEntries? entries = .error (.fault kind) := by
  have owned : ownedIn? given = .error kind := by
    rw [ownedIn?, fails]
    rfl
  simp [ofEntries?, trainerFound, found, owned]

/-- The sections describe these records, whose settings are still to be checked. -/
structure Describes (entries : List (Value × Value)) (trainer : TrainerSettings)
    (optimizer : OptimizerSettings) : Prop where
  trainer_made : ∃ given, sectionOf? "trainer" entries = .ok given ∧
    record? TrainerSettings.layout given = .ok trainer
  optimizer_made : ∃ given, sectionOf? "optimizer" entries = .ok given ∧
    ownedIn? given = .ok [] ∧ record? OptimizerSettings.layout given = .ok optimizer

theorem Describes.ofEntries?_eq {trainer : TrainerSettings} {optimizer : OptimizerSettings}
    (describes : Describes entries trainer optimizer) :
    ofEntries? entries = (do
      trainer.validate
      optimizer.validate
      return ⟨trainer, optimizer⟩) := by
  obtain ⟨trainerSection, trainerFound, trainerMade⟩ := describes.trainer_made
  obtain ⟨optimizerSection, optimizerFound, none_owned, optimizerMade⟩ := describes.optimizer_made
  simp [ofEntries?, trainerFound, optimizerFound, none_owned, trainerMade, optimizerMade]

theorem Describes.ofEntries?_accepts {trainer : TrainerSettings} {optimizer : OptimizerSettings}
    (describes : Describes entries trainer optimizer) (trainer_valid : trainer.validate = .ok ())
    (optimizer_valid : optimizer.validate = .ok ()) :
    ofEntries? entries = .ok ⟨trainer, optimizer⟩ := by
  rw [describes.ofEntries?_eq, trainer_valid, optimizer_valid]
  rfl

/-- A tradeoff that is no number is not refused. -/
theorem Describes.ofEntries?_not_number {trainer : TrainerSettings}
    {optimizer : OptimizerSettings} (describes : Describes entries trainer optimizer)
    {kind : Fault} (fails : trainer.tradeoff.comparand? = .error kind) :
    ofEntries? entries = .error (.fault kind) := by
  have checked : TrainerSettings.checkTradeoff trainer.tradeoff = .error (.fault kind) := by
    rw [TrainerSettings.checkTradeoff, check, fails]
    rfl
  rw [describes.ofEntries?_eq, TrainerSettings.validate, checked]
  rfl

end Configuration

/-! ## Files -/

namespace Settings

/-- The number of bytes before the first one that begins no character. -/
def decodable (bytes : List UInt8) : Nat :=
  ((Document.charactersFrom ⟨bytes.toArray⟩ 0 bytes.length).map Char.utf8Size).foldr (· + ·) 0

/-- If the first block of a file cannot be decoded, nothing of the file is read. -/
theorem ofBytes_undecodable {bytes : List UInt8}
    (short : decodable bytes < Document.Source.blockSize)
    (incomplete : decodable bytes ≠ bytes.length) :
    Document.Source.ofBytes bytes = ⟨[], some (.fault .badEncoding)⟩ := by
  have nothing : Document.Source.readBefore (Document.Source.decodedLength ⟨bytes.toArray⟩
      (decodable bytes / Document.Source.blockSize * Document.Source.blockSize)) = 0 := by
    rw [Nat.div_eq_of_lt short, Nat.zero_mul]
    rfl
  unfold decodable at nothing incomplete
  simp only [Document.Source.ofBytes, ByteArray.size, List.size_toArray, if_neg incomplete,
    nothing]
  split
  next _ _ decoded _ => cases decoded
  next undecoded _ same _ =>
    cases same
    rfl
  next _ refused decoded _ => cases decoded
  next undecoded refused same _ =>
    cases same
    exact if_pos (Nat.zero_le _)

/-- Bytes that are no text are not refused as a configuration. -/
theorem load?_undecodable (path : String) {bytes : List UInt8}
    (short : decodable bytes < Document.Source.blockSize)
    (incomplete : decodable bytes ≠ bytes.length) :
    load? path (some bytes) = .error (.fault .badEncoding) := by
  rw [load?, document?, ofBytes_undecodable short incomplete]
  rfl

theorem document?_fails (bytes : List UInt8) :
    FailsOnly (ComplaintOr fun kind => Document.read? (.ofBytes bytes) = .error (.fault kind))
      (document? (some bytes)) := by
  intro problem failed
  simp only [document?] at failed
  cases found : Document.read? (.ofBytes bytes) with
  | ok value =>
      rw [found] at failed
      cases failed
  | error other =>
      rw [found] at failed
      cases failed
      cases other with
      | malformed | unfinished => exact .inl rfl
      | fault kind => exact complaintOr_fault rfl

theorem load?_fails (path : String) (bytes : List UInt8) :
    FailsOnly (ComplaintOr fun kind => Document.read? (.ofBytes bytes) = .error (.fault kind))
      (load? path (some bytes)) := by
  refine .bind (document?_fails bytes) fun document _ => ?_
  unfold entriesOf?
  split
  · exact .ok []
  · split
    · exact .ok _
    · exact .error (Or.inl rfl)

theorem load?_mapping (path : String) {bytes : List UInt8} {settings : List (Value × Value)}
    (found : Document.read? (.ofBytes bytes) = .ok (.mapping settings)) :
    load? path (some bytes) = .ok settings := by
  rw [load?, document?, found]
  cases settings <;> rfl

end Settings

/-! ## Loading -/

namespace Configuration

/-- How the loading of a configuration from some entries, or of entries from a file, ends. -/
structure Loading (entries : List (Value × Value)) (path : String) (bytes : List UInt8) :
    Prop where
  valid : ∀ configuration, ofEntries? entries = .ok configuration →
    configuration.trainer.validate = .ok () ∧ configuration.optimizer.validate = .ok ()
  accepted : ∀ trainer optimizer, Describes entries trainer optimizer →
    trainer.validate = .ok () → optimizer.validate = .ok () →
      ofEntries? entries = .ok ⟨trainer, optimizer⟩
  refused : ∀ problem, ofEntries? entries = .error problem →
    ComplaintOr (Unguarded entries) problem
  /-- A section of the optimizer that cannot be run through is not refused. -/
  not_iterable : ∀ trainerSection given kind,
    sectionOf? "trainer" entries = .ok trainerSection →
      sectionOf? "optimizer" entries = .ok given → given.items? = .error kind →
        ofEntries? entries = .error (.fault kind)
  /-- A tradeoff that is no number is not refused. -/
  not_number : ∀ trainer optimizer kind, Describes entries trainer optimizer →
    trainer.tradeoff.comparand? = .error kind → ofEntries? entries = .error (.fault kind)
  missing : load? path none = .error .unreadableFile
  file_read : ∀ settings, Document.read? (.ofBytes bytes) = .ok (.mapping settings) →
    load? path (some bytes) = .ok settings
  file_refused : ∀ problem, load? path (some bytes) = .error problem →
    ComplaintOr (fun kind => Document.read? (.ofBytes bytes) = .error (.fault kind)) problem
  /-- Bytes that are no text are not refused. -/
  undecodable : decodable bytes < Document.Source.blockSize → decodable bytes ≠ bytes.length →
    load? path (some bytes) = .error (.fault .badEncoding)

/-- **Loading a configuration** gives valid settings or a complaint, unless one of the
unguarded operations on its values fails first. -/
theorem loading_guarded (entries : List (Value × Value)) (path : String) (bytes : List UInt8) :
    Loading entries path bytes where
  valid := fun _ made => ofEntries?_valid made
  accepted := fun _ _ describes trainer_valid optimizer_valid =>
    describes.ofEntries?_accepts trainer_valid optimizer_valid
  refused := ofEntries?_fails entries
  not_iterable := fun _ _ _ trainerFound found fails =>
    ofEntries?_not_iterable trainerFound found fails
  not_number := fun _ _ _ describes fails => describes.ofEntries?_not_number fails
  missing := rfl
  file_read := fun _ found => load?_mapping path found
  file_refused := load?_fails path bytes
  undecodable := load?_undecodable path

/-- The sections of a configuration with a text in place of a number. -/
theorem describes_text : Describes [(.text "trainer", .mapping [(.text "C", .text "x")])]
    { TrainerSettings.default with tradeoff := .text "x" } .default where
  trainer_made := ⟨_, rfl, rfl⟩
  optimizer_made := ⟨_, rfl, rfl, rfl⟩

/-- A text in place of a number, a number in place of a section and bytes that are no text
are not refused as configurations. -/
theorem loading_unguarded :
    ofEntries? [(.text "trainer", .mapping [(.text "C", .text "x")])] =
        .error (.fault .wrongType) ∧
      ofEntries? [(.text "optimizer", .int 5)] = .error (.fault .wrongType) ∧
      load? "settings.yaml" (some [0x61, 0x3A, 0x20, 0xED, 0xB2, 0x80, 0x0A]) =
        .error (.fault .badEncoding) ∧
      ∀ kind, (Error.fault kind).isA .configuration = false :=
  ⟨describes_text.ofEntries?_not_number rfl, ofEntries?_not_iterable rfl rfl rfl,
    load?_undecodable _ (by decide) (by decide), fun _ => rfl⟩

end Configuration

end HingeRank
