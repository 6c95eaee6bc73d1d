import HingeRank.Proofs.Exact.Double
import HingeRank.Proofs.Exact.Sequence
import HingeRank.Settings

/-!
# Names and ranges of settings

Settings are found by their names, and numbers are checked against ranges.
-/

namespace HingeRank

/-!
## Settings by their names

The keys of a mapping are the names of settings.  A record takes over what is given to the names
that it knows and keeps its defaults for all others.  It is made exactly if it knows all names that
are given: a text that is not made of characters alone is none of them.
-/

section

open Settings

/-! ### Texts as names -/

/-- A text, with surrogates or without. -/
def Value.IsText : Value → Prop
  | text _ => True
  | points content => content.isPlain = false
  | _ => False

namespace Value

variable {entries : List (Value × Value)} {name : String}

theorem isKey_of_isText {key : Value} (isText : key.IsText) : key.isKey = true := by
  cases key with
  | text | points => simp [isKey]
  | _ => exact isText.elim

theorem get?_eq_none (absent : .text name ∉ entries.map (·.1)) :
    get? entries name = none := by
  rw [Value.get?, Option.map_eq_none_iff, List.find?_eq_none]
  rintro ⟨key, value⟩ member named
  cases key with
  | text content =>
      cases eq_of_beq named
      exact absent (List.mem_map_of_mem member)
  | _ => cases named

end Value

/-- The sign that replaces what is no character. -/
def Text.replacement : Char := '\ufffd'

/-- Surrogates leave a trace. -/
theorem Text.Points.replacement_mem {content : Points} (surrogate : content.isPlain = false) :
    replacement ∈ content.toText.toList := by
  obtain ⟨code, member, invalid⟩ := List.all_eq_false.mp surrogate
  rw [toText, String.toList_ofList]
  refine List.mem_map.mpr ⟨code, member, if_neg ?_⟩
  simpa using invalid

namespace Settings

variable {settings : List (Value × Value)} {name : String}

/-- The value that is given to a name, or else some other value. -/
def valueIn (settings : List (Value × Value)) (name : String) (other : Value) : Value :=
  (Value.get? settings name).getD other

theorem valueIn_of_absent (absent : .text name ∉ settings.map (·.1)) (other : Value) :
    valueIn settings name other = other := by
  rw [valueIn, Value.get?_eq_none absent]
  rfl

@[simp] theorem valueIn_cons_self (given other : Value) :
    valueIn ((.text name, given) :: settings) name other = given := by
  simp [valueIn, Value.get?]

theorem valueIn_cons_of_ne {key : String} (different : key ≠ name) (given other : Value) :
    valueIn ((.text key, given) :: settings) name other = valueIn settings name other := by
  simp [valueIn, Value.get?, different]

/-- What is found at a name is given, unless it is the other value. -/
theorem valueIn_cases (settings : List (Value × Value)) (name : String) (other : Value) :
    (.text name, valueIn settings name other) ∈ settings ∨ valueIn settings name other = other := by
  rw [valueIn, Value.get?]
  cases found : settings.find? _ with
  | none => exact .inr rfl
  | some entry =>
      obtain ⟨key, given⟩ := entry
      have named := List.find?_some found
      cases key with
      | text content =>
          cases eq_of_beq named
          exact .inl (List.mem_of_find?_eq_some found)
      | _ => cases named

/-- Every setting has one of these names. -/
def NamedAmong (names : List String) (settings : List (Value × Value)) : Prop :=
  ∀ key ∈ settings.map (·.1), ∃ name ∈ names, key = .text name

/-! ### Records by name -/

namespace Layout

variable {α : Type} {layout : Layout α} {entriesOf : α → List (String × Value)}
  {names : List String} {record : α}

/-- Exactly the settings with certain names can be written, each alone. -/
structure Addressed (layout : Layout α) (entriesOf : α → List (String × Value))
    (names : List String) : Prop where
  known_iff : ∀ name given record,
    (layout.write? name given record).isSome = true ↔ name ∈ names
  written : ∀ name given record next, layout.write? name given record = some next →
    entriesOf next = (entriesOf record).map fun entry =>
      (entry.1, if entry.1 = name then given else entry.2)
  /-- The names are made of characters. -/
  characters : ∀ name ∈ names, Text.replacement ∉ name.toList

/-- The induction is on the settings that are written.  Their names differ, so that none is
written again. -/
theorem Addressed.writeAll_eq (addressed : layout.Addressed entriesOf names)
    (known : NamedAmong names settings) (distinct : (settings.map (·.1)).Nodup) (record : α) :
    ∃ last, layout.writeAll settings record = .ok last ∧
      entriesOf last = (entriesOf record).map fun entry =>
        (entry.1, valueIn settings entry.1 entry.2) := by
  induction settings generalizing record with
  | nil => exact ⟨record, rfl, (List.map_id _).symm⟩
  | cons first rest ih =>
      obtain ⟨key, given⟩ := first
      obtain ⟨name, nameMem, rfl⟩ := known key List.mem_cons_self
      obtain ⟨fresh, distinct⟩ := List.nodup_cons.mp distinct
      obtain ⟨next, found⟩ :=
        Option.isSome_iff_exists.mp ((addressed.known_iff name given record).mpr nameMem)
      have later : NamedAmong names rest :=
        fun key member => known key (List.mem_cons_of_mem _ member)
      obtain ⟨last, written, entries_eq⟩ := ih later distinct next
      refine ⟨last, ?_, ?_⟩
      · rw [writeAll, Value.toText, found]
        exact written
      · rw [entries_eq, addressed.written _ _ _ _ found, List.map_map]
        refine List.map_congr_left fun entry _ => Prod.ext rfl ?_
        by_cases same : entry.1 = name
        · dsimp only [Function.comp]
          rw [if_pos same, same, valueIn_cons_self, valueIn_of_absent fresh]
        · dsimp only [Function.comp]
          rw [if_neg same, valueIn_cons_of_ne (Ne.symm same)]

/-- Only known settings are written. -/
theorem Addressed.toText_mem (addressed : layout.Addressed entriesOf names) {last : α}
    (written : layout.writeAll settings record = .ok last) :
    ∀ key ∈ settings.map (·.1), key.toText ∈ names := by
  induction settings generalizing record with
  | nil => exact nofun
  | cons first rest ih =>
      obtain ⟨key, given⟩ := first
      unfold writeAll at written
      split at written
      next next found =>
        have known := (addressed.known_iff _ _ _).mp (Option.isSome_iff_exists.mpr ⟨next, found⟩)
        exact List.forall_mem_cons.mpr ⟨known, ih written⟩
      next => split at written <;> cases written

/-- A text with surrogates is not mistaken for a name. -/
theorem Addressed.namedAmong (addressed : layout.Addressed entriesOf names)
    (texts : ∀ key ∈ settings.map (·.1), key.IsText)
    (known : ∀ key ∈ settings.map (·.1), key.toText ∈ names) : NamedAmong names settings := by
  intro key member
  have isText := texts key member
  have named := known key member
  cases key with
  | text content => exact ⟨content, named, rfl⟩
  | points content =>
      exact absurd (Text.Points.replacement_mem isText) (addressed.characters _ named)
  | _ => exact isText.elim

/-- Settings with known names make a record, in which each has the value given to its name. -/
theorem Addressed.ofEntries?_eq (addressed : layout.Addressed entriesOf names)
    (known : NamedAmong names settings) (distinct : (settings.map (·.1)).Nodup) :
    ∃ record, layout.ofEntries? settings = .ok record ∧
      entriesOf record = (entriesOf layout.fresh).map fun entry =>
        (entry.1, valueIn settings entry.1 entry.2) := by
  have texts : layout.ofEntries? settings = layout.writeAll settings layout.fresh := by
    refine if_pos (List.all_eq_true.mpr ?_)
    rintro ⟨key, given⟩ member
    obtain ⟨name, -, rfl⟩ := known key (List.mem_map_of_mem member)
    rfl
  rw [texts]
  exact addressed.writeAll_eq known distinct layout.fresh

/-- Only settings with known names make a record. -/
theorem Addressed.namedAmong_of_ofEntries? (addressed : layout.Addressed entriesOf names)
    (texts : ∀ key ∈ settings.map (·.1), key.IsText)
    (made : layout.ofEntries? settings = .ok record) : NamedAmong names settings := by
  unfold Layout.ofEntries? at made
  split at made
  next => exact addressed.namedAmong texts (addressed.toText_mem made)
  next => cases made

end Layout

end Settings

theorem TrainerSettings.layout_addressed : layout.Addressed entries
    ["C", "epsilon", "max_iterations", "nonnegative_weights", "verbose", "num_threads",
      "max_seconds"] where
  known_iff := fun name given record => by
    simp only [layout, write?]
    split <;> simp_all
  written := fun name given record next written => by
    simp only [layout, write?] at written
    split at written <;> cases written <;> rfl
  characters := by decide

theorem OptimizerSettings.layout_addressed : layout.Addressed entries
    ["epsilon", "max_iterations", "nonnegative", "qp_epsilon", "qp_max_iterations",
      "inactive_plane_threshold", "max_seconds", "verbose"] where
  known_iff := fun name given record => by
    simp only [layout, write?]
    split <;> simp_all
  written := fun name given record next written => by
    simp only [layout, write?] at written
    split at written <;> cases written <;> rfl
  characters := by decide

end

/-!
## Numbers in their ranges

Finite numbers and truth values can be compared, so that a check of one decides whether it is
in the range required.  A whole number with too many digits cannot be shown in the complaint,
however, and so is not refused as out of range.
-/

/-! ### Requirements -/

/-- A finite number or a truth value. -/
def Value.IsNumeric : Value → Prop
  | bool _ | int _ => True
  | float number => number.isFinite = true
  | _ => False

/-- A whole number with more digits than are shown. -/
def Value.IsTooLong : Value → Prop
  | int number => Nat.pow 10 Text.longestWhole ≤ number.natAbs
  | _ => False

namespace Requirement

/-- A number is in the range that is required.  Truth values count as one and zero. -/
def Holds : Requirement → Value → Prop
  | positive, .bool flag => flag = true
  | positive, .int number => 0 < number
  | positive, .float number => 0 < number
  | atLeast least, .bool flag => least ≤ flag.toNat
  | atLeast least, .int number => least ≤ number
  | atLeast least, .float number => Float.ofInt least ≤ number
  | _, _ => False

/-- What checks compare. -/
def admits : Requirement → Number → Bool
  | positive, number => number.above 0
  | atLeast least, number => !number.below least

/-- A lower bound that is exact as a double. -/
def IsExact : Requirement → Prop
  | positive => True
  | atLeast least => (Float.ofInt least).isNaN = false

variable {requirement : Requirement} {given : Value}

/-- A finite number is compared as what it is. -/
theorem exists_admits (representable : requirement.IsExact) (numeric : given.IsNumeric) :
    ∃ number, given.comparand? = .ok number ∧
      (requirement.admits number = true ↔ requirement.Holds given) := by
  cases given with
  | bool flag =>
      refine ⟨_, rfl, ?_⟩
      cases requirement with
      | positive => cases flag <;> simp [admits, Number.above, Holds]
      | atLeast least => cases flag <;> simp [admits, Number.below, Holds]
  | int number =>
      refine ⟨_, rfl, ?_⟩
      cases requirement with
      | positive => simp [admits, Number.above, Holds]
      | atLeast least => simp [admits, Number.below, Holds]
  | float number =>
      refine ⟨_, rfl, ?_⟩
      cases requirement with
      | positive => exact decide_eq_true_iff
      | atLeast least =>
          have comparable := Double.not_lt_iff_le (Double.isNaN_of_isFinite numeric) representable
          simpa [admits, Number.below, Holds] using comparable
  | null | text | points | bytes | date | moment | list | tuple | set | mapping | matrix
    | endless => exact numeric.elim

end Requirement

/-! ### Checks -/

namespace Settings

variable {setting : String} {requirement : Requirement} {given : Value}

/-- A check compares, and shows what it complains about. -/
theorem check_eq {number : Number} (compared : given.comparand? = .ok number) :
    check setting requirement given =
      if requirement.admits number then .ok ()
      else (do
        given.checkShowable.mapError .fault
        throw (.settingOutOfRange setting requirement given)) := by
  rw [check, compared]
  cases requirement with
  | positive =>
      rw [Requirement.admits]
      by_cases above : number.above 0 = true <;>
        simp [above]
  | atLeast least =>
      rw [Requirement.admits]
      by_cases below : number.below least = true <;>
        simp [below]

/-- What can be shown is not too long. -/
theorem checkShowable_eq (short : ¬ given.IsTooLong) : given.checkShowable = .ok () := by
  cases given with
  | int number =>
      rw [Value.checkShowable, if_pos (Nat.lt_of_not_le short)]
  | _ => rfl

theorem checkShowable_of_isTooLong (long : given.IsTooLong) :
    given.checkShowable = .error .badValue := by
  cases given with
  | int number =>
      rw [Value.checkShowable, if_neg (Nat.not_lt_of_le long)]
  | _ => exact long.elim

/-- The three ways in which the check of a number ends, given what it is to be in range. -/
structure Checked (setting : String) (requirement : Requirement) (given : Value)
    (inRange : Prop) (result : Except Error Unit) : Prop where
  passes : inRange → result = .ok ()
  refuses : ¬ inRange → ¬ given.IsTooLong →
    result = .error (.settingOutOfRange setting requirement given)
  fails : ¬ inRange → given.IsTooLong → result = .error (.fault .badValue)

theorem check_checked (representable : requirement.IsExact) (numeric : given.IsNumeric) :
    Checked setting requirement given (requirement.Holds given)
      (check setting requirement given) := by
  obtain ⟨number, compared, admitted⟩ := Requirement.exists_admits representable numeric
  rw [check_eq compared]
  constructor
  case passes => exact fun holds => if_pos (admitted.mpr holds)
  case refuses =>
    intro outside short
    rw [if_neg (mt admitted.mp outside), checkShowable_eq short]
    rfl
  case fails =>
    intro outside long
    rw [if_neg (mt admitted.mp outside), checkShowable_of_isTooLong long]
    rfl

/-! ### Settings with their requirements -/

/-- A setting, what is required of it, and whether it may be absent. -/
structure Ranged where
  setting : String
  requirement : Requirement
  given : Value
  optional : Bool

namespace Ranged

variable {ranged : Ranged}

/-- A setting that may be absent is in range if it is. -/
def Holds (ranged : Ranged) : Prop :=
  ranged.optional = true ∧ ranged.given = .null ∨ ranged.requirement.Holds ranged.given

/-- The setting can be compared with its bound. -/
structure Comparable (ranged : Ranged) : Prop where
  representable : ranged.requirement.IsExact
  numeric : ranged.given.IsNumeric ∨ ranged.optional = true ∧ ranged.given = .null

/-- Check a setting unless it may be absent and is. -/
def examine (ranged : Ranged) : Except Error Unit :=
  match ranged.optional, ranged.given with
  | true, .null => .ok ()
  | _, given => check ranged.setting ranged.requirement given

/-- A number is checked as such, whether or not it may be absent. -/
theorem examine_eq (numeric : ranged.given.IsNumeric) :
    ranged.examine = check ranged.setting ranged.requirement ranged.given := by
  rw [examine]
  split
  next absent =>
    rw [absent] at numeric
    exact numeric.elim
  next => rfl

theorem holds_iff (numeric : ranged.given.IsNumeric) :
    ranged.Holds ↔ ranged.requirement.Holds ranged.given := by
  rw [Holds, or_iff_right]
  rintro ⟨-, given⟩
  rw [given] at numeric
  exact numeric

theorem examine_checked (comparable : ranged.Comparable) :
    Checked ranged.setting ranged.requirement ranged.given ranged.Holds ranged.examine := by
  rcases comparable.numeric with numeric | absent
  · rw [examine_eq numeric, holds_iff numeric]
    exact check_checked comparable.representable numeric
  · have passes : ranged.examine = .ok () := by rw [examine, absent.1, absent.2]
    have inRange : ranged.Holds := .inl absent
    exact ⟨fun _ => passes, absurd inRange, absurd inRange⟩

/-- The first of several settings that is not in range. -/
def IsFirstOutside (ranged : Ranged) (settings : List Ranged) : Prop :=
  ∃ before after, settings = before ++ ranged :: after ∧ (∀ other ∈ before, other.Holds) ∧
    ¬ ranged.Holds

theorem IsFirstOutside.mem {settings : List Ranged} (first : ranged.IsFirstOutside settings) :
    ranged ∈ settings := by
  obtain ⟨before, after, rfl, -⟩ := first
  simp

theorem IsFirstOutside.outside {settings : List Ranged} (first : ranged.IsFirstOutside settings) :
    ¬ ranged.Holds := by
  obtain ⟨-, -, -, -, outside⟩ := first
  exact outside

/-- The induction is on the settings. -/
theorem exists_isFirstOutside {settings : List Ranged}
    (outside : ¬ ∀ ranged ∈ settings, ranged.Holds) :
    ∃ ranged : Ranged, ranged.IsFirstOutside settings := by
  induction settings with
  | nil => exact absurd nofun outside
  | cons first rest ih =>
      by_cases holds : first.Holds
      · have later : ¬ ∀ ranged ∈ rest, ranged.Holds :=
          fun all => outside (List.forall_mem_cons.mpr ⟨holds, all⟩)
        obtain ⟨ranged, before, after, rfl, inRange, unfit⟩ := ih later
        exact ⟨ranged, first :: before, after, rfl,
          List.forall_mem_cons.mpr ⟨holds, inRange⟩, unfit⟩
      · exact ⟨first, [], rest, rfl, nofun, holds⟩

/-- Settings in range pass together. -/
theorem forM_examine_eq_ok {settings : List Ranged}
    (comparable : ∀ ranged ∈ settings, ranged.Comparable)
    (inRange : ∀ ranged ∈ settings, ranged.Holds) : settings.forM examine = .ok () := by
  induction settings with
  | nil => rfl
  | cons first rest ih =>
      obtain ⟨firstComparable, comparable⟩ := List.forall_mem_cons.mp comparable
      obtain ⟨firstHolds, inRange⟩ := List.forall_mem_cons.mp inRange
      rw [List.forM_eq_forM, List.forM_cons, (examine_checked firstComparable).passes firstHolds]
      exact ih comparable inRange

/-- The first setting out of range decides how a check of all of them ends. -/
theorem IsFirstOutside.forM_examine {settings : List Ranged}
    (comparable : ∀ ranged ∈ settings, ranged.Comparable) (first : ranged.IsFirstOutside settings) :
    Checked ranged.setting ranged.requirement ranged.given ranged.Holds
      (settings.forM examine) := by
  have checked := examine_checked (comparable ranged first.mem)
  obtain ⟨before, after, rfl, inRange, outside⟩ := first
  have passed := forM_examine_eq_ok (List.forall_mem_append.mp comparable).1 inRange
  obtain ⟨problem, failed⟩ : ∃ problem, ranged.examine = .error problem := by
    by_cases long : ranged.given.IsTooLong
    · exact ⟨_, checked.fails outside long⟩
    · exact ⟨_, checked.refuses outside long⟩
  have same : (before ++ ranged :: after).forM examine = ranged.examine := by
    rw [List.forM_eq_forM] at passed ⊢
    rw [List.forM_append, passed, List.forM_cons, failed]
    rfl
  rwa [same]

end Ranged

end Settings

end HingeRank
