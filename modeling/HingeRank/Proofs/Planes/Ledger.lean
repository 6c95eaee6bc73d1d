import Mathlib
import HingeRank.Proofs.Exact.Linear
import HingeRank.Proofs.Planes.Shape

/-!
# The arena as a list of planes

Behind the tables of an arena there is a list of records, and operations on the arena are
operations on that list.
-/

namespace HingeRank

open Linear

/-!
## The arena as a list of records

A plane is a record of its gradient, its offset, its latest multiplier and the number of
consecutive solutions that have not used it.  An arena represents a list of records when
the rows in force of all its tables spell out that list and its table of inner products
agrees with the gradients.

Every operation of the arena is an operation on the represented list: a plane is
appended, multipliers are overwritten, and unused planes are filtered out in place.
Neither the room in the tables nor the rows behind those in force matter.
-/

/-- A cutting plane with the record of its use. -/
structure PlaneRecord (K : Type) where
  gradient : List K
  offset : K
  multiplier : K
  /-- Consecutive solutions that have not used the plane. -/
  idle : Nat

namespace PlaneRecord

/-- The plane that bounds every nonnegative risk. -/
def zeroPlane (dimension : Nat) : PlaneRecord ℚ := ⟨zeros dimension, 0, 0, 0⟩

/-- The record after a solution that gives the plane a multiplier. -/
def use (multiplier : ℚ) (plane : PlaneRecord ℚ) : PlaneRecord ℚ :=
  { plane with
    multiplier
    idle := if PlaneArena.activeThreshold < multiplier then 0 else plane.idle + 1 }

/-- The records that a trim keeps: the first one, and those used recently. -/
def keep (threshold : Nat) : List (PlaneRecord ℚ) → List (PlaneRecord ℚ)
  | [] => []
  | first :: rest => first :: rest.filter fun plane => plane.idle < threshold

/-- A solution changes neither which planes there are nor what they are. -/
theorem map_plane_use {α : Type} {multipliers : List ℚ} {records : List (PlaneRecord ℚ)}
    (equal : multipliers.length = records.length) (part : PlaneRecord ℚ → α)
    (kept : ∀ multiplier plane, part (use multiplier plane) = part plane) :
    (List.zipWith use multipliers records).map part = records.map part := by
  induction multipliers generalizing records with
  | nil => simp [List.length_eq_zero_iff.mp equal.symm]
  | cons multiplier multipliers ih =>
      cases records with
      | nil => simp at equal
      | cons plane records => simp [ih (Nat.succ.inj equal), kept]

theorem map_multiplier_use {multipliers : List ℚ} {records : List (PlaneRecord ℚ)}
    (equal : multipliers.length = records.length) :
    (List.zipWith use multipliers records).map (·.multiplier) = multipliers := by
  induction multipliers generalizing records with
  | nil => rfl
  | cons multiplier multipliers ih =>
      cases records with
      | nil => simp at equal
      | cons plane records => simp [ih (Nat.succ.inj equal), use]

end PlaneRecord

namespace PlaneArena

variable {arena : PlaneArena ℚ} {records : List (PlaneRecord ℚ)}

/-- The rows in force spell out a list of records. -/
structure Represents (arena : PlaneArena ℚ) (records : List (PlaneRecord ℚ)) : Prop where
  size_eq : arena.size = records.length
  gradients_eq : arena.gradients = records.map (·.gradient)
  offsets_eq : arena.offsets = records.map (·.offset)
  dual_eq : arena.dual = records.map (·.multiplier)
  idle_eq : arena.idle = records.map (·.idle)
  gram_eq : arena.gram = Linear.gram (records.map (·.gradient))
  roomy : arena.Roomy

theorem initial_represents (dimension capacity : Nat) :
    (initial dimension capacity : PlaneArena ℚ).Represents [.zeroPlane dimension] := by
  obtain ⟨room, enough⟩ : ∃ room, max 2 capacity = room + 1 := ⟨max 2 capacity - 1, by omega⟩
  exact {
    size_eq := rfl
    gradients_eq := by simp [initial, gradients, enough, PlaneRecord.zeroPlane]
    offsets_eq := by
      simp [initial, offsets, zeros, enough, PlaneRecord.zeroPlane, List.replicate_succ]
    dual_eq := by simp [initial, dual, zeros, enough, PlaneRecord.zeroPlane, List.replicate_succ]
    idle_eq := by simp [initial, idle, enough, PlaneRecord.zeroPlane, List.replicate_succ]
    gram_eq := by
      simp [initial, gram, Linear.gram, enough, PlaneRecord.zeroPlane, List.replicate_succ]
      simp [zeros, List.replicate_succ]
    roomy := initial_roomy dimension capacity }

/-! ### Growing -/

theorem grow_represents (represents : arena.Represents records) :
    arena.grow.Represents records := by
  have same := grow_sameInForce represents.roomy
  exact {
    size_eq := represents.size_eq
    gradients_eq := same.gradients_eq.trans represents.gradients_eq
    offsets_eq := same.offsets_eq.trans represents.offsets_eq
    dual_eq := same.dual_eq.trans represents.dual_eq
    idle_eq := same.idle_eq.trans represents.idle_eq
    gram_eq := same.gram_eq.trans represents.gram_eq
    roomy := grow_roomy represents.roomy }

/-! ### Appending -/

/-- Appending a plane appends its record, whether or not the tables have to grow. -/
theorem push_represents (represents : arena.Represents records) (nonempty : records ≠ [])
    (gradient : List ℚ) (offset : ℚ) :
    (arena.push gradient offset).Represents (records ++ [⟨gradient, offset, 0, 0⟩]) := by
  have sizePos : 0 < arena.size := by
    rw [represents.size_eq]
    exact List.length_pos_iff.mpr nonempty
  obtain ⟨appends, roomy⟩ := push_appends represents.roomy sizePos gradient offset
  exact {
    size_eq := by simp [appends.size_eq, represents.size_eq]
    gradients_eq := by simp [appends.gradients_eq, represents.gradients_eq]
    offsets_eq := by simp [appends.offsets_eq, represents.offsets_eq]
    dual_eq := by simp [appends.dual_eq, represents.dual_eq]
    idle_eq := by simp [appends.idle_eq, represents.idle_eq]
    gram_eq := by
      rw [appends.gram_eq, represents.gram_eq, represents.gradients_eq]
      simp [Linear.gram, Linear.apply, List.zipWith_map, dot_comm gradient]
    roomy := roomy }

/-! ### Recording multipliers -/

theorem recordDual_represents (represents : arena.Represents records) {multipliers : List ℚ}
    (equal : multipliers.length = records.length) :
    (arena.recordDual multipliers).Represents
      (List.zipWith PlaneRecord.use multipliers records) where
  size_eq := by
    rw [List.length_zipWith, equal, min_self]
    exact represents.size_eq
  gradients_eq := by
    rw [PlaneRecord.map_plane_use equal (·.gradient) fun _ _ => rfl]
    exact represents.gradients_eq
  offsets_eq := by
    rw [PlaneRecord.map_plane_use equal (·.offset) fun _ _ => rfl]
    exact represents.offsets_eq
  dual_eq := by
    rw [PlaneRecord.map_multiplier_use equal]
    exact List.take_left' (equal.trans represents.size_eq.symm)
  idle_eq := by
    have counted : (List.zipWith (fun multiplier idle =>
        if activeThreshold < multiplier then 0 else idle + 1) multipliers arena.idle).length =
          arena.size := by
      rw [List.length_zipWith, equal, length_idle represents.roomy, represents.size_eq, min_self]
    refine (List.take_left' counted).trans ?_
    rw [represents.idle_eq, List.zipWith_map_right, List.map_zipWith]
    rfl
  gram_eq := by
    rw [PlaneRecord.map_plane_use equal (·.gradient) fun _ _ => rfl]
    exact represents.gram_eq
  roomy := recordDual_roomy represents.roomy (equal.trans represents.size_eq.symm)

/-! ### Trimming -/

private theorem filter_range_getD {α : Type} (entries : List α) (fallback : α) (accept : α → Bool) :
    ((List.range entries.length).filter fun slot => accept (entries.getD slot fallback)).map
        (entries.getD · fallback) = entries.filter accept := by
  have spelled : (List.range entries.length).map (entries.getD · fallback) = entries := by
    apply List.ext_getElem
    · simp
    · intro position _ bounds
      simp [bounds]
  conv_rhs => rw [← spelled, List.filter_map]
  rfl

/-- The surviving slots in a list that knows how long each plane has not been used: the first
item, and those used recently. -/
theorem map_survivors_cons {α : Type} {first : α} {rest : List α} {fallback : α} (idle : α → Nat)
    (size_eq : arena.size = (first :: rest).length)
    (idle_eq : ∀ slot, arena.idle.getD slot 0 = idle ((first :: rest).getD slot fallback))
    (threshold : Nat) :
    (arena.survivors threshold).map ((first :: rest).getD · fallback) =
      first :: rest.filter fun item => idle item < threshold := by
  simp only [survivors, size_eq, idle_eq]
  rw [List.length_cons, List.range_succ_eq_map, List.filter_cons_of_pos (by simp),
    List.filter_map, List.map_cons, List.map_map]
  exact congrArg (first :: ·) (filter_range_getD rest fallback fun item => idle item < threshold)

/-- The surviving slots hold the records that are kept. -/
theorem map_survivors (represents : arena.Represents records) (threshold : Nat) :
    (arena.survivors threshold).map (records.getD · (.zeroPlane 0)) =
      PlaneRecord.keep threshold records := by
  have idle_eq (slot : Nat) :
      arena.idle.getD slot 0 = (records.getD slot (.zeroPlane 0)).idle := by
    rw [represents.idle_eq]
    exact List.getD_map records (.zeroPlane 0) (·.idle)
  cases records with
  | nil => simp [survivors, represents.size_eq, PlaneRecord.keep]
  | cons first rest => exact map_survivors_cons (·.idle) represents.size_eq idle_eq threshold

theorem length_survivors (represents : arena.Represents records) (threshold : Nat) :
    (arena.survivors threshold).length = (PlaneRecord.keep threshold records).length := by
  rw [← map_survivors represents, List.length_map]

/-- Moving the surviving rows of a table to the front keeps what the records say. -/
theorem take_compact {α : Type} (represents : arena.Represents records) (threshold : Nat)
    (part : PlaneRecord ℚ → α) {table : List α}
    (live : table.take arena.size = records.map part) :
    (compact (part (.zeroPlane 0)) (arena.survivors threshold) table).take
        (arena.survivors threshold).length =
      (PlaneRecord.keep threshold records).map part := by
  rw [compact, List.take_left' (List.length_map _), ← map_survivors represents, List.map_map]
  refine List.map_congr_left fun slot member => ?_
  have inBounds := lt_of_mem_survivors member
  have agree := congrArg (fun row => row.getD slot (part (.zeroPlane 0))) live
  simpa [List.getElem?_take_of_lt inBounds] using agree

theorem entry_gramTable (represents : arena.Represents records) {first second : Nat}
    (firstBounds : first < arena.size) (secondBounds : second < arena.size) :
    entry (row arena.gramTable first) second =
      dot (records.getD first (.zeroPlane 0)).gradient
        (records.getD second (.zeroPlane 0)).gradient := by
  have agree := congrArg (fun table => entry (row table first) second) represents.gram_eq
  have firstRecord := represents.size_eq ▸ firstBounds
  have secondRecord := represents.size_eq ▸ secondBounds
  have tableBounds : first < arena.gramTable.length := by
    rw [represents.roomy.gramRoom]
    exact firstBounds.trans_le represents.roomy.size_le
  simpa [gram, Linear.gram, row, entry, firstBounds, secondBounds, firstRecord, secondRecord,
    tableBounds] using agree

/-- Moving the surviving rows and columns of inner products to the front keeps what they
say. -/
theorem take_compactGram (represents : arena.Represents records) (threshold : Nat)
    (fits : (arena.survivors threshold).length ≤ arena.gramTable.length) :
    ((compactGram (arena.survivors threshold) arena.gramTable).take
        (arena.survivors threshold).length).map (·.take (arena.survivors threshold).length) =
      Linear.gram ((PlaneRecord.keep threshold records).map (·.gradient)) := by
  rw [compactGram, List.take_left' (by simp [fits]), ← map_survivors represents]
  apply List.ext_getElem
  · simp [Linear.gram, fits]
  · intro position leftBounds rightBounds
    have bounds : position < (arena.survivors threshold).length := by
      simpa [Linear.gram] using rightBounds
    have slotBounds := lt_of_mem_survivors (List.getElem_mem bounds)
    simp only [List.getElem_map, List.getElem_zipWith, Linear.gram, List.map_map,
      List.take_left' (List.length_map _)]
    refine List.map_congr_left fun other member => ?_
    exact entry_gramTable represents slotBounds (lt_of_mem_survivors member)

theorem keep_sublist (threshold : Nat) (records : List (PlaneRecord ℚ)) :
    (PlaneRecord.keep threshold records).Sublist records := by
  cases records with
  | nil => exact List.Sublist.refl _
  | cons first rest => exact List.filter_sublist.cons_cons first

/-- Trimming filters the records, and says how many it dropped. -/
theorem trim_represents (represents : arena.Represents records) (threshold : Nat) :
    (arena.trim threshold).1 = records.length - (PlaneRecord.keep threshold records).length ∧
      (arena.trim threshold).2.Represents (PlaneRecord.keep threshold records) := by
  have roomy := represents.roomy
  have survivors_eq := length_survivors represents threshold
  have fits := arena.length_survivors_le threshold
  simp only [trim]
  split
  next untouched =>
    rw [survivors_eq, represents.size_eq] at untouched
    have shorter := (keep_sublist threshold records).length_le
    have same : PlaneRecord.keep threshold records = records :=
      (keep_sublist threshold records).eq_of_length (by omega)
    rw [same]
    exact ⟨(Nat.sub_self _).symm, represents⟩
  next =>
    refine ⟨by rw [survivors_eq, represents.size_eq], ?_⟩
    exact {
      size_eq := survivors_eq
      gradients_eq := take_compact represents threshold (·.gradient) represents.gradients_eq
      offsets_eq := take_compact represents threshold (·.offset) represents.offsets_eq
      dual_eq := take_compact represents threshold (·.multiplier) represents.dual_eq
      idle_eq := take_compact represents threshold (·.idle) represents.idle_eq
      gram_eq := take_compactGram represents threshold (by
        rw [roomy.gramRoom]
        exact fits.trans roomy.size_le)
      roomy := compact_roomy roomy fits }

end PlaneArena

/-!
## Arenas driven by operations

Seen from outside an arena is its planes, their multipliers and the inner products of the
gradients, together with the answers that it gives to operations.  A ledger is an
unbounded list of records that starts with the zero plane and answers the same operations
in the obvious way.

The two cannot be told apart by any sequence of operations.  In particular nothing that
is seen depends on the room an arena starts with, or on rows that a trim leaves behind.
-/

/-- What can be asked of an arena. -/
inductive PlaneOperation where
  | add (gradient : Tensor ℚ) (offset : ℚ)
  | recordDual (multipliers : List ℚ)
  | trim (threshold : Int)

/-- What comes back. -/
inductive PlaneAnswer where
  | slot (position : Nat)
  | stored
  | removed (count : Nat)
  | refused (error : Error)

/-- What can be seen of the planes in force. -/
structure PlaneView where
  count : Nat
  gradients : List (List ℚ)
  offsets : List ℚ
  dual : List ℚ
  gram : List (List ℚ)

/-- An unbounded list of planes of one dimension. -/
structure PlaneLedger where
  dimension : Nat
  records : List (PlaneRecord ℚ)

namespace PlaneArena

/-- Carry out an operation; one that is refused leaves the arena alone. -/
def perform (arena : PlaneArena ℚ) : PlaneOperation → PlaneAnswer × PlaneArena ℚ
  | .add gradient offset =>
      match arena.add? gradient offset with
      | .ok (slot, extended) => (.slot slot, extended)
      | .error error => (.refused error, arena)
  | .recordDual multipliers =>
      match arena.recordDual? (.vector multipliers) with
      | .ok recorded => (.stored, recorded)
      | .error fault => (.refused (.fault fault), arena)
  | .trim threshold =>
      let (count, trimmed) := arena.trim threshold.toNat
      (.removed count, trimmed)

/-- The arena after a sequence of operations. -/
def performAll (arena : PlaneArena ℚ) (operations : List PlaneOperation) : PlaneArena ℚ :=
  operations.foldl (fun arena operation => (arena.perform operation).2) arena

def view (arena : PlaneArena ℚ) : PlaneView where
  count := arena.size
  gradients := arena.gradients
  offsets := arena.offsets
  dual := arena.dual
  gram := arena.gram

end PlaneArena

namespace PlaneLedger

/-- The ledger that holds the zero plane alone. -/
def initial (dimension : Nat) : PlaneLedger := ⟨dimension, [.zeroPlane dimension]⟩

/-- One multiplier for every plane: as many as there are planes, or one for all. -/
def multipliersFor? (count : Nat) (multipliers : List ℚ) : Option (List ℚ) :=
  if multipliers.length = count then some multipliers
  else
    match multipliers with
    | [single] => some (List.replicate count single)
    | _ => none

def append (ledger : PlaneLedger) (gradient : List ℚ) (offset : ℚ) : PlaneLedger :=
  { ledger with records := ledger.records ++ [⟨gradient, offset, 0, 0⟩] }

/-- Overwrite the multipliers and count anew how long each plane has not been used. -/
def use (ledger : PlaneLedger) (multipliers : List ℚ) : PlaneLedger :=
  { ledger with records := List.zipWith .use multipliers ledger.records }

/-- Drop the planes that `threshold` consecutive solutions have not used. -/
def trim (ledger : PlaneLedger) (threshold : Nat) : PlaneLedger :=
  { ledger with records := PlaneRecord.keep threshold ledger.records }

/-- Append a plane, overwrite the multipliers, or filter the records. -/
def perform (ledger : PlaneLedger) : PlaneOperation → PlaneAnswer × PlaneLedger
  | .add gradient offset =>
      if gradient.shape = [ledger.dimension] then
        (.slot ledger.records.length, ledger.append gradient.entries offset)
      else
        (.refused (.dimensionMismatch (.int ledger.dimension) gradient.entries.length
          "cutting plane"), ledger)
  | .recordDual multipliers =>
      match multipliersFor? ledger.records.length multipliers with
      | some multipliers => (.stored, ledger.use multipliers)
      | none => (.refused (.fault .badValue), ledger)
  | .trim threshold =>
      let kept := ledger.trim threshold.toNat
      (.removed (ledger.records.length - kept.records.length), kept)

/-- The ledger after a sequence of operations. -/
def performAll (ledger : PlaneLedger) (operations : List PlaneOperation) : PlaneLedger :=
  operations.foldl (fun ledger operation => (ledger.perform operation).2) ledger

/-- The inner products are computed from the gradients. -/
def view (ledger : PlaneLedger) : PlaneView where
  count := ledger.records.length
  gradients := ledger.records.map (·.gradient)
  offsets := ledger.records.map (·.offset)
  dual := ledger.records.map (·.multiplier)
  gram := gram (ledger.records.map (·.gradient))

end PlaneLedger

namespace PlaneRecord

/-- The first record is a zero plane, whatever its multiplier. -/
def ZeroFirst (dimension : Nat) (records : List (PlaneRecord ℚ)) : Prop :=
  ∃ first rest, records = first :: rest ∧ first.gradient = zeros dimension ∧ first.offset = 0

variable {dimension : Nat} {records : List (PlaneRecord ℚ)}

theorem ZeroFirst.ne_nil (zeroFirst : ZeroFirst dimension records) : records ≠ [] := by
  rcases zeroFirst with ⟨first, rest, rfl, _⟩
  exact List.cons_ne_nil _ _

theorem ZeroFirst.append (zeroFirst : ZeroFirst dimension records)
    (others : List (PlaneRecord ℚ)) : ZeroFirst dimension (records ++ others) := by
  rcases zeroFirst with ⟨first, rest, rfl, zero⟩
  exact ⟨first, rest ++ others, rfl, zero⟩

theorem ZeroFirst.use (zeroFirst : ZeroFirst dimension records) {multipliers : List ℚ}
    (equal : multipliers.length = records.length) :
    ZeroFirst dimension (List.zipWith use multipliers records) := by
  rcases zeroFirst with ⟨first, rest, rfl, zero⟩
  cases multipliers with
  | nil => simp at equal
  | cons multiplier multipliers => exact ⟨_, _, rfl, zero⟩

theorem ZeroFirst.keep (zeroFirst : ZeroFirst dimension records) (threshold : Nat) :
    ZeroFirst dimension (keep threshold records) := by
  rcases zeroFirst with ⟨first, rest, rfl, zero⟩
  exact ⟨_, _, rfl, zero⟩

end PlaneRecord

/-! ### The simulation -/

/-- An arena and a ledger that hold the same records. -/
structure PlaneLedger.Matches (ledger : PlaneLedger) (arena : PlaneArena ℚ) : Prop where
  dimension_eq : arena.dimension = ledger.dimension
  represents : arena.Represents ledger.records
  zeroFirst : PlaneRecord.ZeroFirst ledger.dimension ledger.records

namespace PlaneLedger.Matches

variable {ledger : PlaneLedger} {arena : PlaneArena ℚ}

theorem initial (dimension capacity : Nat) :
    (PlaneLedger.initial dimension).Matches (.initial dimension capacity) where
  dimension_eq := rfl
  represents := PlaneArena.initial_represents dimension capacity
  zeroFirst := ⟨_, [], rfl, rfl, rfl⟩

theorem view_eq (holds : ledger.Matches arena) : arena.view = ledger.view := by
  simp only [PlaneArena.view, PlaneLedger.view, holds.represents.size_eq,
    holds.represents.gradients_eq, holds.represents.offsets_eq, holds.represents.dual_eq,
    holds.represents.gram_eq]

/-! #### Single operations -/

theorem append (holds : ledger.Matches arena) (gradient : List ℚ) (offset : ℚ) :
    (ledger.append gradient offset).Matches (arena.push gradient offset) where
  dimension_eq := (PlaneArena.dimension_push arena gradient offset).trans holds.dimension_eq
  represents := PlaneArena.push_represents holds.represents holds.zeroFirst.ne_nil _ _
  zeroFirst := holds.zeroFirst.append _

theorem use (holds : ledger.Matches arena) {multipliers : List ℚ}
    (equal : multipliers.length = ledger.records.length) :
    (ledger.use multipliers).Matches (arena.recordDual multipliers) where
  dimension_eq := holds.dimension_eq
  represents := PlaneArena.recordDual_represents holds.represents equal
  zeroFirst := holds.zeroFirst.use equal

theorem trim (holds : ledger.Matches arena) (threshold : Nat) :
    (ledger.trim threshold).Matches (arena.trim threshold).2 where
  dimension_eq := (PlaneArena.dimension_trim arena threshold).trans holds.dimension_eq
  represents := (PlaneArena.trim_represents holds.represents threshold).2
  zeroFirst := holds.zeroFirst.keep threshold

/-! #### Any operations -/

/-- An array of one extent gives every plane its own multiplier, or all of them one. -/
theorem multipliersOf?_vector (count : Nat) (multipliers : List ℚ) :
    PlaneArena.multipliersOf? count (.vector multipliers) =
      (multipliersFor? count multipliers).elim (.error .badValue) .ok := by
  rcases multipliers with _ | ⟨first, _ | ⟨second, rest⟩⟩
  · cases count <;> rfl
  · by_cases single : 1 = count
    · subst single
      rfl
    · simp [PlaneArena.multipliersOf?, multipliersFor?, Tensor.vector, single]
  · by_cases same : rest.length + 1 + 1 = count
    · subst same
      simp [PlaneArena.multipliersOf?, multipliersFor?, Tensor.vector]
    · simp [PlaneArena.multipliersOf?, multipliersFor?, Tensor.vector, same]

theorem length_multipliersFor? {count : Nat} {multipliers meant : List ℚ}
    (answer : multipliersFor? count multipliers = some meant) : meant.length = count := by
  unfold multipliersFor? at answer
  split at answer
  next equal =>
    cases answer
    exact equal
  next =>
    split at answer
    next =>
      cases answer
      exact List.length_replicate
    next => cases answer

/-- One operation: the answers are the same, and so are the records afterwards. -/
theorem perform (holds : ledger.Matches arena) (operation : PlaneOperation) :
    (arena.perform operation).1 = (ledger.perform operation).1 ∧
      (ledger.perform operation).2.Matches (arena.perform operation).2 := by
  have count_eq := holds.represents.size_eq
  cases operation with
  | add gradient offset =>
      simp only [PlaneArena.perform, PlaneArena.add?, PlaneLedger.perform, holds.dimension_eq]
      by_cases fits : gradient.shape = [ledger.dimension]
      · rw [if_pos fits, if_pos fits]
        exact ⟨congrArg PlaneAnswer.slot count_eq, holds.append _ _⟩
      · rw [if_neg fits, if_neg fits]
        exact ⟨rfl, holds⟩
  | recordDual multipliers =>
      simp only [PlaneArena.perform, PlaneArena.recordDual?, PlaneLedger.perform,
        multipliersOf?_vector, count_eq]
      cases answer : multipliersFor? ledger.records.length multipliers with
      | none => exact ⟨rfl, holds⟩
      | some meant => exact ⟨rfl, holds.use (length_multipliersFor? answer)⟩
  | trim threshold =>
      obtain ⟨count, -⟩ := PlaneArena.trim_represents holds.represents threshold.toNat
      exact ⟨congrArg PlaneAnswer.removed count, holds.trim _⟩

/-- A whole sequence of operations keeps arena and ledger together. -/
theorem performAll (holds : ledger.Matches arena) (operations : List PlaneOperation) :
    (ledger.performAll operations).Matches (arena.performAll operations) := by
  induction operations generalizing ledger arena with
  | nil => exact holds
  | cons operation operations ih => exact ih (holds.perform operation).2

end PlaneLedger.Matches

/-- No operation changes the dimension of a ledger. -/
@[simp] theorem PlaneLedger.dimension_performAll (ledger : PlaneLedger)
    (operations : List PlaneOperation) :
    (ledger.performAll operations).dimension = ledger.dimension := by
  induction operations generalizing ledger with
  | nil => rfl
  | cons operation operations ih =>
      refine (ih (ledger.perform operation).2).trans ?_
      cases operation with
      | add gradient offset =>
          simp only [PlaneLedger.perform]
          split <;> rfl
      | recordDual multipliers =>
          simp only [PlaneLedger.perform]
          split <;> rfl
      | trim threshold => rfl

/-- After any operations an arena shows what the ledger shows and answers the next
operation as the ledger does.  Its inner products are those of its gradients, its first
plane is the zero plane, and a gradient of another shape is refused without effect. -/
theorem PlaneArena.view_performAll (dimension capacity : Nat)
    (operations : List PlaneOperation) :
    let arena := (PlaneArena.initial dimension capacity).performAll operations
    let ledger := (PlaneLedger.initial dimension).performAll operations
    arena.view = ledger.view ∧
      (∀ operation, (arena.perform operation).1 = (ledger.perform operation).1) ∧
      arena.gram = Linear.gram arena.gradients ∧
      arena.gradients[0]? = some (zeros dimension) ∧
      arena.offsets[0]? = some 0 ∧
      ∀ gradient offset, gradient.shape ≠ [dimension] →
        arena.perform (.add gradient offset) =
          (.refused (.dimensionMismatch (.int dimension) gradient.entries.length
            "cutting plane"), arena) := by
  intro arena ledger
  have holds : ledger.Matches arena :=
    (PlaneLedger.Matches.initial dimension capacity).performAll operations
  have dimension_eq : ledger.dimension = dimension :=
    PlaneLedger.dimension_performAll (.initial dimension) operations
  obtain ⟨first, rest, records_eq, gradient_eq, offset_eq⟩ := holds.zeroFirst
  refine ⟨holds.view_eq, fun operation => (holds.perform operation).1, ?_, ?_, ?_, ?_⟩
  · rw [holds.represents.gram_eq, holds.represents.gradients_eq]
  · rw [holds.represents.gradients_eq, records_eq, ← dimension_eq, ← gradient_eq]
    rfl
  · rw [holds.represents.offsets_eq, records_eq, ← offset_eq]
    rfl
  · intro gradient offset other
    simp only [PlaneArena.perform, PlaneArena.add?, holds.dimension_eq, dimension_eq, if_neg other]

/-- Two planes outgrow the least room, the first of them is dropped, and a gradient with
an entry too many is refused. -/
theorem PlaneArena.view_performAll_grown_and_trimmed :
    let arena := (PlaneArena.initial 1 0).performAll
      [.add (.vector [1]) 2, .add (.vector [3]) 4, .recordDual [0, 0, 1], .trim 1]
    arena.gradients = [[0], [3]] ∧ arena.gram = [[0, 0], [0, 9]] ∧
      arena.perform (.add (.vector [5, 6]) 7) =
        (.refused (.dimensionMismatch (.int 1) 2 "cutting plane"), arena) := by
  intro arena
  obtain ⟨-, -, -, -, -, refuses⟩ := PlaneArena.view_performAll 1 0
    [.add (.vector [1]) 2, .add (.vector [3]) 4, .recordDual [0, 0, 1], .trim 1]
  exact ⟨by decide +kernel, by decide +kernel, refuses (.vector [5, 6]) 7 (by decide)⟩

end HingeRank
