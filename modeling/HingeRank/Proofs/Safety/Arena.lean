import Mathlib
import HingeRank.Proofs.Planes.Ledger
import HingeRank.Proofs.Safety.Ascent

/-!
# The arena is never left

Every row that is read or written lies in the tables: a plane is written where the tables
have room, multipliers come one for each plane in force, and the rows that a trim moves to
the front are rows in force, the first of which always exists.
-/

namespace HingeRank.Checked.Arena

open Linear

variable {arena : PlaneArena ℚ} {records : List (PlaneRecord ℚ)}

/-! ## Rows in force -/

def gradients (arena : PlaneArena ℚ) : Option (List (List ℚ)) :=
  front arena.size arena.gradientTable

def offsets (arena : PlaneArena ℚ) : Option (List ℚ) := front arena.size arena.offsetTable

def gram (arena : PlaneArena ℚ) : Option (List (List ℚ)) := do
  (← front arena.size arena.gramTable).mapM (front arena.size)

def dual (arena : PlaneArena ℚ) : Option (List ℚ) := front arena.size arena.dualTable

def idle (arena : PlaneArena ℚ) : Option (List Nat) := front arena.size arena.idleTable

theorem gradients_eq (roomy : arena.Roomy) : gradients arena = some arena.gradients :=
  front_eq (roomy.gradientRoom ▸ roomy.size_le)

theorem offsets_eq (roomy : arena.Roomy) : offsets arena = some arena.offsets :=
  front_eq roomy.size_le

theorem gram_eq (roomy : arena.Roomy) : gram arena = some arena.gram := by
  have rows : front arena.size arena.gramTable = some (arena.gramTable.take arena.size) :=
    front_eq (roomy.gramRoom ▸ roomy.size_le)
  rw [gram, rows]
  apply mapM_eq_pure
  intro row member
  apply front_eq
  rw [roomy.gramRowRoom row (List.mem_of_mem_take member)]
  exact roomy.size_le

theorem dual_eq (roomy : arena.Roomy) : dual arena = some arena.dual :=
  front_eq (roomy.dualRoom ▸ roomy.size_le)

theorem idle_eq (roomy : arena.Roomy) : idle arena = some arena.idle :=
  front_eq (roomy.idleRoom ▸ roomy.size_le)

/-! ## Appending -/

/-- Write a new last entry into a row, unless it is the new row or one behind it. -/
def cross (size : Nat) (products : List ℚ) (entry : List ℚ × Nat) : Option (List ℚ) :=
  if entry.2 < size then do set entry.1 size (← products[entry.2]?) else some entry.1

/-- Write a new last row and column of inner products, for which there must be room. -/
def extendGram (table : List (List ℚ)) (size : Nat) (products : List ℚ) (square : ℚ) :
    Option (List (List ℚ)) := do
  let crossed ← table.zipIdx.mapM (cross size products)
  let last ← crossed[size]?
  let known ← front size products
  set crossed size (← overwrite last (known ++ [square]))

theorem extendGram_eq {table : List (List ℚ)} {size room : Nat} {products : List ℚ}
    (inBounds : size < table.length) (rowRoom : ∀ row ∈ table, row.length = room)
    (wide : size < room) (equal : products.length = size) (square : ℚ) :
    extendGram table size products square =
      some (PlaneArena.extendGram table size products square) := by
  let crossed (entry : List ℚ × Nat) : List ℚ :=
    if entry.2 < size then entry.1.set size (Linear.entry products entry.2) else entry.1
  have crossing : table.zipIdx.mapM (cross size products) = some (table.zipIdx.map crossed) := by
    apply mapM_eq_pure
    rintro ⟨row, position⟩ member
    have rowBounds : size < row.length := by
      rw [rowRoom row (List.fst_mem_of_mem_zipIdx member)]
      exact wide
    by_cases old : position < size
    · simp only [cross, crossed, if_pos old, getElem?_eq_entry (equal ▸ old), Option.bind_eq_bind,
        Option.bind_some, set_eq rowBounds]
      rfl
    · simp only [cross, crossed, if_neg old]
      rfl
  have crossedBounds : size < (table.zipIdx.map crossed).length := by
    simpa using inBounds
  have lastRoom : (products ++ [square]).length ≤ (table.zipIdx.map crossed)[size].length := by
    simp [crossed, rowRoom, equal, wide]
  have known : front size products = some products := by
    rw [front_eq equal.ge, ← equal, List.take_length]
  simp only [extendGram, crossing, Option.bind_eq_bind, Option.bind_some,
    List.getElem?_eq_getElem crossedBounds, known, overwrite_eq lastRoom, set_eq crossedBounds]
  have written : PlaneArena.extendGram table size products square =
      (table.zipIdx.map crossed).modify size
        fun row => products ++ (square :: row.drop (size + 1)) := rfl
  rw [written, List.modify_eq_set_getElem?, List.getElem?_eq_getElem crossedBounds]
  simp [equal]

def push (arena : PlaneArena ℚ) (gradient : List ℚ) (offset : ℚ) : Option (PlaneArena ℚ) := do
  let arena := if arena.size = arena.capacity then arena.grow else arena
  let size := arena.size
  let products ← apply (← gradients arena) gradient
  return { arena with
    size := size + 1
    gradientTable := ← set arena.gradientTable size gradient
    offsetTable := ← set arena.offsetTable size offset
    gramTable := ← extendGram arena.gramTable size products (← dot gradient gradient)
    dualTable := ← set arena.dualTable size 0
    idleTable := ← set arena.idleTable size 0 }

theorem push_eq_of_room (roomy : arena.Roomy) (room : arena.size < arena.capacity)
    {gradient : List ℚ} (aligned : ∀ row ∈ arena.gradients, row.length = gradient.length)
    (offset : ℚ) : push arena gradient offset = some (arena.push gradient offset) := by
  have gradientBounds : arena.size < arena.gradientTable.length := roomy.gradientRoom ▸ room
  have gramBounds : arena.size < arena.gramTable.length := roomy.gramRoom ▸ room
  have dualBounds : arena.size < arena.dualTable.length := roomy.dualRoom ▸ room
  have idleBounds : arena.size < arena.idleTable.length := roomy.idleRoom ▸ room
  have products : (Linear.apply arena.gradients gradient).length = arena.size := by
    rw [length_apply, PlaneArena.gradients, List.length_take_of_le gradientBounds.le]
  rw [PlaneArena.push_of_room room]
  simp only [push, if_neg room.ne, gradients_eq roomy, apply_eq aligned, dot_eq,
    set_eq gradientBounds, set_eq (show arena.size < arena.offsetTable.length from room),
    extendGram_eq gramBounds roomy.gramRowRoom room products, set_eq dualBounds,
    set_eq idleBounds, Option.bind_eq_bind, Option.bind_some]
  rfl

/-- A plane of the right dimension can be appended, also where the tables are full. -/
theorem push_eq (represents : arena.Represents records) (nonempty : records ≠ [])
    {gradient : List ℚ} (aligned : ∀ record ∈ records, record.gradient.length = gradient.length)
    (offset : ℚ) : push arena gradient offset = some (arena.push gradient offset) := by
  have rows {other : PlaneArena ℚ} (same : other.Represents records) :
      ∀ row ∈ other.gradients, row.length = gradient.length := by
    intro row member
    rw [same.gradients_eq] at member
    obtain ⟨record, recordMem, rfl⟩ := List.mem_map.mp member
    exact aligned record recordMem
  rcases represents.roomy.size_le.lt_or_eq with room | full
  · exact push_eq_of_room represents.roomy room (rows represents) offset
  · -- A full arena has a row to double, so that the grown one has room for the plane.
    have sizePos : 0 < arena.size := by
      rw [represents.size_eq]
      exact List.length_pos_iff.mpr nonempty
    have room := PlaneArena.room_grow full sizePos
    have grown : push arena gradient offset = push arena.grow gradient offset := by
      unfold push
      rw [if_pos full, if_neg room.ne]
    rw [grown, PlaneArena.push_grow full sizePos]
    have same := PlaneArena.grow_represents represents
    exact push_eq_of_room same.roomy room (rows same) offset

def add? (arena : PlaneArena ℚ) (gradient : Tensor ℚ) (offset : ℚ) :
    Option (Except Error (Nat × PlaneArena ℚ)) :=
  if gradient.shape = [arena.dimension] then do
    return .ok (arena.size, ← push arena gradient.entries offset)
  else
    some (.error
      (.dimensionMismatch (.int arena.dimension) gradient.entries.length "cutting plane"))

/-! ## Recording multipliers -/

def recordDual (arena : PlaneArena ℚ) (multipliers : List ℚ) : Option (PlaneArena ℚ) := do
  let idle ← together
    (fun multiplier idle => if PlaneArena.activeThreshold < multiplier then 0 else idle + 1)
    multipliers (← idle arena)
  return { arena with
    dualTable := ← overwrite arena.dualTable multipliers
    idleTable := ← overwrite arena.idleTable idle }

theorem recordDual_eq (roomy : arena.Roomy) {multipliers : List ℚ}
    (equal : multipliers.length = arena.size) :
    recordDual arena multipliers = some (arena.recordDual multipliers) := by
  have lengths := equal.trans (PlaneArena.length_idle roomy).symm
  have dualFits : multipliers.length ≤ arena.dualTable.length := by
    rw [equal, roomy.dualRoom]
    exact roomy.size_le
  have counted : (List.zipWith
      (fun multiplier idle => if PlaneArena.activeThreshold < multiplier then 0 else idle + 1)
      multipliers arena.idle).length = arena.size := by
    rw [List.length_zipWith, ← lengths, min_self, equal]
  have idleFits := counted.trans_le (roomy.idleRoom ▸ roomy.size_le)
  simp only [recordDual, idle_eq roomy, together_eq lengths, overwrite_eq dualFits,
    overwrite_eq idleFits, counted, equal, Option.bind_eq_bind, Option.bind_some]
  rfl

/-! ## Trimming -/

/-- The slots that stay; there is a first slot, which stays in any case. -/
def survivors (arena : PlaneArena ℚ) (threshold : Nat) : Option (List Nat) := do
  let used := (← idle arena).map fun idle => decide (idle < threshold)
  let kept ← set used 0 true
  return kept.zipIdx.filterMap fun entry => if entry.1 then some entry.2 else none

/-- The positions at which a test holds, if it has been made at every position. -/
theorem filterMap_zipIdx_map_range (test : Nat → Bool) (count : Nat) :
    ((List.range count).map test).zipIdx.filterMap
        (fun entry => if entry.1 then some entry.2 else none) =
      (List.range count).filter test := by
  rw [List.zipIdx_eq_zip_range', List.length_map, List.length_range, ← List.range_eq_range',
    List.zip, List.zipWith_map_left, List.zipWith_self, List.filterMap_map]
  exact congrFun List.filterMap_eq_filter (List.range count)

theorem survivors_eq (roomy : arena.Roomy) (nonempty : 0 < arena.size) (threshold : Nat) :
    survivors arena threshold = some (arena.survivors threshold) := by
  have inBounds : 0 < (arena.idle.map fun idle => decide (idle < threshold)).length := by
    rw [List.length_map, PlaneArena.length_idle roomy]
    exact nonempty
  -- Setting the first mark is what the test for the first slot does.
  let test (slot : Nat) : Bool := slot == 0 || arena.idle.getD slot 0 < threshold
  have tested : (arena.idle.map fun idle => decide (idle < threshold)).set 0 true =
      (List.range arena.size).map test := by
    apply List.ext_getElem
    · simp [PlaneArena.length_idle roomy]
    · intro slot leftBounds rightBounds
      have idleBounds : slot < arena.idle.length := by simpa using leftBounds
      cases slot with
      | zero => simp [test]
      | succ slot => simp [test, idleBounds]
  simp only [survivors, idle_eq roomy, set_eq inBounds, tested, Option.bind_eq_bind,
    Option.bind_some, filterMap_zipIdx_map_range]
  rfl

/-- Move rows that exist to the front. -/
def compact {α : Type} (slots : List Nat) (table : List α) : Option (List α) := do
  overwrite table (← slots.mapM (table[·]?))

theorem compact_eq {α : Type} (fallback : α) {slots : List Nat} {table : List α}
    (inBounds : ∀ slot ∈ slots, slot < table.length) (fits : slots.length ≤ table.length) :
    compact slots table = some (PlaneArena.compact fallback slots table) := by
  have rows : slots.mapM (table[·]?) = some (slots.map (table.getD · fallback)) := by
    apply mapM_eq_pure
    intro slot member
    simp [inBounds slot member]
  rw [compact, rows, Option.bind_eq_bind, Option.bind_some, overwrite_eq (by simpa using fits),
    List.length_map]
  rfl

section Gram

variable {slots : List Nat} {table : List (List ℚ)} {room : Nat}

/-- Overwrite a row by the entries of another one that belong to the slots. -/
def moveRow (slots : List Nat) (table : List (List ℚ)) (slot : Nat) (old : List ℚ) :
    Option (List ℚ) := do
  let row ← table[slot]?
  overwrite old (← slots.mapM (row[·]?))

/-- Move rows and columns of inner products that exist to the front. -/
def compactGram (slots : List Nat) (table : List (List ℚ)) : Option (List (List ℚ)) := do
  let targets ← together Prod.mk slots (← front slots.length table)
  overwrite table (← targets.mapM fun target => moveRow slots table target.1 target.2)

/-- The row that is moved to the place of an old one. -/
def movedRow (slots : List Nat) (table : List (List ℚ)) (slot : Nat) (old : List ℚ) : List ℚ :=
  slots.map (entry (row table slot)) ++ old.drop slots.length

theorem moveRow_eq (inBounds : ∀ slot ∈ slots, slot < room) (fits : slots.length ≤ room)
    (tableRoom : table.length = room) (rowRoom : ∀ row ∈ table, row.length = room)
    {slot : Nat} {old : List ℚ} (slotMem : slot ∈ slots) (oldMem : old ∈ table) :
    moveRow slots table slot old = some (movedRow slots table slot old) := by
  have rowBounds : slot < table.length := tableRoom ▸ inBounds slot slotMem
  have rowLength : (row table slot).length = room := rowRoom _ (by simp [row, rowBounds])
  have entries : slots.mapM ((row table slot)[·]?) = some (slots.map (entry (row table slot))) := by
    apply mapM_eq_pure
    intro other otherMem
    exact getElem?_eq_entry (rowLength ▸ inBounds other otherMem)
  have oldFits : (slots.map (entry (row table slot))).length ≤ old.length := by
    rw [List.length_map, rowRoom old oldMem]
    exact fits
  simp only [moveRow, getElem?_eq_row rowBounds, entries, overwrite_eq oldFits, List.length_map,
    Option.bind_eq_bind, Option.bind_some]
  rfl

theorem compactGram_eq (inBounds : ∀ slot ∈ slots, slot < room) (fits : slots.length ≤ room)
    (tableRoom : table.length = room) (rowRoom : ∀ row ∈ table, row.length = room) :
    compactGram slots table = some (PlaneArena.compactGram slots table) := by
  have enough : slots.length ≤ table.length := tableRoom ▸ fits
  have lengths : slots.length = (table.take slots.length).length :=
    (List.length_take_of_le enough).symm
  let targets := List.zipWith Prod.mk slots (table.take slots.length)
  have moves : targets.mapM (fun target => moveRow slots table target.1 target.2) =
      some (targets.map fun target => movedRow slots table target.1 target.2) := by
    apply mapM_eq_pure
    intro target member
    have both := List.of_mem_zip (a := target.1) (b := target.2) member
    exact moveRow_eq inBounds fits tableRoom rowRoom both.1 (List.mem_of_mem_take both.2)
  have rows : (targets.map fun target => movedRow slots table target.1 target.2) =
      List.zipWith (movedRow slots table) slots table := by
    apply List.ext_getElem
    · simp [targets]
    · intro position leftBounds rightBounds
      simp [targets]
  have count : (List.zipWith (movedRow slots table) slots table).length = slots.length := by
    rw [List.length_zipWith, min_eq_left enough]
  have rowsFit : (List.zipWith (movedRow slots table) slots table).length ≤ table.length :=
    count.trans_le enough
  simp only [compactGram, front_eq enough, together_eq lengths, Option.bind_eq_bind,
    Option.bind_some]
  rw [moves, rows, Option.bind_some, overwrite_eq rowsFit, count]
  rfl

end Gram

def trim (arena : PlaneArena ℚ) (threshold : Nat) : Option (Nat × PlaneArena ℚ) := do
  let slots ← survivors arena threshold
  let removed := arena.size - slots.length
  if removed = 0 then return (0, arena)
  else
    return (removed,
      { arena with
        size := slots.length
        gradientTable := ← compact slots arena.gradientTable
        offsetTable := ← compact slots arena.offsetTable
        gramTable := ← compactGram slots arena.gramTable
        dualTable := ← compact slots arena.dualTable
        idleTable := ← compact slots arena.idleTable })

theorem trim_eq (roomy : arena.Roomy) (nonempty : 0 < arena.size) (threshold : Nat) :
    trim arena threshold = some (arena.trim threshold) := by
  have inBounds (slot : Nat) (member : slot ∈ arena.survivors threshold) :
      slot < arena.capacity :=
    (PlaneArena.lt_of_mem_survivors member).trans_le roomy.size_le
  have fits := (arena.length_survivors_le threshold).trans roomy.size_le
  have moves {α : Type} (fallback : α) {table : List α} (room : table.length = arena.capacity) :
      compact (arena.survivors threshold) table =
        some (PlaneArena.compact fallback (arena.survivors threshold) table) := by
    rw [← room] at inBounds fits
    exact compact_eq fallback inBounds fits
  simp only [trim, survivors_eq roomy nonempty, moves [] roomy.gradientRoom,
    moves 0 (show arena.offsetTable.length = arena.capacity from rfl),
    compactGram_eq inBounds fits roomy.gramRoom roomy.gramRowRoom, moves 0 roomy.dualRoom,
    moves 0 roomy.idleRoom, Option.bind_eq_bind, Option.bind_some, PlaneArena.trim]
  split
  next => rfl
  next => rfl

end HingeRank.Checked.Arena
