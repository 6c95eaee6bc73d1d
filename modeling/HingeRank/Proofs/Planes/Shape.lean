import Mathlib
import HingeRank.Dual
import HingeRank.Planes.Arrays
import HingeRank.Proofs.Exact.Lengths

/-!
# The tables of planes

The tables of an arena keep their shape and have room for what is written to them.
-/

namespace HingeRank

open Linear

/-!
## Shapes of planes

How many planes an arena holds, how much room there is, and how long the rows of its tables are
does not depend on the numbers in them.  In a regular arena there is room for the planes in force
and all gradients have the arena's dimension.  Every operation leaves a regular arena behind.
-/

theorem PlaneModel.length_weightsOf {K : Type} [Scalar K] {model : PlaneModel K}
    (aligned : ∀ gradient ∈ model.gradients, gradient.length = model.dimension)
    (nonnegative : Bool) (multipliers : List K) :
    (model.weightsOf nonnegative multipliers).length = model.dimension := by
  cases nonnegative <;> simp [weightsOf, length_combine _ aligned]

namespace PlaneArena

variable {K : Type} {arena : PlaneArena K} {dimension : Nat}

/-- There are planes in force and room for them, and all gradients have this dimension. -/
structure Regular (arena : PlaneArena K) (dimension : Nat) : Prop where
  dimension_eq : arena.dimension = dimension
  size_pos : 0 < arena.size
  size_le : arena.size ≤ arena.capacity
  gradientRoom : arena.gradientTable.length = arena.capacity
  aligned : ∀ row ∈ arena.gradientTable, row.length = dimension

/-- The planes in force have the dimension of the arena. -/
theorem Regular.aligned_gradients (regular : arena.Regular dimension) :
    ∀ row ∈ arena.gradients, row.length = dimension :=
  fun row member => regular.aligned row (List.mem_of_mem_take member)

/-! ### Rows that stay -/

theorem lt_of_mem_survivors {threshold slot : Nat} (member : slot ∈ arena.survivors threshold) :
    slot < arena.size :=
  List.mem_range.mp (List.mem_filter.mp member).1

theorem length_survivors_le (arena : PlaneArena K) (threshold : Nat) :
    (arena.survivors threshold).length ≤ arena.size := by
  have shorter := List.length_filter_le
    (fun slot => slot == 0 || arena.idle.getD slot 0 < threshold) (List.range arena.size)
  rw [List.length_range] at shorter
  exact shorter

/-- The first plane survives in any case. -/
theorem length_survivors_pos (nonempty : 0 < arena.size) (threshold : Nat) :
    0 < (arena.survivors threshold).length := by
  have first : 0 ∈ arena.survivors threshold :=
    List.mem_filter.mpr ⟨List.mem_range.mpr nonempty, rfl⟩
  exact List.length_pos_of_mem first

theorem length_compact {α : Type} {fallback : α} {slots : List Nat} {table : List α}
    (fits : slots.length ≤ table.length) :
    (compact fallback slots table).length = table.length := by
  simp only [compact, List.length_append, List.length_map, List.length_drop]
  omega

/-- Rows that are moved to the front have been in the table before. -/
theorem mem_of_mem_compact {α : Type} {fallback : α} {slots : List Nat} {table : List α}
    (inBounds : ∀ slot ∈ slots, slot < table.length) {row : α}
    (member : row ∈ compact fallback slots table) : row ∈ table := by
  rcases List.mem_append.mp member with moved | old
  · obtain ⟨slot, slotMem, rfl⟩ := List.mem_map.mp moved
    rw [List.getD_eq_getElem _ _ (inBounds slot slotMem)]
    exact List.getElem_mem _
  · exact List.mem_of_mem_drop old

/-! ### Rows that are added -/

variable [Scalar K]

@[simp] theorem capacity_grow (arena : PlaneArena K) :
    arena.grow.capacity = arena.capacity + arena.capacity := by
  simp [grow, capacity]

@[simp] theorem dimension_push (arena : PlaneArena K) (gradient : List K) (offset : K) :
    (arena.push gradient offset).dimension = arena.dimension := by
  unfold push
  split <;> rfl

/-- A full arena has room for one more plane as soon as it has grown. -/
theorem room_grow (full : arena.size = arena.capacity) (nonempty : 0 < arena.size) :
    arena.grow.size < arena.grow.capacity := by
  rw [capacity_grow]
  change arena.size < _
  omega

/-- A full arena appends like the grown one. -/
theorem push_grow (full : arena.size = arena.capacity)
    (nonempty : 0 < arena.size) (gradient : List K) (offset : K) :
    arena.push gradient offset = arena.grow.push gradient offset := by
  unfold push
  rw [if_pos full, if_neg (room_grow full nonempty).ne]

/-- With room to spare a plane is written behind those in force. -/
theorem push_of_room (room : arena.size < arena.capacity) (gradient : List K) (offset : K) :
    arena.push gradient offset =
      { arena with
        size := arena.size + 1
        gradientTable := arena.gradientTable.set arena.size gradient
        offsetTable := arena.offsetTable.set arena.size offset
        gramTable := extendGram arena.gramTable arena.size
          (Linear.apply arena.gradients gradient) (dot gradient gradient)
        dualTable := arena.dualTable.set arena.size 0
        idleTable := arena.idleTable.set arena.size 0 } := by
  unfold push
  rw [if_neg room.ne]

@[simp] theorem dimension_trim (arena : PlaneArena K) (threshold : Nat) :
    (arena.trim threshold).2.dimension = arena.dimension := by
  simp only [trim]
  split <;> rfl

/-! ### Operations -/

namespace Regular

theorem initial (dimension capacity : Nat) :
    (PlaneArena.initial dimension capacity : PlaneArena K).Regular dimension where
  dimension_eq := rfl
  size_pos := Nat.one_pos
  size_le := by simp [PlaneArena.initial, PlaneArena.capacity]
  gradientRoom := by simp [PlaneArena.initial, PlaneArena.capacity]
  aligned := by
    intro row member
    rw [List.eq_of_mem_replicate member]
    exact length_zeros dimension

theorem grow (regular : arena.Regular dimension) : arena.grow.Regular dimension where
  dimension_eq := regular.dimension_eq
  size_pos := regular.size_pos
  size_le := by
    rw [capacity_grow]
    exact regular.size_le.trans (Nat.le_add_right _ _)
  gradientRoom := by simp [PlaneArena.grow, PlaneArena.capacity, regular.gradientRoom]
  aligned := by
    intro row member
    rcases List.mem_append.mp member with old | new
    · exact regular.aligned row old
    · rw [List.eq_of_mem_replicate new, length_zeros, regular.dimension_eq]

theorem push_of_room (regular : arena.Regular dimension) (room : arena.size < arena.capacity)
    {gradient : List K} (gradient_eq : gradient.length = dimension) (offset : K) :
    (arena.push gradient offset).Regular dimension := by
  rw [PlaneArena.push_of_room room]
  exact {
    dimension_eq := regular.dimension_eq
    size_pos := Nat.succ_pos _
    size_le := by simpa [PlaneArena.capacity] using room
    gradientRoom := by simpa [PlaneArena.capacity] using regular.gradientRoom
    aligned := by
      intro row member
      rcases List.mem_or_eq_of_mem_set member with old | rfl
      · exact regular.aligned row old
      · exact gradient_eq }

/-- A gradient of the right dimension can be appended, also where the tables are full. -/
theorem push (regular : arena.Regular dimension) {gradient : List K}
    (gradient_eq : gradient.length = dimension) (offset : K) :
    (arena.push gradient offset).Regular dimension := by
  rcases regular.size_le.lt_or_eq with room | full
  · exact regular.push_of_room room gradient_eq offset
  · rw [push_grow full regular.size_pos]
    exact regular.grow.push_of_room (room_grow full regular.size_pos) gradient_eq offset

theorem recordDual (regular : arena.Regular dimension) (multipliers : List K) :
    (arena.recordDual multipliers).Regular dimension :=
  ⟨regular.dimension_eq, regular.size_pos, regular.size_le, regular.gradientRoom, regular.aligned⟩

theorem trim (regular : arena.Regular dimension) (threshold : Nat) :
    (arena.trim threshold).2.Regular dimension := by
  have enough := (arena.length_survivors_le threshold).trans regular.size_le
  have inBounds : ∀ slot ∈ arena.survivors threshold, slot < arena.gradientTable.length := by
    intro slot member
    rw [regular.gradientRoom]
    exact (lt_of_mem_survivors member).trans_le regular.size_le
  have capacity_eq : (compact 0 (arena.survivors threshold) arena.offsetTable).length =
      arena.capacity := length_compact enough
  simp only [PlaneArena.trim]
  split
  next => exact regular
  next =>
    exact {
      dimension_eq := regular.dimension_eq
      size_pos := length_survivors_pos regular.size_pos threshold
      size_le := by
        rw [PlaneArena.capacity, capacity_eq]
        exact enough
      gradientRoom := by
        rw [PlaneArena.capacity, capacity_eq, ← regular.gradientRoom]
        rw [← regular.gradientRoom] at enough
        exact length_compact enough
      aligned := fun row member => regular.aligned row (mem_of_mem_compact inBounds member) }

end Regular

end PlaneArena

/-!
## Room for planes

All tables of an arena have room for the same number of planes, and every operation keeps it
so.  Growing leaves the rows in force as they are.  Appending a plane puts one row behind them,
and one column beside their inner products, whether or not the tables have to grow for it.  All
this holds whatever the numbers are.
-/

namespace PlaneArena

variable {K : Type} {arena : PlaneArena K}

/-- All tables have the same room, which the planes in force do not exceed. -/
structure Roomy (arena : PlaneArena K) : Prop where
  size_le : arena.size ≤ arena.capacity
  gradientRoom : arena.gradientTable.length = arena.capacity
  gramRoom : arena.gramTable.length = arena.capacity
  gramRowRoom : ∀ row ∈ arena.gramTable, row.length = arena.capacity
  dualRoom : arena.dualTable.length = arena.capacity
  idleRoom : arena.idleTable.length = arena.capacity

@[simp] theorem length_gradients (roomy : arena.Roomy) : arena.gradients.length = arena.size :=
  List.length_take_of_le (roomy.gradientRoom ▸ roomy.size_le)

@[simp] theorem length_offsets (roomy : arena.Roomy) : arena.offsets.length = arena.size :=
  List.length_take_of_le roomy.size_le

@[simp] theorem length_idle (roomy : arena.Roomy) : arena.idle.length = arena.size :=
  List.length_take_of_le (roomy.idleRoom ▸ roomy.size_le)

variable [Scalar K]

theorem initial_roomy (dimension capacity : Nat) :
    (initial dimension capacity : PlaneArena K).Roomy where
  size_le := by simp [initial, PlaneArena.capacity]
  gradientRoom := by simp [initial, PlaneArena.capacity]
  gramRoom := by simp [initial, PlaneArena.capacity]
  gramRowRoom := by
    intro row member
    rw [List.eq_of_mem_replicate member]
    rfl
  dualRoom := rfl
  idleRoom := by simp [initial, PlaneArena.capacity]

/-! ### Growing -/

theorem grow_roomy (roomy : arena.Roomy) : arena.grow.Roomy where
  size_le := by
    rw [capacity_grow]
    exact roomy.size_le.trans (Nat.le_add_right _ _)
  gradientRoom := by simp [grow, capacity, roomy.gradientRoom]
  gramRoom := by simp [grow, capacity, roomy.gramRoom]
  gramRowRoom := by
    intro row member
    rw [capacity_grow]
    rcases List.mem_append.mp member with old | new
    · obtain ⟨source, sourceMem, rfl⟩ := List.mem_map.mp old
      simp [roomy.gramRowRoom source sourceMem]
    · rw [List.eq_of_mem_replicate new, length_zeros, Nat.two_mul]
  dualRoom := by simp [grow, capacity, roomy.dualRoom]
  idleRoom := by simp [grow, capacity, roomy.idleRoom]

/-- The same planes are in force, with the same record of their use. -/
structure SameInForce (arena other : PlaneArena K) : Prop where
  size_eq : other.size = arena.size
  gradients_eq : other.gradients = arena.gradients
  offsets_eq : other.offsets = arena.offsets
  dual_eq : other.dual = arena.dual
  idle_eq : other.idle = arena.idle
  gram_eq : other.gram = arena.gram

theorem grow_sameInForce (roomy : arena.Roomy) : arena.SameInForce arena.grow := by
  have sizeLe := roomy.size_le
  exact {
    size_eq := rfl
    gradients_eq := List.take_append_of_le_length (by rw [roomy.gradientRoom]; exact sizeLe)
    offsets_eq := List.take_append_of_le_length sizeLe
    dual_eq := List.take_append_of_le_length (by rw [roomy.dualRoom]; exact sizeLe)
    idle_eq := List.take_append_of_le_length (by rw [roomy.idleRoom]; exact sizeLe)
    gram_eq := by
      simp only [gram, grow]
      rw [List.take_append_of_le_length (by simpa [roomy.gramRoom] using sizeLe), ← List.map_take,
        List.map_map]
      refine List.map_congr_left fun row member => ?_
      have rowRoom := roomy.gramRowRoom row (List.mem_of_mem_take member)
      exact List.take_append_of_le_length (by rw [rowRoom]; exact sizeLe) }

/-! ### Appending -/

private theorem take_set_succ {α : Type} {table : List α} {size : Nat}
    (inBounds : size < table.length) (value : α) :
    (table.set size value).take (size + 1) = table.take size ++ [value] := by
  rw [List.take_succ_eq_append_getElem (by simpa using inBounds), List.take_set_of_le le_rfl]
  simp

/-- The inner products in force after a new row and column have been written. -/
theorem take_extendGram {table : List (List K)} {size : Nat} {products : List K} {square : K}
    (inBounds : size < table.length) (rowRoom : ∀ row ∈ table, size < row.length)
    (equal : products.length = size) :
    ((extendGram table size products square).take (size + 1)).map (·.take (size + 1)) =
      List.zipWith (fun row product => row ++ [product])
          ((table.take size).map (·.take size)) products ++ [products ++ [square]] := by
  have tableLe : size + 1 ≤ table.length := inBounds
  apply List.ext_getElem
  · simp [extendGram, equal, tableLe, inBounds.le]
  · intro position leftBounds rightBounds
    simp only [List.length_append, List.length_zipWith, List.length_map, List.length_take, equal,
      min_eq_left inBounds.le, min_self, List.length_singleton] at rightBounds
    rcases Nat.lt_succ_iff_lt_or_eq.mp rightBounds with old | rfl
    · have rowBounds := rowRoom table[position] (List.getElem_mem _)
      simp [extendGram, old, old.ne', equal, inBounds.le, entry, take_set_succ rowBounds]
    · subst equal
      simp [extendGram, inBounds.le, List.take_length_add_append]

theorem length_of_mem_extendGram {table : List (List K)} {size room : Nat} {products : List K}
    {square : K} (inBounds : size < room) (rowRoom : ∀ row ∈ table, row.length = room)
    (equal : products.length = size) :
    ∀ row ∈ extendGram table size products square, row.length = room := by
  intro row member
  obtain ⟨position, bounds, rfl⟩ := List.mem_iff_getElem.mp member
  have tableBounds : position < table.length := by simpa [extendGram] using bounds
  have oldRow := rowRoom table[position] (List.getElem_mem _)
  simp only [extendGram, List.getElem_modify, List.getElem_map, List.getElem_zipIdx, Nat.zero_add]
  split
  next here =>
    subst here
    simp only [lt_irrefl, if_false, List.length_append, List.length_cons, List.length_drop]
    omega
  next =>
    split
    next => simpa using oldRow
    next => exact oldRow

/-- Behind the planes in force of an arena stands one more, which has no multiplier yet and has
not been left unused. -/
structure Appends (arena : PlaneArena K) (gradient : List K) (offset : K)
    (extended : PlaneArena K) : Prop where
  dimension_eq : extended.dimension = arena.dimension
  size_eq : extended.size = arena.size + 1
  gradients_eq : extended.gradients = arena.gradients ++ [gradient]
  offsets_eq : extended.offsets = arena.offsets ++ [offset]
  dual_eq : extended.dual = arena.dual ++ [0]
  idle_eq : extended.idle = arena.idle ++ [0]
  /-- The inner products of earlier planes stay in their places. -/
  gram_eq : extended.gram =
    List.zipWith (fun row product => row ++ [product]) arena.gram
        (Linear.apply arena.gradients gradient) ++
      [Linear.apply arena.gradients gradient ++ [dot gradient gradient]]

theorem SameInForce.appends {other extended : PlaneArena K} {gradient : List K} {offset : K}
    (same : arena.SameInForce other) (dimension_eq : other.dimension = arena.dimension)
    (appends : other.Appends gradient offset extended) :
    arena.Appends gradient offset extended where
  dimension_eq := appends.dimension_eq.trans dimension_eq
  size_eq := same.size_eq ▸ appends.size_eq
  gradients_eq := same.gradients_eq ▸ appends.gradients_eq
  offsets_eq := same.offsets_eq ▸ appends.offsets_eq
  dual_eq := same.dual_eq ▸ appends.dual_eq
  idle_eq := same.idle_eq ▸ appends.idle_eq
  gram_eq := same.gram_eq ▸ same.gradients_eq ▸ appends.gram_eq

/-- Every plane in force has an inner product with a new one. -/
theorem length_products (roomy : arena.Roomy) (gradient : List K) :
    (Linear.apply arena.gradients gradient).length = arena.size := by
  rw [length_apply, length_gradients roomy]

theorem push_of_room_appends (roomy : arena.Roomy) (room : arena.size < arena.capacity)
    (gradient : List K) (offset : K) :
    arena.Appends gradient offset (arena.push gradient offset) := by
  rw [push_of_room room]
  exact {
    dimension_eq := rfl
    size_eq := rfl
    gradients_eq := take_set_succ (by rw [roomy.gradientRoom]; exact room) _
    offsets_eq := take_set_succ room _
    dual_eq := take_set_succ (by rw [roomy.dualRoom]; exact room) _
    idle_eq := take_set_succ (by rw [roomy.idleRoom]; exact room) _
    gram_eq := take_extendGram (by rw [roomy.gramRoom]; exact room)
      (fun row member => by rw [roomy.gramRowRoom row member]; exact room)
      (length_products roomy gradient) }

theorem push_of_room_roomy (roomy : arena.Roomy) (room : arena.size < arena.capacity)
    (gradient : List K) (offset : K) : (arena.push gradient offset).Roomy := by
  have products := length_products roomy gradient
  rw [push_of_room room]
  exact {
    size_le := by simpa [capacity] using room
    gradientRoom := by simpa [capacity] using roomy.gradientRoom
    gramRoom := by simpa [capacity, extendGram] using roomy.gramRoom
    gramRowRoom :=
      length_of_mem_extendGram (by simpa [capacity] using room)
        (by simpa [capacity] using roomy.gramRowRoom) products
    dualRoom := by simpa [capacity] using roomy.dualRoom
    idleRoom := by simpa [capacity] using roomy.idleRoom }

/-- Appending a plane puts it behind those in force, also where the tables are full. -/
theorem push_appends (roomy : arena.Roomy) (nonempty : 0 < arena.size) (gradient : List K)
    (offset : K) :
    arena.Appends gradient offset (arena.push gradient offset) ∧
      (arena.push gradient offset).Roomy := by
  rcases roomy.size_le.lt_or_eq with room | full
  · exact ⟨push_of_room_appends roomy room gradient offset,
      push_of_room_roomy roomy room gradient offset⟩
  · rw [push_grow full nonempty]
    have grown := grow_roomy roomy
    have room := room_grow full nonempty
    exact ⟨(grow_sameInForce roomy).appends rfl (push_of_room_appends grown room gradient offset),
      push_of_room_roomy grown room gradient offset⟩

/-! ### Recording multipliers -/

theorem recordDual_roomy (roomy : arena.Roomy) {multipliers : List K}
    (equal : multipliers.length = arena.size) : (arena.recordDual multipliers).Roomy where
  size_le := roomy.size_le
  gradientRoom := roomy.gradientRoom
  gramRoom := roomy.gramRoom
  gramRowRoom := roomy.gramRowRoom
  dualRoom := by
    have sizeLe := roomy.size_le
    simp only [recordDual, capacity, List.length_append, List.length_drop, equal,
      roomy.dualRoom] at sizeLe ⊢
    omega
  idleRoom := by
    have sizeLe := roomy.size_le
    simp only [recordDual, capacity, List.length_append, List.length_drop, List.length_zipWith,
      equal, length_idle roomy, roomy.idleRoom, min_self] at sizeLe ⊢
    omega

/-! ### Trimming -/

theorem compact_roomy (roomy : arena.Roomy) {slots : List Nat} (fits : slots.length ≤ arena.size) :
    ({ arena with
        size := slots.length
        gradientTable := compact [] slots arena.gradientTable
        offsetTable := compact 0 slots arena.offsetTable
        gramTable := compactGram slots arena.gramTable
        dualTable := compact 0 slots arena.dualTable
        idleTable := compact 0 slots arena.idleTable } : PlaneArena K).Roomy := by
  have enough := fits.trans roomy.size_le
  have capacity_eq : (compact 0 slots arena.offsetTable).length = arena.capacity :=
    length_compact enough
  exact {
    size_le := by rw [capacity, capacity_eq]; exact enough
    gradientRoom := by
      rw [capacity, capacity_eq, length_compact (by rw [roomy.gradientRoom]; exact enough)]
      exact roomy.gradientRoom
    gramRoom := by
      rw [capacity, capacity_eq, ← roomy.gramRoom]
      rw [← roomy.gramRoom] at enough
      simp only [compactGram, List.length_append, List.length_zipWith, List.length_drop]
      omega
    gramRowRoom := by
      intro row member
      rw [capacity, capacity_eq]
      rcases List.mem_append.mp member with moved | old
      · obtain ⟨position, bounds, rfl⟩ := List.mem_iff_getElem.mp moved
        have inTable : position < arena.gramTable.length :=
          bounds.trans_le (List.length_zipWith.trans_le (min_le_right _ _))
        have oldRow := roomy.gramRowRoom arena.gramTable[position] (List.getElem_mem _)
        simp only [List.getElem_zipWith, List.length_append, List.length_map, List.length_drop,
          oldRow]
        omega
      · exact roomy.gramRowRoom row (List.mem_of_mem_drop old)
    dualRoom := by
      rw [capacity, capacity_eq, length_compact (by rw [roomy.dualRoom]; exact enough)]
      exact roomy.dualRoom
    idleRoom := by
      rw [capacity, capacity_eq, length_compact (by rw [roomy.idleRoom]; exact enough)]
      exact roomy.idleRoom }

theorem trim_roomy (roomy : arena.Roomy) (threshold : Nat) :
    (arena.trim threshold).2.Roomy := by
  simp only [trim]
  split
  next => exact roomy
  next => exact compact_roomy roomy (arena.length_survivors_le threshold)

theorem size_trim_pos (nonempty : 0 < arena.size) (threshold : Nat) :
    0 < (arena.trim threshold).2.size := by
  simp only [trim]
  split
  next => exact nonempty
  next => exact length_survivors_pos nonempty threshold

end PlaneArena

end HingeRank
