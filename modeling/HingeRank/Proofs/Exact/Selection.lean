import Mathlib
import HingeRank.Proofs.Exact.Linear

/-!
# The chosen entry is a best one

Scanning a list for the first best entry ends with an entry of the list that no other
one beats, whenever beating is asymmetric and being unbeaten is transitive.  For
rational numbers this makes the positions of the largest and of the smallest enabled
entry what their names say.
-/

namespace HingeRank.Selection

/-! ## Scanning with any order -/

section Scan

variable {α : Type} (beats : α → α → Bool)

/-- The scan returns what it holds or an entry of the rest, with its position. -/
theorem bestFrom_mem (position : Nat) (held : Nat × α) (rest : List α) :
    bestFrom beats position held rest = held ∨
      ∃ offset, rest[offset]? = some (bestFrom beats position held rest).2 ∧
        (bestFrom beats position held rest).1 = position + offset := by
  induction rest generalizing position held with
  | nil => exact .inl rfl
  | cons entry rest ih =>
      rw [bestFrom]
      rcases ih (position + 1) (if beats entry held.2 then (position, entry) else held) with
        kept | ⟨offset, found, place⟩
      · rw [kept]
        split
        · exact .inr ⟨0, rfl, rfl⟩
        · exact .inl rfl
      · exact .inr ⟨offset + 1, found, by rw [place, Nat.add_assoc, Nat.add_comm 1]⟩

variable (asymmetric : ∀ x y, beats x y = true → beats y x = false)
  (transitive : ∀ x y z, beats x y = false → beats y z = false → beats x z = false)

include asymmetric transitive

/-- Neither what the scan held nor any entry it saw beats its result. -/
theorem bestFrom_unbeaten (position : Nat) (held : Nat × α) (rest : List α) :
    beats held.2 (bestFrom beats position held rest).2 = false ∧
      ∀ entry ∈ rest, beats entry (bestFrom beats position held rest).2 = false := by
  induction rest generalizing position held with
  | nil =>
      refine ⟨?_, by simp⟩
      cases own : beats held.2 held.2 with
      | false => exact own
      | true => exact asymmetric _ _ own
  | cons entry rest ih =>
      rw [bestFrom]
      cases won : beats entry held.2 with
      | false =>
          obtain ⟨first, others⟩ := ih (position + 1) held
          refine ⟨first, ?_⟩
          intro other member
          rcases List.mem_cons.mp member with rfl | member
          · exact transitive _ _ _ won first
          · exact others other member
      | true =>
          obtain ⟨first, others⟩ := ih (position + 1) (position, entry)
          refine ⟨transitive _ _ _ (asymmetric _ _ won) first, ?_⟩
          intro other member
          rcases List.mem_cons.mp member with rfl | member
          · exact first
          · exact others other member

/-- In a nonempty list the best entry stands at its position and is unbeaten. -/
theorem best?_unbeaten {entries : List α} (nonempty : entries ≠ []) :
    ∃ position entry, best? beats entries = some (position, entry) ∧
      entries[position]? = some entry ∧ ∀ other ∈ entries, beats other entry = false := by
  cases entries with
  | nil => exact absurd rfl nonempty
  | cons first rest =>
      refine ⟨_, _, rfl, ?_, ?_⟩
      · rcases bestFrom_mem beats 1 (0, first) rest with kept | ⟨offset, found, place⟩
        · rw [kept]
          rfl
        · rw [place, Nat.add_comm, List.getElem?_cons_succ]
          exact found
      · obtain ⟨unbeaten, others⟩ := bestFrom_unbeaten beats asymmetric transitive 1 (0, first) rest
        intro other member
        rcases List.mem_cons.mp member with rfl | member
        · exact unbeaten
        · exact others other member

end Scan

/-! ## The largest entry -/

@[simp] private theorem isLarger_eq_true {left right : ℚ} :
    isLarger left right = true ↔ right < left := by
  simp [isLarger]

@[simp] private theorem isLarger_eq_false {left right : ℚ} :
    isLarger left right = false ↔ left ≤ right := by
  rw [← Bool.not_eq_true, isLarger_eq_true, not_lt]

private theorem best?_isLarger {values : List ℚ} (nonempty : values ≠ []) :
    ∃ position entry, best? isLarger values = some (position, entry) ∧
      values[position]? = some entry ∧ ∀ other ∈ values, other ≤ entry := by
  obtain ⟨position, entry, chosen, found, unbeaten⟩ := best?_unbeaten isLarger
    (fun x y larger => isLarger_eq_false.mpr (isLarger_eq_true.mp larger).le)
    (fun x y z first second => isLarger_eq_false.mpr
      ((isLarger_eq_false.mp first).trans (isLarger_eq_false.mp second))) nonempty
  exact ⟨position, entry, chosen, found,
    fun other member => isLarger_eq_false.mp (unbeaten other member)⟩

/-- The position of the largest entry lies in the list, and its entry is the maximum. -/
theorem largest_greatest {values : List ℚ} (nonempty : values ≠ []) :
    largest values < values.length ∧
      maximum? values = some (Linear.entry values (largest values)) ∧
      ∀ value ∈ values, value ≤ Linear.entry values (largest values) := by
  obtain ⟨position, entry, chosen, found, greatest⟩ := best?_isLarger nonempty
  have place : largest values = position := by simp [largest, chosen]
  have value : Linear.entry values position = entry := by simp [Linear.entry, found]
  rw [place, value]
  exact ⟨(List.getElem?_eq_some_iff.mp found).1, by simp [maximum?, chosen], greatest⟩

/-! ## The smallest enabled entry -/

@[simp] private theorem isSmaller_eq_true {left right : ℚ} :
    isSmaller left right = true ↔ left < right := by
  simp [isSmaller]

private theorem isSmallerEnabled_asymmetric (left right : Option ℚ)
    (smaller : isSmallerEnabled left right = true) : isSmallerEnabled right left = false := by
  cases left with
  | none => simp [isSmallerEnabled] at smaller
  | some left =>
      cases right with
      | none => rfl
      | some right =>
          rw [isSmallerEnabled, isSmaller_eq_true] at smaller
          rw [isSmallerEnabled, ← Bool.not_eq_true, isSmaller_eq_true]
          exact smaller.le.not_gt

private theorem isSmallerEnabled_transitive (first second third : Option ℚ)
    (notFirst : isSmallerEnabled first second = false)
    (notSecond : isSmallerEnabled second third = false) :
    isSmallerEnabled first third = false := by
  cases first with
  | none => simp [isSmallerEnabled]
  | some first =>
      cases second with
      | none => simp [isSmallerEnabled] at notFirst
      | some second =>
          cases third with
          | none => simp [isSmallerEnabled] at notSecond
          | some third =>
              rw [isSmallerEnabled, ← Bool.not_eq_true, isSmaller_eq_true, not_lt] at *
              exact notSecond.trans notFirst

/-- What the scan sees of an entry: its value if it is enabled. -/
def candidate (enabled : ℚ → Bool) (mark value : ℚ) : Option ℚ :=
  if enabled mark && canWin value then some value else none

section Enabled

variable {enabled : ℚ → Bool} {marks values : List ℚ}

@[simp] private theorem candidate_of_enabled {mark : ℚ} (isEnabled : enabled mark = true)
    (value : ℚ) : candidate enabled mark value = some value := by
  simp [candidate, canWin, isEnabled]

@[simp] private theorem candidate_of_disabled {mark : ℚ} (disabled : enabled mark = false)
    (value : ℚ) : candidate enabled mark value = none := by
  simp [candidate, disabled]

private theorem getElem?_candidates (equal : marks.length = values.length) {position : Nat}
    (inBounds : position < marks.length) :
    (List.zipWith (candidate enabled) marks values)[position]? =
      some (candidate enabled (Linear.entry marks position) (Linear.entry values position)) := by
  simp [Linear.entry, inBounds, equal ▸ inBounds]

/-- The scan ends inside the list, at a candidate that no other one beats. -/
theorem smallestEnabled_unbeaten (equal : marks.length = values.length) (nonempty : marks ≠ []) :
    let chosen := smallestEnabled enabled marks values
    chosen < marks.length ∧ ∀ other < marks.length,
      isSmallerEnabled
        (candidate enabled (Linear.entry marks other) (Linear.entry values other))
        (candidate enabled (Linear.entry marks chosen) (Linear.entry values chosen)) = false := by
  have first := @getElem?_candidates enabled _ _ equal _ (List.length_pos_iff.mpr nonempty)
  have candidates_nonempty : List.zipWith (candidate enabled) marks values ≠ [] := by
    intro empty
    simp [empty] at first
  obtain ⟨position, entry, chosen, found, unbeaten⟩ := best?_unbeaten isSmallerEnabled
    isSmallerEnabled_asymmetric isSmallerEnabled_transitive candidates_nonempty
  have place : smallestEnabled enabled marks values = position := by
    change (best? isSmallerEnabled (List.zipWith (candidate enabled) marks values)).elim 0 _ = _
    rw [chosen]
    rfl
  have bounds : position < marks.length := by
    have within := (List.getElem?_eq_some_iff.mp found).1
    rw [List.length_zipWith] at within
    omega
  have entry_eq := Option.some.inj ((getElem?_candidates equal bounds).symm.trans found)
  rw [place]
  dsimp only
  rw [entry_eq]
  constructor
  · exact bounds
  · intro other otherBounds
    exact unbeaten _ (List.mem_of_getElem? (getElem?_candidates equal otherBounds))

/-- If some entry is enabled, the chosen one is, and no enabled entry is smaller. -/
theorem smallestEnabled_least (equal : marks.length = values.length)
    (some_enabled : ∃ mark ∈ marks, enabled mark = true) :
    smallestEnabled enabled marks values < values.length ∧
      enabled (Linear.entry marks (smallestEnabled enabled marks values)) = true ∧
      ∀ position < marks.length, enabled (Linear.entry marks position) = true →
        Linear.entry values (smallestEnabled enabled marks values) ≤
          Linear.entry values position := by
  rcases some_enabled with ⟨mark, member, isEnabled⟩
  obtain ⟨bounds, unbeaten⟩ :=
    @smallestEnabled_unbeaten enabled _ _ equal (List.ne_nil_of_mem member)
  have chosenEnabled :
      enabled (Linear.entry marks (smallestEnabled enabled marks values)) = true := by
    cases kind : enabled (Linear.entry marks (smallestEnabled enabled marks values)) with
    | true => rfl
    | false =>
        obtain ⟨position, inBounds, rfl⟩ := List.mem_iff_getElem.mp member
        rw [← Linear.entry_eq_getElem inBounds] at isEnabled
        have beaten := unbeaten position inBounds
        rw [candidate_of_enabled isEnabled, candidate_of_disabled kind] at beaten
        cases beaten
  refine ⟨equal ▸ bounds, chosenEnabled, ?_⟩
  intro other otherBounds otherEnabled
  have notSmaller := unbeaten other otherBounds
  rw [candidate_of_enabled otherEnabled, candidate_of_enabled chosenEnabled, isSmallerEnabled,
    ← Bool.not_eq_true, isSmaller_eq_true, not_lt] at notSmaller
  exact notSmaller

end Enabled

end HingeRank.Selection
