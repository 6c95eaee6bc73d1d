import Mathlib.Data.List.Forall2
import HingeRank.Error

/-!
# Calls that can fail

What becomes of computations that are put together from others that can fail.
-/

namespace HingeRank

/-!
## Calls in sequence

Calls that are made for the items of a list in order succeed together if each of them
succeeds, and fail together with the first one that fails.
-/

section

variable {ε ε' α β : Type}

@[simp] theorem ok_bind (value : α) (next : α → Except ε β) :
    (Except.ok value >>= next) = next value := rfl

@[simp] theorem error_bind (problem : ε) (next : α → Except ε β) :
    (Except.error problem >>= next) = .error problem := rfl

@[simp] theorem pure_eq_ok (value : α) : (pure value : Except ε α) = .ok value := rfl

@[simp] theorem throw_eq_error (problem : ε) : (throw problem : Except ε α) = .error problem := rfl

@[simp] theorem mapError_ok (value : α) (wrap : ε → ε') :
    (Except.ok value : Except ε α).mapError wrap = .ok value := rfl

@[simp] theorem mapError_error (problem : ε) (wrap : ε → ε') :
    (Except.error problem : Except ε α).mapError wrap = .error (wrap problem) := rfl

end

/-- Two calls succeed only if both of them do. -/
theorem of_bind {ε α β : Type} {result : Except ε α} {next : α → Except ε β} {value : β}
    (succeeds : result >>= next = .ok value) :
    ∃ first, result = .ok first ∧ next first = .ok value := by
  cases result with
  | error problem => cases succeeds
  | ok first => exact ⟨first, rfl, succeeds⟩

/-- Two calls fail if the first one does, or if it succeeds and the second one fails. -/
theorem bind_eq_error_iff {ε α β : Type} {result : Except ε α} {next : α → Except ε β}
    {problem : ε} : result >>= next = .error problem ↔
      result = .error problem ∨ ∃ value, result = .ok value ∧ next value = .error problem := by
  cases result with
  | error other => simp
  | ok value => simp

/-- Where every call succeeds, so do all of them in order. -/
theorem mapM_eq_pure {m : Type → Type} [Monad m] [LawfulMonad m] {α β : Type} {make : α → m β}
    {value : α → β} {items : List α}
    (succeeds : ∀ item ∈ items, make item = pure (value item)) :
    items.mapM make = pure (items.map value) := by
  induction items with
  | nil => exact List.mapM_nil
  | cons item items ih =>
      have others := ih fun other member => succeeds other (List.mem_cons_of_mem _ member)
      rw [List.mapM_cons, succeeds item List.mem_cons_self, others, pure_bind, pure_bind,
        List.map_cons]

/-- The first call that fails decides over all calls in order. -/
theorem mapM_eq_error {ε α β : Type} {make : α → Except ε β} {before after : List α} {item : α}
    {problem : ε} (succeeds : ∀ earlier ∈ before, ∃ result, make earlier = .ok result)
    (fails : make item = .error problem) :
    (before ++ item :: after).mapM make = .error problem := by
  induction before with
  | nil =>
      rw [List.nil_append, List.mapM_cons, fails]
      rfl
  | cons first before ih =>
      obtain ⟨result, made⟩ := succeeds first List.mem_cons_self
      have later := ih fun earlier member => succeeds earlier (List.mem_cons_of_mem _ member)
      rw [List.cons_append, List.mapM_cons, made, later]
      rfl

/-- Calls in sequence get as far as an item of which all earlier ones succeed. -/
def Reaches {ε α β : Type} (make : α → Except ε β) (items : List α) (item : α) : Prop :=
  ∃ before after, items = before ++ item :: after ∧
    ∀ earlier ∈ before, ∃ result, make earlier = .ok result

/-- Calls in sequence fail as one of them does to which they get. -/
theorem mapM_eq_error_iff {ε α β : Type} {make : α → Except ε β} {items : List α} {problem : ε} :
    items.mapM make = .error problem ↔
      ∃ item, Reaches make items item ∧ make item = .error problem := by
  constructor
  · intro failed
    induction items with
    | nil => cases failed
    | cons first items ih =>
        rw [List.mapM_cons, bind_eq_error_iff] at failed
        rcases failed with fails | ⟨result, made, failed⟩
        · exact ⟨first, ⟨[], items, rfl, by simp⟩, fails⟩
        · rcases bind_eq_error_iff.mp failed with later | ⟨_, _, impossible⟩
          · obtain ⟨item, ⟨before, after, rfl, succeeds⟩, fails⟩ := ih later
            refine ⟨item, ⟨first :: before, after, rfl, ?_⟩, fails⟩
            exact List.forall_mem_cons.mpr ⟨⟨result, made⟩, succeeds⟩
          · cases impossible
  · rintro ⟨item, ⟨before, after, rfl, succeeds⟩, fails⟩
    exact mapM_eq_error succeeds fails

/-- Results that are related to their items stand beside them. -/
theorem mapM_forall₂ {ε α β : Type} {relation : β → α → Prop} {make : α → Except ε β}
    {items : List α}
    (succeeds : ∀ item ∈ items, ∃ result, make item = .ok result ∧ relation result item) :
    ∃ results, items.mapM make = .ok results ∧ List.Forall₂ relation results items := by
  induction items with
  | nil => exact ⟨[], rfl, .nil⟩
  | cons item items ih =>
      obtain ⟨result, made, related⟩ := succeeds item List.mem_cons_self
      obtain ⟨results, others, relatedOthers⟩ := ih fun other member =>
        succeeds other (List.mem_cons_of_mem _ member)
      refine ⟨result :: results, ?_, .cons related relatedOthers⟩
      rw [List.mapM_cons, made, others]
      rfl

/-- What calls in sequence give stands beside the items for which they are made. -/
theorem forall₂_of_mapM {ε α β : Type} {make : α → Except ε β} {items : List α} {results : List β}
    (succeeds : items.mapM make = .ok results) :
    List.Forall₂ (fun result item => make item = .ok result) results items := by
  induction items generalizing results with
  | nil =>
      cases succeeds
      exact .nil
  | cons item items ih =>
      rw [List.mapM_cons] at succeeds
      obtain ⟨result, made, succeeds⟩ := of_bind succeeds
      obtain ⟨rest, others, succeeds⟩ := of_bind succeeds
      cases succeeds
      exact .cons made (ih others)

/-!
## Kinds of failure

What can go wrong in a computation that is put together from others is what can go wrong
in one of these.
-/

section

variable {α β : Type} {kind : Error → Prop}

/-- If a computation fails, its error is of a certain kind. -/
def FailsOnly (kind : Error → Prop) (result : Except Error α) : Prop :=
  ∀ problem, result = .error problem → kind problem

namespace FailsOnly

theorem ok (value : α) : FailsOnly kind (.ok value : Except Error α) := nofun

theorem of_eq_ok {result : Except Error α} {value : α} (succeeds : result = .ok value) :
    FailsOnly kind result :=
  succeeds ▸ ok value

theorem error {problem : Error} (suits : kind problem) :
    FailsOnly kind (.error problem : Except Error α) := by
  rintro _ ⟨⟩
  exact suits

theorem bind {result : Except Error α} {next : α → Except Error β}
    (first : FailsOnly kind result)
    (others : ∀ value, result = .ok value → FailsOnly kind (next value)) :
    FailsOnly kind (result >>= next) := by
  cases result with
  | error problem => exact error (first problem rfl)
  | ok value => exact others value rfl

/-- A fault of an elementary operation is passed on as such. -/
theorem mapError {result : Except Fault α}
    (suits : ∀ fault, result = .error fault → kind (.fault fault)) :
    FailsOnly kind (result.mapError Error.fault) := by
  cases result with
  | error fault => exact error (suits fault rfl)
  | ok value => exact ok value

theorem mapM {make : α → Except Error β} {items : List α}
    (fails : ∀ item ∈ items, FailsOnly kind (make item)) : FailsOnly kind (items.mapM make) := by
  induction items with
  | nil => exact ok []
  | cons item items ih =>
      rw [List.mapM_cons]
      refine bind (fails item List.mem_cons_self) fun first _ => ?_
      have remaining := ih fun other member => fails other (List.mem_cons_of_mem _ member)
      exact bind remaining fun rest _ => ok _

theorem mono {wider : Error → Prop} {result : Except Error α} (fails : FailsOnly kind result)
    (widens : ∀ problem, kind problem → wider problem) : FailsOnly wider result :=
  fun problem failed => widens problem (fails problem failed)

end FailsOnly

/-- An error that is no complaint about the configuration. -/
def Error.OffConfiguration (problem : Error) : Prop := problem.isA .configuration = false

/-- An error that is no complaint about the samples. -/
def Error.OffSamples (problem : Error) : Prop := problem.isA .validation = false

/-- An error that complains neither about the configuration nor about the samples. -/
structure Error.OffInput (problem : Error) : Prop where
  offConfiguration : problem.OffConfiguration
  offSamples : problem.OffSamples

/-- What succeeds has a value, whatever stands in for it otherwise. -/
theorem outcome_eq_ok {ε α : Type} {outcome : Except ε α} (fallback : α)
    (succeeds : outcome.toOption.isSome = true) :
    outcome = .ok (outcome.toOption.getD fallback) := by
  cases outcome with
  | ok value => rfl
  | error problem => cases succeeds

/-- The category of the error with which a computation fails. -/
def failureCategory? (result : Except Error α) : Option Category :=
  match result with
  | .ok _ => none
  | .error problem => problem.category?

/-- Only one error concerns the optimisation itself. -/
theorem eq_weightsNotFinite {result : Except Error α}
    (failed : failureCategory? result = some .optimization) :
    result = .error .weightsNotFinite := by
  cases result with
  | ok value => cases failed
  | error problem => cases problem <;> first | rfl | cases failed

theorem of_mapError {ε ε' : Type} {result : Except ε α} {wrap : ε → ε'} {value : α}
    (succeeds : result.mapError wrap = .ok value) : result = .ok value := by
  cases result with
  | error problem => cases succeeds
  | ok other => exact congrArg Except.ok (Except.ok.inj succeeds)

end

end HingeRank
