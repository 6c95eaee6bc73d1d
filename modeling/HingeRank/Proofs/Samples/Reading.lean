import Mathlib
import HingeRank.Dataset
import HingeRank.Proofs.Exact.Sequence

/-!
# Reading samples

When queries have one dimension, and what samples describe.
-/

namespace HingeRank

/-!
## The dimension of queries

Queries form a dataset exactly if all their vectors have one dimension.  Only the vectors are
looked at: a query without vectors agrees with all others, and one that asks for no ordering
may disagree like any other.  A dataset that asks for some ordering has vectors, so that its
dimension is known.
-/

section

variable {K : Type} {queries : List (Query K)} {dimension : Nat}

/-- All vectors of the queries have this dimension. -/
def HaveDimension (queries : List (Query K)) (dimension : Nat) : Prop :=
  ∀ query ∈ queries, ∀ vector ∈ query.vectors, vector.dimension = dimension

/-- Every vector of a query is placed somewhere. -/
theorem mem_placedVectors {query : Query K} (member : query ∈ queries)
    {vector : FeatureVector K} (vectorMem : vector ∈ query.vectors) :
    ∃ position, (position, vector) ∈ placedVectors queries := by
  obtain ⟨position, inBounds, rfl⟩ := List.mem_iff_getElem.mp member
  refine ⟨position, List.mem_flatMap.mpr ⟨(queries[position], position), ?_, ?_⟩⟩
  · exact List.mem_zipIdx_iff_getElem?.mpr (List.getElem?_eq_getElem inBounds)
  · exact List.mem_map.mpr ⟨vector, vectorMem, rfl⟩

/-- Queries have a dimension if all placed vectors have it. -/
theorem haveDimension_iff :
    HaveDimension queries dimension ↔
      ∀ placed ∈ placedVectors queries, placed.2.dimension = dimension := by
  constructor
  · intro same placed member
    obtain ⟨⟨query, position⟩, queryMem, vectorMem⟩ := List.mem_flatMap.mp member
    obtain ⟨vector, found, rfl⟩ := List.mem_map.mp vectorMem
    exact same query (List.fst_mem_of_mem_zipIdx queryMem) vector found
  · intro same query member vector vectorMem
    obtain ⟨position, placed⟩ := mem_placedVectors member vectorMem
    exact same _ placed

/-- The common dimension of vectors of one dimension is found, if there are any. -/
theorem HaveDimension.commonDimension?_eq (same : HaveDimension queries dimension) :
    ∃ known, commonDimension? queries = .ok known ∧
      ∀ other, known = some other → other = dimension := by
  rw [haveDimension_iff] at same
  unfold commonDimension?
  cases found : placedVectors queries with
  | nil => exact ⟨none, rfl, nofun⟩
  | cons placed rest =>
      rw [found] at same
      have firstSame := same placed List.mem_cons_self
      have none : (rest.find? fun other => other.2.dimension != placed.2.dimension) = none := by
        apply List.find?_eq_none.mpr
        intro other member
        simp [firstSame, same other (List.mem_cons_of_mem _ member)]
      refine ⟨some placed.2.dimension, ?_, ?_⟩
      · simp only [none]
      · intro other equal
        exact (Option.some.inj equal).symm.trans firstSame

/-- A common dimension is the one that all vectors have. -/
theorem haveDimension_of_commonDimension? {known : Option Nat}
    (agreement : commonDimension? queries = .ok known) :
    HaveDimension queries (known.getD 0) := by
  rw [haveDimension_iff]
  unfold commonDimension? at agreement
  split at agreement
  next none =>
    rw [none]
    nofun
  next first rest found =>
    rw [found]
    split at agreement
    next agrees =>
      rw [← Except.ok.inj agreement]
      intro placed member
      rcases List.mem_cons.mp member with rfl | later
      · rfl
      · have same := List.find?_eq_none.mp agrees _ later
        simpa using same
    next => cases agreement

/-- Only a vector of another dimension keeps queries from forming a dataset. -/
theorem mismatch_of_commonDimension? {problem : Error}
    (failed : commonDimension? queries = .error problem) :
    ∃ expected actual place, problem = .dimensionMismatch expected actual place := by
  unfold commonDimension? at failed
  split at failed
  next => cases failed
  next =>
    split at failed
    next => cases failed
    next =>
      cases failed
      exact ⟨_, _, _, rfl⟩

/-- A query asks for no ordering if vectors of one kind are missing. -/
@[simp] theorem Query.pairCount_eq_zero_iff {query : Query K} :
    query.pairCount = 0 ↔ query.relevant = [] ∨ query.nonrelevant = [] := by
  rw [pairCount, Nat.mul_eq_zero, List.length_eq_zero_iff, List.length_eq_zero_iff]

/-- A query asks for some ordering if it has vectors of both kinds. -/
@[simp] theorem Query.hasPairs_eq_true_iff {query : Query K} :
    query.hasPairs = true ↔ query.relevant ≠ [] ∧ query.nonrelevant ≠ [] := by
  rw [hasPairs, decide_eq_true_iff, Nat.pos_iff_ne_zero, ne_eq, pairCount_eq_zero_iff, not_or]

namespace Dataset

variable {dataset : Dataset K}

theorem haveDimension (dataset : Dataset K) :
    HaveDimension dataset.queries (dataset.dimension.getD 0) :=
  haveDimension_of_commonDimension? dataset.agreement

@[simp] theorem ofQueries?_queries (dataset : Dataset K) :
    ofQueries? dataset.queries = .ok dataset := by
  unfold ofQueries?
  split
  next dimension found =>
    have same := Except.ok.inj (found.symm.trans dataset.agreement)
    subst same
    rfl
  next problem found => cases found.symm.trans dataset.agreement

/-- Queries whose vectors have one dimension form a dataset. -/
theorem ofQueries?_of_haveDimension (same : HaveDimension queries dimension) :
    ∃ dataset, ofQueries? queries = .ok dataset ∧ dataset.queries = queries ∧
      ∀ other, dataset.dimension = some other → other = dimension := by
  obtain ⟨known, agreement, only⟩ := same.commonDimension?_eq
  refine ⟨⟨queries, known, agreement⟩, ?_, rfl, only⟩
  unfold ofQueries?
  split
  next dimension found =>
    cases found.symm.trans agreement
    rfl
  next problem found => cases found.symm.trans agreement

theorem queries_of_ofQueries? (built : ofQueries? queries = .ok dataset) :
    dataset.queries = queries := by
  unfold ofQueries? at built
  split at built
  next =>
    cases built
    rfl
  next => cases built

theorem mismatch_of_ofQueries? {problem : Error} (failed : ofQueries? queries = .error problem) :
    ∃ expected actual place, problem = .dimensionMismatch expected actual place := by
  unfold ofQueries? at failed
  split at failed
  next => cases failed
  next found =>
    cases failed
    exact mismatch_of_commonDimension? found

/-- Exactly the datasets whose queries all lack pairs ask for no ordering. -/
theorem isRankingProblem_eq_false_iff :
    dataset.isRankingProblem = false ↔ ∀ query ∈ dataset.queries, query.pairCount = 0 := by
  rw [isRankingProblem, decide_eq_false_iff_not, Nat.pos_iff_ne_zero, not_not, pairCount,
    ← List.sum_eq_foldr, List.sum_eq_zero_iff]
  simp

/-- A dataset asks for some ordering if one of its queries does. -/
theorem isRankingProblem_eq_true_iff : dataset.isRankingProblem = true ↔
    ∃ query ∈ dataset.queries, query.relevant ≠ [] ∧ query.nonrelevant ≠ [] := by
  rw [← Bool.not_eq_false, isRankingProblem_eq_false_iff]
  simp only [Query.pairCount_eq_zero_iff, not_forall, not_or, exists_prop, ne_eq]

/-- Only queries without vectors leave the dimension open. -/
theorem placedVectors_eq_nil (unknown : dataset.dimension = none) :
    placedVectors dataset.queries = [] := by
  have agreement := dataset.agreement
  rw [unknown] at agreement
  unfold commonDimension? at agreement
  split at agreement
  next none => exact none
  next first rest found => split at agreement <;> cases agreement

/-- A dataset that asks for some ordering knows its dimension. -/
theorem exists_dimension (isProblem : dataset.isRankingProblem = true) :
    ∃ dimension, dataset.dimension = some dimension := by
  cases known : dataset.dimension with
  | some dimension => exact ⟨dimension, rfl⟩
  | none =>
      obtain ⟨query, queryMem, someRelevant, -⟩ := isRankingProblem_eq_true_iff.mp isProblem
      obtain ⟨vector, relevant⟩ := List.exists_mem_of_ne_nil _ someRelevant
      obtain ⟨position, placed⟩ := mem_placedVectors queryMem (List.mem_append_left _ relevant)
      rw [placedVectors_eq_nil known] at placed
      cases placed

end Dataset

end

/-!
## What samples describe

Samples pose a ranking problem if they list queries and nothing else, all vectors of the
queries have one dimension, and some query has vectors of both kinds.  These conditions are
stated for the samples as they are given.  Reading samples decides them in this order, and
the error tells which of them fails first.
-/

section

variable {K : Type}

/-- Texts and bytes can be run through, but what they deliver is never meant as samples. -/
def Value.IsTextual : Value → Prop
  | .text _ | .points _ | .bytes _ => True
  | _ => False

namespace Samples

variable {samples : Samples K} {queries : List (Query K)} {dataset : Dataset K}

/-- Samples list queries and nothing else.  Of other values only those without items do. -/
inductive Lists : Samples K → List (Query K) → Prop where
  | dataset (content : Dataset K) : Lists (.dataset content) content.queries
  | query (content : Query K) : Lists (.query content) [content]
  | sequence (queries : List (Query K)) : Lists (.sequence (queries.map .query)) queries
  | stream (queries : List (Query K)) : Lists (.stream (queries.map .query)) queries
  | empty {value : Value} (notTextual : ¬ value.IsTextual) (none : value.items? = .ok []) :
      Lists (.other value) []

/-- The samples list queries of one dimension. -/
def AreAligned (samples : Samples K) (queries : List (Query K)) : Prop :=
  samples.Lists queries ∧ ∃ dimension, HaveDimension queries dimension

/-- The samples are aligned, and some query has vectors of both kinds. -/
def PoseProblem (samples : Samples K) : Prop :=
  ∃ queries, samples.AreAligned queries ∧
    ∃ query ∈ queries, query.relevant ≠ [] ∧ query.nonrelevant ≠ []

/-- Nothing but a query with vectors of both kinds is missing. -/
def OnlyLackPairs (samples : Samples K) : Prop :=
  ∃ queries, samples.AreAligned queries ∧
    ∀ query ∈ queries, query.relevant = [] ∨ query.nonrelevant = []

/-- Triplets have rows, but these cannot be run through. -/
def AreLegible : Samples K → Prop
  | .other (.matrix content) => content.storage = .triplets → content.rows = 0
  | _ => True

/-! ### Sequences -/

@[simp] theorem queriesFrom?_map_query (queries : List (Query K)) (position : Nat) :
    queriesFrom? position (queries.map SampleEntry.query) = .ok queries := by
  induction queries generalizing position with
  | nil => rfl
  | cons query queries ih =>
      simp [queriesFrom?, ih]

/-- A sequence is refused because of an entry that is no query. -/
theorem queriesFrom?_cases (position : Nat) (entries : List (SampleEntry K)) :
    (∃ queries : List (Query K), entries = queries.map SampleEntry.query) ∨
      ∃ place typeName, queriesFrom? position entries = .error (.notAQuery place typeName) := by
  induction entries generalizing position with
  | nil => exact .inl ⟨[], rfl⟩
  | cons entry rest ih =>
      cases entry with
      | query content =>
          rcases ih (position + 1) with ⟨queries, rfl⟩ | ⟨place, typeName, refused⟩
          · exact .inl ⟨content :: queries, rfl⟩
          · refine .inr ⟨place, typeName, ?_⟩
            simp only [queriesFrom?, refused, error_bind]
      | other content => exact .inr ⟨position, content.typeName, rfl⟩

@[simp] theorem datasetOfEntries?_map_query (queries : List (Query K)) :
    datasetOfEntries? (queries.map SampleEntry.query) = Dataset.ofQueries? queries := by
  simp only [datasetOfEntries?, queriesFrom?_map_query, ok_bind]

/-! ### Samples -/

theorem Lists.toDataset?_eq (lists : samples.Lists queries) :
    samples.toDataset? = Dataset.ofQueries? queries := by
  cases lists with
  | dataset content => exact content.ofQueries?_queries.symm
  | query content => rfl
  | sequence queries => exact datasetOfEntries?_map_query queries
  | stream queries => exact datasetOfEntries?_map_query queries
  | @empty value notTextual none =>
      have entries : entriesOfValue? (K := K) value = .ok [] := by
        unfold entriesOfValue?
        split
        case h_4 => simp only [none, List.map_nil]
        all_goals exact absurd trivial notTextual
      simp only [toDataset?, entries, ok_bind]
      exact datasetOfEntries?_map_query []

/-- A refusal for a reason other than the lack of a pair. -/
def Malformed (problem : Error) : Prop :=
  problem.isA .validation = true ∧ problem.isA .rankingProblem = false

/-- Sequences that are refused are malformed. -/
theorem datasetOfEntries?_cases (entries : List (SampleEntry K)) :
    (∃ queries : List (Query K), entries = queries.map SampleEntry.query) ∨
      ∃ problem, datasetOfEntries? entries = .error problem ∧ Malformed problem := by
  rcases queriesFrom?_cases 0 entries with listed | ⟨place, typeName, refused⟩
  · exact .inl listed
  · refine .inr ⟨.notAQuery place typeName, ?_, rfl, rfl⟩
    simp only [datasetOfEntries?, refused, error_bind]

/-- Other values deliver their items as entries, or are refused because of their type. -/
theorem entriesOfValue?_cases {value : Value} (legible : (other value : Samples K).AreLegible) :
    (¬ value.IsTextual ∧ ∃ items, value.items? = .ok items ∧
      entriesOfValue? (K := K) value = .ok (items.map .other)) ∨
    entriesOfValue? (K := K) value = .error (.notADataset value.typeName) := by
  cases value with
  | list items | tuple items | set items => exact .inl ⟨id, items, rfl, rfl⟩
  | mapping entries => exact .inl ⟨id, entries.map (·.1), rfl, rfl⟩
  | matrix content =>
      have delivered : (Value.matrix content).items? = .ok (content.rowList.map .matrix) := by
        have readable : ¬(content.storage = .triplets ∧ content.rows ≠ 0) :=
          fun unreadable => unreadable.2 (legible unreadable.1)
        rw [Value.items?, if_neg readable]
      refine .inl ⟨id, _, delivered, ?_⟩
      simp only [entriesOfValue?, delivered]
  | null | bool flag | int number | float number | text content | points content | bytes content
  | date day | moment time | endless kind => exact .inr rfl

/-- Samples list queries, or are refused as malformed. -/
theorem exists_lists_or_malformed (legible : samples.AreLegible) :
    (∃ queries, samples.Lists queries) ∨
      ∃ problem, samples.toDataset? = .error problem ∧ Malformed problem := by
  cases samples with
  | dataset content => exact .inl ⟨_, .dataset content⟩
  | query content => exact .inl ⟨_, .query content⟩
  | sequence entries =>
      rcases datasetOfEntries?_cases entries with ⟨queries, rfl⟩ | refused
      · exact .inl ⟨_, .sequence queries⟩
      · exact .inr refused
  | stream entries =>
      rcases datasetOfEntries?_cases entries with ⟨queries, rfl⟩ | refused
      · exact .inl ⟨_, .stream queries⟩
      · exact .inr refused
  | other value =>
      rcases entriesOfValue?_cases legible with ⟨notTextual, items, delivered, entries⟩ | refused
      · cases items with
        | nil => exact .inl ⟨[], .empty notTextual delivered⟩
        | cons item items =>
            refine .inr ⟨.notAQuery 0 item.typeName, ?_, rfl, rfl⟩
            simp [toDataset?, entries, datasetOfEntries?, queriesFrom?]
      · refine .inr ⟨.notADataset value.typeName, ?_, rfl, rfl⟩
        simp only [toDataset?, refused, error_bind]

/-- Samples are read as the queries that they list, or refused as malformed. -/
theorem toDataset?_cases (legible : samples.AreLegible) :
    (∃ dataset, samples.toDataset? = .ok dataset ∧ samples.AreAligned dataset.queries) ∨
      ∃ problem, samples.toDataset? = .error problem ∧ Malformed problem := by
  rcases exists_lists_or_malformed legible with ⟨queries, lists⟩ | refused
  · rw [lists.toDataset?_eq]
    cases built : Dataset.ofQueries? queries with
    | ok dataset =>
        refine .inl ⟨dataset, rfl, ?_, _, dataset.haveDimension⟩
        rw [Dataset.queries_of_ofQueries? built]
        exact lists
    | error problem =>
        obtain ⟨expected, actual, place, rfl⟩ := Dataset.mismatch_of_ofQueries? built
        exact .inr ⟨_, rfl, rfl, rfl⟩
  · exact .inr refused

/-- Aligned queries are read. -/
theorem AreAligned.toDataset?_eq (aligned : samples.AreAligned queries) :
    ∃ dataset, samples.toDataset? = .ok dataset ∧ dataset.queries = queries := by
  obtain ⟨lists, dimension, same⟩ := aligned
  obtain ⟨dataset, built, queries_eq, -⟩ := Dataset.ofQueries?_of_haveDimension same
  exact ⟨dataset, lists.toDataset?_eq.trans built, queries_eq⟩

/-! ### Ranking problems -/

theorem PoseProblem.toDataset?_eq (poses : samples.PoseProblem) :
    ∃ dataset, samples.toDataset? = .ok dataset ∧ dataset.isRankingProblem = true := by
  obtain ⟨queries, aligned, pair⟩ := poses
  obtain ⟨dataset, read, rfl⟩ := aligned.toDataset?_eq
  exact ⟨dataset, read, Dataset.isRankingProblem_eq_true_iff.mpr pair⟩

theorem OnlyLackPairs.toDataset?_eq (lack : samples.OnlyLackPairs) :
    ∃ dataset, samples.toDataset? = .ok dataset ∧ dataset.isRankingProblem = false := by
  obtain ⟨queries, aligned, none⟩ := lack
  obtain ⟨dataset, read, rfl⟩ := aligned.toDataset?_eq
  refine ⟨dataset, read, Dataset.isRankingProblem_eq_false_iff.mpr ?_⟩
  intro query member
  exact Query.pairCount_eq_zero_iff.mpr (none query member)

/-- How samples are read: as a ranking problem, without any pair, or not at all. -/
inductive Reading (samples : Samples K) : Prop where
  | problem (dataset : Dataset K) (read : samples.toDataset? = .ok dataset)
      (ranking : dataset.isRankingProblem = true) (poses : samples.PoseProblem) :
      Reading samples
  | pairless (dataset : Dataset K) (read : samples.toDataset? = .ok dataset)
      (unranked : dataset.isRankingProblem = false) (lack : samples.OnlyLackPairs) :
      Reading samples
  | refused (problem : Error) (failed : samples.toDataset? = .error problem)
      (malformed : Malformed problem) : Reading samples

theorem reading (legible : samples.AreLegible) : samples.Reading := by
  rcases toDataset?_cases legible with ⟨dataset, read, aligned⟩ | ⟨problem, failed, malformed⟩
  · cases ranking : dataset.isRankingProblem with
    | true =>
        exact .problem dataset read ranking
          ⟨_, aligned, Dataset.isRankingProblem_eq_true_iff.mp ranking⟩
    | false =>
        refine .pairless dataset read ranking ⟨_, aligned, ?_⟩
        intro query member
        have count := Dataset.isRankingProblem_eq_false_iff.mp ranking query member
        exact Query.pairCount_eq_zero_iff.mp count
  · exact .refused problem failed malformed

/-- Whether samples pose a ranking problem is always answered. -/
theorem isRankingProblem?_eq (legible : samples.AreLegible) :
    ∃ answer, samples.isRankingProblem? = .ok answer ∧
      (answer = true ↔ samples.PoseProblem) := by
  unfold isRankingProblem?
  cases reading legible with
  | problem dataset read ranking poses =>
      rw [read]
      exact ⟨_, rfl, iff_of_true ranking poses⟩
  | pairless dataset read unranked lack =>
      rw [read]
      refine ⟨_, rfl, ?_⟩
      rw [unranked]
      refine iff_of_false Bool.false_ne_true ?_
      intro poses
      obtain ⟨other, reread, ranking⟩ := poses.toDataset?_eq
      cases read.symm.trans reread
      cases unranked.symm.trans ranking
  | refused problem failed malformed =>
      simp only [failed, malformed.1, if_true]
      refine ⟨_, rfl, iff_of_false Bool.false_ne_true ?_⟩
      intro poses
      obtain ⟨dataset, read, -⟩ := poses.toDataset?_eq
      cases failed.symm.trans read

/-- The result is an error that says what is wrong with the samples. -/
def IsRefusal {α : Type} (samples : Samples K) (result : Except Error α) : Prop :=
  ∃ problem, result = .error problem ∧ problem.isA .validation = true ∧
    (problem.isA .rankingProblem = true ↔ samples.OnlyLackPairs)

/-- A dataset that has been read is accepted if it asks for some ordering. -/
theorem toRankingProblem?_of_read (read : samples.toDataset? = .ok dataset) (purpose : Purpose) :
    samples.toRankingProblem? purpose =
      if dataset.isRankingProblem then .ok dataset else .error (.noPairs purpose) := by
  rw [toRankingProblem?, read]
  rfl

theorem toRankingProblem?_of_failed {problem : Error}
    (failed : samples.toDataset? = .error problem) (purpose : Purpose) :
    samples.toRankingProblem? purpose = .error problem := by
  rw [toRankingProblem?, failed]
  rfl

/-- Samples that pose a ranking problem are accepted for any purpose. -/
theorem PoseProblem.toRankingProblem?_eq (poses : samples.PoseProblem) (purpose : Purpose) :
    ∃ dataset, samples.toRankingProblem? purpose = .ok dataset ∧
      dataset.isRankingProblem = true := by
  obtain ⟨dataset, read, ranking⟩ := poses.toDataset?_eq
  refine ⟨dataset, ?_, ranking⟩
  rw [toRankingProblem?_of_read read, if_pos ranking]

/-- The queries of a dataset that is accepted are those that the samples list. -/
theorem aligned_of_toRankingProblem? (legible : samples.AreLegible) {purpose : Purpose}
    (accepted : samples.toRankingProblem? purpose = .ok dataset) :
    samples.AreAligned dataset.queries := by
  rcases toDataset?_cases legible with ⟨other, read, aligned⟩ | ⟨problem, failed, -⟩
  · rw [toRankingProblem?_of_read read] at accepted
    split at accepted
    next =>
      cases accepted
      exact aligned
    next => cases accepted
  · rw [toRankingProblem?_of_failed failed] at accepted
    cases accepted

/-- All other samples are refused for any purpose. -/
theorem toRankingProblem?_isRefusal (legible : samples.AreLegible)
    (poseNone : ¬ samples.PoseProblem) (purpose : Purpose) :
    samples.IsRefusal (samples.toRankingProblem? purpose) := by
  cases reading legible with
  | problem dataset read ranking poses => exact absurd poses poseNone
  | pairless dataset read unranked lack =>
      refine ⟨.noPairs purpose, ?_, rfl, iff_of_true rfl lack⟩
      rw [toRankingProblem?_of_read read, unranked]
      rfl
  | refused problem failed malformed =>
      refine ⟨problem, toRankingProblem?_of_failed failed purpose, malformed.1, ?_⟩
      rw [malformed.2]
      refine iff_of_false Bool.false_ne_true ?_
      intro lack
      obtain ⟨dataset, read, -⟩ := lack.toDataset?_eq
      cases failed.symm.trans read

end Samples

end

end HingeRank
