import Mathlib
import HingeRank.Proofs.Evaluation.Measures
import HingeRank.Proofs.Feature.Accepted
import HingeRank.Proofs.Ranking.PairMeans

/-!
# Contents of vectors

Risk, scores and judgements depend on the components of the vectors alone, in whatever form
these are given.
-/

namespace HingeRank

/-!
## Datasets with the same contents

The contents of a dataset are the components of its vectors, query by query.  Nothing else about
the vectors matters: two datasets with the same contents have the same oracle, whatever the margin
and the workers, and every model is judged alike on both.
-/

section

open Linear

/-- The components of the relevant vectors and of the others. -/
def Query.contents (query : Query ℚ) : List (List ℚ) × List (List ℚ) :=
  (query.relevant.map (·.components), query.nonrelevant.map (·.components))

namespace Dataset

variable {dataset other : Dataset ℚ}

/-- The contents of all queries. -/
def contents (dataset : Dataset ℚ) : List (List (List ℚ) × List (List ℚ)) :=
  dataset.queries.map (·.contents)

/-! ### What contents decide -/

/-- The dimension is that of the first vector. -/
theorem dimension_eq (dataset : Dataset ℚ) : dataset.dimension =
    (dataset.queries.flatMap (·.vectors)).head?.map (·.dimension) := by
  have placed : (placedVectors dataset.queries).map (·.2) =
      dataset.queries.flatMap (·.vectors) := by
    rw [placedVectors, List.map_flatMap]
    simp only [List.map_map, Function.comp_def, List.map_id']
    conv_rhs => rw [← List.zipIdx_map_fst 0 dataset.queries, List.flatMap_map]
  have agreement := dataset.agreement
  rw [← placed]
  unfold commonDimension? at agreement
  split at agreement
  next none =>
    rw [none, ← Except.ok.inj agreement]
    rfl
  next position first rest found =>
    rw [found]
    split at agreement
    next => exact (Except.ok.inj agreement).symm
    next => cases agreement

theorem dimension_eq_contents (dataset : Dataset ℚ) : dataset.dimension =
    (dataset.contents.flatMap fun query => query.1 ++ query.2).head?.map (·.length) := by
  have listed : dataset.contents.flatMap (fun query => query.1 ++ query.2) =
      (dataset.queries.flatMap (·.vectors)).map (·.components) := by
    rw [contents, List.flatMap_map, List.map_flatMap]
    simp only [Query.contents, Query.vectors, List.map_append]
  rw [dimension_eq, listed, List.head?_map, Option.map_map]
  simp only [Function.comp_def, FeatureVector.length_components]

theorem pairCount_eq_contents (dataset : Dataset ℚ) : dataset.pairCount =
    (dataset.contents.map fun query => query.1.length * query.2.length).foldr (· + ·) 0 := by
  rw [pairCount, contents, List.map_map]
  simp only [Function.comp_def, Query.contents, Query.pairCount, List.length_map]

theorem pairMean_eq_contents (dataset : Dataset ℚ) (quantity : List ℚ → List ℚ → ℚ) :
    dataset.pairMean quantity =
      (dataset.contents.map fun query =>
        (query.1.map fun relevant => (query.2.map fun nonrelevant =>
          quantity relevant nonrelevant).sum).sum).sum /
      (dataset.contents.map fun query => (query.1.length : ℚ) * (query.2.length : ℚ)).sum := by
  simp only [pairMean, contents, List.map_map, Function.comp_def, Query.contents, List.length_map]

/-! ### Losses -/

theorem width_eq_of_contents (same : other.contents = dataset.contents) :
    other.width = dataset.width := by
  rw [width, width, dimension_eq_contents, dimension_eq_contents, same]

theorem pairMean_eq_of_contents (same : other.contents = dataset.contents)
    (quantity : List ℚ → List ℚ → ℚ) : other.pairMean quantity = dataset.pairMean quantity := by
  rw [pairMean_eq_contents, pairMean_eq_contents, same]

/-- A loss consists of means over pairs. -/
theorem pairOracle_eq_of_contents (same : other.contents = dataset.contents) (margin : ℚ) :
    other.pairOracle margin = dataset.pairOracle margin := by
  have width_eq := width_eq_of_contents same
  have answers (weights : List ℚ) (fits : weights.length = dataset.width) :
      other.risk margin weights = dataset.risk margin weights ∧
        other.slopeOf (other.missed margin weights) =
          dataset.slopeOf (dataset.missed margin weights) := by
    have fitsOther := fits.trans width_eq.symm
    constructor
    · rw [risk_eq_pairMean fits, risk_eq_pairMean fitsOther, pairMean_eq_of_contents same]
    · rw [slopeOf_missed_eq fits, slopeOf_missed_eq fitsOther, width_eq]
      simp only [pairMean_eq_of_contents same]
  simp only [pairOracle, width_eq, LossOracle.mk.injEq, true_and]
  funext weights evaluations
  by_cases fits : weights.length = dataset.width
  · obtain ⟨risks, slopes⟩ := answers weights fits
    rw [if_pos fits, if_pos fits, risks, slopes]
  · rw [if_neg fits, if_neg fits]

end Dataset

/-! ### Judgements -/

namespace Model

variable {model : Model ℚ} {query : Query ℚ} {dataset other : Dataset ℚ}

/-- What components contribute to a judgement. -/
def tallyOfContents (model : Model ℚ) (contents : List (List ℚ) × List (List ℚ)) : Tally ℚ :=
  let relevant := contents.1.map (dot · model.weights)
  let nonrelevant := contents.2.map (dot · model.weights)
  { correctPairs := Metrics.correctPairs relevant nonrelevant
    totalPairs := contents.1.length * contents.2.length
    precisionSum := Metrics.averagePrecision relevant nonrelevant
    judgedQueries := if contents.1.isEmpty then 0 else 1 }

/-- Vectors of the model's dimension are scored by their components. -/
theorem map_dot_eq {vectors : List (FeatureVector ℚ)}
    (fits : ∀ vector ∈ vectors, vector.dimension = model.dimension) :
    vectors.map (·.dot model.weights) = (vectors.map (·.components)).map (dot · model.weights) := by
  rw [List.map_map]
  exact List.map_congr_left fun vector member =>
    (vector.dot_components (fits vector member).symm).symm

theorem tallyOf_eq_contents (fits : ∀ vector ∈ query.vectors, vector.dimension = model.dimension) :
    model.tallyOf query = model.tallyOfContents query.contents := by
  have relevant := map_dot_eq fun vector member =>
    fits vector (List.mem_append_left query.nonrelevant member)
  have nonrelevant := map_dot_eq fun vector member =>
    fits vector (List.mem_append_right query.relevant member)
  rw [tallyOf, ← Query.correctPairs_scores, relevant, nonrelevant]
  simp only [tallyOfContents, Query.contents, Query.pairCount, List.length_map, List.isEmpty_map]

theorem evaluate?_eq_contents (isProblem : dataset.isRankingProblem = true)
    (known : dataset.dimension = some model.dimension) : model.evaluate? (.dataset dataset) =
      .ok (Tally.total (dataset.contents.map model.tallyOfContents)).summary := by
  have fits : model.Fits dataset := fun dimension found => Option.some.inj (found.symm.trans known)
  have width_eq : dataset.width = model.dimension := by rw [Dataset.width, known, Option.getD_some]
  have tallies : dataset.queries.map model.tallyOf =
      dataset.contents.map model.tallyOfContents := by
    rw [Dataset.contents, List.map_map]
    exact List.map_congr_left fun query member => tallyOf_eq_contents fun vector vectorMem =>
      (Dataset.dimension_eq_width member vectorMem).trans width_eq
  rw [evaluate?_eq rfl isProblem fits, tallies]

/-- A judgement looks at nothing but contents. -/
theorem evaluate?_eq_of_contents (same : other.contents = dataset.contents) (model : Model ℚ) :
    model.evaluate? (.dataset other) = model.evaluate? (.dataset dataset) := by
  have counts : other.pairCount = dataset.pairCount := by
    rw [Dataset.pairCount_eq_contents, Dataset.pairCount_eq_contents, same]
  have problems : other.isRankingProblem = dataset.isRankingProblem := by
    rw [Dataset.isRankingProblem, Dataset.isRankingProblem, counts]
  have dimensions : other.dimension = dataset.dimension := by
    rw [Dataset.dimension_eq_contents, Dataset.dimension_eq_contents, same]
  cases isProblem : dataset.isRankingProblem with
  | false =>
      have none : dataset.pairCount = 0 := Nat.eq_zero_of_not_pos (of_decide_eq_false isProblem)
      rw [evaluate?_of_noPairs rfl (counts.trans none), evaluate?_of_noPairs rfl none]
  | true =>
      have known := Dataset.dimension_eq_some isProblem
      by_cases fits : dataset.width = model.dimension
      · rw [fits] at known
        rw [evaluate?_eq_contents (problems.trans isProblem) (dimensions.trans known),
          evaluate?_eq_contents isProblem known, same]
      · rw [evaluate?_of_mismatch rfl (problems.trans isProblem) (dimensions.trans known) fits,
          evaluate?_of_mismatch rfl isProblem known fits]

end Model

/-!
## Representations of the same vectors

Vectors of one dimension may be given in any mix of forms.  With exact arithmetic they are all
accepted and can be stacked, and products with the stack are those with the components that the
forms give.  Queries in different forms with the same components therefore have the same oracle,
the same scores and the same judgements.
-/

/-! ### Products of single vectors -/

theorem FeatureVector.dot?_vector {K : Type} [Scalar K] {vector : FeatureVector K}
    {weights : List K} (fits : weights.length = vector.dimension) :
    vector.dot? (.vector weights) = .ok (vector.dot weights) := by
  cases vector with
  | dense components => exact Tensor.inner?_vector fits
  | sparse dimension row => exact if_pos fits

/-! ### Stacks of forms -/

section Stacks

variable {dimension : Nat} {forms : List (FeatureForm ℚ)} {vectors : List (FeatureVector ℚ)}
  {stack : FeatureStack ℚ}

/-- Vectors and their stack compute with the components that forms give. -/
structure Computes (dimension : Nat) (forms : List (FeatureForm ℚ))
    (vectors : List (FeatureVector ℚ)) (stack : FeatureStack ℚ) : Prop where
  accepted : forms.mapM FeatureVector.ofForm? = .ok vectors
  stacked : FeatureStack.ofVectors? vectors = .ok stack
  scores_eq : ∀ weights : List ℚ, weights.length = dimension →
    stack.scores? (.vector weights) = .ok (forms.map fun form =>
      ∑ position ∈ Finset.range dimension, entry weights position * form.component position)
  dot_eq : ∀ weights : List ℚ, weights.length = dimension →
    vectors.mapM (·.dot? (.vector weights)) = .ok (forms.map fun form =>
      ∑ position ∈ Finset.range dimension, entry weights position * form.component position)
  score_eq : ∀ weights : List ℚ, weights.length = dimension →
    vectors.mapM (Model.mk weights).score? = .ok (forms.map fun form =>
      ∑ position ∈ Finset.range dimension, entry weights position * form.component position)
  weightedSum_eq : ∀ coefficients : List ℚ, coefficients.length = forms.length →
    stack.weightedSum? (.vector coefficients) =
      .ok ((List.range dimension).map fun position =>
        (List.zipWith (fun coefficient form => coefficient * form.component position)
          coefficients forms).sum)

/-- The vectors that forms describe. -/
def vectorsOf (dimension : Nat) (forms : List (FeatureForm ℚ)) : List (FeatureVector ℚ) :=
  forms.map (·.vector dimension)

theorem mapM_ofForm? (fit : ∀ form ∈ forms, form.IsVector dimension) :
    forms.mapM FeatureVector.ofForm? = .ok (vectorsOf dimension forms) :=
  mapM_eq_pure fun form member => FeatureForm.ofForm?_vector (fit form member)

theorem dimension_of_mem_vectorsOf (fit : ∀ form ∈ forms, form.IsVector dimension) :
    ∀ vector ∈ vectorsOf dimension forms, vector.dimension = dimension := by
  intro vector member
  obtain ⟨form, formMem, rfl⟩ := List.mem_map.mp member
  exact FeatureForm.dimension_vector (fit form formMem)

theorem map_components_vectorsOf (fit : ∀ form ∈ forms, form.IsVector dimension) :
    (vectorsOf dimension forms).map (·.components) = forms.map (·.contents dimension) := by
  rw [vectorsOf, List.map_map]
  exact List.map_congr_left fun form member => FeatureForm.components_vector (fit form member)

theorem map_dot_vectorsOf (fit : ∀ form ∈ forms, form.IsVector dimension) (weights : List ℚ) :
    (vectorsOf dimension forms).map (·.dot weights) = forms.map (·.product dimension weights) := by
  rw [vectorsOf, List.map_map]
  exact List.map_congr_left fun form member => FeatureForm.dot_vector (fit form member) weights

/-- An inner product with a unit vector is a component. -/
theorem FeatureForm.product_unit {position : Nat} (inBounds : position < dimension)
    (form : FeatureForm ℚ) : form.product dimension (unit dimension position) =
      form.component position := by
  have product_eq := form.product_eq_dot (unit dimension position)
  rw [length_unit] at product_eq
  have inContents : position < (form.contents dimension).length := by
    rwa [contents, List.length_map, List.length_range]
  rw [product_eq, dot_unit inBounds, entry_eq_getElem inContents]
  simp [contents]

/-- A weighted sum of vectors is one of their components. -/
theorem weightedSum_eq_map (fit : ∀ form ∈ forms, form.IsVector dimension)
    (holds : stack.Holds dimension (vectorsOf dimension forms)) (coefficients : List ℚ) :
    stack.weightedSum coefficients = (List.range dimension).map fun position =>
      (List.zipWith (fun coefficient form => coefficient * form.component position)
        coefficients forms).sum := by
  have length_eq := holds.length_weightedSum coefficients
  apply List.ext_getElem
  · rw [length_eq, List.length_map, List.length_range]
  · intro position inSum _
    have inBounds : position < dimension := length_eq ▸ inSum
    have products := map_dot_vectorsOf fit (unit dimension position)
    simp only [FeatureForm.product_unit inBounds] at products
    rw [← entry_eq_getElem inSum, ← dot_unit inBounds,
      holds.dot_weightedSum coefficients (length_unit _ _), products, List.getElem_map,
      List.getElem_range, dot, sum_eq, List.zipWith_map_right]

/-- Forms of one dimension are stacked and compute with what they give. -/
theorem exists_computes (some : forms ≠ []) (fit : ∀ form ∈ forms, form.IsVector dimension) :
    ∃ vectors stack, Computes dimension forms vectors stack := by
  have same := dimension_of_mem_vectorsOf fit
  have nonempty : vectorsOf dimension forms ≠ [] := by simpa [vectorsOf] using some
  obtain ⟨stack, stacked, holds⟩ := FeatureStack.ofVectors?_holds nonempty same
  have shape : stack.HasShape forms.length dimension := by
    obtain ⟨shaped, restacked, shape⟩ := FeatureStack.ofVectors?_hasShape nonempty same
    cases stacked.symm.trans restacked
    rwa [vectorsOf, List.length_map] at shape
  refine ⟨vectorsOf dimension forms, stack, mapM_ofForm? fit, stacked, ?_, ?_, ?_, ?_⟩
  · intro weights fits
    rw [shape.scores?_eq fits, holds.scores_eq, map_dot_vectorsOf fit]
    rfl
  · intro weights fits
    have products : (vectorsOf dimension forms).mapM (·.dot? (.vector weights)) =
        .ok ((vectorsOf dimension forms).map (·.dot weights)) :=
      mapM_eq_pure fun vector member =>
        FeatureVector.dot?_vector (fits.trans (same vector member).symm)
    rw [products, map_dot_vectorsOf fit]
    rfl
  · intro weights fits
    have scored : (vectorsOf dimension forms).mapM (Model.mk weights).score? =
        .ok ((vectorsOf dimension forms).map (·.dot weights)) :=
      mapM_eq_pure fun vector member =>
        Model.score?_eq ((same vector member).trans fits.symm)
    rw [scored, map_dot_vectorsOf fit]
    rfl
  · intro coefficients fits
    rw [shape.weightedSum?_eq fits, weightedSum_eq_map fit holds]

end Stacks

/-! ### Queries of forms -/

/-- The vectors of a query in the forms in which they are given. -/
structure QueryForm where
  relevant : List (FeatureForm ℚ)
  nonrelevant : List (FeatureForm ℚ)

namespace QueryForm

/-- All forms, those of relevant vectors first. -/
def forms (query : QueryForm) : List (FeatureForm ℚ) := query.relevant ++ query.nonrelevant

/-- The query that forms describe. -/
def read? (query : QueryForm) : Except Error (Query ℚ) := do
  return ⟨← query.relevant.mapM FeatureVector.ofForm?,
    ← query.nonrelevant.mapM FeatureVector.ofForm?⟩

/-- The components that are given for the relevant vectors and for the others. -/
def contents (dimension : Nat) (query : QueryForm) : List (List ℚ) × List (List ℚ) :=
  (query.relevant.map (·.contents dimension), query.nonrelevant.map (·.contents dimension))

variable {dimension : Nat} {query : QueryForm}

/-- The query of the vectors that forms describe. -/
def normalised (dimension : Nat) (query : QueryForm) : Query ℚ :=
  ⟨vectorsOf dimension query.relevant, vectorsOf dimension query.nonrelevant⟩

theorem read?_eq (fit : ∀ form ∈ query.forms, form.IsVector dimension) :
    query.read? = .ok (query.normalised dimension) := by
  obtain ⟨relevant, nonrelevant⟩ := List.forall_mem_append.mp fit
  rw [read?, mapM_ofForm? relevant, mapM_ofForm? nonrelevant]
  rfl

theorem contents_normalised (fit : ∀ form ∈ query.forms, form.IsVector dimension) :
    (query.normalised dimension).contents = query.contents dimension := by
  obtain ⟨relevant, nonrelevant⟩ := List.forall_mem_append.mp fit
  rw [Query.contents, normalised, map_components_vectorsOf relevant,
    map_components_vectorsOf nonrelevant]
  rfl

end QueryForm

/-- The dataset of queries in the forms in which they are given. -/
def Dataset.ofForms? (queries : List QueryForm) : Except Error (Dataset ℚ) := do
  Dataset.ofQueries? (← queries.mapM QueryForm.read?)

variable {dimension : Nat} {queries : List QueryForm}

theorem Dataset.exists_ofForms? (fit : ∀ query ∈ queries, ∀ form ∈ query.forms,
    form.IsVector dimension) : ∃ dataset, Dataset.ofForms? queries = .ok dataset ∧
      dataset.contents = queries.map (·.contents dimension) := by
  have read : queries.mapM QueryForm.read? = .ok (queries.map (·.normalised dimension)) :=
    mapM_eq_pure fun query member => QueryForm.read?_eq (fit query member)
  have agree : Agree dimension (queries.map (·.normalised dimension)) := by
    intro query member vector vectorMem
    obtain ⟨given, givenMem, rfl⟩ := List.mem_map.mp member
    obtain ⟨relevant, nonrelevant⟩ := List.forall_mem_append.mp (fit given givenMem)
    rcases List.mem_append.mp vectorMem with isRelevant | isNonrelevant
    · exact dimension_of_mem_vectorsOf relevant vector isRelevant
    · exact dimension_of_mem_vectorsOf nonrelevant vector isNonrelevant
  obtain ⟨dataset, made, queries_eq, -⟩ := agree.ofQueries?_eq
  refine ⟨dataset, ?_, ?_⟩
  · rw [ofForms?, read]
    exact made
  · rw [contents, queries_eq, List.map_map]
    exact List.map_congr_left fun query member => QueryForm.contents_normalised (fit query member)

/-- Two datasets have the same oracles, and models are judged alike on both. -/
structure JudgedAlike (dataset other : Dataset ℚ) : Prop where
  oracle_eq : ∀ (margin : ℚ) (workers : Int), ∃ loss otherLoss,
    RankingLoss.ofDataset? dataset margin (.whole workers) = .ok loss ∧
      RankingLoss.ofDataset? other margin (.whole workers) = .ok otherLoss ∧
        otherLoss.oracle = loss.oracle
  evaluate_eq : ∀ model : Model ℚ,
    model.evaluate? (.dataset other) = model.evaluate? (.dataset dataset)

theorem Dataset.judgedAlike {dataset other : Dataset ℚ} (same : other.contents = dataset.contents) :
    JudgedAlike dataset other where
  oracle_eq := by
    intro margin workers
    obtain ⟨loss, made⟩ := RankingLoss.ofDataset?_whole dataset margin workers
    obtain ⟨otherLoss, otherMade⟩ := RankingLoss.ofDataset?_whole other margin workers
    refine ⟨loss, otherLoss, made, otherMade, ?_⟩
    rw [(RankingLoss.ofDataset?_averages made).oracle_eq,
      (RankingLoss.ofDataset?_averages otherMade).oracle_eq, pairOracle_eq_of_contents same]
  evaluate_eq := Model.evaluate?_eq_of_contents same

/-! ### Forms do not matter -/

/-- What does not depend on the forms in which vectors of a dimension are given. -/
structure FormFree (dimension : Nat) : Prop where
  computes : ∀ forms : List (FeatureForm ℚ), forms ≠ [] →
    (∀ form ∈ forms, form.IsVector dimension) →
      ∃ vectors stack, Computes dimension forms vectors stack
  judged : ∀ queries others : List QueryForm,
    (∀ query ∈ queries, ∀ form ∈ query.forms, form.IsVector dimension) →
    (∀ query ∈ others, ∀ form ∈ query.forms, form.IsVector dimension) →
    others.map (·.contents dimension) = queries.map (·.contents dimension) →
      ∃ dataset other, Dataset.ofForms? queries = .ok dataset ∧
        Dataset.ofForms? others = .ok other ∧ JudgedAlike dataset other

/-- **Representations are interchangeable**: products, oracles, scores and judgements depend on
the components that are given and on nothing else. -/
theorem representations_interchangeable (dimension : Nat) : FormFree dimension where
  computes := fun _ some fit => exists_computes some fit
  judged := by
    intro queries others fit otherFit same
    obtain ⟨dataset, made, contents_eq⟩ := Dataset.exists_ofForms? fit
    obtain ⟨other, otherMade, otherContents_eq⟩ := Dataset.exists_ofForms? otherFit
    refine ⟨dataset, other, made, otherMade, Dataset.judgedAlike ?_⟩
    rw [contents_eq, otherContents_eq, same]

section Example

/-- A row that names its last column twice and gives a zero for another one. -/
def exampleRow : Sparse.Matrix ℚ where
  rows := 1
  columns := 3
  storage := .compressedRows
  entries := [⟨0, 2, 1⟩, ⟨0, 0, 3⟩, ⟨0, 2, 1 / 2⟩, ⟨0, 1, 0⟩]
  inside := by simp

/-- A column whose values for one row cancel. -/
def exampleColumn : Sparse.Matrix ℚ where
  rows := 3
  columns := 1
  storage := .triplets
  entries := [⟨2, 0, 4⟩, ⟨0, 0, 1⟩, ⟨2, 0, -4⟩]
  inside := by simp

/-- Four vectors in four forms. -/
def exampleForms : List (FeatureForm ℚ) :=
  [.array (.vector [1, 0, -2]), .array ⟨[1, 3], [0, 5, 0]⟩, .matrix exampleRow,
    .matrix exampleColumn]

theorem exampleForms_fit : ∀ form ∈ exampleForms, form.IsVector 3 := by
  simp only [exampleForms, List.forall_mem_cons]
  refine ⟨?_, ?_, ?_, ?_, nofun⟩
  · exact @FeatureForm.IsVector.list ℚ (.vector [1, 0, -2]) 3 rfl
  · exact @FeatureForm.IsVector.singleRow ℚ ⟨[1, 3], [0, 5, 0]⟩ 3 rfl
  · exact @FeatureForm.IsVector.row ℚ exampleRow rfl
  · exact @FeatureForm.IsVector.column ℚ exampleColumn rfl

/-- The last two forms as a query. -/
def exampleQuery : QueryForm := ⟨[.matrix exampleRow], [.matrix exampleColumn]⟩

theorem exampleQuery_fits : ∀ form ∈ exampleQuery.forms, form.IsVector 3 := by
  simp only [exampleQuery, QueryForm.forms, List.cons_append, List.nil_append,
    List.forall_mem_cons]
  refine ⟨?_, ?_, nofun⟩
  · exact @FeatureForm.IsVector.row ℚ exampleRow rfl
  · exact @FeatureForm.IsVector.column ℚ exampleColumn rfl

/-- The same components in lists. -/
def exampleLists : QueryForm :=
  ⟨[.array (.vector [3, 0, 3 / 2])], [.array (.vector [1, 0, 0])]⟩

theorem exampleLists_fits : ∀ form ∈ exampleLists.forms, form.IsVector 3 := by
  simp only [exampleLists, QueryForm.forms, List.cons_append, List.nil_append,
    List.forall_mem_cons]
  refine ⟨?_, ?_, nofun⟩
  · exact @FeatureForm.IsVector.list ℚ (.vector [3, 0, 3 / 2]) 3 rfl
  · exact @FeatureForm.IsVector.list ℚ (.vector [1, 0, 0]) 3 rfl

theorem representations_interchangeable_mixed :
    (∃ vectors stack, exampleForms.mapM FeatureVector.ofForm? = .ok vectors ∧
      FeatureStack.ofVectors? vectors = .ok stack ∧
      stack.scores? (.vector [1, 2, 4]) = .ok [-7, 10, 9, 1] ∧
      stack.weightedSum? (.vector [1, 1, 2, 0]) = .ok [7, 5, 1]) ∧
    ∃ dataset other, Dataset.ofForms? [exampleQuery] = .ok dataset ∧
      Dataset.ofForms? [exampleLists] = .ok other ∧ JudgedAlike dataset other := by
  have formFree := representations_interchangeable 3
  have some : exampleForms ≠ [] := List.cons_ne_nil _ _
  obtain ⟨vectors, stack, computes⟩ := formFree.computes exampleForms some exampleForms_fit
  have judged := formFree.judged [exampleQuery] [exampleLists]
    (List.forall_mem_singleton.mpr exampleQuery_fits)
    (List.forall_mem_singleton.mpr exampleLists_fits) (by decide +kernel)
  refine ⟨⟨vectors, stack, computes.accepted, computes.stacked, ?_, ?_⟩, judged⟩
  · rw [computes.scores_eq _ rfl]
    congr 1
    decide +kernel
  · rw [computes.weightedSum_eq _ rfl]
    congr 1
    decide +kernel

end Example

end

end HingeRank
