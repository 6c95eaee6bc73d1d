import HingeRank.Feature

/-!
# Queries, datasets and samples

Judged vectors of one query, queries with vectors of one dimension, and the samples that
datasets are read from.
-/

namespace HingeRank

/-!
## Ranking queries

A query holds vectors that are relevant to it and vectors that are not.  Every
relevant vector should be ranked above every other one, so the query asks for
one ordering per pair of both kinds.
-/

/-- The judged vectors of one query. -/
structure Query (K : Type) where
  relevant : List (FeatureVector K)
  nonrelevant : List (FeatureVector K)

namespace Query

variable {K : Type}

/-- The number of orderings the query asks for. -/
def pairCount (query : Query K) : Nat := query.relevant.length * query.nonrelevant.length

def hasPairs (query : Query K) : Bool := 0 < query.pairCount

/-- All vectors, the relevant ones first. -/
def vectors (query : Query K) : List (FeatureVector K) := query.relevant ++ query.nonrelevant

end Query

namespace Value

/-- The items that a value delivers when it is run through: the characters of a
text, the numbers of bytes, the keys of a mapping, the rows of a matrix.  Triplets are
in no order from which a row could be taken. -/
def items? : Value → Except Fault (List Value)
  | text content => .ok (content.toList.map fun c => text (String.singleton c))
  | points content => .ok (content.codes.map fun code => ofPoints ⟨[code]⟩)
  | bytes content => .ok (content.map fun byte => int byte.toNat)
  | list items => .ok items
  | tuple items => .ok items
  | set members => .ok members
  | mapping entries => .ok (entries.map (·.1))
  | matrix content =>
      if content.storage = .triplets ∧ content.rows ≠ 0 then .error .wrongType
      else .ok (content.rowList.map matrix)
  | _ => .error .wrongType

end Value

namespace Query

/-- The vectors that the items of a value describe, in order. -/
def vectorsOf? (value : Value) : Except Error (List (FeatureVector Float)) := do
  (← value.items?.mapError .fault).mapM FeatureVector.ofValue?

/-- The query with the given relevant and nonrelevant vectors. -/
def ofValues? (relevant nonrelevant : Value) : Except Error (Query Float) := do
  return ⟨← vectorsOf? relevant, ← vectorsOf? nonrelevant⟩

end Query

/-!
## Ranking datasets

A dataset is a list of queries whose vectors all have one dimension.  The
vectors are examined query by query, relevant ones first; the first vector that
differs from the very first one is reported with the position of its query.
-/

section

variable {K : Type}

/-- Every vector of the queries with the position of its query. -/
def placedVectors (queries : List (Query K)) : List (Nat × FeatureVector K) :=
  queries.zipIdx.flatMap fun (query, position) => query.vectors.map fun vector => (position, vector)

/-- The dimension of all vectors, if there are any. -/
def commonDimension? (queries : List (Query K)) : Except Error (Option Nat) :=
  match placedVectors queries with
  | [] => .ok none
  | (_, first) :: rest =>
      match rest.find? fun (_, vector) => vector.dimension != first.dimension with
      | none => .ok (some first.dimension)
      | some (position, vector) =>
          .error (.dimensionMismatch (.int first.dimension) vector.dimension
            ("query " ++ toString position))

/-- Queries whose vectors share one dimension. -/
structure Dataset (K : Type) where
  queries : List (Query K)
  /-- The shared dimension; a dataset without vectors has none. -/
  dimension : Option Nat
  agreement : commonDimension? queries = .ok dimension

namespace Dataset

/-- The dataset of the given queries, in their order. -/
def ofQueries? (queries : List (Query K)) : Except Error (Dataset K) :=
  match agreement : commonDimension? queries with
  | .ok dimension => .ok ⟨queries, dimension, agreement⟩
  | .error problem => .error problem

def size (dataset : Dataset K) : Nat := dataset.queries.length

/-- The number of orderings that all queries ask for together. -/
def pairCount (dataset : Dataset K) : Nat :=
  (dataset.queries.map (·.pairCount)).foldr (· + ·) 0

def isRankingProblem (dataset : Dataset K) : Bool := 0 < dataset.pairCount

/-- The queries that ask for at least one ordering. -/
def rankingQueries (dataset : Dataset K) : List (Query K) :=
  dataset.queries.filter (·.hasPairs)

/-- A one-line description. -/
def describe (dataset : Dataset K) : String :=
  "RankingDataset(queries=" ++ toString dataset.size ++ ", pairs=" ++
    toString dataset.pairCount ++ ", dimension=" ++
    dataset.dimension.elim "None" toString ++ ")"

end Dataset

end

/-!
## Samples

Samples come as a dataset, as a single query, as a sequence of queries, as a
stream that can be run through once, or as some other value.  All entry points
turn them into a dataset in the same way.
-/

/-- An entry of a sequence of samples. -/
inductive SampleEntry (K : Type) where
  | query (content : Query K)
  | other (content : Value)

/-- Something that may describe a dataset. -/
inductive Samples (K : Type) where
  | dataset (content : Dataset K)
  | query (content : Query K)
  | sequence (entries : List (SampleEntry K))
  | stream (entries : List (SampleEntry K))
  | other (content : Value)

namespace Samples

variable {K : Type}

/-- The queries of a sequence whose first entry stands at `position`. -/
def queriesFrom? (position : Nat) : List (SampleEntry K) → Except Error (List (Query K))
  | [] => .ok []
  | .query content :: rest => do return content :: (← queriesFrom? (position + 1) rest)
  | .other content :: _ => .error (.notAQuery position content.typeName)

/-- The dataset of a sequence of queries. -/
def datasetOfEntries? (entries : List (SampleEntry K)) : Except Error (Dataset K) := do
  Dataset.ofQueries? (← queriesFrom? 0 entries)

/-- The entries of a value that can be run through; texts and bytes do not count. -/
def entriesOfValue? (value : Value) : Except Error (List (SampleEntry K)) :=
  match value with
  | .text _ | .points _ | .bytes _ => .error (.notADataset value.typeName)
  | value =>
      match value.items?, value with
      | .ok items, _ => .ok (items.map .other)
      | .error fault, .matrix _ => .error (.fault fault)
      | .error _, value => .error (.notADataset value.typeName)

/-- The dataset that samples describe. -/
def toDataset? : Samples K → Except Error (Dataset K)
  | dataset content => .ok content
  | query content => Dataset.ofQueries? [content]
  | sequence entries => datasetOfEntries? entries
  | stream entries => datasetOfEntries? entries
  | other content => do datasetOfEntries? (← entriesOfValue? content)

/-- What is left of samples once they have been run through. -/
def afterReading : Samples K → Samples K
  | stream _ => stream []
  | samples => samples

/-- The number of orderings that samples ask for. -/
def pairCount? (samples : Samples K) : Except Error Nat := do
  return (← samples.toDataset?).pairCount

/-- Samples form a ranking problem if they are valid and ask for some ordering.
Errors other than invalid samples are passed on. -/
def isRankingProblem? (samples : Samples K) : Except Error Bool :=
  match samples.toDataset? with
  | .ok content => .ok content.isRankingProblem
  | .error problem => if problem.isA .validation then .ok false else .error problem

/-- The dataset that samples describe, refused when there is nothing to order. -/
def toRankingProblem? (samples : Samples K) (purpose : Purpose) : Except Error (Dataset K) := do
  let content ← samples.toDataset?
  if content.isRankingProblem then return content else throw (.noPairs purpose)

end Samples

end HingeRank
