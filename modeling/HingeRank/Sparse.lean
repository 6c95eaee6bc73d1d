import HingeRank.Decimal
import HingeRank.Scalar

/-!
# Sparse matrices and rows

Matrices that name some of their positions, the rows that are made of them, and the text
that describes them.
-/

namespace HingeRank.Sparse

/-!
## Sparse matrices as they are handed in

A sparse matrix names some of its positions and gives a value for each naming.
A position may be named several times, the order is free, and a value may be
zero.  Only what is named counts, and namings of one position add up.
-/

/-- How a matrix stores its entries: as triplets in any order, or row by row. -/
inductive Storage where
  | triplets
  | compressedRows
  deriving DecidableEq, Repr

/-- One naming of a position. -/
structure Entry (K : Type) where
  row : Nat
  column : Nat
  value : K

/-- A matrix given by its named positions, all of which lie inside it. -/
structure Matrix (K : Type) where
  rows : Nat
  columns : Nat
  storage : Storage
  entries : List (Entry K)
  inside : ∀ entry ∈ entries, entry.row < rows ∧ entry.column < columns

namespace Matrix

variable {K : Type}

/-- The matrix with the given entries, if all of them lie inside. -/
def ofEntries? (rows columns : Nat) (storage : Storage) (entries : List (Entry K)) :
    Option (Matrix K) :=
  if inside : ∀ entry ∈ entries, entry.row < rows ∧ entry.column < columns then
    some ⟨rows, columns, storage, entries, inside⟩
  else
    none

/-- The matrix with the given rows, columns and values, all of which count from zero. -/
def ofTriplets? (rows columns : Int) (triplets : List (Int × Int × K)) : Option (Matrix K) := do
  let entries ← triplets.mapM fun (row, column, value) => do
    return Entry.mk (← row.toNat?) (← column.toNat?) value
  ofEntries? (← rows.toNat?) (← columns.toNat?) .triplets entries

/-- The matrix stored row by row: row `i` names the columns between the bounds at
`i` and `i + 1`.  The bounds begin at zero and end within the names, of which there are
as many as values. -/
def ofCompressedRows? (rows columns : Int) (bounds names : List Int) (values : List K) :
    Option (Matrix K) := do
  let rows ← rows.toNat?
  let bounds ← bounds.mapM (·.toNat?)
  let names ← names.mapM (·.toNat?)
  let named := names.zip values
  guard (bounds.length = rows + 1 ∧ bounds.head? = some 0 ∧ bounds.getLastD 0 ≤ named.length ∧
    names.length = values.length)
  let entries := (bounds.zip (bounds.drop 1)).zipIdx.flatMap fun ((first, last), row) =>
    ((named.take last).drop first).map fun (column, value) => Entry.mk row column value
  ofEntries? rows (← columns.toNat?) .compressedRows entries

/-- One row as a matrix of its own. -/
def rowAt (matrix : Matrix K) (position : Nat) : Matrix K where
  rows := 1
  columns := matrix.columns
  storage := matrix.storage
  entries := (matrix.entries.filter (·.row == position)).map fun entry => { entry with row := 0 }
  inside := by
    intro entry member
    obtain ⟨source, kept, rfl⟩ := List.mem_map.1 member
    exact ⟨Nat.zero_lt_one, (matrix.inside source (List.mem_filter.1 kept).1).2⟩

/-- The rows from the first to the last. -/
def rowList (matrix : Matrix K) : List (Matrix K) :=
  (List.range matrix.rows).map matrix.rowAt

end Matrix

/-!
## Sparse rows

A sparse row lists columns with their values.  A canonical row lists every
column at most once, in ascending order.  A sort brings the namings of one column
together, and neighbours with the same column are then added up from left to right.
The sort is assumed to be stable, so that namings of one column keep their order.
-/

section

open Scalar

variable {K : Type} [Scalar K]

/-- Columns with their values. -/
abbrev Row (K : Type) := List (Nat × K)

namespace Row

/-- Add up neighbours that name the same column, `column` being the last one
begun and `total` its value so far. -/
def gather (column : Nat) (total : K) : Row K → Row K
  | [] => [(column, total)]
  | (next, value) :: rest =>
      if next = column then gather column (total + value) rest
      else (column, total) :: gather next value rest

/-- Add up neighbours that name the same column. -/
def mergeNeighbours : Row K → Row K
  | [] => []
  | (column, value) :: rest => gather column value rest

/-- Every column once, in ascending order.  A stable sort is assumed.  One that is not, as sorts
of long rows need not be, may bring the namings of one column into another order: the columns
are the same, but the sum of three or more values may be rounded differently, or overflow. -/
def canonical (row : Row K) : Row K :=
  mergeNeighbours (row.mergeSort fun left right => left.1 ≤ right.1)

/-- The nonzero components of a vector with their positions. -/
def ofComponents (components : List K) : Row K :=
  (components.zipIdx.filter fun (value, _) => !same value 0).map fun (value, column) =>
    (column, value)

/-- All values are finite. -/
def allFinite (row : Row K) : Bool := row.all fun (_, value) => isFinite value

/-- The inner product with a vector, over the named columns alone. -/
def dot (weights : List K) (row : Row K) : K :=
  Linear.sum (row.map fun (column, value) => value * Linear.entry weights column)

/-- Add a multiple of the row to a vector, touching the named columns alone. -/
def addTo (target : List K) (factor : K) (row : Row K) : List K :=
  row.foldl (fun target (column, value) => target.modify column (· + value * factor)) target

end Row

end

/-!
## The text of a sparse matrix

A matrix is described by how it is stored, how many entries it has and which shape.
Shown on its own, its entries follow, one on a line; of very many entries the middle
is left out.
-/

/-- The name of a way of storing entries. -/
def Storage.name : Storage → String
  | .triplets => "COOrdinate"
  | .compressedRows => "Compressed Sparse Row"

namespace Matrix

/-- At most this many entries are shown. -/
def mostShown : Nat := 50

/-- Storage, number of entries and shape. -/
def summary (matrix : Matrix Float) : String :=
  "<" ++ matrix.storage.name ++ " sparse matrix of dtype 'float64'\n\twith " ++
    toString matrix.entries.length ++ " stored elements and shape (" ++
    toString matrix.rows ++ ", " ++ toString matrix.columns ++ ")>"

/-- The line of an entry. -/
def entryLine (entry : Entry Float) : String :=
  "\n  (" ++ toString entry.row ++ ", " ++ toString entry.column ++ ")\t" ++
    Decimal.exactText entry.value

/-- The lines of several entries, without the middle if there are too many. -/
def entryLines (entries : List (Entry Float)) : String :=
  let lines (entries : List (Entry Float)) : String := String.join (entries.map entryLine)
  let half := mostShown / 2
  if mostShown < entries.length then
    lines (entries.take half) ++ "\n  :\t:" ++ lines (entries.drop (entries.length - half))
  else lines entries

/-- The summary, followed by the entries if there are any. -/
def text (matrix : Matrix Float) : String :=
  if matrix.entries.isEmpty then matrix.summary
  else matrix.summary ++ "\n  Coords\tValues" ++ entryLines matrix.entries

end Matrix

end HingeRank.Sparse
