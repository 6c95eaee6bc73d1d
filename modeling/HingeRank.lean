import HingeRank.Text
import HingeRank.Calendar
import HingeRank.Decimal
import HingeRank.Scalar
import HingeRank.Sparse
import HingeRank.Value
import HingeRank.Error
import HingeRank.Tensor
import HingeRank.Value.Conversion
import HingeRank.Feature
import HingeRank.Dataset
import HingeRank.Dataset.Access
import HingeRank.Document.Cursor
import HingeRank.Document.Scalar
import HingeRank.Document.Tag
import HingeRank.Document.Lexer
import HingeRank.Document.Schema
import HingeRank.Document.Node
import HingeRank.Document.Assembly
import HingeRank.Dual
import HingeRank.Dual.Arrays
import HingeRank.Loss.MaxAffine
import HingeRank.Loss.Ranking
import HingeRank.Metrics.Arrays
import HingeRank.Evaluation
import HingeRank.Loss.Scripted
import HingeRank.Notice
import HingeRank.Planes.Arrays
import HingeRank.Optimizer
import HingeRank.Settings
import HingeRank.Trainer
import HingeRank.Settings.File
import HingeRank.Proofs.Exact.Lengths
import HingeRank.Proofs.Exact.Linear
import HingeRank.Proofs.Dual.BestStep
import HingeRank.Proofs.Exact.Selection
import HingeRank.Proofs.Dual.Climb
import HingeRank.Proofs.Dual.Nonnegative
import HingeRank.Proofs.Dual.Simplex
import HingeRank.Proofs.Dual.Termination
import HingeRank.Proofs.Exact.Sequence
import HingeRank.Proofs.Loss
import HingeRank.Proofs.Feature.Stacks
import HingeRank.Proofs.Samples.Reading
import HingeRank.Proofs.Ranking.Fit
import HingeRank.Proofs.Ranking.Inversions
import HingeRank.Proofs.Ranking.Pairs
import HingeRank.Proofs.Ranking.Risk
import HingeRank.Proofs.Evaluation.Accuracy
import HingeRank.Proofs.Evaluation.AveragePrecision
import HingeRank.Proofs.Evaluation.Folds
import HingeRank.Proofs.Evaluation.CrossValidation
import HingeRank.Proofs.Evaluation.Measures
import HingeRank.Proofs.Exact.Double
import HingeRank.Proofs.Feature.Given
import HingeRank.Proofs.Feature.Accepted
import HingeRank.Proofs.Feature.Malformed
import HingeRank.Proofs.Planes.Shape
import HingeRank.Proofs.Optimizer.Failures
import HingeRank.Proofs.Planes.Duality
import HingeRank.Proofs.Planes.Ledger
import HingeRank.Proofs.Optimizer.Step
import HingeRank.Proofs.Optimizer.Certificate
import HingeRank.Proofs.Optimizer.Run
import HingeRank.Proofs.Optimizer.Convergence
import HingeRank.Proofs.Optimizer.Depth
import HingeRank.Proofs.Optimizer.Eviction
import HingeRank.Proofs.Planes.Falling
import HingeRank.Proofs.Optimizer.Ascent
import HingeRank.Proofs.Optimizer.Interruption
import HingeRank.Proofs.Optimizer.Report
import HingeRank.Proofs.Ranking.FanOut
import HingeRank.Proofs.Ranking.PairMeans
import HingeRank.Proofs.Ranking.Representation
import HingeRank.Proofs.Safety.Ascent
import HingeRank.Proofs.Safety.Arena
import HingeRank.Proofs.Safety.Nonnegative
import HingeRank.Proofs.Safety.Run
import HingeRank.Proofs.Settings.Sections
import HingeRank.Proofs.Trainer.Calls
import HingeRank.Proofs.Trainer.LastWritten
import HingeRank.Proofs.Trainer.Validity
import HingeRank.Proofs.Samples.EntryPoints
import HingeRank.Proofs.Samples.Parts
import HingeRank.Proofs.Settings.Ranges
import HingeRank.Proofs.Settings.Strays
import HingeRank.Proofs.Settings.Acceptance
import HingeRank.Proofs.Training.Guarantee
import HingeRank.Proofs.Training.Presentation
import HingeRank.Proofs.Training.Risk
