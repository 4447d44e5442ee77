import Extremum.Decimal.Digits
import Extremum.Decimal.ExactSum
import Extremum.Decimal.Reading
import Extremum.Decimal.Text
import Extremum.Evaluator.Nonlinear
import Extremum.Evaluator.Unified
import Extremum.Event
import Extremum.Expr.Basic
import Extremum.Expr.Evaluation
import Extremum.Expr.OfFunction
import Extremum.Expr.Resolution
import Extremum.Fault
import Extremum.Grid.Basic
import Extremum.Grid.Reading
import Extremum.Model.Basic
import Extremum.Model.Region
import Extremum.Model.ScalarFunction
import Extremum.Model.Store
import Extremum.Numeric.Cache
import Extremum.Numeric.Dialogue
import Extremum.Numeric.Method
import Extremum.Numeric.Options
import Extremum.Numeric.Outcome
import Extremum.Numeric.Provider
import Extremum.Numeric.Request
import Extremum.Numeric.Solve
import Extremum.Optimizer.Basic
import Extremum.Optimizer.Solve
import Extremum.Options.Kind
import Extremum.Options.Schema
import Extremum.Plugin.Registry
import Extremum.Problem.Assembly
import Extremum.Problem.Basic
import Extremum.Problem.Bounds
import Extremum.Problem.Categories
import Extremum.Problem.Checking
import Extremum.Problem.Features
import Extremum.Problem.Limits
import Extremum.Problem.Normalized
import Extremum.Problem.PositionTable
import Extremum.Problem.Positions
import Extremum.Problem.Rows
import Extremum.Solution.Snapshot
import Extremum.Solution.Status
import Extremum.Solver.Settings
import Extremum.Text.Blank
import Extremum.Text.Casing
import Extremum.Text.Composition
import Extremum.Text.DecimalDigit
import Extremum.Text.Direction
import Extremum.Text.Joining
import Extremum.Text.Lowercase
import Extremum.Text.Normal
import Extremum.Text.Quoted
import Extremum.Text.Visible
import Extremum.Value.Basic
import Extremum.Value.Coerce
import Extremum.Value.Issue
import Extremum.Value.Record
import Extremum.Web.Address
import Extremum.Web.Domain
import Extremum.Web.Punycode
import Extremum.Proofs.Model.Edit
import Extremum.Proofs.Model.History
import Extremum.Proofs.Model.Store
import Extremum.Proofs.Model.WellFormed
import Extremum.Proofs.Number.Order
import Extremum.Proofs.Numeric.Freshness
import Extremum.Proofs.Numeric.Provider
import Extremum.Proofs.Numeric.Solve
import Extremum.Proofs.Numeric.Verdict
import Extremum.Proofs.Optimizer.Agreement
import Extremum.Proofs.Optimizer.Edit
import Extremum.Proofs.Optimizer.Failure
import Extremum.Proofs.Optimizer.Session
import Extremum.Proofs.Problem.FeasibleSet
import Extremum.Proofs.Problem.Values
import Extremum.Proofs.Evaluator.Answers
import Extremum.Proofs.Evaluator.Record
import Extremum.Proofs.Problem.Enumeration
import Extremum.Proofs.Problem.Objective
import Extremum.Proofs.Expr.Renaming
import Extremum.Proofs.Problem.Renaming
import Extremum.Proofs.Optimizer.Conduct
import Extremum.Proofs.Model.Numbering
import Extremum.Proofs.Expr.Compilation
import Extremum.Proofs.Expr.Evaluation
import Extremum.Proofs.Expr.Resolution
import Extremum.Proofs.Numeric.Report
import Extremum.Proofs.Optimizer.Interference
import Extremum.Proofs.Expr.Arithmetic
import Extremum.Proofs.Expr.Placement
import Extremum.Proofs.Expr.Polynomial
import Extremum.Proofs.Numeric.Features
import Extremum.Proofs.Numeric.Refusal
import Extremum.Proofs.Grid.Stretch
import Extremum.Proofs.Number.Magnitude
import Extremum.Proofs.Numeric.Request
import Extremum.Proofs.Grid.Reading
import Extremum.Proofs.Problem.Acceptance
import Extremum.Proofs.Model.Deletion
import Extremum.Proofs.Problem.Agreement
import Extremum.Proofs.Number.Sign
import Extremum.Proofs.Numeric.Course
import Extremum.Proofs.Numeric.Negation
import Extremum.Proofs.Plugin.Registration
import Extremum.Proofs.Text.Lowercase
import Extremum.Proofs.Plugin.Case
import Extremum.Proofs.Options.Reading
import Extremum.Proofs.Numeric.Options
import Extremum.Proofs.Numeric.Inquiry
import Extremum.Proofs.Optimizer.Inquiry
import Extremum.Proofs.Text.Parts
import Extremum.Proofs.Plugin.Qualified
import Extremum.Proofs.Numeric.Selection
import Extremum.Proofs.Numeric.Categories
import Extremum.Proofs.Optimizer.Restart
