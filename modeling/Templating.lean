import Templating.Abort
import Templating.Binding
import Templating.Document.Classify
import Templating.Document.Walk
import Templating.Eval.Access
import Templating.Eval.Builtin
import Templating.Eval.Error
import Templating.Eval.Evaluate
import Templating.Eval.Operator
import Templating.Expr.Basic
import Templating.Expr.Parse
import Templating.Expr.Surface
import Templating.Expr.Token
import Templating.Formula
import Templating.Json.Read
import Templating.Json.Write
import Templating.Number.Arith
import Templating.Number.Binary64
import Templating.Number.FloatText
import Templating.Number.IntText
import Templating.Number.Reading
import Templating.Number.Shortest
import Templating.Proofs.Acceptance
import Templating.Proofs.BindingStates
import Templating.Proofs.BraceMatching
import Templating.Proofs.ConstantFormula
import Templating.Proofs.Containment
import Templating.Proofs.ErrorSelection
import Templating.Proofs.ExactOrder
import Templating.Proofs.FloatReading
import Templating.Proofs.Grammar
import Templating.Proofs.IntegerArithmetic
import Templating.Proofs.IntegerRounding
import Templating.Proofs.Interpolation
import Templating.Proofs.JsonEquality
import Templating.Proofs.JsonReading
import Templating.Proofs.JsonText
import Templating.Proofs.Lexing
import Templating.Proofs.RelaxedIndex
import Templating.Proofs.RoundTrip
import Templating.Proofs.RoundingInterval
import Templating.Proofs.ShortestDigits
import Templating.Proofs.Skeleton
import Templating.Proofs.SplitJoin
import Templating.Proofs.TreeForm
import Templating.Proofs.Walk
import Templating.Text.Basic
import Templating.Text.Blank
import Templating.Text.Case
import Templating.Text.Cased
import Templating.Text.Digit
import Templating.Text.LowerTable
import Templating.Text.Printable
import Templating.Text.Quoted
import Templating.Text.UpperTable
import Templating.Value.Attribute
import Templating.Value.Basic
import Templating.Value.Equality
import Templating.Value.Show
import Templating.Value.Tree
