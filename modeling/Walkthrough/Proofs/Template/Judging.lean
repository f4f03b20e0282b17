import Walkthrough.Proofs.Fallible
import Walkthrough.Template.Evaluator

/-!
# What is said of an expression without a value

If an expression has no value, the error says what is wrong with it or that it calls what is not allowed
(`IsOfExpression`). Whether names have to be known matters only if some are missing, and then there is no
value where they have to.
-/

namespace Walkthrough.Template

/-- An error says what is wrong with an expression, or that it calls what is not allowed. -/
def IsOfExpression : Error → Prop
  | .expression _ | .security _ _ => True
  | _ => False

theorem judge_isOfExpression (expression : String) (tolerant : Bool) (result : Except Fault Value)
    (missing : List String) : FailsWith IsOfExpression (judge expression tolerant result missing) := by
  unfold judge
  repeat' split
  all_goals first
    | exact failsWith_ok _
    | exact failsWith_error trivial

/-- If an expression has no value, then because of what it says. -/
theorem valueOf_isOfExpression (restricted : Bool) (host : Host) (expression : String) (s : Scope) :
    FailsWith IsOfExpression (valueOf restricted host expression s).result := by
  unfold valueOf
  cases Expr.ofString expression with
  | error fault => exact failsWith_error trivial
  | ok e => exact judge_isOfExpression expression _ _ _

end Walkthrough.Template
