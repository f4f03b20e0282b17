import Walkthrough.Scope

/-!
# Evaluators

An evaluator gives expressions their meaning in a scope. Everything else depends on expressions only
through one. The simplest takes an expression for the name of a variable.
-/

namespace Walkthrough

/-- What gives expressions their meaning. -/
structure Evaluator where
  /-- The value of an expression. -/
  evaluate : String → Scope → Answer Json
  /-- Whether an expression holds. -/
  condition : String → Scope → Answer Bool
  /-- Whether a text is an expression at all. -/
  check : String → Except Error Unit

namespace Evaluator

/-- An evaluator whose conditions are the truth of values and to which every text is an
expression. -/
def ofEvaluate (evaluate : String → Scope → Answer Json) : Evaluator where
  evaluate := evaluate
  condition e s :=
    let a := evaluate e s
    ⟨a.result.map Json.isTruthy, a.missing⟩
  check _ := .ok ()

/-- The evaluator for which an expression is the name of a variable. -/
def names : Evaluator := ofEvaluate fun e s => s.resolve e

end Evaluator

end Walkthrough
