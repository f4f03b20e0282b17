import Walkthrough.Proofs.Engine.Errors
import Walkthrough.Proofs.RequestMaker.Causes
import Walkthrough.Proofs.Template.Judging

/-!
# What evaluating and making requests raise

The evaluator of the expression language raises what is wrong with an expression and nothing else
(`Error.OfValue`), and the maker of requests raises besides this only the faults that are found when a
request is made (`Error.OfWeb`, `raised_of_template`).
-/

namespace Walkthrough

open Engine (Setup Raises)

/-- An error that an expression has instead of a value. -/
inductive Error.OfValue : Error → Prop
  | expression (fault) : OfValue (.expression fault)
  | security (expression function) : OfValue (.security expression function)
  | serialization (fault) : OfValue (.serialization fault)

theorem Error.OfValue.of_expression {e : Error} (h : Template.IsOfExpression e) : e.OfValue := by
  cases e with
  | expression fault => exact .expression fault
  | security x f => exact .security x f
  | _ => exact absurd h id

/-- An error that a request of the web has instead of being made. -/
inductive Error.OfWeb : Error → Prop
  | value {e} : e.OfValue → OfWeb e
  | configuration {fault} : fault.OfRequest → OfWeb (.configuration fault)

namespace Template

variable {restricted : Bool} {host : Host}

theorem valueOf_fails (x : String) (s : Scope) :
    FailsWith Error.OfValue (valueOf restricted host x s).result := fun _ he =>
  .of_expression (valueOf_isOfExpression restricted host x s _ he)

theorem evaluator_value_fails (x : String) (s : Scope) :
    FailsWith Error.OfValue ((evaluator restricted host).value x s) := by
  refine (valueOf_fails x s).bind fun v => ?_
  unfold toJson
  split
  · exact failsWith_ok _
  · exact failsWith_error (.serialization _)

theorem evaluator_holds_fails (x : String) (s : Scope) :
    FailsWith Error.OfValue ((evaluator restricted host).holds x s) :=
  (valueOf_fails x s).map _

/-- What is raised where expressions are those of the expression language and requests are those of the
web. -/
theorem raised_of_template {S : Setup Request Response} {m : RequestMaker}
    (hevaluator : S.evaluator = evaluator restricted host) (hconverter : S.converter = m.converter)
    {e : Error} (h : Raises S e) : e.OfWeb := by
  cases h with
  | value hvalue =>
    rw [hevaluator] at hvalue
    exact .value (evaluator_value_fails _ _ _ hvalue)
  | holds hholds =>
    rw [hevaluator] at hholds
    exact .value (evaluator_holds_fails _ _ _ hholds)
  | @convert s scope previous hconvert =>
    rw [hevaluator, hconverter] at hconvert
    have hadmits : RequestMaker.Admits Error.OfWeb (evaluator restricted host) scope
        s.action.requestExpressions :=
      ⟨fun _ hfault => .configuration hfault,
        fun x _ e hvalue => .value (evaluator_value_fails x scope e hvalue)⟩
    exact RequestMaker.request_failsWith m s previous hadmits e hconvert

end Template

end Walkthrough
