import Walkthrough.Template.Eval
import Walkthrough.Evaluator

/-!
# The evaluator of the expression language

Expressions see every visible variable of their scope. If an expression misses names in a strict
scope, the first of them in order is reported, whatever else went wrong, except for a function that is
not allowed.
-/

namespace Walkthrough.Template

/-- What an evaluated expression means in a scope: its value, or why it has none. -/
def judge (expression : String) (tolerant : Bool) (result : Except Fault Value)
    (missing : List String) : Except Error Value :=
  match result, missing with
  | .error ⟨.denied f, _⟩, _ => .error (.security expression f)
  | .error fault, name :: _ =>
    if tolerant then .error (.expression (.evaluation expression fault))
    else .error (.expression (.undefined name (some expression)))
  | .error fault, [] => .error (.expression (.evaluation expression fault))
  | .ok v, name :: _ =>
    if tolerant then .ok v else .error (.expression (.undefined name (some expression)))
  | .ok v, [] => .ok v

/-- The value of the text of an expression in a scope. -/
def valueOf (restricted : Bool) (host : Host) (expression : String) (s : Scope) : Answer Value :=
  match Expr.ofString expression with
  | .error fault => ⟨.error (.expression (.reading expression fault)), []⟩
  | .ok e =>
    let env : Environment := ⟨s.visible, s.isTolerant, restricted, host⟩
    let (result, missing) := (Eval.eval env e).run.run []
    ⟨judge expression s.isTolerant result missing, if s.isTolerant then missing else []⟩

/-- A value as JSON. -/
def toJson (v : Value) : Except Error Json :=
  match v.toJson with
  | .ok j => .ok j
  | .error fault => .error (.serialization fault)

/-- The evaluator of the expression language; a restricted one denies the functions that touch the
host. -/
def evaluator (restricted : Bool) (host : Host) : Evaluator where
  evaluate e s :=
    let a := valueOf restricted host e s
    ⟨a.result.bind toJson, a.missing⟩
  condition e s :=
    let a := valueOf restricted host e s
    ⟨a.result.map Value.isTrue, a.missing⟩
  check e := match Expr.ofString e with
    | .ok _ => .ok ()
    | .error fault => .error (.expression (.reading e fault))

end Walkthrough.Template
