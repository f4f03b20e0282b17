import Walkthrough.Template.Evaluator

/-!
# Evaluation in two environments

Evaluations of one expression in two environments are compared by a relation between evaluations. If the
relation holds of every step that looks at no environment, of looking up a name and of calling a value,
and is kept where an evaluation goes on with what another yields (`Congruence`), then it holds of every
expression (`Congruence.eval`): every form of expression only evaluates its parts and goes on with what
they yield.
-/

namespace Walkthrough.Template

variable {α β : Type} {env env' : Environment}

/-! ## Running -/

theorem run_bind_of_ok {x : Eval α} {names names' : List String} {a : α}
    (h : x.run.run names = (.ok a, names')) (f : α → Eval β) :
    (x >>= f).run.run names = (f a).run.run names' := by
  rw [ExceptT.run_bind, StateT.run_bind, h]
  rfl

theorem run_bind_of_error {x : Eval α} {names names' : List String} {fault : Fault}
    (h : x.run.run names = (.error fault, names')) (f : α → Eval β) :
    (x >>= f).run.run names = (.error fault, names') := by
  rw [ExceptT.run_bind, StateT.run_bind, h]
  rfl

theorem orFailAt_bind (line : Nat) (x : Except Cause α) (f : α → Except Cause β) :
    Eval.orFailAt line (x >>= f) = Eval.orFailAt line x >>= fun a => Eval.orFailAt line (f a) := by
  cases x with
  | ok a => rfl
  | error cause => rfl

/-! ## Relations -/

/-- A relation between evaluations in two environments that evaluation cannot leave. -/
structure Congruence (env env' : Environment) (R : ∀ {α : Type}, Eval α → Eval α → Prop) : Prop where
  step : ∀ {α : Type} (line : Nat) (x : Except Cause α),
    R (Eval.orFailAt line x) (Eval.orFailAt line x)
  bind : ∀ {α β : Type} {x y : Eval α} {f g : α → Eval β}, R x y → (∀ a, R (f a) (g a)) →
    R (x >>= f) (y >>= g)
  lookup : ∀ name, R (Eval.lookup env name) (Eval.lookup env' name)
  call : ∀ line v args,
    R (Eval.orFailAt line (Eval.callValue env v args)) (Eval.orFailAt line (Eval.callValue env' v args))

namespace Congruence

open Eval

variable {R : ∀ {α : Type}, Eval α → Eval α → Prop}

theorem pure (h : Congruence env env' R) (a : α) : R (Pure.pure a) (Pure.pure a) :=
  h.step 0 (.ok a)

theorem throw (h : Congruence env env' R) (fault : Fault) :
    R (MonadExcept.throw fault : Eval α) (MonadExcept.throw fault) :=
  h.step fault.line (.error fault.cause)

/-- Arguments are gathered before a value is called. -/
theorem gather (h : Congruence env env' R) (line : Nat) (places names : List (ArgumentKind × Value))
    {f g : List Value → Except Cause Value}
    (hcall : ∀ args, R (orFailAt line (f args)) (orFailAt line (g args))) :
    R (orFailAt line (Eval.gather places names >>= f))
      (orFailAt line (Eval.gather places names >>= g)) := by
  rw [orFailAt_bind, orFailAt_bind]
  exact h.bind (h.step line _) hcall

theorem callMethod (h : Congruence env env' R) (line : Nat) (v : Value) (name : String)
    (args : List Value) :
    R (orFailAt line (Eval.callMethod env v name args))
      (orFailAt line (Eval.callMethod env' v name args)) := by
  unfold Eval.callMethod
  cases v.attribute? name with
  | none => exact h.step line _
  | some m => exact h.call line m args

theorem callNamed (h : Congruence env env' R) (line : Nat) (name : String) (v : Option Value)
    (args : List Value) :
    R (orFailAt line (Eval.callNamed env name v args))
      (orFailAt line (Eval.callNamed env' name v args)) := by
  unfold Eval.callNamed
  split
  · exact h.step line _
  · cases v with
    | none => exact h.step line _
    | some v => exact h.call line v args

/-! ## Expressions -/

mutual

/-- The relation holds of evaluating an expression, whatever it consists of. -/
theorem eval (h : Congruence env env' R) : (e : Expr) → R (Eval.eval env e) (Eval.eval env' e)
  | .name line name => by
    unfold Eval.eval
    exact h.bind (h.lookup name) fun _ => h.pure _
  | .literal line v => by
    unfold Eval.eval
    exact h.pure v
  | .list line items => by
    unfold Eval.eval
    exact h.bind (evalItems h items) fun _ => h.pure _
  | .mapping line entries => by
    unfold Eval.eval
    exact h.bind (evalEntries h entries) fun _ => h.pure _
  | .negation line e => by
    unfold Eval.eval
    exact h.bind (eval h e) fun _ => h.pure _
  | .opposite line e => by
    unfold Eval.eval
    exact h.bind (eval h e) fun _ => h.step _ _
  | .binary line op l r => by
    cases op with
    | or =>
      unfold Eval.eval
      refine h.bind (eval h l) fun a => ?_
      split
      · exact h.pure a
      · exact eval h r
    | and =>
      unfold Eval.eval
      refine h.bind (eval h l) fun a => ?_
      split
      · exact eval h r
      · exact h.pure a
    | _ =>
      unfold Eval.eval
      exact h.bind (eval h l) fun a => h.bind (eval h r) fun b => h.step _ _
  | .comparisons line first others => by
    unfold Eval.eval
    exact h.bind (eval h first) fun a => evalComparisons h a others
  | .conditional line test value otherwise => by
    unfold Eval.eval
    refine h.bind (eval h test) fun t => ?_
    split
    · exact eval h value
    · exact evalOption h .undefined otherwise
  | .filter line name subject args => by
    unfold Eval.eval
    exact h.bind (eval h subject) fun v => h.bind (evalArguments h false args) fun places =>
      h.bind (evalArguments h true args) fun names => h.step _ _
  | .test line name subject args => by
    unfold Eval.eval
    exact h.bind (eval h subject) fun v => h.bind (evalArguments h false args) fun places =>
      h.bind (evalArguments h true args) fun names => h.step _ _
  | .attribute line subject name => by
    unfold Eval.eval
    exact h.bind (eval h subject) fun v => h.step _ _
  | .item line subject index => by
    unfold Eval.eval
    exact h.bind (eval h subject) fun v => h.bind (eval h index) fun i => h.step _ _
  | .slice line subject start stop step => by
    unfold Eval.eval
    exact h.bind (eval h subject) fun v => h.bind (evalOption h .none start) fun a =>
      h.bind (evalOption h .none stop) fun b => h.bind (evalOption h (.int 1) step) fun c => h.step _ _
  | .call line callee args => by
    cases callee with
    | name own name =>
      unfold Eval.eval
      exact h.bind (evalArguments h false args) fun places =>
        h.bind (evalArguments h true args) fun names => h.bind (h.step _ _) fun args' =>
          h.bind (h.lookup name) fun v => h.callNamed _ name v args'
    | «attribute» own subject name =>
      unfold Eval.eval
      split
      · exact h.throw _
      · exact h.bind (eval h subject) fun v => h.bind (evalArguments h false args) fun places =>
          h.bind (evalArguments h true args) fun names =>
            h.gather _ places names fun args' => h.callMethod _ v name args'
    | _ =>
      unfold Eval.eval
      exact h.bind (eval h _) fun v => h.bind (evalArguments h false args) fun places =>
        h.bind (evalArguments h true args) fun names =>
          h.gather _ places names fun args' => h.call _ v args'

/-- It holds of comparing. -/
theorem evalComparisons (h : Congruence env env' R) (a : Value) : (others : List (Comparison × Expr)) →
    R (Eval.evalComparisons env a others) (Eval.evalComparisons env' a others)
  | [] => by
    unfold Eval.evalComparisons
    exact h.pure _
  | [(c, e)] => by
    unfold Eval.evalComparisons
    exact h.bind (eval h e) fun b => h.step _ _
  | (c, e) :: next :: rest => by
    unfold Eval.evalComparisons
    refine h.bind (eval h e) fun b => h.bind (h.step _ _) fun v => ?_
    split
    · exact evalComparisons h b (next :: rest)
    · exact h.pure v

/-- It holds of expressions that may be missing. -/
theorem evalOption (h : Congruence env env' R) (default : Value) : (e : Option Expr) →
    R (Eval.evalOption env default e) (Eval.evalOption env' default e)
  | none => by
    unfold Eval.evalOption
    exact h.pure default
  | some e => by
    unfold Eval.evalOption
    exact eval h e

/-- It holds of items. -/
theorem evalItems (h : Congruence env env' R) : (es : List Expr) →
    R (Eval.evalItems env es) (Eval.evalItems env' es)
  | [] => by
    unfold Eval.evalItems
    exact h.pure []
  | e :: rest => by
    unfold Eval.evalItems
    exact h.bind (eval h e) fun v => h.bind (evalItems h rest) fun vs => h.pure _

/-- It holds of keys and values. -/
theorem evalEntries (h : Congruence env env' R) : (es : List (Expr × Expr)) →
    R (Eval.evalEntries env es) (Eval.evalEntries env' es)
  | [] => by
    unfold Eval.evalEntries
    exact h.pure []
  | (k, v) :: rest => by
    unfold Eval.evalEntries
    exact h.bind (eval h k) fun k => h.bind (eval h v) fun v =>
      h.bind (evalEntries h rest) fun vs => h.pure _

/-- It holds of arguments. -/
theorem evalArguments (h : Congruence env env' R) (byName : Bool) :
    (args : List (ArgumentKind × Expr)) →
    R (Eval.evalArguments env byName args) (Eval.evalArguments env' byName args)
  | [] => by
    unfold Eval.evalArguments
    exact h.pure []
  | (kind, e) :: rest => by
    unfold Eval.evalArguments
    split
    · exact h.bind (eval h e) fun v => h.bind (evalArguments h byName rest) fun vs => h.pure _
    · exact evalArguments h byName rest

end

end Congruence

end Walkthrough.Template
