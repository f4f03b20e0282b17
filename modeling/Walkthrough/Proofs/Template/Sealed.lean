import Walkthrough.Proofs.Engine.Errors
import Walkthrough.Proofs.Template.Congruence
import Walkthrough.Validation

/-!
# Expressions that cannot touch the host

A restricted evaluator denies the functions that touch the host. Evaluation in two environments that
differ in their hosts and in what they allow is compared step by step: where the first environment
denies, either both do the same (`Agrees`), or the first is denied a function that the second may call.

* `callBuiltin_agreed` — the only place where environments are told apart
* `congruence_agrees` — so evaluation agrees, whatever an expression consists of
* `restricted_sealed` — a restricted evaluator is the same on all hosts, and it is any other one as far
  as nothing is denied

What `debug` shows is not sealed: the hosts that are compared show the same to it.
-/

namespace Walkthrough.Template

variable {α β : Type} {env env' : Environment}

/-! ## Agreement -/

/-- Names have the same values in two environments, `debug` shows the same in both, and the first denies the
functions that touch the host. -/
structure Environment.Guards (env env' : Environment) : Prop where
  bindings : env.bindings = env'.bindings
  tolerant : env.tolerant = env'.tolerant
  dump : env.host.dump = env'.host.dump
  restricted : env.restricted = true

/-- A step has the same result in both environments, or it is denied in the first and not in the
second. -/
def Agreed (env' : Environment) (x y : Except Cause α) : Prop :=
  x = y ∨ env'.restricted = false ∧ ∃ f, x = .error (.denied f)

/-- Evaluation does the same in both environments, whatever names were noted before, or it is denied in
the first and not in the second. -/
def Agrees (env' : Environment) (x y : Eval α) : Prop :=
  ∀ names, x.run.run names = y.run.run names ∨
    env'.restricted = false ∧ ∃ f line, (x.run.run names).1 = .error ⟨.denied f, line⟩

theorem Agreed.refl (x : Except Cause α) : Agreed env' x x := .inl rfl

theorem Agrees.refl (x : Eval α) : Agrees env' x x := fun _ => .inl rfl

theorem Agreed.bind (x : Except Cause α) {f g : α → Except Cause β} (h : ∀ a, Agreed env' (f a) (g a)) :
    Agreed env' (x >>= f) (x >>= g) := by
  cases x with
  | error cause => exact .refl _
  | ok a => exact h a

/-- An evaluation that is denied is denied whatever comes after it. -/
theorem Agrees.bind {x y : Eval α} {f g : α → Eval β} (h : Agrees env' x y)
    (hnext : ∀ a, Agrees env' (f a) (g a)) : Agrees env' (x >>= f) (y >>= g) := by
  intro names
  rcases hx : x.run.run names with ⟨result, names'⟩
  rcases h names with hsame | ⟨hfree, denied, line, hdenied⟩
  · have hy : y.run.run names = (result, names') := hsame.symm.trans hx
    cases result with
    | error fault => exact .inl ((run_bind_of_error hx f).trans (run_bind_of_error hy g).symm)
    | ok a =>
      rw [run_bind_of_ok hx, run_bind_of_ok hy]
      exact hnext a names'
  · obtain rfl : result = .error ⟨.denied denied, line⟩ := by rw [← hdenied, hx]
    exact .inr ⟨hfree, denied, line, by rw [run_bind_of_error hx]⟩

theorem Agreed.orFailAt {x y : Except Cause α} (h : Agreed env' x y) (line : Nat) :
    Agrees env' (Eval.orFailAt line x) (Eval.orFailAt line y) := by
  rcases h with rfl | ⟨hfree, f, rfl⟩
  · exact .refl _
  · exact fun names => .inr ⟨hfree, f, line, rfl⟩

namespace Eval

/-! ## Names and functions -/

theorem lookup_eq (h : env.Guards env') (name : String) : lookup env name = lookup env' name := by
  unfold lookup
  rw [h.bindings, h.tolerant]

/-- Functions do the same in both environments, but for those that touch the host: the first environment
denies them once their arguments are accepted, and so does the second if it is restricted. -/
theorem callBuiltin_agreed (h : env.Guards env') (f : Builtin) (args : List Value) :
    Agreed env' (callBuiltin env f args) (callBuiltin env' f args) := by
  cases f with
  | range => exact .refl _
  | dict => exact .refl _
  | debug =>
    unfold callBuiltin
    rw [h.bindings, h.dump]
    exact .refl _
  | record => exact .refl _
  | environment =>
    unfold callBuiltin
    refine .bind _ fun name => ?_
    rw [if_pos h.restricted]
    by_cases hfree : env'.restricted
    · exact .inl (if_pos hfree).symm
    · exact .inr ⟨by simpa using hfree, _, rfl⟩
  | fileText =>
    unfold callBuiltin
    refine .bind _ fun path => ?_
    rw [if_pos h.restricted]
    by_cases hfree : env'.restricted
    · exact .inl (if_pos hfree).symm
    · exact .inr ⟨by simpa using hfree, _, rfl⟩

theorem callValue_agreed (h : env.Guards env') (v : Value) (args : List Value) :
    Agreed env' (callValue env v args) (callValue env' v args) := by
  cases v with
  | function f => exact callBuiltin_agreed h f args
  | _ => exact .refl _

/-- Evaluation agrees: calls are the only steps that look at what tells the environments apart. -/
theorem congruence_agrees (h : env.Guards env') :
    Congruence env env' fun {_} x y => Agrees env' x y where
  step _ _ := .refl _
  bind hx hnext := hx.bind hnext
  lookup name := by
    rw [lookup_eq h]
    exact .refl _
  call line v args := (callValue_agreed h v args).orFailAt line

end Eval

/-! ## The evaluator -/

variable {host host' : Host}

/-- A value does not depend on the host where functions are denied; where nothing is denied that is asked
for, it is the value on any host. -/
theorem valueOf_agrees (hdump : host.dump = host'.dump) (restricted : Bool) (expression : String) (s : Scope) :
    valueOf true host expression s = valueOf restricted host' expression s ∨
      restricted = false ∧
        ∃ f, (valueOf true host expression s).result = .error (.security expression f) := by
  unfold valueOf
  cases Expr.ofString expression with
  | error fault => exact .inl rfl
  | ok e =>
    have hguards : (Environment.mk s.visible s.isTolerant true host).Guards
        ⟨s.visible, s.isTolerant, restricted, host'⟩ := ⟨rfl, rfl, hdump, rfl⟩
    rcases (Eval.congruence_agrees hguards).eval e [] with hsame | ⟨hfree, f, line, hdenied⟩
    · left
      simp only [hsame]
    · refine .inr ⟨hfree, f, ?_⟩
      change judge expression s.isTolerant ((Eval.eval _ e).run.run []).1 _ = _
      rw [hdenied]
      rfl

/-- A restricted evaluator is the same on all hosts. -/
theorem evaluator_restricted (hdump : host.dump = host'.dump) :
    evaluator true host = evaluator true host' := by
  have hvalues : valueOf true host = valueOf true host' := by
    funext expression s
    rcases valueOf_agrees hdump true expression s with hsame | ⟨hfree, _⟩
    · exact hsame
    · exact absurd hfree (by simp)
  unfold evaluator
  rw [hvalues]

/-- An answer is refused: a function is called that is not allowed. -/
def isRefused (a : Answer α) : Bool :=
  match a.result with
  | .error (.security _ _) => true
  | _ => false

/-- What a restricted evaluator does not refuse, it answers like any other on any host. -/
theorem evaluate_of_not_refused (hdump : host.dump = host'.dump) {expression : String} {s : Scope}
    (h : isRefused ((evaluator true host).evaluate expression s) = false) :
    (evaluator true host).evaluate expression s = (evaluator false host').evaluate expression s := by
  rcases valueOf_agrees hdump false expression s with hsame | ⟨-, f, hdenied⟩
  · simp only [evaluator, hsame]
  · simp only [evaluator, isRefused, hdenied, Except.bind] at h
    exact absurd h (by simp)

theorem condition_of_not_refused (hdump : host.dump = host'.dump) {expression : String} {s : Scope}
    (h : isRefused ((evaluator true host).condition expression s) = false) :
    (evaluator true host).condition expression s = (evaluator false host').condition expression s := by
  rcases valueOf_agrees hdump false expression s with hsame | ⟨-, f, hdenied⟩
  · simp only [evaluator, hsame]
  · simp only [evaluator, isRefused, hdenied, Except.map] at h
    exact absurd h (by simp)

/-- A host with a variable and with a file that has a name of its own. -/
def homely : Host :=
  { environment := [("HOME", "/home")], files := [("/etc/hostname", Text.utf8Bytes "hearth")] }

/-- A scope with one variable. -/
def worldly : Scope := (Context.strict (.ofList [("name", .string "world")])).scope

/-- **Sealing.** On any two hosts to which `debug` shows the same, whatever their variables and files are, a
restricted evaluator gives every expression the same value and the same truth in every scope, and notes the
same missing names; and unless it refuses the expression, these are what an evaluator without restrictions
gives on every host. So nothing that is validated or run with a restricted evaluator shows on which host it
is: reports are the same, and for all calls with the same responses so are all answers and the runs after
them, whoever makes the requests. -/
theorem restricted_sealed (host host' : Host) (hdump : host.dump = host'.dump) :
    (∀ expression s,
      (evaluator true host).evaluate expression s = (evaluator true host').evaluate expression s ∧
      (evaluator true host).condition expression s = (evaluator true host').condition expression s ∧
      (isRefused ((evaluator true host).evaluate expression s) = false →
        ∀ other, host.dump = other.dump →
          (evaluator true host).evaluate expression s = (evaluator false other).evaluate expression s) ∧
      (isRefused ((evaluator true host).condition expression s) = false →
        ∀ other, host.dump = other.dump →
          (evaluator true host).condition expression s = (evaluator false other).condition expression s)) ∧
    (∀ g values, Validation.validate (evaluator true host) g values =
      Validation.validate (evaluator true host') g values) ∧
    ∀ (Req Res : Type) (g : Graph) (c : Converter Req Res) (limit fuel : Nat)
      (calls : List (Engine.Call Req Res)) (values : Bindings Json),
      Engine.callAll ⟨g, evaluator true host, c, limit⟩ fuel calls (.start values) =
        Engine.callAll ⟨g, evaluator true host', c, limit⟩ fuel calls (.start values) := by
  have hsame := evaluator_restricted hdump
  refine ⟨fun expression s => ⟨?_, ?_, ?_, ?_⟩, ?_, ?_⟩
  · rw [hsame]
  · rw [hsame]
  · intro hallowed other hother
    exact evaluate_of_not_refused hother hallowed
  · intro hallowed other hother
    exact condition_of_not_refused hother hallowed
  · intro g values
    rw [hsame]
  · intro Req Res g c limit fuel calls values
    rw [hsame]

/-- A greeting is the same everywhere, restricted or not. One that asks for a home or for the name of a host is
refused, whether there is one or not; without restrictions the host that has a name tells it. -/
theorem greeting_sealed :
    homely.dump = Host.empty.dump ∧
      isRefused ((evaluator true homely).evaluate "'hello ' ~ name" worldly) = false ∧
      (evaluator true homely).evaluate "'hello ' ~ name" worldly =
        (evaluator false .empty).evaluate "'hello ' ~ name" worldly ∧
      isRefused ((evaluator true homely).evaluate "'hello ' ~ env('HOME')" worldly) = true ∧
      (evaluator true homely).evaluate "'hello ' ~ env('HOME')" worldly =
        (evaluator true .empty).evaluate "'hello ' ~ env('HOME')" worldly ∧
      isRefused ((evaluator true homely).evaluate "file('/etc/hostname')" worldly) = true ∧
      (evaluator true homely).evaluate "file('/etc/hostname')" worldly =
        (evaluator true .empty).evaluate "file('/etc/hostname')" worldly ∧
      ((evaluator false homely).evaluate "file('/etc/hostname')" worldly).result.toOption.map Json.display =
        some "hearth" ∧
      ((evaluator false .empty).evaluate "file('/etc/hostname')" worldly).result.toOption.map Json.display =
        none := by
  have hdump : homely.dump = Host.empty.dump := rfl
  have hgreets : isRefused ((evaluator true homely).evaluate "'hello ' ~ name" worldly) = false := by
    decide +kernel
  have hsealed := (restricted_sealed homely .empty hdump).1
  exact ⟨hdump, hgreets, (hsealed "'hello ' ~ name" worldly).2.2.1 hgreets .empty hdump, by decide +kernel,
    (hsealed "'hello ' ~ env('HOME')" worldly).1, by decide +kernel,
    (hsealed "file('/etc/hostname')" worldly).1, by decide +kernel, by decide +kernel⟩

end Walkthrough.Template
