import Walkthrough.Proofs.Engine.NameSafety
import Walkthrough.Proofs.Engine.Reach
import Walkthrough.Proofs.Validation.Issues

/-!
# Texts that are no expressions

Reports and runs agree on which texts are expressions. A report names every text that is none, with its
step, once; and wherever a run reads a text, it is one of those that the report looked at.

* `check_of_unread` — a text that cannot be read in a scope does not pass the check
* `rejected_of_originAt` — an error of reading is about an expression of the step where it is found
* `syntax_checked` — what a report says of texts, and what it promises of runs
-/

namespace Walkthrough.Template

variable {restricted : Bool} {host : Host}

/-! ## Reading -/

theorem check_eq_error_iff (x : String) (err : Error) :
    (evaluator restricted host).check x = .error err ↔
      ∃ fault, Expr.ofString x = .error fault ∧ err = .expression (.reading x fault) := by
  cases hread : Expr.ofString x with
  | ok e => simp [evaluator, hread]
  | error fault => simp [evaluator, hread, eq_comm]

/-- What is wrong with the value of an expression is not its reading. -/
theorem judge_ne_reading {x e : String} {tolerant : Bool} {result : Except Fault Value}
    {missing : List String} {fault : Fault} :
    judge x tolerant result missing ≠ .error (.expression (.reading e fault)) := by
  unfold judge
  repeat' split
  all_goals simp

/-- If a text has no value because it cannot be read, it does not pass the check, wherever that is. -/
theorem check_of_unread {x e : String} {s : Scope} {fault : Fault}
    (h : (valueOf restricted host x s).result = .error (.expression (.reading e fault)))
    (restricted' : Bool) (host' : Host) : ∃ err, (evaluator restricted' host').check x = .error err := by
  unfold valueOf at h
  cases hread : Expr.ofString x with
  | error fault' => exact ⟨_, (check_eq_error_iff x _).2 ⟨fault', hread, rfl⟩⟩
  | ok expr =>
    simp only [hread] at h
    exact absurd h judge_ne_reading

theorem check_of_value {x e : String} {s : Scope} {fault : Fault}
    (h : (evaluator restricted host).value x s = .error (.expression (.reading e fault)))
    (restricted' : Bool) (host' : Host) : ∃ err, (evaluator restricted' host').check x = .error err := by
  have hbind : (valueOf restricted host x s).result.bind toJson =
    .error (.expression (.reading e fault)) := h
  cases hvalue : (valueOf restricted host x s).result with
  | error err =>
    rw [hvalue] at hbind
    obtain rfl : err = _ := Except.error.inj hbind
    exact check_of_unread hvalue restricted' host'
  | ok v =>
    -- what has a value is at most not to be written as JSON
    rw [hvalue] at hbind
    have hjson : toJson v = .error (.expression (.reading e fault)) := hbind
    unfold toJson at hjson
    split at hjson
    · exact absurd hjson (by simp)
    · exact absurd hjson (by simp)

theorem check_of_holds {x e : String} {s : Scope} {fault : Fault}
    (h : (evaluator restricted host).holds x s = .error (.expression (.reading e fault)))
    (restricted' : Bool) (host' : Host) : ∃ err, (evaluator restricted' host').check x = .error err :=
  check_of_unread (Engine.error_of_map h) restricted' host'

end Walkthrough.Template

namespace Walkthrough.Engine

open Template (evaluator)
open Validation (validate)

variable {restricted : Bool} {host : Host}

/-! ## Reports -/

theorem isDenial_of_flaw {s : Step} {i : Validation.Issue}
    (h : Validation.Flaw (evaluator restricted host) s i) : i.isDenial = false := by
  obtain ⟨x, _, err, hcheck, rfl⟩ := h
  obtain ⟨fault, _, rfl⟩ := (Template.check_eq_error_iff x err).1 hcheck
  unfold Validation.Issue.isDenial Error.message
  simp only [String.toList_append]
  have hbegins : (toString "Expression error: ").toList = 'E' :: "xpression error: ".toList := rfl
  rw [hbegins]
  rfl

/-! ## Runs -/

/-- The setup of a graph whose steps make requests of the web and whose expressions are templates. -/
def webSetup (g : Graph) (m : RequestMaker) (restricted : Bool) (host : Host) (limit : Nat) :
    Setup Request Response :=
  ⟨g, evaluator restricted host, m.converter, limit⟩

/-- An error of reading that is found at a step is about an expression of the step. -/
theorem rejected_of_originAt {g : Graph} {m : RequestMaker} {limit : Nat} {s : Step} {e : String}
    {fault : Template.Fault}
    (h : OriginAt (webSetup g m restricted host limit) s (.expression (.reading e fault)))
    (restricted' : Bool) (host' : Host) :
    ∃ x ∈ s.action.expressions, ∃ err, (evaluator restricted' host').check x = .error err := by
  cases h with
  | raised hraises =>
    cases hraises with
    | @value x scope hx hvalue => exact ⟨x, hx, Template.check_of_value hvalue restricted' host'⟩
    | @holds x scope hx hholds => exact ⟨x, hx, Template.check_of_holds hholds restricted' host'⟩
  | convert hconvert =>
    cases RequestMaker.request_fails m s _ _ hconvert with
    | @value x _ hx hvalue =>
      exact ⟨x, Action.mem_expressions_of_request hx, Template.check_of_value hvalue restricted' host'⟩

/-- **Syntax.** Over a graph that was built and whose links do not run in a circle there is a report, for
any values, restricted or not. No issue occurs in it twice. Apart from calls of what is not allowed, its
issues are one for each step that the root reaches, along chains and into all chains inside of steps, and
each expression of that step that fails the check, and they say what the check says. If there are none,
then no call answers that a text cannot be read as an expression: wherever requests go, for all base values
and responses, whatever calls were made before, restricted or not, on any host. -/
theorem syntax_checked (steps : Array Step) (root : Option Nat) (g : Graph)
    (built : Graph.build steps root = .ok g) (acyclic : g.Acyclic) (values : Bindings Json)
    (restricted : Bool) (host : Host) :
    ∃ report, validate (evaluator restricted host) g values = some report ∧
      report.issues.Nodup ∧ (report.flaws.map Validation.Issue.subject).Nodup ∧
      (∀ uuid e, (uuid, e) ∈ report.flaws.map Validation.Issue.subject ↔
        ∃ p s, g.Reaches g.root p ∧ g.step? p = some s ∧ s.uuid = uuid ∧ e ∈ s.action.expressions ∧
          ∃ err, (evaluator restricted host).check e = .error err) ∧
      (∀ i ∈ report.flaws, ∃ err, (evaluator restricted host).check i.expression = .error err ∧
        i.message = err.message) ∧
      (report.flaws = [] → ∀ (m : RequestMaker) (limit : Nat) (restricted' : Bool) (host' : Host)
        (values' : Bindings Json) (r : Run Request Response),
        Reachable (webSetup g m restricted' host' limit) values' r → ∀ fuel c answer r',
          call (webSetup g m restricted' host' limit) fuel r c = .ok (answer, r') →
            ∀ e fault, answer ≠ .error (.expression (.reading e fault))) := by
  have sound : g.Sound := ((Graph.build_eq_ok_iff steps root g).1 built).2
  obtain ⟨script, hscript⟩ := sound.exists_script acyclic
  obtain ⟨report, hreport⟩ := Validation.validate_returns (evaluator restricted host) hscript values
  obtain ⟨hnodup, hflaws⟩ := Validation.validate_exact hreport fun s i => isDenial_of_flaw
  obtain ⟨honce, hsubjects⟩ := Validation.subjects_exact hnodup hflaws
  refine ⟨report, hreport, hnodup, honce, hsubjects, ?_, ?_⟩
  · intro i hi
    obtain ⟨p, s, _, _, hflaw⟩ := (hflaws i).1 hi
    exact hflaw.subject.2.2
  · intro hnone m limit restricted' host' values' r hreachable fuel c answer r' hcall e fault hanswer
    rcases (hreachable.inside.called hcall).2 _ hanswer with ⟨_, h⟩ | ⟨_, h⟩ | ⟨p, s, hp, hs, horigin⟩
    · exact absurd h (by simp)
    · exact absurd h (by simp)
    · obtain ⟨x, hx, err, hcheck⟩ := rejected_of_originAt horigin restricted host
      have hsubject := (hsubjects s.uuid x).2 ⟨p, s, hp, hs, rfl, hx, err, hcheck⟩
      rw [hnone] at hsubject
      exact absurd hsubject (by simp)

/-- All texts of the gallery are expressions, and asking for its first page answers no error of reading. -/
theorem gallery_syntax_checked :
    Graph.build gallerySteps (some 0) = .ok gallery.graph ∧ gallery.graph.Acyclic ∧
      ∃ report, validate (evaluator true .empty) gallery.graph webValues = some report ∧
        report.flaws = [] ∧
      ∃ answer r, call (webSetup gallery.graph .plain false .empty 10) 4 (.start webValues) .peek
          = .ok (answer, r) ∧
        ∀ e fault, answer ≠ .error (.expression (.reading e fault)) := by
  obtain ⟨report, hreport, _, _, _, _, hruns⟩ :=
    syntax_checked gallerySteps (some 0) gallery.graph rfl gallery_acyclic webValues true .empty
  have hflaws : report.flaws = [] := by
    have hmap : (validate (evaluator true .empty) gallery.graph webValues).map (·.flaws) = some [] := by
      decide +kernel
    rw [hreport] at hmap
    exact Option.some.inj hmap
  have hreturns : (call (webSetup gallery.graph .plain false .empty 10) 4 (.start webValues)
      .peek).toOption.isSome = true := by
    decide +kernel
  cases hcall : call (webSetup gallery.graph .plain false .empty 10) 4 (.start webValues) .peek with
  | error stop =>
    rw [hcall] at hreturns
    exact absurd hreturns (by simp [Except.toOption])
  | ok result =>
    obtain ⟨answer, r⟩ := result
    exact ⟨rfl, gallery_acyclic, report, hreport, hflaws, answer, r, rfl,
      hruns hflaws .plain 10 false .empty webValues _ .start 4 .peek answer r hcall⟩

/-- Both a condition and a link inside the branch that it guards are named. -/
example : (validate (evaluator true .empty) ⟨#[
    ⟨"try", none, .choice "1 +" (some 1) none, none⟩,
    ⟨"go", none, .click "a b" ⟨.empty, .empty, ["a b"]⟩, none⟩], some 0⟩ .empty).map
      (fun report => report.flaws.map Validation.Issue.subject) = some [("try", "1 +"), ("go", "a b")] := by
  decide +kernel

end Walkthrough.Engine
