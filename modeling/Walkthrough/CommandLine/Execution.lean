import Walkthrough.CommandLine.Words
import Walkthrough.Overrides
import Walkthrough.Pool
import Walkthrough.Template.Evaluator
import Walkthrough.Validation

/-!
# Carrying out a command

What the program prints for a command line, and its exit status: reports of runs, or of checks. Reports
are lines of text, or JSON if that is asked for.
-/

namespace Walkthrough.CommandLine

/-- What a command works with: the host, the identifiers of steps without one (by file, scenario and
step), the transport, and the timing that reports show. -/
structure Surroundings where
  host : Host
  fresh : Nat → Nat → Nat → String
  transport : Transport
  timing : Timing

/-- Why a command is not carried out. -/
inductive Failure where
  | loading (file : String) (e : Error)
  | noScenarios
  | overrides (fault : OverrideFault)

/-- What is said of a failure, from the outermost cause to the innermost. -/
def Failure.messages : Failure → List String
  | .loading file e => [s!"Failed to load {file}", e.message]
  | .noScenarios => ["No scenarios to run"]
  | .overrides fault => [fault.message]

/-- What a command leaves behind. -/
structure Output where
  exit : Nat
  text : String

/-- The exit status: zero if all is well. -/
def exitOf (ok : Bool) : Nat := if ok then 0 else 1

/-- A text of lines. -/
def textOf (lines : List String) : String := String.join (lines.map (· ++ "\n"))

/-- The scenarios of files, in order; `index` counts the files before. -/
def loadAll (around : Surroundings) : Nat → List String → Except Failure (List Scenario)
  | _, [] => .ok []
  | index, file :: rest =>
    match Scenario.loadFile (around.fresh index) around.host file with
    | .error e => .error (.loading file e)
    | .ok scenarios => (loadAll around (index + 1) rest).map (scenarios ++ ·)

/-- The variables of a command line. -/
def variablesOf (inv : Invocation) : Except Failure (Bindings Json) :=
  match Walkthrough.overrides inv.overrides with
  | .ok values => .ok values
  | .error fault => .error (.overrides fault)

/-- The evaluator of a command: restricted if its line or the settings say so. -/
def evaluatorOf (around : Surroundings) (settings : Settings) (inv : Invocation) : Evaluator :=
  Template.evaluator (inv.restricted || settings.restricted) around.host

/-! ## Running -/

/-- The plan of a run: what is on the line replaces the settings. -/
def planOf (around : Surroundings) (settings : Settings) (inv : Invocation) (values : Bindings Json) :
    Plan :=
  ⟨inv.endpoint.or settings.endpoint, values, evaluatorOf around settings inv, settings.stripped,
    around.transport⟩

/-- What is printed of reports. -/
def reportsText (around : Surroundings) (json : Bool) (reports : List Report) : String :=
  if json then textOf [(Json.array (reports.map (·.toJson around.timing))).pretty]
  else textOf (reports.flatMap (·.lines around.timing) ++ ["", Report.summary reports])

/-- Run the scenarios of files. -/
def run (around : Surroundings) (settings : Settings) (inv : Invocation) :
    Except Failure (Except Engine.Stop Output) := do
  let scenarios ← loadAll around 0 inv.files
  if scenarios.isEmpty then throw .noScenarios
  let values ← variablesOf inv
  let outcomes := Pool.runAll (planOf around settings inv values)
    (inv.concurrency.getD settings.concurrency) scenarios
  return outcomes.map fun outcomes =>
    let reports := outcomes.map (·.report)
    ⟨exitOf (reports.all (·.isPassed)), reportsText around inv.json reports⟩

/-! ## Checking -/

/-- A scenario and what is wrong with it. -/
structure Checked where
  scenario : String
  report : Validation.Report

namespace Checked

/-- The check of a scenario as JSON. -/
def toJson (c : Checked) : Json := .object (("scenario", .string c.scenario) :: c.report.members)

/-- The check of a scenario in lines. -/
def lines (c : Checked) : List String :=
  if c.report.isOk then [s!"OK       {c.scenario}"]
  else s!"INVALID  {c.scenario}"
    :: (c.report.missing.map (fun name => s!"undefined variable: {name}")
      ++ c.report.issues.map fun i => s!"step {i.step}: {i.message}").map Report.detail

end Checked

/-- What is printed of checks. -/
def checksText (json : Bool) (checks : List Checked) : String :=
  if json then textOf [(Json.array (checks.map (·.toJson))).pretty]
  else textOf (checks.flatMap (·.lines))

/-- Check a scenario with further values. -/
def check (ev : Evaluator) (values : Bindings Json) (s : Scenario) : Except Engine.Stop Checked :=
  match Validation.validate ev s.graph (s.values.extend values) with
  | some report => .ok ⟨s.name, report⟩
  | none => .error .outOfFuel

/-- Check the scenarios of files. -/
def validate (around : Surroundings) (settings : Settings) (inv : Invocation) :
    Except Failure (Except Engine.Stop Output) := do
  let scenarios ← loadAll around 0 inv.files
  let values ← variablesOf inv
  let checks := scenarios.mapM (check (evaluatorOf around settings inv) values)
  return checks.map fun checks =>
    ⟨exitOf (checks.all (·.report.isOk)), checksText inv.json checks⟩

/-- Carry out a command. -/
def execute (around : Surroundings) (settings : Settings) (inv : Invocation) :
    Except Failure (Except Engine.Stop Output) :=
  match inv.command with
  | .run => run around settings inv
  | .validate => validate around settings inv

end Walkthrough.CommandLine
