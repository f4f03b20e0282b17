import Walkthrough.Session

/-!
# Reports

What is told of a scenario after its session: whether it passed, what failed or broke it, how many
exchanges were completed, and the results of its steps. `Outcome.ofScenario` runs a scenario on its own.
-/

namespace Walkthrough

/-- What became of a scenario. -/
inductive Status where
  /-- Every assertion held. -/
  | passed
  /-- An assertion did not hold. -/
  | failed
  /-- The scenario or the transport broke. -/
  | errored
  deriving DecidableEq

/-- The name of a status. -/
def Status.name : Status → String
  | .passed => "passed"
  | .failed => "failed"
  | .errored => "errored"

/-- The report of a scenario. -/
structure Report where
  name : String
  status : Status
  /-- What is said of the assertions that failed. -/
  failures : List String
  error : Option String
  /-- How many exchanges were completed. -/
  requests : Nat
  results : Result.Tree

/-- When a session began, and how long it took. -/
structure Timing where
  startedAt : String
  milliseconds : Nat

namespace Report

/-- The scenario passed. -/
def isPassed (r : Report) : Bool := r.status == .passed

/-- The report of a scenario that could not begin. -/
def unstarted (name : String) (e : Error) : Report := ⟨name, .errored, [], some e.message, 0, ⟨[]⟩⟩

/-- The report of a session that has ended. -/
def ofSession (s : Session) : Ending → Report
  | .done => told .passed [] none
  | .error (.expectation failure) => told .failed failure.failures none
  | .error e => told .errored [] (some e.message)
  | .unanswered fault => told .errored [] (some fault.message)
where
  told (status : Status) (failures : List String) (error : Option String) : Report :=
    ⟨s.name, status, failures, error, s.run.context.completed, s.run.tree⟩

/-- The members of a report that its timing does not concern; what is missing is left out. -/
def members (r : Report) : List (String × Json) :=
  [("name", .string r.name), ("status", .string r.status.name)]
    ++ Result.Node.listMember "failures" (r.failures.map .string)
    ++ Result.Node.optionMember "error" (r.error.map .string)
    ++ [("requests", .ofNat r.requests), ("results", r.results.toJson)]

/-- A report as JSON. -/
def toJson (r : Report) (t : Timing) : Json :=
  .object (r.members
    ++ [("started_at", .string t.startedAt), ("duration_ms", .ofNat t.milliseconds)])

/-- A line below the headline of a report. -/
def detail (text : String) : String := s!"         {text}"

/-- A word filled up with blanks to the width of a status. -/
def padded (word : String) : String := word ++ String.ofList (List.replicate (8 - word.length) ' ')

/-- A report in lines. -/
def lines (r : Report) (t : Timing) : List String :=
  s!"{padded (Text.asciiUppercase r.status.name)} {r.name} ({r.requests} requests, {t.milliseconds} ms)"
    :: (r.failures ++ r.error.toList).map detail

/-- How many reports have each status. -/
def summary (reports : List Report) : String :=
  let count (s : Status) : Nat := (reports.filter fun r => r.status == s).length
  s!"{count .passed} passed, {count .failed} failed, {count .errored} errored"

end Report

/-- The report of a scenario, and the requests that were sent for it, in order. -/
structure Outcome where
  report : Report
  sent : List Request

namespace Outcome

/-- The outcome of a session that has ended. -/
def ofSession (s : Session) (ending : Ending) : Outcome := ⟨.ofSession s ending, s.sent⟩

/-- The outcome of a scenario that could not begin. -/
def unstarted (name : String) (e : Error) : Outcome := ⟨.unstarted name e, []⟩

/-- Run a scenario on its own. The exchanges are bounded by `fuel`, and so are the turns for each. -/
def within (p : Plan) (fuel : Nat) (s : Scenario) : Except Engine.Stop Outcome :=
  match Session.start p s with
  | .error e => .ok (unstarted s.name e)
  | .ok session => (session.finish p fuel fuel).map fun (session, ending) => ofSession session ending

/-- Run a scenario on its own. -/
def ofScenario (p : Plan) (s : Scenario) : Except Engine.Stop Outcome := within p Engine.ample s

end Outcome

end Walkthrough
