import Walkthrough.Report

/-!
# Pools

Several scenarios at once. Every scenario is a task, which needs a permit to run and gives it back when
it has finished; a pool has a limited number of permits, but at least one. Tasks move one after the
other, in any order that permits allow (`Pool.move?`): one gets a permit, begins, sends a request, takes
what came of it. They share the transport, and otherwise do not see each other. A pool that nobody waits
in runs the tasks in their order (`Pool.runAll`).
-/

namespace Walkthrough

/-- A scenario in a pool. -/
inductive Task where
  | waiting (scenario : Scenario)
  /-- The task has a permit and has not begun. -/
  | admitted (scenario : Scenario)
  /-- The task has a permit, and no request of its session waits for an answer. -/
  | running (session : Session)
  /-- The task has a permit, and a request of its session was sent. -/
  | sending (session : Session) (request : Request)
  | finished (outcome : Outcome)

namespace Task

/-- The task has a permit. -/
def holdsPermit : Task → Bool
  | .admitted _ | .running _ | .sending _ _ => true
  | .waiting _ | .finished _ => false

/-- What became of the task, once it has finished. -/
def outcome? : Task → Option Outcome
  | .finished o => some o
  | _ => none

/-- Begin to run. -/
def begin (p : Plan) (s : Scenario) : Task :=
  match Session.start p s with
  | .ok session => .running session
  | .error e => .finished (.unstarted s.name e)

/-- The next move of a task, if it has one, and the request that is sent with it. Whether there is a
permit for the task is `free`, and `sent` are the requests that were sent so far, its own and those of
others. -/
def move? (p : Plan) (fuel : Nat) (free : Bool) (sent : List Request) :
    Task → Except Engine.Stop (Option (Task × Option Request))
  | .waiting s => .ok (if free then some (.admitted s, none) else none)
  | .admitted s => .ok (some (begin p s, none))
  | .running session =>
    match session.ask fuel with
    | .error stop => .error stop
    | .ok (session, .ok request) => .ok (some (.sending session request, some request))
    | .ok (session, .error ending) => .ok (some (.finished (.ofSession session ending), none))
  | .sending session request =>
    match session.take fuel request (p.transport sent request) with
    | .error stop => .error stop
    | .ok (session, none) => .ok (some (.running session, none))
    | .ok (session, some ending) => .ok (some (.finished (.ofSession session ending), none))
  | .finished _ => .ok none

end Task

/-- Tasks that share permits and a transport. -/
structure Pool where
  permits : Nat
  tasks : List Task
  /-- All requests that were sent, in order. -/
  sent : List Request

namespace Pool

/-- A pool before any task has begun. -/
def start (limit : Nat) (scenarios : List Scenario) : Pool :=
  ⟨max 1 limit, scenarios.map .waiting, []⟩

/-- How many permits are in use. -/
def inUse (q : Pool) : Nat := q.tasks.countP Task.holdsPermit

/-- The move of one task, if it has one. -/
def move? (p : Plan) (fuel : Nat) (q : Pool) (place : Nat) : Except Engine.Stop (Option Pool) :=
  match q.tasks[place]? with
  | none => .ok none
  | some task =>
    match task.move? p fuel (q.inUse < q.permits) q.sent with
    | .error stop => .error stop
    | .ok none => .ok none
    | .ok (some (task, request)) =>
      .ok (some { q with tasks := q.tasks.set place task, sent := q.sent ++ request.toList })

/-- The outcomes of all tasks, once they have finished. -/
def outcomes? (q : Pool) : Option (List Outcome) := q.tasks.mapM Task.outcome?

/-- The place of the first task that has not finished. -/
def first (q : Pool) : Nat := q.tasks.findIdx fun t => t.outcome?.isNone

/-- Move the first task that has not finished, until all have. The number of moves is bounded, and by
`fuel` the turns of a run in each. -/
def finish (p : Plan) (fuel : Nat) : (moves : Nat) → Pool → Except Engine.Stop (List Outcome)
  | 0, _ => .error .outOfFuel
  | moves + 1, q =>
    match q.outcomes? with
    | some outcomes => .ok outcomes
    | none =>
      match q.move? p fuel q.first with
      | .error stop => .error stop
      | .ok moved => finish p fuel moves (moved.getD q)

/-- Run scenarios, of which at most `limit` at once; `fuel` bounds moves and turns. -/
def runWithin (p : Plan) (fuel limit : Nat) (scenarios : List Scenario) :
    Except Engine.Stop (List Outcome) :=
  finish p fuel fuel (start limit scenarios)

/-- Run scenarios, of which at most `limit` at once. -/
def runAll (p : Plan) (limit : Nat) (scenarios : List Scenario) : Except Engine.Stop (List Outcome) :=
  runWithin p Engine.ample limit scenarios

end Pool

end Walkthrough
