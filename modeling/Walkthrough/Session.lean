import Walkthrough.Engine.Protocol
import Walkthrough.RequestMaker
import Walkthrough.Scenario
import Walkthrough.Transport

/-!
# Sessions

A session is the run of one scenario through a transport. It goes on exchange by exchange
(`Session.turn`): the next request is handed out, sent, and its response taken. A session ends when no
request is left, when the run has an error, or when the transport has no response.
-/

namespace Walkthrough

/-- What the sessions of an invocation have in common. -/
structure Plan where
  /-- Replaces the endpoints of scenarios. -/
  endpoint : Option String
  /-- Values that replace those of scenarios. -/
  values : Bindings Json
  evaluator : Evaluator
  /-- The headers that do not follow a redirect. -/
  stripped : List String
  transport : Transport

/-- How a session ended. -/
inductive Ending where
  | done
  | error (e : Error)
  | unanswered (fault : TransportFault)

/-- The run of a scenario, and the requests that were sent for it, in order. -/
structure Session where
  name : String
  setup : Engine.Setup Request Response
  run : Engine.Run Request Response
  sent : List Request

namespace Session

/-- The maker of requests for a scenario. -/
def maker (p : Plan) (s : Scenario) : Except Error RequestMaker :=
  let m := RequestMaker.plain.withStripped p.stripped
  match p.endpoint.or s.endpoint with
  | some endpoint => m.withEndpoint endpoint
  | none => .ok m

/-- The session of a scenario, before anything is sent. -/
def start (p : Plan) (s : Scenario) : Except Error Session :=
  match maker p s with
  | .error e => .error e
  | .ok m => .ok ⟨s.name, ⟨s.graph, p.evaluator, m.converter, Engine.defaultIterationLimit⟩,
      .start (s.values.extend p.values), []⟩

/-- Ask for the next request, which is sent, or for the ending, if there is none. A request counts as sent
whatever comes of it. The turns of the run are bounded by `fuel`. -/
def ask (fuel : Nat) (s : Session) : Except Engine.Stop (Session × Except Ending Request) :=
  match Engine.peek s.setup fuel s.run with
  | .error stop => .error stop
  | .ok (.error e, r) => .ok ({ s with run := r }, .error (.error e))
  | .ok (.ok .done, r) => .ok ({ s with run := r }, .error .done)
  | .ok (.ok (.request _ _ request), r) =>
    .ok ({ s with run := r, sent := s.sent ++ [request] }, .ok request)

/-- Take what came of a request: the response to it, or none. The ending, if the session does not go
on. -/
def take (fuel : Nat) (s : Session) (request : Request) :
    Except TransportFault Response → Except Engine.Stop (Session × Option Ending)
  | .error fault => .ok (s, some (.unanswered fault))
  | .ok response =>
    match Engine.resume s.setup fuel s.run request response with
    | .error stop => .error stop
    | .ok (.error e, r) => .ok ({ s with run := r }, some (.error e))
    | .ok (.ok (), r) => .ok ({ s with run := r }, none)

/-- One exchange; the ending, if there is no further one. -/
def turn (p : Plan) (fuel : Nat) (s : Session) : Except Engine.Stop (Session × Option Ending) :=
  match s.ask fuel with
  | .error stop => .error stop
  | .ok (s, .error ending) => .ok (s, some ending)
  | .ok (s, .ok request) => s.take fuel request (p.transport s.sent request)

/-- Go on to the end. The number of exchanges is bounded, and by `fuel` the turns of the run for each. -/
def finish (p : Plan) (fuel : Nat) : (exchanges : Nat) → Session →
    Except Engine.Stop (Session × Ending)
  | 0, _ => .error .outOfFuel
  | exchanges + 1, s =>
    match s.turn p fuel with
    | .error stop => .error stop
    | .ok (s, some ending) => .ok (s, ending)
    | .ok (s, none) => finish p fuel exchanges s

end Session

end Walkthrough
