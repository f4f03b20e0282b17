import Walkthrough.Converter
import Walkthrough.Graph
import Walkthrough.Result

/-!
# Runs

What an engine works on. A setup is fixed for a run: the graph, what gives expressions their meaning,
what makes requests, and how often a condition may repeat its chain. A run is what changes: the
variables, one cursor for the top chain and for every open container, the request that waits for its
response, and what was recorded on the way. Every cursor has one frame of variables, which is open as
long as the cursor.
-/

namespace Walkthrough.Engine

/-- What is fixed for a run. -/
structure Setup (Req Res : Type) where
  graph : Graph
  evaluator : Evaluator
  converter : Converter Req Res
  /-- How many iterations a step that repeats while a condition holds may have. -/
  iterationLimit : Nat

/-- The limit of iterations unless another is set. -/
def defaultIterationLimit : Nat := 10000

/-- What is left to do in a container when its chain is at its end. -/
inductive Control where
  | block
  | choice
  /-- The items, each a key and a value, that a loop has still to go through. -/
  | items (rest : List (Json × Json))
  /-- The number of iterations that were begun. -/
  | counted (iterations : Nat)

/-- An open container: its place, what is left to do in it, and its record so far. -/
structure Container where
  place : Nat
  control : Control
  node : Result.Node

/-- Where a run is in one chain: the place of the next step, and the container whose chain it is, if it
is not the top chain. -/
structure Cursor where
  position : Option Nat
  container : Option Container

/-- Where a run is in its life. -/
inductive Phase where
  | created
  /-- A response is expected, or will be when the next request is handed out. -/
  | awaiting
  | done
  | failed
  deriving DecidableEq

namespace Phase

/-- The name of a phase. -/
def name : Phase → String
  | .created => "created"
  | .awaiting => "awaiting_response"
  | .done => "done"
  | .failed => "failed"

/-- No further request comes. -/
def isTerminal : Phase → Bool
  | .done | .failed => true
  | _ => false

end Phase

/-- A step that waits for the response to its request. The request is made when it is first asked for,
and kept. -/
structure Pending (Req : Type) where
  place : Nat
  request : Option Req

/-- What changes in a run. Cursors are listed from the innermost. -/
structure Run (Req Res : Type) where
  context : Context
  cursors : List Cursor
  phase : Phase
  pending : Option (Pending Req)
  previous : Option (Exchange Req Res)
  /-- All that was extracted, in order. -/
  extractions : Bindings Json
  /-- The records of the top chain. -/
  results : List Result.Node

namespace Run

variable {Req Res : Type}

/-- A run over base values that has not begun. -/
def start (values : Bindings Json) : Run Req Res :=
  ⟨.strict values, [], .created, none, none, .empty, []⟩

/-- The scope of the variables. -/
def scope (r : Run Req Res) : Scope := r.context.scope

/-- Add a record to the innermost open container, or to the top chain. -/
def record (r : Run Req Res) (n : Result.Node) : Run Req Res :=
  match r.cursors with
  | ⟨position, some c⟩ :: rest =>
    { r with cursors := ⟨position, some { c with node := c.node.pushChild n }⟩ :: rest }
  | _ => { r with results := r.results ++ [n] }

/-- Open a container with a frame; its chain begins at `head`. -/
def openContainer (r : Run Req Res) (head : Option Nat) (c : Container) (f : Frame) : Run Req Res :=
  { r with context := r.context.push f, cursors := ⟨head, some c⟩ :: r.cursors }

/-- Close the innermost chain and its frame; the record of its container is complete. -/
def close (r : Run Req Res) : Run Req Res :=
  match r.cursors with
  | [] => r
  | ⟨_, container⟩ :: rest =>
    let r := { r with context := r.context.pop, cursors := rest }
    match container with
    | some c => r.record c.node
    | none => r

/-- The run has failed. -/
def fail (r : Run Req Res) : Run Req Res := { r with phase := .failed, pending := none }

/-- The run is at the end of its graph. -/
def finish (r : Run Req Res) : Run Req Res := { r with phase := .done, pending := none }

/-- A step waits; its request is not made yet. -/
def await (r : Run Req Res) (place : Nat) : Run Req Res := { r with pending := some ⟨place, none⟩ }

/-- The records of open containers as one, each nested in the one around it; `inner` is the record of
those further in. -/
def nestOpen (inner : Option Result.Node) : List Cursor → Option Result.Node
  | [] => inner
  | ⟨_, none⟩ :: rest => nestOpen inner rest
  | ⟨_, some c⟩ :: rest =>
    nestOpen (some (match inner with
      | some n => c.node.pushChild n
      | none => c.node)) rest

/-- The results so far, with those of containers that are still open. -/
def tree (r : Run Req Res) : Result.Tree := ⟨r.results ++ (nestOpen none r.cursors).toList⟩

end Run

end Walkthrough.Engine
