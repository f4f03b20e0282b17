import Walkthrough.Json.Basic
import Walkthrough.Step

/-!
# Results of a run

One node for every executed step, nested like the steps themselves. The children of a loop are kept
apart for every iteration and those of a choice for the branch that was taken. In JSON what is empty
is left out.
-/

namespace Walkthrough.Result

/-- The branch of a choice. -/
inductive Branch where
  | holds | otherwise
  deriving DecidableEq

/-- An assertion and whether it held. -/
structure Assertion where
  expression : String
  passed : Bool

/-- What is known of an executed step, its children aside. -/
structure Facts where
  tag : Tag
  uuid : String
  name : Option String
  declared : Bindings Json
  extractions : Bindings Json
  assertions : List Assertion
  request : Option Json
  response : Option Json
  branch : Option Branch

/-- The key and value of an iteration. -/
structure Pass where
  key : Option Json
  value : Option Json

/-- The record of an executed step: the children of a block, those of either branch of a choice, and
the iterations of a loop, in order. -/
structure Node where
  facts : Facts
  steps : List Node
  thenSteps : List Node
  elseSteps : List Node
  iterations : List (Pass × List Node)

namespace Node

/-- The node of a step that is about to be executed. -/
def ofStep (s : Step) : Node :=
  ⟨⟨s.tag, s.uuid, s.name, .empty, .empty, [], none, none, none⟩, [], [], [], []⟩

/-- Every assertion held. -/
def passed (n : Node) : Bool := n.facts.assertions.all (·.passed)

/-- Begin an iteration. -/
def beginIteration (n : Node) (key value : Option Json) : Node :=
  { n with iterations := n.iterations ++ [(⟨key, value⟩, [])] }

/-- Add a child to the last iteration; none if there is no iteration. -/
def pushIteration (child : Node) : List (Pass × List Node) → Option (List (Pass × List Node))
  | [] => none
  | [(p, steps)] => some [(p, steps ++ [child])]
  | it :: rest => (pushIteration child rest).map (it :: ·)

/-- Add a finished child where the step nests it. -/
def pushChild (n child : Node) : Node :=
  match n.facts.tag with
  | .each | .repeated =>
    match pushIteration child n.iterations with
    | some its => { n with iterations := its }
    | none => { n with steps := n.steps ++ [child] }
  | .choice =>
    match n.facts.branch with
    | some .otherwise => { n with elseSteps := n.elseSteps ++ [child] }
    | _ => { n with thenSteps := n.thenSteps ++ [child] }
  | _ => { n with steps := n.steps ++ [child] }

/-- The children, wherever they are kept. -/
def children (n : Node) : List Node :=
  n.steps ++ n.thenSteps ++ n.elseSteps ++ n.iterations.flatMap Prod.snd

mutual

/-- A node and all below it, each before its children. -/
def flatten : Node → List Node
  | ⟨facts, steps, thenSteps, elseSteps, iterations⟩ =>
    ⟨facts, steps, thenSteps, elseSteps, iterations⟩ ::
      (flattenAll steps ++ flattenAll thenSteps ++ flattenAll elseSteps
        ++ flattenIterations iterations)

/-- All nodes of a list and below. -/
def flattenAll : List Node → List Node
  | [] => []
  | n :: rest => flatten n ++ flattenAll rest

/-- All nodes of iterations and below. -/
def flattenIterations : List (Pass × List Node) → List Node
  | [] => []
  | (_, steps) :: rest => flattenAll steps ++ flattenIterations rest

end

/-! ## JSON -/

/-- A member that is left out if its list is empty. -/
def listMember (name : String) (items : List Json) : List (String × Json) :=
  if items.isEmpty then [] else [(name, .array items)]

/-- A member that is left out if nothing is bound. -/
def mapMember (name : String) (b : Bindings Json) : List (String × Json) :=
  if b.isEmpty then [] else [(name, .object b.entries)]

/-- A member that may be missing. -/
def optionMember (name : String) (v : Option Json) : List (String × Json) :=
  v.toList.map fun j => (name, j)

/-- The members of a node that its children do not concern. -/
def Facts.members (f : Facts) : List (String × Json) :=
  [("kind", .string f.tag.name), ("uuid", .string f.uuid)]
    ++ optionMember "name" (f.name.map .string)
    ++ mapMember "variables" f.declared
    ++ mapMember "extractions" f.extractions
    ++ listMember "assertions" (f.assertions.map fun a =>
      .object [("expression", .string a.expression), ("passed", .bool a.passed)])
    ++ optionMember "request" f.request
    ++ optionMember "response" f.response

mutual

/-- A node as JSON. -/
def toJson : Node → Json
  | ⟨facts, steps, thenSteps, elseSteps, iterations⟩ =>
    .object (Facts.members facts ++ listMember "steps" (allToJson steps)
      ++ listMember "if" (allToJson thenSteps) ++ listMember "else" (allToJson elseSteps)
      ++ listMember "iterations" (iterationsToJson iterations))

/-- Nodes as JSON. -/
def allToJson : List Node → List Json
  | [] => []
  | n :: rest => toJson n :: allToJson rest

/-- Iterations as JSON. -/
def iterationsToJson : List (Pass × List Node) → List Json
  | [] => []
  | (p, steps) :: rest =>
    .object (optionMember "key" p.key ++ optionMember "value" p.value
      ++ listMember "steps" (allToJson steps)) :: iterationsToJson rest

end

end Node

/-- The results of the steps of the top chain. -/
structure Tree where
  steps : List Node

namespace Tree

/-- Every node, each before its children. -/
def flatten (t : Tree) : List Node := Node.flattenAll t.steps

/-- How many nodes carry a request. -/
def requestCount (t : Tree) : Nat := (t.flatten.filter fun n => n.facts.request.isSome).length

/-- The first node of an identifier. -/
def find? (t : Tree) (uuid : String) : Option Node := t.flatten.find? fun n => n.facts.uuid == uuid

/-- A tree as JSON. -/
def toJson (t : Tree) : Json := .object [("steps", .array (Node.allToJson t.steps))]

end Tree

end Walkthrough.Result
