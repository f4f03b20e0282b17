import Walkthrough.Bindings

/-!
# Steps

A step is one node of a scenario. Four kinds produce a request; four contain a chain of further steps
and one does nothing. Steps refer to each other by their place in the graph: each to the next of its
chain, and a container to the first of what it contains.
-/

namespace Walkthrough

/-- What every step that produces a request carries: headers and extractions, each a name with an
expression, and assertions. -/
structure Leaf where
  headers : Bindings String
  extractions : Bindings String
  assertions : List String

/-- What a step does. -/
inductive Action where
  /-- Request an address. -/
  | visit (url : String) (method body : Option String) (leaf : Leaf)
  /-- Request a link relative to the previous request. -/
  | click (link : String) (leaf : Leaf)
  /-- Repeat the previous request. -/
  | reload (leaf : Leaf)
  /-- Follow the redirect of the previous response. -/
  | follow (leaf : Leaf)
  | empty
  /-- Run a chain with variables of its own. -/
  | block (declarations : Bindings String) (child : Option Nat)
  /-- Run a chain once for every item of a collection. -/
  | each (collection key value : String) (child : Option Nat)
  /-- Run a chain while a condition holds. -/
  | repeated (condition : String) (child : Option Nat)
  /-- Run one of two chains. -/
  | choice (condition : String) (holds otherwise : Option Nat)

/-- The kind of a step. -/
inductive Tag where
  | visit | click | reload | follow | empty | block | each | repeated | choice
  deriving DecidableEq

/-- The name of a kind. -/
def Tag.name : Tag → String
  | .visit => "visit"
  | .click => "click"
  | .reload => "reload"
  | .follow => "follow"
  | .empty => "empty"
  | .block => "block"
  | .each => "loop"
  | .repeated => "while"
  | .choice => "condition"

namespace Action

/-- The kind of an action. -/
def tag : Action → Tag
  | .visit _ _ _ _ => .visit
  | .click _ _ => .click
  | .reload _ => .reload
  | .follow _ => .follow
  | .empty => .empty
  | .block _ _ => .block
  | .each _ _ _ _ => .each
  | .repeated _ _ => .repeated
  | .choice _ _ _ => .choice

/-- What an action that produces a request carries. -/
def leaf? : Action → Option Leaf
  | .visit _ _ _ leaf | .click _ leaf | .reload leaf | .follow leaf => some leaf
  | _ => none

/-- The action produces a request. -/
def isRequest (a : Action) : Bool := a.leaf?.isSome

/-- The first steps of the chains that an action contains. -/
def children : Action → List Nat
  | .block _ child | .each _ _ _ child | .repeated _ child => child.toList
  | .choice _ holds otherwise => holds.toList ++ otherwise.toList
  | _ => []

/-- The expressions of an action, not those of its children. -/
def expressions (a : Action) : List String :=
  let own := match a with
    | .visit url method body _ => url :: (method.toList ++ body.toList)
    | .click link _ => [link]
    | .block declarations _ => declarations.entries.map Prod.snd
    | .each collection _ _ _ => [collection]
    | .repeated condition _ | .choice condition _ _ => [condition]
    | .reload _ | .follow _ | .empty => []
  match a.leaf? with
  | none => own
  | some leaf =>
    own ++ leaf.headers.entries.map Prod.snd ++ leaf.extractions.entries.map Prod.snd
      ++ leaf.assertions

end Action

/-- A step: its lasting identifier, a label, what it does, and the next step of its chain. -/
structure Step where
  uuid : String
  name : Option String
  action : Action
  next : Option Nat

/-- The kind of a step. -/
def Step.tag (s : Step) : Tag := s.action.tag

end Walkthrough
