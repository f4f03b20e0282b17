import Walkthrough.Yaml.Written

/-!
# Nodes

The nodes of a document without aliases (`Node.ofString?`): every alias is replaced by what it stands
for. Collections nest at most 128 deep, and a document has at most a hundred times as many aliases to
replace as it has nodes and ends of collections, so that a short text stands for no huge document.
-/

namespace Walkthrough.Yaml

/-- A node of a document. A scalar that is not plain is a string whatever its text. -/
inductive Node where
  | scalar (tag : Option String) (plain : Bool) (text : String)
  | list (tag : Option String) (items : List Node)
  | map (tag : Option String) (entries : List (Node × Node))

namespace Written

mutual

/-- How many nodes and ends of collections are written. -/
def size : Written → Nat
  | .alias _ | .scalar .. => 1
  | .list _ _ items => 2 + sizeItems items
  | .map _ _ entries => 2 + sizeEntries entries

/-- The size of several nodes. -/
def sizeItems : List Written → Nat
  | [] => 0
  | w :: rest => size w + sizeItems rest

/-- The size of several entries. -/
def sizeEntries : List (Written × Written) → Nat
  | [] => 0
  | (k, v) :: rest => size k + size v + sizeEntries rest

end

mutual

/-- The anchored nodes, in the order in which they are written. -/
def anchored : Written → List (Nat × Written)
  | .alias _ => []
  | .scalar a t p s => a.toList.map fun n => (n, .scalar a t p s)
  | .list a t items => (a.toList.map fun n => (n, .list a t items)) ++ anchoredItems items
  | .map a t entries => (a.toList.map fun n => (n, .map a t entries)) ++ anchoredEntries entries

/-- The anchored nodes among items. -/
def anchoredItems : List Written → List (Nat × Written)
  | [] => []
  | w :: rest => anchored w ++ anchoredItems rest

/-- The anchored nodes among entries. -/
def anchoredEntries : List (Written × Written) → List (Nat × Written)
  | [] => []
  | (k, v) :: rest => anchored k ++ (anchored v ++ anchoredEntries rest)

end

/-- Replaces aliases, and fails if there are too many: the state is the number that is left. -/
abbrev Replacing := StateT Nat Option

/-- The node that is written, or that an alias stands for. -/
def follow (table : List (Nat × Written)) (w : Written) : Replacing Written := do
  match w with
  | .alias number =>
    match ← get with
    | 0 => failure
    | left + 1 => do
      set left
      match table.lookup number with
      | some target => return target
      | none => failure
  | _ => return w

/-- Replace aliases in a node whose collections nest at most `depth` deep. -/
def replace (table : List (Nat × Written)) : (depth : Nat) → Written → Replacing Node
  | 0, w => do
    match ← follow table w with
    | .scalar _ tag plain text => return .scalar tag plain text
    | _ => failure
  | depth + 1, w => do
    match ← follow table w with
    | .scalar _ tag plain text => return .scalar tag plain text
    | .list _ tag items => return .list tag (← items.mapM (replace table depth))
    | .map _ tag entries =>
      return .map tag (← entries.mapM fun e => do
        return (← replace table depth e.1, ← replace table depth e.2))
    | .alias _ => failure

/-- How deep collections may nest. -/
def depthLimit : Nat := 128

/-- The node of a document without aliases. -/
def toNode? (w : Written) : Option Node :=
  ((replace w.anchored.reverse depthLimit w).run (100 * w.size)).map Prod.fst

end Written

/-- The node of the only document of a text. -/
def Node.ofString? (s : String) : Option Node := do (← Written.ofTokens? (← tokens? s)).toNode?

end Walkthrough.Yaml
