import Walkthrough.Yaml.Layout

/-!
# Written nodes

The nodes of a document as they are written, with anchors and aliases, made of the tokens of a text
(`Written.ofTokens?`). A text holds at most one document; without any it is an empty scalar.

An anchor has a number, which is how many other names were anchored before it. An alias stands for the
last node of the number that its name has where the alias stands.
-/

namespace Walkthrough.Yaml

/-- A node as it is written. Tags are complete. -/
inductive Written where
  | alias (anchor : Nat)
  | scalar (anchor : Option Nat) (tag : Option String) (plain : Bool) (text : String)
  | list (anchor : Option Nat) (tag : Option String) (items : List Written)
  | map (anchor : Option Nat) (tag : Option String) (entries : List (Written × Written))

namespace Written

/-- What stands where nothing is written. -/
def empty : Written := .scalar none none true ""

/-- Tokens that are being read: those that are left, the anchored names, the last first, and what the
handles of tags stand for. -/
structure Reading where
  tokens : List Token
  anchors : List (String × Nat)
  handles : List (String × String)

/-- Reads tokens, and fails where none fits. -/
abbrev Reader := StateT Reading Option

/-- The next token. -/
def peek : Reader (Option Token) := return (← get).tokens.head?

/-- Pass the next token. -/
def pass : Reader Unit := modify fun r => { r with tokens := r.tokens.tail }

/-- The next token passes a test. -/
def ahead (test : Token → Bool) : Reader Bool := return (← peek).any test

/-! ## Tests on tokens -/

/-- The token ends a key or value in a block. -/
def endsEntry : Token → Bool
  | .key | .value | .closeBlock => true
  | _ => false

/-- The token ends an item in a block. -/
def endsItem : Token → Bool
  | .item | .closeBlock => true
  | _ => false

/-- The token ends an item of a list inside a mapping that is no further indented. -/
def endsInnerItem : Token → Bool
  | .item => true
  | t => endsEntry t

/-- The token ends an item in brackets. -/
def endsFlowItem : Token → Bool
  | .comma | .closeFlowList => true
  | _ => false

/-- The token ends a key in brackets. -/
def endsFlowItemKey : Token → Bool
  | .value => true
  | t => endsFlowItem t

/-- The token ends a value in braces. -/
def endsFlowEntry : Token → Bool
  | .comma | .closeFlowMap => true
  | _ => false

/-- The token ends a key in braces. -/
def endsFlowKey : Token → Bool
  | .value => true
  | t => endsFlowEntry t

/-- The token marks the start of the value of a key. -/
def isValue : Token → Bool
  | .value => true
  | _ => false

/-- The token belongs to the start or end of a document. -/
def endsDocument : Token → Bool
  | .version .. | .handle .. | .documentStart | .documentEnd => true
  | _ => false

/-! ## Properties -/

/-- The whole of a tag. -/
def wholeTag (t : Tag) : Reader String := do
  if t.handle.isEmpty then return t.rest
  match (← get).handles.lookup t.handle with
  | some start => return start ++ t.rest
  | none => failure

/-- The anchor, if it comes next. -/
def anchorAhead : Reader (Option String) := do
  match ← peek with
  | some (.anchor name) => do pass; return some name
  | _ => return none

/-- The tag, if it comes next. -/
def tagAhead : Reader (Option Tag) := do
  match ← peek with
  | some (.tag t) => do pass; return some t
  | _ => return none

/-- The anchor and the tag before a node, in either order. -/
def properties : Reader (Option String × Option String) := do
  let first ← anchorAhead
  let t ← tagAhead
  let anchor ← if first.isSome then pure first else if t.isSome then anchorAhead else pure none
  match t with
  | some t => return (anchor, some (← wholeTag t))
  | none => return (anchor, none)

/-- Give an anchor its number. -/
def register (anchor : Option String) : Reader (Option Nat) := do
  match anchor with
  | none => return none
  | some name =>
    let number := (← get).anchors.length
    modify fun r => { r with anchors := (name, number) :: r.anchors.filter (·.1 != name) }
    return some number

/-! ## Nodes -/

/-- An empty scalar, which has to have an anchor or a tag. -/
def bare (anchor tag : Option String) : Reader Written := do
  if anchor.isNone && tag.isNone then failure
  return .scalar (← register anchor) tag true ""

mutual

/-- Read a node. Blocks may open here; a list may stand at the indentation of the mapping around
it. -/
def node : Nat → (block inner : Bool) → Reader Written
  | 0, _, _ => failure
  | fuel + 1, block, inner => do
    if let some (.alias name) ← peek then
      pass
      match (← get).anchors.lookup name with
      | some number => return .alias number
      | none => failure
    let (anchor, tag) ← properties
    match ← peek with
    | some .item =>
      if inner then
        let number ← register anchor
        return .list number tag (← innerItems fuel [])
      else bare anchor tag
    | some (.scalar plain text) =>
      pass
      return .scalar (← register anchor) (tag.filter (· != "!")) plain text
    | some .openFlowList =>
      pass
      let number ← register anchor
      return .list number tag (← flowItems fuel [])
    | some .openFlowMap =>
      pass
      let number ← register anchor
      return .map number tag (← flowEntries fuel [])
    | some .openBlockList =>
      if block then
        pass
        let number ← register anchor
        return .list number tag (← blockItems fuel [])
      else bare anchor tag
    | some .openBlockMap =>
      if block then
        pass
        let number ← register anchor
        return .map number tag (← blockEntries fuel [])
      else bare anchor tag
    | _ => bare anchor tag

/-- Read a node, unless a token comes next that can only follow one. -/
def nodeUnless : Nat → (ends : Token → Bool) → (block inner : Bool) → Reader Written
  | 0, _, _, _ => failure
  | fuel + 1, ends, block, inner => do
    if ← ahead ends then return empty else node fuel block inner

/-- Read the items of a list in a block, those before in reverse. -/
def blockItems : Nat → List Written → Reader (List Written)
  | 0, _ => failure
  | fuel + 1, before => do
    match ← peek with
    | some .item => do
      pass
      blockItems fuel ((← nodeUnless fuel endsItem true false) :: before)
    | some .closeBlock => do pass; return before.reverse
    | _ => failure

/-- Read the items of a list at the indentation of the mapping around it, those before in reverse. -/
def innerItems : Nat → List Written → Reader (List Written)
  | 0, _ => failure
  | fuel + 1, before => do
    match ← peek with
    | some .item => do
      pass
      innerItems fuel ((← nodeUnless fuel endsInnerItem true false) :: before)
    | _ => return before.reverse

/-- Read the entries of a mapping in a block, those before in reverse. -/
def blockEntries : Nat → List (Written × Written) → Reader (List (Written × Written))
  | 0, _ => failure
  | fuel + 1, before => do
    match ← peek with
    | some .key => do
      pass
      let key ← nodeUnless fuel endsEntry true true
      if ← ahead isValue then
        pass
        blockEntries fuel ((key, ← nodeUnless fuel endsEntry true true) :: before)
      else blockEntries fuel ((key, empty) :: before)
    | some .closeBlock => do pass; return before.reverse
    | _ => failure

/-- Read the items of a list in brackets, those before in reverse. A key with its value is a mapping of
one entry. -/
def flowItems : Nat → List Written → Reader (List Written)
  | 0, _ => failure
  | fuel + 1, before => do
    if let some .closeFlowList ← peek then
      pass
      return before.reverse
    if !before.isEmpty then
      match ← peek with
      | some .comma => pass
      | _ => failure
    match ← peek with
    | some .closeFlowList => do pass; return before.reverse
    | some .key => do
      pass
      let key ← if ← ahead endsFlowItemKey then do pass; pure empty else node fuel false false
      if ← ahead isValue then
        pass
        let value ← nodeUnless fuel endsFlowItem false false
        flowItems fuel (.map none none [(key, value)] :: before)
      else flowItems fuel (.map none none [(key, empty)] :: before)
    | _ => flowItems fuel ((← node fuel false false) :: before)

/-- Read the entries of a mapping in braces, those before in reverse. A key may lack a value. -/
def flowEntries : Nat → List (Written × Written) → Reader (List (Written × Written))
  | 0, _ => failure
  | fuel + 1, before => do
    if let some .closeFlowMap ← peek then
      pass
      return before.reverse
    if !before.isEmpty then
      match ← peek with
      | some .comma => pass
      | _ => failure
    match ← peek with
    | some .closeFlowMap => do pass; return before.reverse
    | some .key => do
      pass
      let key ← nodeUnless fuel endsFlowKey false false
      if ← ahead isValue then
        pass
        flowEntries fuel ((key, ← nodeUnless fuel endsFlowEntry false false) :: before)
      else flowEntries fuel ((key, empty) :: before)
    | _ => flowEntries fuel ((← node fuel false false, empty) :: before)

end

/-! ## Documents -/

/-- Read the directives of a document; `versioned` tells that there was one on the version. -/
def directives : Nat → (versioned : Bool) → Reader Unit
  | 0, _ => failure
  | fuel + 1, versioned => do
    match ← peek with
    | some (.version major minor) =>
      if versioned || major ≠ 1 || (minor ≠ 1 && minor ≠ 2) then failure
      pass
      directives fuel true
    | some (.handle name start) =>
      if ((← get).handles.lookup name).isSome then failure
      pass
      modify fun r => { r with handles := r.handles ++ [(name, start)] }
      directives fuel versioned
    | _ =>
      modify fun r =>
        { r with handles := r.handles ++ [("!", "!"), ("!!", "tag:yaml.org,2002:")] }

/-- Pass the ends of documents. -/
def passEnds : List Token → List Token
  | .documentEnd :: rest => passEnds rest
  | tokens => tokens

/-- Read a document. Directives are followed by the start of a document. -/
def document : Reader Written := do
  let fuel := 3 * (← get).tokens.length + 10
  let begun ← ahead fun t => endsDocument t && !(t matches .documentEnd)
  directives fuel false
  if begun then
    match ← peek with
    | some .documentStart => pass
    | _ => failure
    match ← peek with
    | none => return empty
    | some t => if endsDocument t then return empty else node fuel true false
  else
    match ← peek with
    | none => return empty
    | some _ => node fuel true false

/-- The only document of a text, by its tokens. -/
def ofTokens? (tokens : List Token) : Option Written :=
  match document.run ⟨tokens, [], []⟩ with
  | some (w, r) => if (passEnds r.tokens).isEmpty then some w else none
  | none => none

end Written

end Walkthrough.Yaml
