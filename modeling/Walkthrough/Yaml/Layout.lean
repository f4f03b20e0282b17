import Walkthrough.Yaml.Token

/-!
# Layout

The tokens of a text (`tokens?`). Blocks open where a line is indented further than the block around
it, and close where a line is indented less. A key is known by the colon after it: whatever may be a
key is remembered with the number of tokens before it, so that the token that starts a key can be put
there once the colon is found. A key stands on one line and has at most 1024 characters.
-/

namespace Walkthrough.Yaml

/-- What may turn out to be a key: the number of tokens before it, where it starts, and whether nothing
but a key can stand there. -/
structure Candidate where
  count : Nat
  place : Place
  required : Bool

/-- It stands on another line, or is too long for a key. -/
def Candidate.isStale (c : Candidate) (p : Place) : Bool :=
  c.place.line < p.line || c.place.index + 1024 < p.index

/-- A text that is being divided into tokens. -/
structure Layout where
  place : Place
  /-- The tokens so far, the last first. -/
  tokens : List Token
  count : Nat
  /-- The least column of the content of the innermost block; zero outside of blocks. -/
  least : Nat
  /-- The least columns of the blocks around it, innermost first. -/
  outer : List Nat
  /-- A key may start here. -/
  keyAllowed : Bool
  /-- What may be a key outside of brackets. -/
  blockKey : Option Candidate
  /-- What may be a key inside each open bracket, innermost first. -/
  flowKeys : List (Option Candidate)

namespace Layout

/-- At the start of a text. -/
def start (text : List Char) : Layout := ⟨.start text, [], 0, 0, [], true, none, []⟩

/-- Inside brackets, indentation means nothing. -/
def inFlow (l : Layout) : Bool := !l.flowKeys.isEmpty

/-- Add a token. -/
def emit (l : Layout) (t : Token) : Layout := { l with tokens := t :: l.tokens, count := l.count + 1 }

/-- Put a token after the first `count` ones. -/
def emitAt (l : Layout) (count : Nat) (t : Token) : Layout :=
  let later := l.count - count
  { l with tokens := l.tokens.take later ++ t :: l.tokens.drop later, count := l.count + 1 }

/-- Go on after some characters of the line. -/
def skip (l : Layout) (n : Nat) : Layout := { l with place := l.place.skip n }

/-! ## Blocks -/

/-- Open a block at a column, after the first `count` tokens, if the column is further in than the
innermost block. -/
def openBlock (l : Layout) (column count : Nat) (t : Token) : Layout :=
  if l.inFlow || column < l.least then l
  else { l.emitAt count t with least := column + 1, outer := l.least :: l.outer }

/-- Close blocks whose content starts at column `limit` or further in. -/
def closeBlocks (l : Layout) (limit : Nat) : Layout :=
  if l.inFlow then l else go l l.outer
where
  go (l : Layout) : List Nat → Layout
    | [] => l
    | least :: outer =>
      if limit < l.least then
        go { l.emit .closeBlock with least := least, outer := outer } outer
      else l

/-! ## Keys -/

/-- What may be a key at the innermost level. -/
def candidate (l : Layout) : Option Candidate :=
  match l.flowKeys with
  | [] => l.blockKey
  | c :: _ => c

/-- Replace what may be a key at the innermost level. -/
def setCandidate (l : Layout) (c : Option Candidate) : Layout :=
  match l.flowKeys with
  | [] => { l with blockKey := c }
  | _ :: rest => { l with flowKeys := c :: rest }

/-- What was remembered is no key, which is wrong if nothing else can stand there. -/
def dropCandidate (l : Layout) : Option Layout :=
  match l.candidate with
  | some c => if c.required then none else some (l.setCandidate none)
  | none => some l

/-- Remember that a key may start here. -/
def remember (l : Layout) : Option Layout :=
  if l.keyAllowed then do
    let l ← l.dropCandidate
    return l.setCandidate (some ⟨l.count, l.place, !l.inFlow && l.least == l.place.column + 1⟩)
  else some l

/-- Forget a candidate that is stale. -/
def refresh (p : Place) : Option Candidate → Option (Option Candidate)
  | some c => if c.isStale p then (if c.required then none else some none) else some (some c)
  | none => some none

/-- Forget all candidates that are stale. -/
def refreshAll (l : Layout) : Option Layout := do
  let blockKey ← refresh l.place l.blockKey
  let flowKeys ← l.flowKeys.mapM (refresh l.place)
  return { l with blockKey, flowKeys }

/-! ## Between tokens -/

/-- Skip spaces, comments and line ends, and a byte order mark at the start of a line, which takes up
a column. Where a key may start a line of a block, a tab is no space. -/
def skipGaps : Nat → Layout → Layout
  | 0, l => l
  | fuel + 1, l =>
    match l.place.head? with
    | none => l
    | some c =>
      if c == ' ' || (c == '\t' && (l.inFlow || !l.keyAllowed))
          || (c == '\ufeff' && l.place.column == 0) then skipGaps fuel (l.skip 1)
      else if c == '#' then
        skipGaps fuel { l with place := l.place.skipWhile (!isBreak ·) }
      else if isBreak c then
        skipGaps fuel { l with place := l.place.next, keyAllowed := l.keyAllowed || !l.inFlow }
      else l

/-! ## Single tokens -/

/-- Read the end of the text. -/
def finish (l : Layout) : Option Layout := (l.closeBlocks 0).dropCandidate

/-- Read a token that ends all blocks. -/
def marker (l : Layout) (t : Token) : Option Layout := do
  let l ← (l.closeBlocks 0).dropCandidate
  return { (l.emit t).skip 3 with keyAllowed := false }

/-- Read a directive. -/
def directive (l : Layout) : Option Layout := do
  let l ← (l.closeBlocks 0).dropCandidate
  let (t, p) ← readDirective (l.place.skip 1)
  return { l.emit t with place := p, keyAllowed := false }

/-- Read an opening bracket. -/
def openFlow (l : Layout) (t : Token) : Option Layout := do
  let l ← l.remember
  return { (l.emit t).skip 1 with keyAllowed := true, flowKeys := none :: l.flowKeys }

/-- Read a closing bracket. -/
def closeFlow (l : Layout) (t : Token) : Option Layout := do
  let l ← l.dropCandidate
  return { (l.emit t).skip 1 with keyAllowed := false, flowKeys := l.flowKeys.tail }

/-- Read a comma. -/
def comma (l : Layout) : Option Layout := do
  let l ← l.dropCandidate
  return { (l.emit .comma).skip 1 with keyAllowed := true }

/-- Read the hyphen of an item. -/
def item (l : Layout) : Option Layout := do
  if !l.inFlow && !l.keyAllowed then none
  let l ← (l.openBlock l.place.column l.count .openBlockList).dropCandidate
  return { (l.emit .item).skip 1 with keyAllowed := true }

/-- Read the question mark of a key. -/
def explicitKey (l : Layout) : Option Layout := do
  if !l.inFlow && !l.keyAllowed then none
  let l ← (l.openBlock l.place.column l.count .openBlockMap).dropCandidate
  return { (l.emit .key).skip 1 with keyAllowed := !l.inFlow }

/-- Read the colon of a value. What was remembered is its key. -/
def value (l : Layout) : Option Layout :=
  match l.candidate with
  | some c =>
    let l := (l.emitAt c.count .key).openBlock c.place.column c.count .openBlockMap
    some { ((l.setCandidate none).emit .value).skip 1 with keyAllowed := false }
  | none =>
    if l.inFlow then some { (l.emit .value).skip 1 with keyAllowed := false }
    else if l.keyAllowed then
      let l := l.openBlock l.place.column l.count .openBlockMap
      some { (l.emit .value).skip 1 with keyAllowed := true }
    else none

/-- Read an alias or an anchor. -/
def name (l : Layout) (t : String → Token) : Option Layout := do
  let l ← l.remember
  let (s, p) ← readName (l.place.skip 1)
  return { l.emit (t s) with place := p, keyAllowed := false }

/-- Read a tag. -/
def tag (l : Layout) : Option Layout := do
  let l ← l.remember
  let (t, p) ← readTag l.inFlow l.place
  return { l.emit (.tag t) with place := p, keyAllowed := false }

/-- Read a block of lines. -/
def block (l : Layout) (folded : Bool) : Option Layout := do
  let l ← l.dropCandidate
  let s ← readBlock folded l.least (l.place.skip 1)
  return { l.emit (.scalar false (String.ofList s.text)) with place := s.place, keyAllowed := true }

/-- Read a quoted scalar. -/
def quoted (l : Layout) (double : Bool) : Option Layout := do
  let l ← l.remember
  let s ← readQuoted double (l.place.rest.length + 1) [] (l.place.skip 1)
  return { l.emit (.scalar false (String.ofList s.text)) with place := s.place, keyAllowed := false }

/-- Read a plain scalar. -/
def plain (l : Layout) : Option Layout := do
  let l ← l.remember
  let s ← readPlain l.inFlow l.least (l.place.rest.length + 1) [] .none l.place
  return { l.emit (.scalar true (String.ofList s.text)) with
    place := s.place, keyAllowed := s.atLineStart }

/-- The character starts no plain scalar. -/
def isIndicator (c : Char) : Bool := "-?:,[]\x7b\x7d#&*!|>'\"%@\x60".toList.contains c

/-- A plain scalar starts with `c`, after which `rest` comes. -/
def startsPlain (l : Layout) (c : Char) (rest : List Char) : Bool :=
  !(isGap c || isIndicator c) || (c == '-' && !rest.head?.any isSpace)
    || (!l.inFlow && (c == '?' || c == ':') && !startsGap rest)

/-- Read the next token, which starts with `c`, after which `rest` comes. -/
def token (l : Layout) (c : Char) (rest : List Char) : Option Layout :=
  if l.place.column = 0 ∧ c = '%' then l.directive
  else if l.place.atMarker then l.marker (if c = '-' then .documentStart else .documentEnd)
  else if c = '[' then l.openFlow .openFlowList
  else if c = '\x7b' then l.openFlow .openFlowMap
  else if c = ']' then l.closeFlow .closeFlowList
  else if c = '\x7d' then l.closeFlow .closeFlowMap
  else if c = ',' then l.comma
  else if c = '-' ∧ startsGap rest then l.item
  else if c = '?' ∧ (l.inFlow || startsGap rest) then l.explicitKey
  else if c = ':' ∧ (l.inFlow || startsGap rest) then l.value
  else if c = '*' then l.name .alias
  else if c = '&' then l.name .anchor
  else if c = '!' then l.tag
  else if c = '|' ∧ !l.inFlow then l.block false
  else if c = '>' ∧ !l.inFlow then l.block true
  else if c = '\'' then l.quoted false
  else if c = '"' then l.quoted true
  else if l.startsPlain c rest then l.plain
  else none

/-- Read tokens up to the end of the text. -/
def run : Nat → Layout → Option Layout
  | 0, _ => none
  | fuel + 1, l => do
    let l ← (skipGaps (l.place.rest.length + 1) l).refreshAll
    let l := l.closeBlocks (l.place.column + 1)
    match l.place.rest with
    | [] => l.finish
    | c :: rest => run fuel (← l.token c rest)

end Layout

/-- The tokens of a text. -/
def tokens? (s : String) : Option (List Token) :=
  let cs := s.toList
  let cs := if cs.head? = some '\ufeff' then cs.drop 1 else cs
  if cs.all isAllowed then
    let text := unifyBreaks cs
    (Layout.run (text.length + 2) (.start text)).map (·.tokens.reverse)
  else none

end Walkthrough.Yaml
