import Walkthrough.Template.Test

/-!
# Sequences

Sorting, grouping, joining and choosing among the items of values.
-/

namespace Walkthrough.Template.Value

/-- What iterating yields, of anything that can be iterated over. -/
def listOf (v : Value) : Except Cause (List Value) :=
  match v.iterate? with
  | some items => .ok items
  | Option.none => .error .listKind

/-- The order for sorting: strings without regard to the case of ASCII letters, unless asked. -/
def sortOrder (caseSensitive : Bool) (a b : Value) : Ordering :=
  match a, b with
  | .string s _, .string t _ =>
    if caseSensitive then compare s t
    else compare (Text.asciiLowercase s) (Text.asciiLowercase t)
  | _, _ => order a b

/-- An order, perhaps turned around. -/
def turned (backwards : Bool) (o : Ordering) : Ordering := if backwards then o.swap else o

/-- Sort by keys; what has equal keys keeps its order, also when the order is turned around. -/
def sortBy {α : Type} (caseSensitive backwards : Bool) (key : α → Value) (items : List α) : List α :=
  items.mergeSort fun a b => turned backwards (sortOrder caseSensitive (key a) (key b)) != .gt

/-- Put an item into a list that is sorted from the last to the first: it passes those that come
after it. -/
def insertBefore {α : Type} (isBefore : α → α → Bool) (x : α) : List α → List α
  | [] => [x]
  | y :: rest => if isBefore x y then y :: insertBefore isBefore x rest else x :: y :: rest

/-- Sort by putting in one item after the other. -/
def insertionSort {α : Type} (isBefore : α → α → Bool) (items : List α) : List α :=
  (items.foldl (fun sorted x => insertBefore isBefore x sorted) []).reverse

/-- Up to this length lists are sorted by insertion, which matters where items compare as equal to
others that differ among themselves. -/
def longestInserted : Nat := 20

/-- Sort by the value at a path, or by the items themselves. Items without a value there compare as
equal to all. -/
def sortItems (caseSensitive backwards : Bool) (path : Option String) (items : List Value) :
    List Value :=
  match path with
  | Option.none => sortBy caseSensitive backwards id items
  | some path =>
    let order (a b : Value × Except Cause Value) : Ordering := match a.2, b.2 with
      | .ok v, .ok w => turned backwards (sortOrder caseSensitive v w)
      | _, _ => .eq
    let keyed := items.map fun v => (v, v.follow path)
    let result :=
      if items.length ≤ longestInserted then insertionSort (fun a b => order a b == .lt) keyed
      else keyed.mergeSort fun a b => order a b != .gt
    result.map Prod.fst

/-- Items from the last to the first. -/
def reverseValue (v : Value) : Except Cause Value :=
  match v with
  | .undefined | .none => .ok v
  | .string s _ => .ok (ofCharsOf v s.toList.reverse)
  | .sequence items _ | .stream items _ => .ok (.stream items.reverse true)
  | .mapping entries _ => .ok (.stream (entries.map Prod.fst).reverse true)
  | _ => .error (.reverseKind v.kind)

/-- The first item. -/
def firstOf (v : Value) : Except Cause Value :=
  match v with
  | .string s _ => .ok ((s.toList.head?.map fun c => ofCharsOf v [c]).getD .undefined)
  | .sequence items _ | .stream items _ => .ok (items.head?.getD .undefined)
  | .mapping entries _ => .ok ((entries.head?.map Prod.fst).getD .undefined)
  | _ => .error .firstItem

/-- The last item. -/
def lastOf (v : Value) : Except Cause Value :=
  match v with
  | .string s _ => .ok ((s.toList.getLast?.map fun c => ofCharsOf v [c]).getD .undefined)
  | .sequence items _ | .stream items _ => .ok (items.getLast?.getD .undefined)
  | _ => .error .lastItem

/-- The least item, the first of equals. -/
def least (items : List Value) : Value :=
  match items with
  | [] => .undefined
  | v :: rest => rest.foldl (fun acc w => if order acc w == .gt then w else acc) v

/-- The greatest item, the last of equals. -/
def greatest (items : List Value) : Value :=
  match items with
  | [] => .undefined
  | v :: rest => rest.foldl (fun acc w => if order acc w == .gt then acc else w) v

/-- Groups of a number of items; a filler completes the last. -/
def batchesOf (count : Nat) (filler : Option Value) : Nat → List Value → List Value
  | 0, _ | _, [] => []
  | fuel + 1, items =>
    let group := items.take count
    let group := match filler with
      | some v => group ++ List.replicate (count - group.length) v
      | Option.none => group
    .list group :: batchesOf count filler fuel (items.drop count)

/-- A number of groups of nearly equal size, the longer ones first; a filler completes the shorter. -/
def columnsOf (count : Nat) (filler : Option Value) (items : List Value) : List Value :=
  let size := items.length / count
  let longer := items.length % count
  (List.range count).map fun i =>
    let start := i * size + min i longer
    let group := (items.drop start).take (size + if i < longer then 1 else 0)
    match filler with
    | some v => .list (if longer ≤ i then group ++ [v] else group)
    | Option.none => .list group

/-- Items grouped by a key, in runs of equal keys. -/
def runsOf (caseSensitive : Bool) (key : Value → Value) :
    List Value → List (Value × List Value)
  | [] => []
  | v :: rest =>
    match runsOf caseSensitive key rest with
    | [] => [(key v, [v])]
    | (k, group) :: runs =>
      if sortOrder caseSensitive (key v) k == .eq then (k, v :: group) :: runs
      else (key v, [v]) :: (k, group) :: runs

/-- Items without those that are like an earlier one. -/
def withoutRepeats (key : Value → Value) : List Value → List Value → List Value
  | _, [] => []
  | seen, v :: rest =>
    let k := key v
    if seen.any fun s => order s k == .eq then withoutRepeats key seen rest
    else v :: withoutRepeats key (k :: seen) rest

/-- The first items of several lists, the second ones, and so on, up to the shortest; at most
`fuel`. -/
def rowsOf : Nat → List (List Value) → List Value
  | 0, _ => []
  | fuel + 1, columns =>
    match columns.mapM List.head? with
    | some row => .list row :: rowsOf fuel (columns.map List.tail)
    | Option.none => []

/-- The entries of mappings as those of one: the last value that is not undefined counts. -/
def mergedEntries (entries : List (Value × Value)) : List (Value × Value) :=
  entries.foldl (fun merged e =>
    match e.2, findEntry e.1 merged with
    | .undefined, some _ => merged
    | _, _ => insertEntry e.1 e.2 merged) []

/-- What a value adds to a chain: its items, or one that stands for those that it cannot have. -/
def links (v : Value) : List Value := v.iterate?.getD [.invalid v.kind]

/-- Mappings as one, sequences as one, or anything as a stream of all items. -/
def chained (values : List Value) : Value :=
  if values.all fun v => v.kind == .map then
    .mapping (mergedEntries (values.flatMap fun v => match v with
      | .mapping es _ => es
      | _ => [])) .made
  else if values.all fun v => v.kind == .sequence then .list (values.flatMap links)
  else .stream (values.flatMap links) false

/-- The rows of several sequences, as a stream. -/
def zipped (values : List Value) : Except Cause Value := do
  let lists ← values.mapM fun v => match v.iterate? with
    | some items => .ok items
    | Option.none => .error (.zipKind v.kind)
  .ok (.stream (rowsOf ((lists.head?.map List.length).getD 0) lists) false)

/-! ## Choosing items -/

/-- The items that a test passes, or fails where `wanted` is false; with a path the value at the path
is tested. Without a test truth counts. -/
def choose (wanted : Bool) (path : Option String) (test : Option String) (isFilter : String → Bool)
    (args : List Value) (v : Value) : Except Cause Value := do
  let test ← match test with
    | some name => match Test.ofName? name with
      | some t => .ok (some t)
      | Option.none => .error .unknownInnerTest
    | Option.none => .ok Option.none
  let items ← v.iterate
  let chosen ← items.filterM fun item => do
    let tested ← match path with
      | some path => item.follow path
      | Option.none => .ok item
    let passed ← match test with
      | some t => t.ask isFilter (tested :: args)
      | Option.none => .ok tested.isTrue
    .ok (passed == wanted)
  .ok (.list chosen)

/-- The value at a path in an item, or a default. -/
def mapPath (path default : Value) (item : Value) : Except Cause Value :=
  let found := match path with
    | .string p _ => item.follow p
    | _ => item.itemOf path
  match found, default with
  | .ok .undefined, d => .ok d
  | .ok w, _ => .ok w
  | .error cause, .undefined => .error cause
  | .error _, d => .ok d

end Walkthrough.Template.Value
