import Walkthrough.Template.Conversion
import Walkthrough.Template.Directive
import Walkthrough.Template.Items

/-!
# Filters

What can be done with a value after a bar. The first argument of a filter is the value before the
bar.
-/

namespace Walkthrough.Template

/-- A filter. -/
inductive Filter where
  | abs | attr | base64Decode | base64Encode | batch | bool | capitalize | chain | default | dictsort
  | escape | first | float | format | fromJson | groupby | indent | integer | items | join | keys | last
  | length | lines | list | lower | map | max | min | pprint | reject | rejectattr | replace
  | reverse | round | safe | select | selectattr | slice | sort | split | string | sum | title
  | toJson | trim | unique | upper | zip
  deriving DecidableEq

/-- The names of the filters. -/
def Filter.names : List (String × Filter) := [
  ("abs", .abs), ("attr", .attr), ("b64decode", .base64Decode), ("b64encode", .base64Encode),
  ("batch", .batch), ("bool", .bool), ("capitalize", .capitalize), ("chain", .chain),
  ("count", .length), ("d", .default), ("default", .default), ("dictsort", .dictsort),
  ("e", .escape), ("escape", .escape), ("first", .first), ("float", .float),
  ("format", .format), ("fromjson", .fromJson), ("groupby", .groupby), ("indent", .indent), ("int", .integer),
  ("items", .items), ("join", .join), ("keys", .keys), ("last", .last), ("length", .length),
  ("lines", .lines), ("list", .list), ("lower", .lower), ("map", .map), ("max", .max),
  ("min", .min), ("pprint", .pprint), ("reject", .reject), ("rejectattr", .rejectattr),
  ("replace", .replace), ("reverse", .reverse), ("round", .round), ("safe", .safe),
  ("select", .select), ("selectattr", .selectattr), ("slice", .slice), ("sort", .sort),
  ("split", .split), ("string", .string), ("sum", .sum), ("title", .title), ("tojson", .toJson),
  ("trim", .trim), ("unique", .unique), ("upper", .upper), ("zip", .zip)]

/-- The filter of a name. -/
def Filter.ofName? (name : String) : Option Filter := names.lookup name

namespace Filter

open Value (ofChars)

/-- A name is that of a filter. -/
def isFilter (name : String) : Bool := (ofName? name).isSome

/-- Apply a function to a text and to nothing else; the result is as safe as the text. -/
def ofText (f : List Char → List Char) (args : List Value) : Except Cause Value :=
  Take.all (do
    let v ← Take.value
    let s ← (Take.textOf v : Except Cause String)
    pure (Value.ofCharsOf v (f s.toList))) args

/-- Choose items themselves. -/
def chooseItems (wanted : Bool) (args : List Value) : Except Cause Value := do
  let (v, test, rest) ← Take.all (do
    let v ← Take.value
    let test ← Take.optional Take.textOf
    let rest ← Take.remaining
    pure (v, test, rest)) args
  Value.choose wanted Option.none test isFilter rest v

/-- Choose items by the value at a path. -/
def chooseByPath (wanted : Bool) (args : List Value) : Except Cause Value := do
  let (v, path, test, rest) ← Take.all (do
    let v ← Take.value
    let path ← Take.required Take.textOf
    let test ← Take.optional Take.textOf
    let rest ← Take.remaining
    pure (v, path, test, rest)) args
  Value.choose wanted (some path) test isFilter rest v

/-- Apply a function to one value. -/
def ofOne (f : Value → Except Cause Value) (args : List Value) : Except Cause Value :=
  (Take.all Take.value args).bind f

/-- Sort the entries of a mapping. -/
def sortedEntries (args : List Value) : Except Cause Value := do
  let (v, ns) ← Take.all (do
    let ns ← Take.named
    let v ← Take.value
    pure (v, ns)) args
  match v with
  | .mapping entries _ =>
    let byValue := (← ns.optional Take.stringOf "by") = some "value"
    let caseSensitive := (← ns.optional Take.truthOf "case_sensitive").getD false
    let backwards := (← ns.optional Take.truthOf "reverse").getD false
    ns.onlyKnown ["by", "case_sensitive", "reverse"]
    let key (e : Value × Value) : Value := if byValue then e.2 else e.1
    .ok (.list ((Value.sortBy caseSensitive backwards key entries).map fun e => .list [e.1, e.2]))
  | _ => .error .pairList

/-- Sort items. -/
def sorted (args : List Value) : Except Cause Value := do
  let (v, ns) ← Take.all (do
    let ns ← Take.named
    let v ← Take.value
    pure (v, ns)) args
  let items ← Value.listOf v
  let caseSensitive := (← ns.optional Take.truthOf "case_sensitive").getD false
  let backwards := (← ns.optional Take.truthOf "reverse").getD false
  let path ← ns.optional Take.stringOf "attribute"
  ns.onlyKnown ["case_sensitive", "reverse", "attribute"]
  .ok (.list (Value.sortItems caseSensitive backwards path items))

/-- Group items by the value at a path. -/
def grouped (args : List Value) : Except Cause Value := do
  let (v, path, ns) ← Take.all (do
    let ns ← Take.named
    let v ← Take.value
    let path ← Take.optional Take.textOf
    pure (v, path, ns)) args
  let default := (← ns.optional .ok "default").getD .undefined
  let caseSensitive := (← ns.optional Take.truthOf "case_sensitive").getD false
  let (path, known) ← match path with
    | some p => .ok (p, [])
    | Option.none => (ns.required Take.stringOf "attribute").map fun p => (p, ["attribute"])
  let items ← v.iterate
  ns.onlyKnown ("default" :: "case_sensitive" :: known)
  let key (item : Value) : Value := item.followOr path default
  let runs := Value.runsOf caseSensitive key (Value.sortBy caseSensitive false key items)
  .ok (.list (runs.map fun r => .sequence [r.1, .stream r.2 true] .group))

/-- Items without repetitions. -/
def uniqueItems (args : List Value) : Except Cause Value := do
  let (v, ns) ← Take.all (do
    let ns ← Take.named
    let v ← Take.value
    pure (v, ns)) args
  let path ← ns.optional Take.stringOf "attribute"
  let caseSensitive := (← ns.optional Take.truthOf "case_sensitive").getD false
  ns.onlyKnown ["attribute", "case_sensitive"]
  let items ← v.iterate
  let key (item : Value) : Value :=
    let w := match path with
      | some p => item.followOr p .undefined
      | Option.none => item
    match w with
    | .string s _ => if caseSensitive then w else .text (Text.lowercase s)
    | _ => w
  .ok (.list (Value.withoutRepeats key [] items))

/-- The entries of a mapping as pairs. -/
def pairsOf (v : Value) : Except Cause Value :=
  match v with
  | .mapping entries _ => .ok (.stream (entries.map fun e => .list [e.1, e.2]) true)
  | _ => .error .pairs

/-- A text with every line moved to the right. -/
def indented (args : List Value) : Except Cause Value := do
  let (s, width, head, blank, ns) ← Take.all (do
    let ns ← Take.named
    let s ← Take.required Take.textOf
    let width ← Take.optional Take.countOf
    let head ← Take.optional Take.truthOf
    let blank ← Take.optional Take.truthOf
    pure (s, width, head, blank, ns)) args
  let (width, knownWidth) ← ns.unlessGiven width Take.countOf "width"
  let (head, knownHead) ← ns.unlessGiven head Take.truthOf "first"
  let (blank, knownBlank) ← ns.unlessGiven blank Take.truthOf "blank"
  ns.onlyKnown (knownWidth ++ knownHead ++ knownBlank)
  .ok (ofChars (Text.indent (width.getD 4) (head.getD false) (blank.getD false) s.toList))

/-- Groups of a number of items, or a number of groups. -/
def parted (f : Nat → Option Value → List Value → List Value) (args : List Value) :
    Except Cause Value := do
  let (v, count, filler) ← Take.all (do
    let v ← Take.value
    let count ← Take.required Take.countOf
    let filler ← Take.optional .ok
    pure (v, count, filler)) args
  if count = 0 then .error .countZero
  else
    let items ← v.iterate
    .ok (.list (f count filler items))

/-- Apply a filter whose work does not depend on other filters. -/
def applyPlain (f : Filter) (args : List Value) : Except Cause Value :=
  match f with
  | .abs => ofOne Value.magnitude args
  | .attr => do
    let (v, key) ← Take.all (do
      let v ← Take.value
      let key ← Take.value
      pure (v, key)) args
    v.itemOf key
  | .base64Decode => ofOne Value.decodeBase64 args
  | .base64Encode => ofOne (fun v => .ok (Value.encodeBase64 v)) args
  | .batch => parted (fun n filler items => Value.batchesOf n filler items.length items) args
  | .bool => ofOne (fun v => .ok (.bool v.isTrue)) args
  | .capitalize => ofText Text.capitalize args
  | .chain => do
    let values ← Take.all (do
      let v ← Take.value
      let rest ← Take.remaining
      pure (v :: rest)) args
    .ok (Value.chained values)
  | .default => do
    let (v, fallback) ← Take.all (do
      let v ← Take.value
      let fallback ← Take.optional .ok
      pure (v, fallback)) args
    .ok (if v.isPresent then v else fallback.getD (.text ""))
  | .dictsort => sortedEntries args
  | .escape => ofOne (fun v => .ok (Value.escapeValue v)) args
  | .first => ofOne Value.firstOf args
  | .float => ofOne Value.toFloat args
  | .format => do
    let (s, rest) ← Take.all (do
      let s ← Take.required Take.stringOf
      let rest ← Take.remaining
      pure (s, rest)) args
    (Directive.fillIn s rest).map Value.text
  | .fromJson => ofOne Value.readJson args
  | .groupby => grouped args
  | .indent => indented args
  | .integer => ofOne Value.toInteger args
  | .items => ofOne pairsOf args
  | .join => do
    let (v, sep) ← Take.all (do
      let v ← Take.value
      let sep ← Take.optional Take.textOf
      pure (v, sep)) args
    match v.iterate? with
    | some xs => .ok (Value.joinItems (sep.getD "") xs)
    | Option.none => .error (.joinKind v.kind)
  | .keys => ofOne (fun v => match v with
    | .mapping entries _ => .ok (.list (entries.map Prod.fst))
    | _ => .error .keysKind) args
  | .last => ofOne Value.lastOf args
  | .length => ofOne (fun v => match v.length? with
    | some n => .ok (.int n)
    | Option.none => .error (.lengthKind v.kind)) args
  | .lines =>
    Take.all (do
      let v ← Take.value
      let s ← (Take.stringOf v : Except Cause String)
      pure (.list ((Text.lines s.toList).map (Value.ofCharsOf v)))) args
  | .list => ofOne (fun v => (Value.listOf v).map .list) args
  | .lower => ofText (fun cs => (Text.lowercase (String.ofList cs)).toList) args
  | .map => .error .invalid
  | .max => ofOne (fun v => (Value.listOf v).map Value.greatest) args
  | .min => ofOne (fun v => (Value.listOf v).map Value.least) args
  | .pprint => ofOne (fun v => .ok (ofChars (Value.indented 0 v))) args
  | .reject => chooseItems false args
  | .rejectattr => chooseByPath false args
  | .replace => do
    let (s, part, new) ← Take.all (do
      let s ← Take.required Take.textOf
      let part ← Take.required Take.textOf
      let new ← Take.required Take.textOf
      pure (s, part, new)) args
    .ok (ofChars (Text.replace part.toList new.toList s.toList))
  | .reverse => ofOne Value.reverseValue args
  | .round => do
    let (v, places) ← Take.all (do
      let v ← Take.value
      let places ← Take.optional Take.placesOf
      pure (v, places)) args
    Value.roundTo v places
  | .safe =>
    (Take.all (Take.required Take.textOf) args).map fun s => .string s true
  | .select => chooseItems true args
  | .selectattr => chooseByPath true args
  | .slice => parted Value.columnsOf args
  | .sort => sorted args
  | .split => do
    let (v, sep) ← Take.all (do
      let v ← Take.value
      let sep ← Take.optional .ok
      pure (v, sep)) args
    let sep := match sep with
      | some w => w.display
      | Option.none => " "
    .ok (.list ((Text.split sep.toList v.display.toList).map ofChars))
  | .string => ofOne (fun v => .ok (match v with
    | .string _ _ => v
    | _ => .text v.display)) args
  | .sum => ofOne (fun v => do
    let items ← v.iterate
    Value.total items) args
  | .title => ofText (Text.titleFrom true) args
  | .toJson => ofOne Value.writeJson args
  | .trim => do
    let (v, s, drop) ← Take.all (do
      let v ← Take.value
      let s ← (Take.textOf v : Except Cause String)
      let drop ← Take.optional Take.textOf
      pure (v, s, drop)) args
    let dropped (c : Char) : Bool := match drop with
      | some cs => cs.toList.contains c
      | Option.none => Text.isBlank c
    .ok (Value.ofCharsOf v (Text.trimChars dropped s.toList))
  | .unique => uniqueItems args
  | .upper => ofText (fun cs => (Text.uppercase (String.ofList cs)).toList) args
  | .zip => do
    let values ← Take.all (do
      let v ← Take.value
      let rest ← Take.remaining
      pure (v :: rest)) args
    Value.zipped values

/-- Apply a filter to every item, or take the value at a path in every item. Filters named as
arguments are at most `fuel` deep. -/
def applyWithin : Nat → Filter → List Value → Except Cause Value
  | 0, f, args => applyPlain f args
  | fuel + 1, .map, args => do
    let (v, ns, rest) ← Take.all (do
      let ns ← Take.named
      let v ← Take.value
      let rest ← Take.remaining
      pure (v, ns, rest)) args
    match ← ns.optional .ok "attribute" with
    | some path =>
      if !rest.isEmpty then .error .tooManyArguments
      else
        let default := (Value.findEntry (.text "default") ns.entries).getD .undefined
        let items ← v.iterate
        let mapped ← items.mapM (Value.mapPath path default)
        ns.onlyKnown ["attribute", "default"]
        .ok (.list mapped)
    | Option.none =>
      match rest with
      | [] => .error .filterName
      | .string name _ :: more => match ofName? name with
        | Option.none => .error .unknownInnerFilter
        | some inner => do
          let items ← v.iterate
          let mapped ← items.mapM fun item => applyWithin fuel inner (item :: more)
          .ok (.list mapped)
      | _ :: _ => .error .filterNameKind
  | _ + 1, f, args => applyPlain f args

/-- Apply a filter to its arguments: every filter that is itself an argument takes one. -/
def apply (f : Filter) (args : List Value) : Except Cause Value :=
  applyWithin (args.length + 1) f args

end Filter

end Walkthrough.Template
