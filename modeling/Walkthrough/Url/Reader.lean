import Walkthrough.Url.Basic
import Walkthrough.Url.Domain

/-!
# Reading addresses

A text is read as an address of its own (`Url.parse`) or as a reference that is completed from the
parts of a base (`Url.join`). Dots that stand for a segment are resolved, ports that a scheme implies
are dropped, and characters that cannot stand in a part are encoded.
-/

namespace Walkthrough.Url

/-! ## Paths -/

/-- A segment that stands for this place. -/
def isDot (segment : String) : Bool := [".", "%2e"].contains (Text.asciiLowercase segment)

/-- A segment that stands for the place above. -/
def isDoubleDot (segment : String) : Bool :=
  ["..", ".%2e", "%2e.", "%2e%2e"].contains (Text.asciiLowercase segment)

/-- Two characters that name a drive. -/
def isDrive (cs : List Char) : Bool :=
  match cs with
  | [letter, mark] => letter.isAlpha && (mark == ':' || mark == '|')
  | _ => false

/-- The text begins with the name of a drive. -/
def startsWithDrive (cs : List Char) : Bool :=
  isDrive (cs.take 2) && ((cs.drop 2).isEmpty || "/\\?#".toList.contains (cs.getD 2 '/'))

/-- The name of a drive as it is written in an address. -/
def isWrittenDrive (segment : String) : Bool :=
  isDrive segment.toList && segment.endsWith ":"

/-- Leave the last segment of a path open. The drive of a file stays. -/
def clearLast (scheme : String) (path : List String) : List String :=
  match path.getLast? with
  | none => []
  | some last =>
    if scheme == fileScheme && isWrittenDrive last then path else path.dropLast ++ [""]

/-- A path that ends in an open segment. -/
def opened (path : List String) : List String :=
  if path.getLast? = some "" then path else path ++ [""]

/-- Drop the open segment after another one, which becomes the last, unless that is a drive. -/
def closeOpen (path : List String) : List String :=
  match path.reverse with
  | "" :: segment :: _ => if isDrive segment.toList then path else path.dropLast
  | _ => path

/-- Complete the last segment of a path by a text, which a slash may follow. Dots are resolved, and the
drive of a file is written with a colon. -/
def addSegment (scheme : String) (path : List String) (segment : String) (slash : Bool) :
    List String :=
  if isDoubleDot segment then
    let above := clearLast scheme (closeOpen path)
    if slash then opened above else above
  else if isDot segment then opened path
  else
    let last :=
      if scheme == fileScheme && path == [""] && isDrive segment.toList then
        String.ofList (segment.toList.take 1) ++ ":"
      else path.getLast?.getD "" ++ segment
    path.dropLast ++ last :: if slash then [""] else []

/-- Go on with a path by several segments. -/
def addSegments (scheme : String) (path : List String) : List String → List String
  | [] => path
  | [segment] => addSegment scheme path segment false
  | segment :: rest => addSegments scheme (addSegment scheme path segment true) rest

/-- Drop empty segments at the start. -/
def dropEmpty : List String → List String
  | "" :: segment :: rest => dropEmpty (segment :: rest)
  | path => path

/-- Go on with a path by a text that holds neither query nor fragment. -/
def walk (scheme : String) (path : List String) (cs : List Char) : List String :=
  let cs := if isSpecial scheme then cs.map fun c => if c = '\\' then '/' else c else cs
  addSegments scheme path ((Text.partsAt '/' cs).map (Percent.encode Percent.inPath))

/-- The path of an address. The path of a file does not begin with an empty segment. -/
def pathOf (scheme : String) (path : List String) : Path :=
  .segments (if scheme == fileScheme then dropEmpty path else path)

/-! ## The parts of a text -/

/-- The character begins a query or a fragment. -/
def endsPath (c : Char) : Bool := c == '?' || c == '#'

/-- The character ends an authority. -/
def endsAuthority (special : Bool) (c : Char) : Bool :=
  c == '/' || c == '?' || c == '#' || (special && c == '\\')

/-- The query and fragment with which a text begins. -/
def tails (scheme : String) (cs : List Char) : Option String × Option String :=
  let query : Option String := match cs with
    | '?' :: rest =>
      some (Percent.encode (Percent.inQuery (isSpecial scheme)) (rest.takeWhile (· ≠ '#')))
    | _ => none
  let fragment : Option String := match cs.dropWhile (· ≠ '#') with
    | _ :: rest => some (Percent.encode Percent.inFragment rest)
    | [] => none
  (query, fragment)

/-- An address whose path goes on by a text. -/
def finish (scheme : String) (authority : Option Authority) (path : List String) (cs : List Char) :
    Url :=
  let (query, fragment) := tails scheme (cs.dropWhile (!endsPath ·))
  let walked := walk scheme path (cs.takeWhile (!endsPath ·))
  ⟨scheme, authority, pathOf scheme walked, query, fragment⟩

/-- Without the slash at its start. -/
def dropSlash (scheme : String) (cs : List Char) : List Char :=
  match cs with
  | '/' :: rest => rest
  | '\\' :: rest => if isSpecial scheme then rest else cs
  | _ => cs

/-- An address whose path is a text from its start. -/
def finishRoot (scheme : String) (authority : Option Authority) (cs : List Char) : Url :=
  if !isSpecial scheme && (cs.takeWhile (!endsPath ·)).isEmpty then
    let (query, fragment) := tails scheme cs
    ⟨scheme, authority, .segments [], query, fragment⟩
  else finish scheme authority [""] (dropSlash scheme cs)

/-- The scheme of a text and what follows its colon. -/
def scheme? (cs : List Char) : Option (String × List Char) :=
  let name := cs.takeWhile fun c => c.isAlphanum || c == '+' || c == '-' || c == '.'
  match name, cs.drop name.length with
  | c :: _, ':' :: rest =>
    if c.isAlpha then some (String.ofList (name.map Char.toLower), rest) else none
  | _, _ => none

/-! ## Authorities -/

/-- Name and password of a user. Both, and the colon between them, are left out if empty. -/
def credentials (cs : List Char) : String :=
  let encode := Percent.encode Percent.inCredentials
  match cs.dropWhile (· ≠ ':') with
  | [] => encode cs
  | _ :: password =>
    encode (cs.takeWhile (· ≠ ':')) ++ if password.isEmpty then "" else ":" ++ encode password

/-- Where the host of an authority ends: at a colon outside brackets. -/
def hostLength : (inside : Bool) → List Char → Nat
  | _, [] => 0
  | inside, c :: rest =>
    if c = ':' ∧ !inside then 0
    else 1 + hostLength (if c = '[' then true else if c = ']' then false else inside) rest

/-- Read a port. One that the scheme implies is left out. -/
def readPort (scheme : String) (cs : List Char) : Except Fault (Option Nat) :=
  let digits := cs.takeWhile Char.isDigit
  let port := digits.foldl (fun n c => n * 10 + (c.toNat - 48)) 0
  if 65535 < port then .error .port
  else match cs.drop digits.length with
    | c :: _ => if c = '\\' then .ok (kept digits port) else .error .port
    | [] => .ok (kept digits port)
where
  kept (digits : List Char) (port : Nat) : Option Nat :=
    if digits.isEmpty ∨ defaultPort? scheme = some port then none else some port

/-- Read what stands after the two slashes of a scheme that is not the one of files. -/
def readAuthority (scheme : String) (cs : List Char) : Except Fault Url := do
  let special := isSpecial scheme
  let text := cs.takeWhile (!endsAuthority special ·)
  let rest := cs.dropWhile (!endsAuthority special ·)
  let (user, place) := match text.reverse.idxOf? '@' with
    | some k => (some (text.take (text.length - 1 - k)), text.drop (text.length - k))
    | none => (none, text)
  if user = some [] ∧ place.isEmpty ∧ !rest.isEmpty then throw .emptyHost
  let user := (user.map credentials).getD ""
  let hostText := place.take (hostLength false place)
  if special ∧ hostText.isEmpty then throw .emptyHost
  let host ← if special then Domain.ofWeb hostText else Domain.ofOther hostText
  let after := place.drop hostText.length
  if host.isEmpty ∧ !after.isEmpty then throw .emptyHost
  let port ← readPort scheme (after.drop 1)
  if host.isEmpty ∧ !user.isEmpty then throw .emptyHost
  let rest := (after.drop 1).dropWhile Char.isDigit ++ rest
  return finishRoot scheme (some ⟨user, host, port⟩) rest

/-! ## Files -/

/-- Read what stands after the two slashes of a file. A drive at the start of the path has no host. A
path that follows no host keeps its slash, so that its first segment is empty. -/
def readFileHost (cs : List Char) : Except Fault Url := do
  let plain : Authority := ⟨"", "", none⟩
  let name := cs.takeWhile (!endsAuthority true ·)
  let rest := cs.dropWhile (!endsAuthority true ·)
  if isDrive name then return finish fileScheme (some plain) [""] cs
  let host ← if name.isEmpty then .ok "" else Domain.ofWeb name
  if host == "" || host == "localhost" then return finish fileScheme (some plain) [""] rest
  let rest := dropSlash fileScheme rest
  let walked := walk fileScheme [""] (rest.takeWhile (!endsPath ·))
  let authority := if walked.head?.any isWrittenDrive then plain else ⟨"", host, none⟩
  return finish fileScheme (some authority) [""] rest

/-- A base with the query and fragment of a reference that has nothing else. Without a query the base
keeps its own. -/
def withTails (base : Url) (cs : List Char) : Url :=
  let (query, fragment) := tails base.scheme cs
  if cs.head? = some '?' then { base with query, fragment }
  else { base with fragment }

/-- The segments of a path. -/
def Path.parts : Path → List String
  | .segments parts => parts
  | .flat _ => []

/-- The character is a slash, or a backslash in its place. -/
def isSlash (c : Char) : Bool := c == '/' || c == '\\'

/-- The path of a base in whose place a reference stands: its last segment is open. A drive alone is
followed by an open segment. -/
def placeIn (base : Url) : List String :=
  match clearLast base.scheme base.path.parts with
  | [] => [""]
  | [segment] => if isWrittenDrive segment then opened [segment] else [segment]
  | path => path

/-- Read what stands after the colon of a file, or a reference to a file. -/
def readFile (base : Option Url) (cs : List Char) : Except Fault Url :=
  let plain : Authority := ⟨"", "", none⟩
  match cs with
  | [] => .ok (match base with
    | some b => { b with fragment := none }
    | none => finish fileScheme (some plain) [""] [])
  | c :: rest =>
    if isSlash c then
      match rest with
      | d :: after =>
        if isSlash d then readFileHost after else .ok (fromRoot plain rest)
      | [] => .ok (fromRoot plain rest)
    else match base with
      | none => .ok (finish fileScheme (some plain) [""] cs)
      | some b =>
        if endsPath c then .ok (withTails b cs)
        else if startsWithDrive cs then .ok (finish fileScheme (some plain) [""] cs)
        else .ok (finish fileScheme b.authority (placeIn b) cs)
where
  fromRoot (plain : Authority) (rest : List Char) : Url :=
    if startsWithDrive rest then finish fileScheme (some plain) [""] rest
    else match base with
      | none => finish fileScheme (some plain) [""] rest
      | some b => match b.path.parts with
        | segment :: _ =>
          if isWrittenDrive segment then finish fileScheme (some plain) [segment, ""] rest
          else finish fileScheme b.authority [""] rest
        | [] => finish fileScheme b.authority [""] rest

/-! ## References -/

/-- Complete a reference from a base with a hierarchy that is not one of files. -/
def relative (base : Url) (cs : List Char) : Except Fault Url :=
  match cs with
  | [] => .ok { base with fragment := none }
  | c :: rest =>
    if endsPath c then .ok (withTails base cs)
    else if isSlash c then
      match rest with
      | d :: after =>
        if isSlash d then
          if c = '/' ∧ d = '/' then readAuthority base.scheme after
          else readAuthority base.scheme (cs.dropWhile isSlash)
        else .ok (finish base.scheme base.authority [""] rest)
      | [] => .ok (finish base.scheme base.authority [""] rest)
    else .ok (finish base.scheme base.authority (placeIn base) cs)

/-- Read what stands after the colon of a scheme. -/
def readScheme (base : Option Url) (scheme : String) (cs : List Char) : Except Fault Url :=
  let kin := base.filter (·.scheme == scheme)
  if scheme == fileScheme then readFile kin cs
  else if isSpecial scheme then
    let slashes := (cs.takeWhile isSlash).length
    match kin with
    | some b =>
      if slashes < 2 then relative b cs else readAuthority scheme (cs.drop slashes)
    | none => readAuthority scheme (cs.drop slashes)
  else match cs with
    | '/' :: '/' :: rest => readAuthority scheme rest
    | '/' :: rest => .ok (finish scheme none [""] rest)
    | _ =>
      let (query, fragment) := tails scheme (cs.dropWhile (!endsPath ·))
      let path := Percent.encode Percent.isControl (cs.takeWhile (!endsPath ·))
      .ok ⟨scheme, none, .flat path, query, fragment⟩

/-- The characters of a text that count: control characters and spaces at its ends do not, nor do
tabs and line ends anywhere. -/
def counted (s : String) : List Char :=
  (Text.trimChars (·.toNat ≤ 0x20) s.toList).filter fun c => c ≠ '\t' ∧ c ≠ '\n' ∧ c ≠ '\r'

/-- Read a text as an address, completed from a base if there is one. -/
def read (base : Option Url) (s : String) : Except Fault Url :=
  let cs := counted s
  match scheme? cs, base with
  | some (scheme, rest), _ => readScheme base scheme rest
  | none, none => .error .noBase
  | none, some b =>
    if cs.head? = some '#' then .ok (withTails b cs)
    else match b.path with
      | .flat _ => .error .opaqueBase
      | .segments _ => if b.scheme == fileScheme then readFile (some b) cs else relative b cs

/-- Read a text as an address of its own. -/
def parse (s : String) : Except Fault Url := read none s

/-- Complete a reference from a base. -/
def join (base : Url) (reference : String) : Except Fault Url := read (some base) reference

end Walkthrough.Url
