/-!
# Addresses

An address: a scheme, perhaps an authority, a path, perhaps a query and a fragment. A path is a list of
segments or, for schemes that know no hierarchy, a text. All parts are kept as they are written.
-/

namespace Walkthrough

/-- Who serves an address. Credentials are empty if there are none. -/
structure Url.Authority where
  credentials : String
  host : String
  port : Option Nat

/-- The path of an address. -/
inductive Url.Path where
  | segments (parts : List String)
  | flat (text : String)

/-- An address. -/
structure Url where
  scheme : String
  authority : Option Url.Authority
  path : Url.Path
  query : Option String
  fragment : Option String

namespace Url

/-- The schemes of the web, and their ports. -/
def defaultPort? (scheme : String) : Option Nat :=
  [("http", 80), ("ws", 80), ("https", 443), ("wss", 443), ("ftp", 21)].lookup scheme

/-- The scheme of files. -/
def fileScheme : String := "file"

/-- The scheme has a hierarchy of hosts and paths in which a backslash is a slash. -/
def isSpecial (scheme : String) : Bool := (defaultPort? scheme).isSome || scheme == fileScheme

/-- The text of an authority. -/
def Authority.text (a : Authority) : String :=
  "//" ++ (if a.credentials.isEmpty then "" else a.credentials ++ "@") ++ a.host
    ++ match a.port with
      | some port => s!":{port}"
      | none => ""

/-- The text of a path: every segment after a slash. -/
def Path.text : Path → String
  | .segments parts => String.join (parts.map ("/" ++ ·))
  | .flat text => text

/-- Without an authority, a path must not look as if it began with one. -/
def Path.guarded : Path → String
  | .segments ("" :: part :: rest) => "/." ++ Path.text (.segments ("" :: part :: rest))
  | path => path.text

/-- The text of an address. -/
def text (u : Url) : String :=
  u.scheme ++ ":"
    ++ (match u.authority with
      | some a => a.text ++ u.path.text
      | none => u.path.guarded)
    ++ (match u.query with
      | some q => "?" ++ q
      | none => "")
    ++ match u.fragment with
      | some f => "#" ++ f
      | none => ""

end Url

end Walkthrough
