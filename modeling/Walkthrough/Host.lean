import Walkthrough.Bindings
import Walkthrough.Template.Value
import Walkthrough.Text.Parts
import Walkthrough.Text.Utf8

/-!
# The host

What expressions and commands can see of the world around them: environment variables, the files of a tree
in which the program has a working directory, and the way in which the program shows its own state. All but
the last is plain data.
-/

namespace Walkthrough

/-- What is shown of the visible variables, or of the arguments if there are any, to whoever debugs an
expression. Variables are shown in the order of a table whose order is drawn anew by the host, so that nothing
is known of it. -/
abbrev Dump := Bindings Json → List Template.Value → String

/-- Environment variables, files and a working directory, which is given as the names that lead to it from the
root. The name of a file is its path, with slashes between the parts: from the root if it begins with one, and
otherwise from the working directory. -/
structure Host where
  environment : List (String × String)
  files : List (String × List UInt8)
  directory : List String := ["work"]
  dump : Dump := fun _ _ => ""

namespace Host

/-- A host without variables and files. -/
def empty : Host := { environment := [], files := [] }

/-- The value of an environment variable. No variable has an empty name or one with an equals
sign. -/
def environmentValue? (h : Host) (name : String) : Option String :=
  if name.isEmpty || name.toList.contains '=' || name.toList.contains '\x00' then none
  else h.environment.lookup name

/-- A path begins at the root. -/
def isAbsolute (path : String) : Bool := path.startsWith "/"

/-- The parts of a path. -/
def partsOf (path : String) : List String := (Text.partsAt '/' path.toList).map String.ofList

/-- The names that lead from the root to a file. -/
def placeOf (h : Host) (name : String) : List String :=
  if isAbsolute name then (partsOf name).tail else h.directory ++ partsOf name

/-- What stands at a place in the tree of files. -/
inductive Entry where
  | folder
  | file (content : List UInt8)

/-- What stands at a place, given as the names that lead to it from the root. The folders are those in which
there is a file or the working directory. -/
def entry? (h : Host) (place : List String) : Option Entry :=
  match h.files.find? fun f => h.placeOf f.1 == place with
  | some f => some (.file f.2)
  | none =>
    if place.isPrefixOf h.directory ∨ h.files.any fun f => place.isPrefixOf (h.placeOf f.1) then
      some .folder
    else none

/-- Why a file cannot be read. -/
inductive ReadFault where
  | missing | folder | notFolder | longName | notText | nulByte
  deriving DecidableEq

/-- What is said of a fault. -/
def ReadFault.message : ReadFault → String
  | .missing => "No such file or directory (os error 2)"
  | .folder => "Is a directory (os error 21)"
  | .notFolder => "Not a directory (os error 20)"
  | .longName => "File name too long (os error 36)"
  | .notText => "stream did not contain valid UTF-8"
  | .nulByte => "file name contained an unexpected NUL byte"

/-- How many bytes a name may have. -/
def maxName : Nat := 255

/-- A path has fewer bytes than this. -/
def pathLimit : Nat := 4096

/-- Follow the parts of a path from a place; two dots lead to the folder around it, and from the root to the
root. -/
def walk (h : Host) (place : List String) : List String → Except ReadFault (List String)
  | [] => .ok place
  | part :: rest =>
    match h.entry? place with
    | none => .error .missing
    | some (.file _) => .error .notFolder
    | some .folder =>
      if part = "" ∨ part = "." then walk h place rest
      else if part = ".." then walk h place.dropLast rest
      else if maxName < part.utf8ByteSize then .error .longName
      else walk h (place ++ [part]) rest

/-- The text of a file. -/
def readText (h : Host) (path : String) : Except ReadFault String :=
  if path.toList.contains '\x00' then .error .nulByte
  else if path.isEmpty then .error .missing
  else if pathLimit ≤ path.utf8ByteSize then .error .longName
  else
    match h.walk (if isAbsolute path then [] else h.directory) (partsOf path) with
    | .error fault => .error fault
    | .ok place => match h.entry? place with
      | none => .error .missing
      | some .folder => .error .folder
      | some (.file bytes) => match Text.decodeUtf8 bytes with
        | .ok s => .ok s
        | .error _ => .error .notText

end Host

end Walkthrough
