import Walkthrough.Settings

/-!
# The command line

What the words after the program's name ask for. `CommandLine.read` reads them from left to right: switches
before the command, the command, then its switches and files in any order. The value of a switch and the
files are judged when the next switch, or the end, shows that they are complete; so of two faults the
one that shows first is told.
-/

namespace Walkthrough.CommandLine

/-- What is to be done with the files. -/
inductive Command where
  | run
  | validate
  deriving DecidableEq

/-- The name of a command. -/
def Command.name : Command → String
  | .run => "run"
  | .validate => "validate"

/-- The command of a name. -/
def Command.ofName? (name : String) : Option Command :=
  [Command.run, .validate].find? fun c => c.name == name

/-- What a command line asks for. Endpoint and concurrency are asked of `run` only. -/
structure Invocation where
  command : Command
  files : List String
  endpoint : Option String
  concurrency : Option Nat
  /-- Variables, each a key and a value. -/
  overrides : List String
  restricted : Bool
  json : Bool
  logJson : Bool

/-! ## Switches -/

/-- A switch of the program or of a command. -/
inductive Switch where
  | endpoint
  | concurrency
  | set
  | restricted
  | json
  | logJson
  | help
  | version
  deriving DecidableEq

namespace Switch

/-- The name after two dashes. -/
def long : Switch → String
  | .endpoint => "endpoint"
  | .concurrency => "concurrency"
  | .set => "set"
  | .restricted => "restricted"
  | .json => "json"
  | .logJson => "log-json"
  | .help => "help"
  | .version => "version"

/-- The letter after one dash. -/
def short? : Switch → Option Char
  | .endpoint => some 'e'
  | .concurrency => some 'c'
  | .json => some 'j'
  | .help => some 'h'
  | .version => some 'V'
  | .set | .restricted | .logJson => none

/-- The switch has a value. -/
def takesValue : Switch → Bool
  | .endpoint | .concurrency | .set => true
  | _ => false

/-- The switch may be given more than once. -/
def repeats : Switch → Bool
  | .set => true
  | _ => false

/-- The switches of a command or, without one, of the program. -/
def allOf : Option Command → List Switch
  | none => [.logJson, .help, .version]
  | some .run => [.endpoint, .concurrency, .set, .restricted, .json, .logJson, .help]
  | some .validate => [.set, .restricted, .json, .logJson, .help]

end Switch

/-! ## Why a command line is not carried out -/

/-- Why there is nothing to carry out: help or the version was asked for, or the line is wrong. -/
inductive Refusal where
  | help
  | version
  /-- There is nothing on the line. -/
  | nothingAsked
  | noCommand
  | unknownCommand (word : String)
  | unknownArgument (word : String)
  /-- A switch without a value was given one. -/
  | needlessValue (switch : Switch)
  | repeated (switch : Switch)
  | noValue (switch : Switch)
  | badNumber (switch : Switch) (fault : Text.NumberFault)
  | emptyFile
  | noFiles
  deriving DecidableEq

/-- The exit status: it is no failure to have asked for help or the version. -/
def Refusal.exit : Refusal → Nat
  | .help | .version => 0
  | _ => 2

/-- How the program is called. -/
def usage : String := "Usage: scenario [--log-json] <run|validate> [switches] <files>"

/-- What is said of a refusal. -/
def Refusal.message : Refusal → String
  | .help | .nothingAsked => usage
  | .version => "scenario 0.3.0"
  | .noCommand => "error: a command is needed"
  | .unknownCommand word => s!"error: unrecognized command '{word}'"
  | .unknownArgument word => s!"error: unexpected argument '{word}'"
  | .needlessValue s => s!"error: '--{s.long}' takes no value"
  | .repeated s => s!"error: '--{s.long}' cannot be used more than once"
  | .noValue s => s!"error: '--{s.long}' needs a value"
  | .badNumber s fault => s!"error: invalid value for '--{s.long}': {fault.message}"
  | .emptyFile => "error: the name of a file is empty"
  | .noFiles => "error: no files are given"

/-! ## Words -/

/-- A word of a command line. -/
inductive Word where
  /-- Two dashes: all words after it are files. -/
  | divider
  | long (name : String) (value : Option String)
  /-- Letters of switches after one dash; a value may follow the last. -/
  | letters (letters : List Char)
  | plain (text : String)
  deriving DecidableEq

/-- What a word is. -/
def Word.ofString (s : String) : Word :=
  match s.toList with
  | ['-', '-'] => .divider
  | '-' :: '-' :: cs =>
    let name := String.ofList (cs.takeWhile (· ≠ '='))
    match cs.dropWhile (· ≠ '=') with
    | [] => .long name none
    | _ :: value => .long name (some (String.ofList value))
  | '-' :: c :: cs => .letters (c :: cs)
  | _ => .plain s

/-! ## Reading -/

/-- What has been read but may go on. -/
inductive Pending where
  | nothing
  | value (switch : Switch) (text : Option String)
  | files (paths : List String)

/-- What has been read of a line. -/
structure Draft where
  /-- The switches in order, with their values. -/
  given : List (Switch × String)
  files : List String
  pending : Pending

namespace Draft

/-- Nothing has been read. -/
def empty : Draft := ⟨[], [], .nothing⟩

/-- The switch was given. -/
def has (d : Draft) (s : Switch) : Bool := d.given.any fun g => g.1 == s

/-- The values given to a switch, in order. -/
def values (d : Draft) (s : Switch) : List String := (d.given.filter fun g => g.1 == s).map Prod.snd

/-- Take a switch with its value, which is empty if the switch has none. -/
def take (d : Draft) (s : Switch) (value : String) : Except Refusal Draft :=
  let taken : Draft := { d with given := d.given ++ [(s, value)] }
  if s = .help then .error .help
  else if s = .version then .error .version
  else if d.has s && !s.repeats then .error (.repeated s)
  else if s = .concurrency then
    match Text.natBelow Settings.wordBound value with
    | .ok _ => .ok taken
    | .error fault => .error (.badNumber s fault)
  else .ok taken

/-- What may go on is complete. -/
def settle (d : Draft) : Except Refusal Draft :=
  let settled : Draft := { d with pending := .nothing }
  match d.pending with
  | .nothing => .ok settled
  | .value s none => .error (.noValue s)
  | .value s (some text) => settled.take s text
  | .files paths =>
    if paths.any String.isEmpty then .error .emptyFile
    else .ok { settled with files := d.files ++ paths }

/-- Read a file. -/
def addFile (d : Draft) (path : String) : Except Refusal Draft :=
  match d.pending with
  | .files paths => .ok { d with pending := .files (paths ++ [path]) }
  | _ => d.settle.map fun d => { d with pending := .files [path] }

/-- Read a word that is no switch: the value of the switch before it, or a file. -/
def addPlain (d : Draft) (text : String) : Except Refusal Draft :=
  match d.pending with
  | .value s none => .ok { d with pending := .value s (some text) }
  | _ => d.addFile text

/-- Read a switch whose value is not attached to it. -/
def addSwitch (d : Draft) (s : Switch) : Except Refusal Draft :=
  match d.settle with
  | .error refusal => .error refusal
  | .ok d => if s.takesValue then .ok { d with pending := .value s none } else d.take s ""

/-- Read a switch with a value attached to it. -/
def addAttached (d : Draft) (s : Switch) (value : String) : Except Refusal Draft :=
  if s.takesValue then d.settle.bind fun d => d.take s value else .error (.needlessValue s)

/-- Read a name after two dashes. -/
def addLong (d : Draft) (allowed : List Switch) (name : String) (value : Option String) :
    Except Refusal Draft :=
  match allowed.find? fun s => s.long == name, value with
  | none, _ => .error (.unknownArgument name)
  | some s, none => d.addSwitch s
  | some s, some value => d.addAttached s value

/-- Read letters after one dash. What follows the letter of a switch with a value is that value, an
equals sign before it aside. -/
def addLetters (allowed : List Switch) : Draft → List Char → Except Refusal Draft
  | d, [] => .ok d
  | d, c :: rest =>
    match allowed.find? fun s => s.short? == some c with
    | none => .error (.unknownArgument (String.ofList [c]))
    | some s =>
      if s.takesValue then
        match rest with
        | [] => d.addSwitch s
        | '=' :: value => d.addAttached s (String.ofList value)
        | value => d.addAttached s (String.ofList value)
      else
        match d.addSwitch s with
        | .ok d => addLetters allowed d rest
        | .error refusal => .error refusal

/-- Read the words after a command. -/
def addWords (allowed : List Switch) : Draft → List String → Except Refusal Draft
  | d, [] => d.settle
  | d, word :: rest =>
    match Word.ofString word with
    | .divider => (rest.foldlM addFile d).bind settle
    | .long name value => (d.addLong allowed name value).bind (addWords allowed · rest)
    | .letters cs => (addLetters allowed d cs).bind (addWords allowed · rest)
    | .plain text => (d.addPlain text).bind (addWords allowed · rest)

/-- What a complete line asks for. -/
def invocation (d : Draft) (command : Command) (logJson : Bool) : Except Refusal Invocation :=
  if d.files.isEmpty then .error .noFiles
  else .ok {
    command
    files := d.files
    endpoint := (d.values .endpoint).head?
    concurrency := (d.values .concurrency).head?.bind fun text =>
      (Text.natBelow Settings.wordBound text).toOption
    overrides := d.values .set
    restricted := d.has .restricted
    json := d.has .json
    logJson := logJson || d.has .logJson }

end Draft

/-- The word that asks for help on a command. -/
def helpWord : String := "help"

/-- The word is a command, or asks for help. -/
def isCommandWord (word : String) : Bool := (Command.ofName? word).isSome || word == helpWord

/-- What is refused after the word that asks for help, which may go on with one command. -/
def helpOn : List String → Refusal
  | [] => .help
  | [word] => if isCommandWord word then .help else .unknownCommand word
  | word :: next :: _ => .unknownCommand (if isCommandWord word then next else word)

/-- What is refused where there is no command. -/
def withoutCommand (d : Draft) : Refusal := if d.given.isEmpty then .nothingAsked else .noCommand

/-- Read the words before a command and the command. -/
def readFrom : Draft → List String → Except Refusal Invocation
  | d, [] => .error (withoutCommand d)
  | d, word :: rest =>
    match Word.ofString word with
    | .divider => .error (match rest with
      | [] => withoutCommand d
      | next :: _ => if isCommandWord next then .unknownArgument next else .unknownCommand next)
    | .long name value => (d.addLong (Switch.allOf none) name value).bind (readFrom · rest)
    | .letters cs => (Draft.addLetters (Switch.allOf none) d cs).bind (readFrom · rest)
    | .plain text =>
      match Command.ofName? text with
      | some command =>
        (Draft.addWords (Switch.allOf (some command)) .empty rest).bind fun read =>
          read.invocation command (d.has .logJson)
      | none => .error (if text = helpWord then helpOn rest else .unknownCommand text)

/-- Read a command line. -/
def read (words : List String) : Except Refusal Invocation := readFrom .empty words

end Walkthrough.CommandLine
