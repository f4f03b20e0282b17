import Std.Time.Format
import Walkthrough.CommandLine.Execution
import Walkthrough.Identifier

/-!
# The program

Gathers what a command works with (environment variables, the files below the working directory, a
seed and the time), carries it out without a network, and prints what it leaves behind.
-/

namespace Walkthrough.Program

open CommandLine

/-- The variables of a text in which each ends with a null character. -/
def variablesOf (text : String) : List (String × String) :=
  (text.splitOn "\x00").filterMap fun entry =>
    let cs := entry.toList
    if cs.contains '=' then
      some (String.ofList (cs.takeWhile (· ≠ '=')), String.ofList ((cs.dropWhile (· ≠ '=')).drop 1))
    else none

/-- The environment variables. -/
def environment : IO (List (String × String)) := do
  let bytes ← IO.FS.readBinFile "/proc/self/environ"
  return (String.fromUTF8? bytes).elim [] variablesOf

/-- The files at an entry of a directory, which is named by its path. What cannot be read is left
out. -/
partial def filesAt (path : String) (e : IO.FS.DirEntry) : IO (List (String × List UInt8)) := do
  try
    if ← e.path.isDir then
      let entries ← e.path.readDir
      return (← entries.toList.mapM fun f => filesAt s!"{path}/{f.fileName}" f).flatten
    else return [(path, (← IO.FS.readBinFile e.path).toList)]
  catch _ => return []

/-- The files below the working directory. -/
def filesHere : IO (List (String × List UInt8)) := do
  let entries ← (← IO.currentDir).readDir
  return (← entries.toList.mapM fun e => filesAt e.fileName e).flatten

/-- A number with zeros before it. -/
def padded (width : Nat) (n : Int) : String :=
  let digits := toString n
  String.ofList (List.replicate (width - digits.length) '0') ++ digits

/-- The time now. -/
def now : IO String := do
  let t := Std.Time.DateTime.ofTimestampWithZone (← Std.Time.Timestamp.now) Std.Time.TimeZone.UTC
  return s!"{padded 4 t.year.toInt}-{padded 2 t.month.val}-{padded 2 t.day.val}T"
    ++ s!"{padded 2 t.hour.val}:{padded 2 t.minute.val}:{padded 2 t.second.val}Z"

/-- The host. Of its files those below the working directory are known; `debug` shows nothing. -/
def hostHere : IO Host := do
  let directory := (Host.partsOf (← IO.currentDir).toString).tail
  return { environment := ← environment, files := ← filesHere, directory }

/-- What a command works with. -/
def surroundings : IO Surroundings := do
  let seed := UInt64.ofNat (← IO.rand 0 (18446744073709551616 - 1))
  return ⟨← hostHere, Identifier.fresh seed, Transport.offline, ⟨← now, 0⟩⟩

/-- Print lines of an error; the exit status. -/
def failed (lines : List String) : IO UInt32 := do
  (← IO.getStderr).putStr (textOf lines)
  return 1

/-- Carry out a command; the exit status. -/
def carryOut (inv : Invocation) : IO UInt32 := do
  let around ← surroundings
  match Settings.ofEnvironment around.host.environment with
  | .error fault => failed [s!"Error: {fault.message}"]
  | .ok settings =>
    match execute around settings inv with
    | .error failure => failed (failure.messages.map fun m => s!"Error: {m}")
    | .ok (.error _) => failed ["Error: a scenario does not end"]
    | .ok (.ok output) =>
      IO.print output.text
      return UInt32.ofNat output.exit

/-- Carry out a command line; the exit status. -/
def run (words : List String) : IO UInt32 := do
  match CommandLine.read words with
  | .ok inv => carryOut inv
  | .error refusal =>
    let stream ← if refusal.exit = 0 then IO.getStdout else IO.getStderr
    stream.putStr (textOf [refusal.message])
    return UInt32.ofNat refusal.exit

end Walkthrough.Program

/-- The program: words on the command line in, the exit status out. -/
def main (words : List String) : IO UInt32 := Walkthrough.Program.run words
