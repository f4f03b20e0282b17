import Walkthrough.Bindings
import Walkthrough.Json.Reader
import Walkthrough.Text.Case

/-!
# Overriding variables from the command line

Variables written as `KEY=VALUE`. A value that is JSON keeps its type, anything else is a string.
-/

namespace Walkthrough

/-- Why a text is no variable. -/
inductive OverrideFault where
  | noEquals (text : String)
  | emptyKey (text : String)
  deriving DecidableEq

/-- What is said of a fault. -/
def OverrideFault.message : OverrideFault → String
  | .noEquals text => s!"Invalid variable format '{text}', expected KEY=VALUE"
  | .emptyKey text => s!"Invalid variable format '{text}', empty key"

/-- The value that a text writes. -/
def overrideValue (raw : String) : Json :=
  match Json.read raw with
  | .ok v => v.canonical
  | .error _ => .string raw

/-- One variable. -/
def overrideOf (text : String) : Except OverrideFault (String × Json) :=
  let cs := text.toList
  match cs.dropWhile (· ≠ '=') with
  | [] => .error (.noEquals text)
  | _ :: raw =>
    let key := Text.trim (String.ofList (cs.takeWhile (· ≠ '=')))
    if key.isEmpty then .error (.emptyKey text)
    else .ok (key, overrideValue (String.ofList raw))

/-- Variables in order; a later one replaces the value of an earlier one of the same name. -/
def overrides (texts : List String) : Except OverrideFault (Bindings Json) :=
  (texts.mapM overrideOf).map Bindings.ofList

end Walkthrough
