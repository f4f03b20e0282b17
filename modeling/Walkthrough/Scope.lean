import Walkthrough.Error

/-!
# Scopes

The variables of a run: base values, a stack of frames, one for every open container, and the number
of completed requests, which every open frame shows under the name `index` unless it binds that name
itself. A scope is a view of a context, perhaps with one more frame laid over the innermost. Looking a
name up (`Scope.lookup`) and listing all that is visible (`Scope.visible`) are defined independently.
-/

namespace Walkthrough

/-- The bindings of one open container. -/
abbrev Frame := Bindings Json

/-- The name of the number of completed requests. -/
def indexName : String := "index"

/-- An answer, and the undefined names that were recorded on the way to it. -/
structure Answer (α : Type) where
  result : Except Error α
  missing : List String

/-- An answer without recorded names. -/
def Answer.plain {α : Type} (result : Except Error α) : Answer α := ⟨result, []⟩

/-- The variables of a run. Frames are listed from the innermost; a tolerant context records undefined
names, in order, and takes them for null. -/
structure Context where
  values : Bindings Json
  frames : List Frame
  completed : Nat
  tolerant : Bool
  missing : List String

namespace Context

/-- A context in which undefined names are errors. -/
def strict (values : Bindings Json) : Context := ⟨values, [], 0, false, []⟩

/-- A context in which undefined names are recorded. -/
def recording (values : Bindings Json) : Context := ⟨values, [], 0, true, []⟩

/-- Open a frame. -/
def push (c : Context) (f : Frame) : Context := { c with frames := f :: c.frames }

/-- Close the innermost frame. -/
def pop (c : Context) : Context := { c with frames := c.frames.tail }

/-- Bind a name in the innermost frame; without any, one is opened. -/
def setLocal (c : Context) (name : String) (value : Json) : Context :=
  match c.frames with
  | [] => { c with frames := [Bindings.empty.insert name value] }
  | f :: rest => { c with frames := f.insert name value :: rest }

/-- One more request is completed. -/
def recordCompleted (c : Context) : Context := { c with completed := c.completed + 1 }

/-- Put a name into sorted names. -/
def insertName (name : String) : List String → List String
  | [] => [name]
  | n :: rest =>
    if name < n then name :: n :: rest
    else if name = n then n :: rest
    else n :: insertName name rest

theorem insertName_ne_nil (name : String) (names : List String) : insertName name names ≠ [] := by
  cases names with
  | nil => simp [insertName]
  | cons n rest =>
    unfold insertName
    repeat' split
    all_goals simp

/-- Record an undefined name. -/
def record (c : Context) (name : String) : Context :=
  { c with missing := insertName name c.missing }

/-- Record several undefined names. -/
def recordAll (c : Context) (names : List String) : Context := names.foldl record c

/-- How many frames are open. -/
def depth (c : Context) : Nat := c.frames.length

end Context

/-- Search frames from the innermost. The first frame that does not bind `index` answers it with the
number of completed requests. -/
def lookupFrames (name : String) (completed : Nat) : List Frame → Option Json
  | [] => none
  | f :: rest =>
    match f.find? name with
    | some v => some v
    | none => if name = indexName then some (Json.ofNat completed) else lookupFrames name completed rest

/-- A view of a context, perhaps with one more frame over the innermost. -/
structure Scope where
  context : Context
  overlay : Option Frame

/-- The view of a context. -/
def Context.scope (c : Context) : Scope := ⟨c, none⟩

/-- The view of a context with one more frame. -/
def Context.scopeWith (c : Context) (overlay : Frame) : Scope := ⟨c, some overlay⟩

namespace Scope

/-- Undefined names are recorded. -/
def isTolerant (s : Scope) : Bool := s.context.tolerant

/-- The value of a name: from the overlay, the frames, or the base values. -/
def lookup (s : Scope) (name : String) : Option Json :=
  match s.overlay.bind (·.find? name) with
  | some v => some v
  | none => (lookupFrames name s.context.completed s.context.frames).or (s.context.values.find? name)

/-- The value of a name, or what an undefined name means here. -/
def resolve (s : Scope) (name : String) : Answer Json :=
  match s.lookup name with
  | some v => ⟨.ok v, []⟩
  | none =>
    if s.isTolerant then ⟨.ok .null, [name]⟩
    else ⟨.error (.expression (.undefined name none)), []⟩

/-- Every visible binding, inner ones over outer ones: base values first, then the frames from the
outermost, the number of completed requests and the overlay. -/
def visible (s : Scope) : Bindings Json :=
  let framed := s.context.frames.foldr (fun f b => b.extend f) s.context.values
  let counted := match s.context.frames with
    | [] => framed
    | f :: _ =>
      if f.contains indexName then framed
      else framed.insert indexName (Json.ofNat s.context.completed)
  match s.overlay with
  | none => counted
  | some f => counted.extend f

end Scope

end Walkthrough
