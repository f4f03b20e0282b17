import Walkthrough.Converter
import Walkthrough.Proofs.Merging
import Walkthrough.Template.Evaluator

/-!
# What scopes show

Scopes that show the same (`Scope.Alike`) are not told apart by an evaluator that looks at nothing else
(`Evaluator.Observant`), as those of names and of the expression language. The number of completed requests
shows under its own name only (`lookup_counted`). A frame that binds nothing shows the same laid over the
frames and open among them, except for that number: an open frame shows it, and a frame that is laid over
them leaves it to the innermost (`alike_fresh_iff`).
-/

namespace Walkthrough

/-- Two scopes show the same. -/
structure Scope.Alike (s s' : Scope) : Prop where
  lookup : ∀ name, s.lookup name = s'.lookup name
  visible : s.visible = s'.visible
  tolerant : s.isTolerant = s'.isTolerant

/-- An evaluator looks at nothing of a scope but what it shows. -/
def Evaluator.Observant (ev : Evaluator) : Prop :=
  ∀ e s s', Scope.Alike s s' → ev.evaluate e s = ev.evaluate e s' ∧ ev.condition e s = ev.condition e s'

theorem Evaluator.Observant.holds {ev : Evaluator} (h : ev.Observant) {s s' : Scope} (halike : s.Alike s')
    (e : String) : ev.holds e s = ev.holds e s' := congrArg Answer.result (h e s s' halike).2

theorem names_observant : Evaluator.names.Observant := by
  intro e s s' halike
  have hresolve : s.resolve e = s'.resolve e := by
    unfold Scope.resolve
    rw [halike.lookup, halike.tolerant]
  constructor
  · exact hresolve
  · simp only [Evaluator.names, Evaluator.ofEvaluate, hresolve]

theorem template_observant (restricted : Bool) (host : Host) :
    (Template.evaluator restricted host).Observant := by
  intro e s s' halike
  have hvalue : Template.valueOf restricted host e s = Template.valueOf restricted host e s' := by
    unfold Template.valueOf
    rw [halike.visible, halike.tolerant]
  constructor <;> simp only [Template.evaluator, hvalue]

/-! ## Looking names up -/

section

variable {c : Context} {f : Frame} {frames : List Frame} {name : String}

theorem lookupFrames_of_ne (hname : name ≠ indexName) (m n : Nat) (frames : List Frame) :
    lookupFrames name m frames = lookupFrames name n frames := by
  induction frames with
  | nil => rfl
  | cons f frames ih => simp only [lookupFrames, if_neg hname, ih]

/-- How many requests are completed shows under one name only. -/
theorem lookup_counted (hname : name ≠ indexName) (completed : Nat) :
    ({ c with completed } : Context).scope.lookup name = c.scope.lookup name := by
  simp only [Scope.lookup, Context.scope, lookupFrames_of_ne hname completed c.completed]

/-- A frame that does not bind a name shows what is around it. -/
theorem lookup_push (hname : name ≠ indexName) (hfree : f.find? name = none) :
    (c.push f).scope.lookup name = c.scope.lookup name := by
  simp only [Scope.lookup, Context.scope, Context.push, lookupFrames, hfree, if_neg hname]

/-- The search for the number of completed requests ends at the innermost frame. -/
theorem lookupFrames_index (completed : Nat) (f : Frame) (frames : List Frame) :
    lookupFrames indexName completed (f :: frames) =
      some ((f.find? indexName).getD (Json.ofNat completed)) := by
  rw [lookupFrames]
  cases f.find? indexName with
  | some v => rw [Option.getD_some]
  | none => rw [Option.getD_none, if_pos rfl]

/-- The innermost frame shows the number of completed requests unless it binds its name. -/
theorem lookup_index (h : c.frames = f :: frames) :
    c.scope.lookup indexName = some ((f.find? indexName).getD (Json.ofNat c.completed)) := by
  simp only [Scope.lookup, Context.scope, h, lookupFrames_index, Option.bind_none, Option.some_or]

theorem lookup_fresh (c : Context) :
    (c.push .empty).scope.lookup indexName = some (Json.ofNat c.completed) := by
  have hframes : (c.push .empty).frames = .empty :: c.frames := rfl
  have hcompleted : (c.push .empty).completed = c.completed := rfl
  rw [lookup_index hframes, hcompleted, Bindings.find?_empty, Option.getD_none]

/-- A frame that binds nothing leaves every name to the frames that it is laid over. -/
theorem lookup_overlay : (c.scopeWith .empty).lookup name = c.scope.lookup name := rfl

end

/-! ## All that is visible -/

theorem insert_eq_self {α : Type} {b : Bindings α} {name : String} {v : α} (h : b.find? name = some v) :
    b.insert name v = b := by
  have hentries : ∀ es : List (String × α), Bindings.findEntry name es = some v →
      Bindings.insertEntry name v es = es := by
    intro es hes
    induction es with
    | nil => exact absurd hes (by simp [Bindings.findEntry])
    | cons e es ih =>
      obtain ⟨k, w⟩ := e
      unfold Bindings.findEntry at hes
      unfold Bindings.insertEntry
      split at hes
      · next hk =>
        obtain rfl := Option.some.inj hes
        rw [if_pos hk]
      · next hk => rw [if_neg hk, ih hes]
  exact Bindings.ext (hentries b.entries h)

/-- All that the base values and the frames bind. -/
def Context.bound (c : Context) : Bindings Json := c.frames.foldr (fun f b => b.extend f) c.values

theorem find?_bound {c : Context} {f : Frame} {frames : List Frame} (h : c.frames = f :: frames)
    {name : String} {v : Json} (hv : f.find? name = some v) : c.bound.find? name = some v := by
  unfold Context.bound
  rw [h, List.foldr_cons, Bindings.find?_extend, hv]
  rfl

/-- An open frame that binds nothing shows all that is bound, and the number of completed requests. -/
theorem visible_fresh (c : Context) :
    (c.push .empty).scope.visible = c.bound.insert indexName (Json.ofNat c.completed) := rfl

/-- A frame that binds nothing and is laid over the innermost shows that number unless the innermost binds
its name. -/
theorem visible_overlay {c : Context} {f : Frame} {frames : List Frame} (h : c.frames = f :: frames) :
    (c.scopeWith .empty).visible =
      if f.contains indexName then c.bound
      else c.bound.insert indexName (Json.ofNat c.completed) := by
  unfold Scope.visible Context.scopeWith Context.bound
  simp only [h]
  rfl

/-- A frame that binds nothing shows the same laid over the innermost and open among the frames, exactly if
the innermost shows the number of completed requests under its name. -/
theorem alike_fresh_iff {c : Context} {f : Frame} {frames : List Frame} (h : c.frames = f :: frames) :
    (c.scopeWith .empty).Alike (c.push .empty).scope ↔
      (f.find? indexName).getD (Json.ofNat c.completed) = Json.ofNat c.completed := by
  constructor
  · intro halike
    have hlookup := halike.lookup indexName
    rw [lookup_overlay, lookup_index h, lookup_fresh] at hlookup
    exact Option.some.inj hlookup
  · intro hindex
    refine ⟨?_, ?_, rfl⟩
    · intro name
      rw [lookup_overlay]
      by_cases hname : name = indexName
      · rw [hname, lookup_index h, lookup_fresh, hindex]
      · rw [lookup_push hname rfl]
    · rw [visible_overlay h, visible_fresh]
      by_cases hcontains : f.contains indexName = true
      · obtain ⟨v, hv⟩ := Option.isSome_iff_exists.1 hcontains
        rw [hv, Option.getD_some] at hindex
        rw [if_pos hcontains, ← hindex, insert_eq_self (find?_bound h hv)]
      · rw [if_neg hcontains]

end Walkthrough
