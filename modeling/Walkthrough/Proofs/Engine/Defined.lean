import Walkthrough.Proofs.Engine.Call
import Walkthrough.Proofs.Validation.Resolves
import Walkthrough.RequestMaker

/-!
# Names are defined when a run needs them

Runs in which expressions are names. What is left of every open chain resolves among the names that its
frame and those around it bind (`Defined`). Every turn keeps it so, or ends the run for another reason
than an expression without a value (`Defined.turned`).
-/

namespace Walkthrough.Engine

/-- The setup of a graph in which expressions are names. -/
def namesSetup (g : Graph) (m : RequestMaker) (limit : Nat) : Setup Request Response :=
  ⟨g, .names, m.converter, limit⟩

/-- A container of this kind can begin its chain anew, given the names that are bound around it. -/
def Restarts (g : Graph) (outer : Set String) : Action → Prop
  | .each _ key value child =>
    ∃ script, g.Reads child script ∧ script.Resolves (outer ∪ {key, value})
  | .repeated condition child =>
    condition ∈ outer ∧ ∃ script, g.Reads child script ∧ script.Resolves outer
  | _ => True

/-- The container at a place can begin its chain anew. -/
def Again (g : Graph) (outer : Set String) (place : Nat) : Prop :=
  ∀ s, g.step? place = some s → Restarts g outer s.action

theorem again_of_step {g : Graph} {outer : Set String} {p : Nat} {s : Step} (hs : g.step? p = some s)
    (h : Restarts g outer s.action) : Again g outer p := by
  intro s' hs'
  obtain rfl : s = s' := Option.some.inj (hs.symm.trans hs')
  exact h

/-- What is left of every chain resolves among the names that its frame and those around it bind. -/
def Covers (g : Graph) (values : Bindings Json) : List Cursor → List Frame → Prop
  | [], [] => True
  | c :: cursors, f :: frames =>
    (∃ script, g.Reads c.position script ∧ script.Resolves (Bound values (f :: frames))) ∧
      (∀ k, c.container = some k → Again g (Bound values frames) k.place) ∧
        Covers g values cursors frames
  | _, _ => False

/-- The names that a run needs are bound. -/
structure Defined {Req Res : Type} (g : Graph) (values : Bindings Json) (r : Run Req Res) : Prop where
  base : r.context.values = values
  covers : Covers g values r.cursors r.context.frames

section

variable {Req Res : Type} {g : Graph} {values : Bindings Json} {r : Run Req Res}

/-! ## What the operations of a run keep -/

theorem Covers.cons {c : Cursor} {cursors : List Cursor} {frames : List Frame}
    (h : Covers g values (c :: cursors) frames) : ∃ f outer, frames = f :: outer := by
  cases frames with
  | nil => exact absurd h (by simp [Covers])
  | cons f outer => exact ⟨f, outer, rfl⟩

theorem Defined.open (h : Defined g values r) (hcursors : r.cursors ≠ []) :
    r.context.frames ≠ [] := by
  obtain ⟨c, cursors, hcons⟩ := List.exists_cons_of_ne_nil hcursors
  have hcovers := h.covers
  rw [hcons] at hcovers
  obtain ⟨f, outer, hframes⟩ := hcovers.cons
  rw [hframes]
  simp

theorem Defined.moveTo (h : Defined g values r) {next : Option Nat} {script : Script}
    (hreads : g.Reads next script) (hresolves : script.Resolves (Bound values r.context.frames)) :
    Defined g values (r.moveTo next) := by
  refine ⟨by rw [moveTo_context]; exact h.base, ?_⟩
  have hcovers := h.covers
  rw [moveTo_context]
  cases hcursors : r.cursors with
  | nil =>
      unfold Run.moveTo
      rw [hcursors] at hcovers ⊢
      simp only [hcursors]
      exact hcovers
  | cons c cursors =>
      obtain ⟨position, k⟩ := c
      rw [moveTo_eq hcursors]
      rw [hcursors] at hcovers
      obtain ⟨f, outer, hframes⟩ := hcovers.cons
      rw [hframes] at hcovers hresolves ⊢
      exact ⟨⟨script, hreads, hresolves⟩, hcovers.2⟩

theorem Defined.record (h : Defined g values r) (n : Result.Node) : Defined g values (r.record n) := by
  refine ⟨by rw [record_context]; exact h.base, ?_⟩
  have hcovers := h.covers
  rw [record_context]
  unfold Run.record
  split
  · next position c cursors hcursors =>
    rw [hcursors] at hcovers
    obtain ⟨f, outer, hframes⟩ := hcovers.cons
    rw [hframes] at hcovers ⊢
    refine ⟨hcovers.1, ?_, hcovers.2.2⟩
    intro k hk
    obtain rfl := Option.some.inj hk
    exact hcovers.2.1 c rfl
  · exact hcovers

theorem Defined.openContainer (h : Defined g values r) {head : Option Nat} {script : Script}
    (hreads : g.Reads head script) {f : Frame}
    (hresolves : script.Resolves (Bound values (f :: r.context.frames))) {c : Container}
    (hagain : Again g (Bound values r.context.frames) c.place) :
    Defined g values (r.openContainer head c f) := by
  refine ⟨h.base, ⟨script, hreads, hresolves⟩, ?_, h.covers⟩
  intro k hk
  obtain rfl := Option.some.inj hk
  exact hagain

theorem Defined.close (h : Defined g values r) (hcursors : r.cursors ≠ []) :
    Defined g values r.close := by
  obtain ⟨⟨position, k⟩, cursors, hcons⟩ := List.exists_cons_of_ne_nil hcursors
  have hcovers := h.covers
  rw [hcons] at hcovers
  obtain ⟨f, outer, hframes⟩ := hcovers.cons
  have hclosed : Defined g values { r with context := r.context.pop, cursors := cursors } := by
    rw [hframes] at hcovers
    refine ⟨h.base, ?_⟩
    unfold Context.pop
    rw [hframes]
    exact hcovers.2.2
  unfold Run.close
  rw [hcons]
  cases k with
  | none => exact hclosed
  | some c => exact hclosed.record c.node

/-! ## Entering steps -/

/-- A run that is about to enter a step: the chains that the step contains and the rest of its chain have
scripts, and what they need is bound. -/
structure Enters (g : Graph) (values : Bindings Json) (r : Run Req Res) (s : Step)
    (inner other rest : Script) : Prop where
  readsInner : g.Reads s.action.inner inner
  readsOther : g.Reads s.action.other other
  readsRest : g.Reads s.next rest
  resolves : s.action.Resolves inner.Resolves other.Resolves (Bound values r.context.frames)
  leaves : rest.Resolves (Bound values r.context.frames ∪ s.action.binds)
  frames : r.context.frames ≠ []

theorem Defined.enters {S : Setup Req Res} (h : Defined S.graph values r) {p : Nat} {s : Step}
    (hat : r.At S p s) : ∃ inner other rest, Enters S.graph values r s inner other rest := by
  obtain ⟨⟨k, cursors, hcursors⟩, hs⟩ := hat
  have hcovers := h.covers
  have hopen := h.open (by rw [hcursors]; simp)
  rw [hcursors] at hcovers
  obtain ⟨f, outer, hframes⟩ := hcovers.cons
  rw [hframes] at hcovers
  obtain ⟨⟨script, hreads, hresolves⟩, _⟩ := hcovers
  cases hreads with
  | @step _ s' inner other rest hs' hinner hother hrest =>
      obtain rfl : s = s' := Option.some.inj (hs.symm.trans hs')
      rw [← hframes] at hresolves
      exact ⟨inner, other, rest, hinner, hother, hrest, hresolves.1, hresolves.2, hopen⟩

/-- An open container at the end of its chain can begin it anew. -/
theorem Defined.again {S : Setup Req Res} (h : Defined S.graph values r) {c : Container} {s : Step}
    {cursors : List Cursor} (hend : r.EndOf S c s cursors) :
    ∃ f outer, r.context.frames = f :: outer ∧ Again S.graph (Bound values outer) c.place ∧
      Covers S.graph values cursors outer := by
  have hcovers := h.covers
  rw [hend.1] at hcovers
  obtain ⟨f, outer, hframes⟩ := hcovers.cons
  rw [hframes] at hcovers
  exact ⟨f, outer, hframes, hcovers.2.1 c rfl, hcovers.2.2⟩

/-- A step that binds nothing is passed. -/
theorem Enters.passed {s : Step} {inner other rest : Script} (h : Enters g values r s inner other rest)
    (hdefined : Defined g values r) (hbinds : s.action.binds = ∅) :
    Defined g values (r.moveTo s.next) := by
  refine hdefined.moveTo h.readsRest ?_
  have hleaves := h.leaves
  rw [hbinds, Set.union_empty] at hleaves
  exact hleaves

theorem value_of_mem {e : String} (hdefined : Defined g values r) (hframes : r.context.frames ≠ [])
    (h : e ∈ Bound values r.context.frames) : ∃ v, Evaluator.names.value e r.scope = .ok v := by
  rw [← hdefined.base] at h
  exact names_value none hframes h

theorem holds_of_mem {e : String} (hdefined : Defined g values r) (hframes : r.context.frames ≠ [])
    (h : e ∈ Bound values r.context.frames) : ∃ b, Evaluator.names.holds e r.scope = .ok b := by
  rw [← hdefined.base] at h
  exact names_holds none hframes h

/-- Declarations that resolve have values, and their frame binds their names. -/
theorem declare_names {c : Context} (hframes : c.frames ≠ []) {entries : List (String × String)}
    {f : Frame} (h : Readable entries (Bound c.values (f :: c.frames))) :
    ∃ f', declare .names c f entries = .ok f' ∧
      ∀ values frames, Bound values (f' :: frames) = Bound values (f :: frames) ∪ namesOf entries := by
  induction entries generalizing f with
  | nil =>
      refine ⟨f, rfl, ?_⟩
      intro values frames
      rw [namesOf_nil, Set.union_empty]
  | cons entry entries ih =>
      obtain ⟨name, e⟩ := entry
      obtain ⟨v, hv⟩ := names_value (some f) hframes h.1
      have hrest := h.2
      rw [← bound_insert (v := v)] at hrest
      obtain ⟨f', hdeclare, hbound⟩ := ih hrest
      refine ⟨f', ?_, ?_⟩
      · unfold declare
        unfold Context.scopeWith
        rw [hv]
        exact hdeclare
      · intro values frames
        rw [hbound, bound_insert, union_namesOf_cons]

/-! ## Containers -/

section

variable {S : Setup Req Res} {p : Nat} {s : Step}

/-- A container is opened in whose frame its chain resolves. -/
theorem Enters.opens {inner other rest : Script} (henters : Enters S.graph values r s inner other rest)
    (h : Defined S.graph values r) (hat : r.At S p s) (hbinds : s.action.binds = ∅)
    {head : Option Nat} {script : Script} (hreads : S.graph.Reads head script) {f : Frame}
    (hresolves : script.Resolves (Bound values (f :: r.context.frames)))
    (hrestarts : Restarts S.graph (Bound values r.context.frames) s.action) (control : Control)
    (node : Result.Node) :
    Defined S.graph values ((r.moveTo s.next).openContainer head ⟨p, control, node⟩ f) := by
  have hcontext : (r.moveTo s.next).context = r.context := moveTo_context r s.next
  refine (henters.passed h hbinds).openContainer hreads ?_ ?_
  · rw [hcontext]
    exact hresolves
  · rw [hcontext]
    exact again_of_step hat.2 hrestarts

/-- The declarations of a block have values. -/
theorem Defined.block (h : Defined S.graph values r) (hat : r.At S p s)
    {declarations : Bindings String} {child : Option Nat}
    (haction : s.action = .block declarations child) :
    ∃ f, declare .names r.context .empty declarations.entries = .ok f ∧ ∀ control node,
      Defined S.graph values ((r.moveTo s.next).openContainer child ⟨p, control, node⟩ f) := by
  obtain ⟨inner, other, rest, henters⟩ := h.enters hat
  have hresolves := henters.resolves
  have hinner := henters.readsInner
  rw [haction] at hresolves hinner
  obtain ⟨hreadable, hchild⟩ := hresolves
  obtain ⟨f, hdeclare, hbound⟩ := declare_names (f := .empty) henters.frames
    (by rw [bound_empty, h.base]; exact hreadable)
  refine ⟨f, hdeclare, henters.opens h hat (by rw [haction]; rfl) hinner ?_ ?_⟩
  · rw [hbound, bound_empty]
    exact hchild
  · rw [haction]
    trivial

/-- The collection of a loop has a value. -/
theorem Defined.each (h : Defined S.graph values r) (hat : r.At S p s)
    {collection key value : String} {child : Option Nat}
    (haction : s.action = .each collection key value child) :
    (∃ v, Evaluator.names.value collection r.scope = .ok v) ∧ ∀ item control node,
      Defined S.graph values ((r.moveTo s.next).openContainer child ⟨p, control, node⟩
        (itemFrame key value item)) := by
  obtain ⟨inner, other, rest, henters⟩ := h.enters hat
  have hresolves := henters.resolves
  have hinner := henters.readsInner
  rw [haction] at hresolves hinner
  obtain ⟨hcollection, hchild⟩ := hresolves
  refine ⟨value_of_mem h henters.frames hcollection, ?_⟩
  intro item
  refine henters.opens h hat (by rw [haction]; rfl) hinner ?_ ?_
  · rw [bound_itemFrame]
    exact hchild
  · rw [haction]
    exact ⟨inner, hinner, hchild⟩

/-- The condition of a repeated chain has a verdict. -/
theorem Defined.repeated (h : Defined S.graph values r) (hat : r.At S p s) {condition : String}
    {child : Option Nat} (haction : s.action = .repeated condition child) :
    (∃ b, Evaluator.names.holds condition (r.context.scopeWith .empty) = .ok b) ∧ ∀ control node,
      Defined S.graph values ((r.moveTo s.next).openContainer child ⟨p, control, node⟩ .empty) := by
  obtain ⟨inner, other, rest, henters⟩ := h.enters hat
  have hresolves := henters.resolves
  have hinner := henters.readsInner
  rw [haction] at hresolves hinner
  obtain ⟨hcondition, hchild⟩ := hresolves
  refine ⟨names_holds (some .empty) henters.frames ?_,
    henters.opens h hat (by rw [haction]; rfl) hinner ?_ ?_⟩
  · rw [h.base, Option.toList_some, List.singleton_append, bound_empty]
    exact hcondition
  · rw [bound_empty]
    exact hchild
  · rw [haction]
    exact ⟨hcondition, inner, hinner, hchild⟩

/-- The condition of a choice has a verdict, and either branch can be taken. -/
theorem Defined.choice (h : Defined S.graph values r) (hat : r.At S p s) {condition : String}
    {holds otherwise : Option Nat} (haction : s.action = .choice condition holds otherwise) :
    (∃ b, Evaluator.names.holds condition r.scope = .ok b) ∧ ∀ (b : Bool) control node,
      Defined S.graph values ((r.moveTo s.next).openContainer (if b then holds else otherwise)
        ⟨p, control, node⟩ .empty) := by
  obtain ⟨inner, other, rest, henters⟩ := h.enters hat
  have hresolves := henters.resolves
  have hinner := henters.readsInner
  have hother := henters.readsOther
  rw [haction] at hresolves hinner hother
  obtain ⟨hcondition, hholds, hotherwise⟩ := hresolves
  have hbinds : s.action.binds = ∅ := by rw [haction]; rfl
  have hrestarts : Restarts S.graph (Bound values r.context.frames) s.action := by
    rw [haction]
    trivial
  refine ⟨holds_of_mem h henters.frames hcondition, ?_⟩
  intro b
  cases b with
  | false => exact henters.opens h hat hbinds hother (by rw [bound_empty]; exact hotherwise) hrestarts
  | true => exact henters.opens h hat hbinds hinner (by rw [bound_empty]; exact hholds) hrestarts

/-- A loop goes on with an item in a new frame, which binds the key and the value again. -/
theorem Defined.nextItem (h : Defined S.graph values r) {c : Container} {cursors : List Cursor}
    (hend : r.EndOf S c s cursors) {collection key value : String} {child : Option Nat}
    (haction : s.action = .each collection key value child) (item : Json × Json) (control : Control)
    (k v : Option Json) :
    Defined S.graph values (beginIteration
      { r with context := r.context.pop.push (itemFrame key value item) } cursors c control child
      k v) := by
  obtain ⟨f, outer, hframes, hagain, hcovers⟩ := h.again hend
  have hchild := hagain s hend.2
  rw [haction] at hchild
  obtain ⟨script, hreads, hresolves⟩ := hchild
  have hpushed : (r.context.pop.push (itemFrame key value item)).frames =
      itemFrame key value item :: outer := by
    unfold Context.push Context.pop
    rw [hframes]
    rfl
  refine ⟨h.base, ?_⟩
  unfold beginIteration
  simp only [hpushed]
  refine ⟨⟨script, hreads, by rw [bound_itemFrame]; exact hresolves⟩, ?_, hcovers⟩
  intro k' hk
  obtain rfl := Option.some.inj hk
  exact hagain

/-- A repeated chain goes on in its frame, which may bind more than at first; its condition has a
verdict there. -/
theorem Defined.nextRound (h : Defined S.graph values r) {c : Container} {cursors : List Cursor}
    (hend : r.EndOf S c s cursors) {condition : String} {child : Option Nat}
    (haction : s.action = .repeated condition child) :
    (∃ b, Evaluator.names.holds condition r.scope = .ok b) ∧ ∀ control k v,
      Defined S.graph values (beginIteration r cursors c control child k v) := by
  obtain ⟨f, outer, hframes, hagain, hcovers⟩ := h.again hend
  have hchild := hagain s hend.2
  rw [haction] at hchild
  obtain ⟨hcondition, script, hreads, hresolves⟩ := hchild
  have hbound := bound_subset_cons values outer f
  constructor
  · refine holds_of_mem h (by rw [hframes]; simp) ?_
    rw [hframes]
    exact hbound hcondition
  · intro control k v
    refine ⟨h.base, ?_⟩
    unfold beginIteration
    simp only [hframes]
    refine ⟨⟨script, hreads, hresolves.mono hbound⟩, ?_, hcovers⟩
    intro k' hk
    obtain rfl := Option.some.inj hk
    exact hagain

end

/-! ## Turns -/

/-- What a turn leads to needs no undefined name. A step that wants a request is entered with what it
needs. -/
def Turn.Defined (g : Graph) (values : Bindings Json) : Turn Req Res → Prop
  | .on r => Engine.Defined g values r
  | .wanted _ _ => True
  | .finished _ => True
  | .failed _ e => ∀ fault, e ≠ .expression fault

theorem Defined.passes {S : Setup Req Res} (h : Defined S.graph values r) {p : Nat} {s : Step}
    (hat : r.At S p s) (hbinds : s.action.binds = ∅) (n : Result.Node) :
    Defined S.graph values ((r.moveTo s.next).record n) := by
  obtain ⟨inner, other, rest, henters⟩ := h.enters hat
  exact (henters.passed h hbinds).record n

/-- Every turn keeps names defined, or ends the run for another reason. -/
theorem Defined.turned {m : RequestMaker} {limit : Nat} {r : Run Request Response}
    (h : Defined g values r) {t : Turn Request Response} (ht : Turned (namesSetup g m limit) r t) :
    t.Defined g values := by
  cases ht with
  | finish => trivial
  | want => trivial
  | skip hat haction => exact h.passes hat (by rw [haction]; rfl) _
  | enterBlock hat haction hdeclare =>
      obtain ⟨f, hdeclare', hopened⟩ := h.block hat haction
      obtain rfl := Except.ok.inj (hdeclare'.symm.trans hdeclare)
      exact hopened _ _
  | failBlock hat haction hdeclare =>
      obtain ⟨f, hdeclare', _⟩ := h.block hat haction
      exact absurd (hdeclare'.symm.trans hdeclare) (by simp)
  | passEach hat haction => exact h.passes hat (by rw [haction]; rfl) _
  | enterEach hat haction => exact (h.each hat haction).2 _ _ _
  | @failEach p s collection key value child e hat haction hitems =>
      obtain ⟨⟨v, hv⟩, _⟩ := h.each hat haction
      have hbind : (Evaluator.names.value collection r.scope).bind (itemsOf s) = .error e := hitems
      rw [hv] at hbind
      obtain ⟨v', rfl⟩ := itemsOf_error hbind
      exact fun fault => by simp
  | passRepeated hat haction => exact h.passes hat (by rw [haction]; rfl) _
  | enterRepeated hat haction => exact (h.repeated hat haction).2 _ _
  | failRepeated hat haction hholds =>
      obtain ⟨⟨b, hb⟩, _⟩ := h.repeated hat haction
      exact absurd (hholds.symm.trans hb) (by simp)
  | enterChoice hat haction => exact (h.choice hat haction).2 _ _ _
  | failChoice hat haction hholds =>
      obtain ⟨⟨b, hb⟩, _⟩ := h.choice hat haction
      exact absurd (hholds.symm.trans hb) (by simp)
  | closeTop hcursors => exact h.close (by rw [hcursors]; simp)
  | closeContainer hend => exact h.close (by rw [hend.1]; simp)
  | nextItem hend _ haction => exact h.nextItem hend haction _ _ _ _
  | nextRound hend _ haction => exact (h.nextRound hend haction).2 _ _ _
  | failRound hend _ haction hholds =>
      obtain ⟨⟨b, hb⟩, _⟩ := h.nextRound hend haction
      exact absurd (hholds.symm.trans hb) (by simp)
  | exceed =>
      intro fault hfault
      exact absurd hfault (by simp)

end

end Walkthrough.Engine
