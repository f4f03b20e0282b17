import Walkthrough.Proofs.Engine.Moments
import Walkthrough.Proofs.Fallible
import Walkthrough.Proofs.Graph.WellFormed
import Walkthrough.Validation

/-!
# Places that lie in the graph

Steps, cursors and requests that wait refer to steps by their places, and whoever goes to a place takes for
granted that a step is there. Building a graph is the one check, and all that goes on afterwards may only go
where the places that it checked lead.

* `Settled.within` — at every moment, what a run touches or waits at lies in the graph;
* `walkFrom_fails` — a walk of a validation stops early for no other reason than that it does not end;
* `built_places_hold` — when a graph is built, and that no place outside of it is gone to.
-/

namespace Walkthrough

/-! ## Runs -/

namespace Engine

variable {Req Res : Type} {S : Setup Req Res} {r : Run Req Res}

/-- The places of the cursors and containers of a run, and that of the request that waits, have a step. -/
theorem Settled.within (h : Settled S r) :
    (∀ p, r.Touches p → p < S.graph.size) ∧
      ∀ p made, r.pending = some ⟨p, made⟩ → p < S.graph.size := by
  constructor
  · rintro p ⟨c, hc, hposition | ⟨k, hk, rfl⟩⟩
    · exact (Graph.placed_some_iff _ p).1 (hposition ▸ (h.aligned.seated c hc).1)
    · obtain ⟨s, hs, _⟩ := (h.aligned.seated c hc).2 k hk
      exact Graph.lt_size_of_step hs
  · intro p made hpending
    have hbalanced := h.balanced (not_advances_of_pending hpending)
    cases hphase : r.phase with
    | awaiting =>
      obtain ⟨_, q, made', s, hwaits, hs, _⟩ := hbalanced.awaiting hphase
      rw [hpending] at hwaits
      obtain ⟨rfl, -⟩ := Pending.mk.inj (Option.some.inj hwaits)
      exact Graph.lt_size_of_step hs
    | created => exact absurd (hpending.symm.trans (hbalanced.created hphase).2.2) (by simp)
    | done => exact absurd (hpending.symm.trans (hbalanced.done hphase).2.2) (by simp)
    | failed => exact absurd (hpending.symm.trans (hbalanced.failed hphase)) (by simp)

end Engine

/-! ## Validation -/

namespace Validation

open Engine (Stop)

/-- A step is not walked for the reasons for which one of the chains inside it is not. -/
theorem walkStep_fails {P : Stop → Prop} (ev : Evaluator)
    {inner : Option Nat → Walk → Except Stop Walk} {s : Step}
    (hinner : ∀ w, FailsWith P (inner s.action.inner w)) (hother : ∀ w, FailsWith P (inner s.action.other w))
    (w : Walk) : FailsWith P (walkStep ev inner s w) := by
  unfold walkStep
  cases haction : s.action with
  | visit | click | reload | follow | empty => exact failsWith_ok _
  | block | each | repeated =>
    rw [haction] at hinner
    exact (hinner _).map _
  | choice condition holds otherwise =>
    rw [haction] at hinner hother
    exact (hinner _).bind fun w₁ => (hother _).map _

/-- A walk over a graph that was built stops for no other reason than that it does not end. -/
theorem walkFrom_fails (ev : Evaluator) {g : Graph} (sound : g.Sound) (fuel : Nat) {head : Option Nat}
    (h : g.Placed head) (w : Walk) : FailsWith (· = .outOfFuel) (walkFrom ev g fuel head w) := by
  induction fuel generalizing head w with
  | zero =>
    cases head with
    | none => exact failsWith_ok w
    | some p => exact failsWith_error rfl
  | succ fuel ih =>
    cases head with
    | none => exact failsWith_ok w
    | some p =>
      -- the place is that of a step, and so are those that the step refers to
      obtain ⟨s, hs⟩ := h.step
      simp only [walkFrom, hs]
      have hstep := walkStep_fails ev (ih (sound.inner hs)) (ih (sound.other hs))
        (s.action.expressions.foldl (Walk.check ev s) w)
      exact hstep.bind fun w₁ => ih (sound.next hs) w₁

/-! ## Graphs that were built -/

open Engine (Setup Reachable Moment call)

/-- **Places.** Steps are built to a graph exactly if every place that they or the root hold is that of one of
them, their identifiers differ, and every loop names its key and value apart. Wherever a place of a graph that
was built is gone to, a step is there: at every moment of every run over it, and in every call; in every
walk of a validation; and in every iteration over one of its chains. And each of its steps is the one that its
identifier finds. -/
theorem built_places_hold (Req Res : Type) (steps : Array Step) (root : Option Nat) :
    ((∃ g, Graph.build steps root = .ok g) ↔ Graph.WellFormed steps root) ∧
      ∀ g, Graph.build steps root = .ok g →
        (∀ (S : Setup Req Res) (values : Bindings Json), S.graph = g →
          (∀ r, Moment S values r → (∀ p, r.Touches p → p < g.size) ∧
            ∀ p made, r.pending = some ⟨p, made⟩ → p < g.size) ∧
          ∀ r, Reachable S values r → ∀ fuel c p, call S fuel r c ≠ .error (.dangling p)) ∧
        (∀ ev fuel head w, (∀ p, head = some p → p < g.size) →
          ∀ p, walkFrom ev g fuel head w ≠ .error (.dangling p)) ∧
        (∀ head, (∀ p, head = some p → p < g.size) →
          (∀ i p, g.held i head = some p → p < g.size) ∧
            ∀ limit i, i < limit → (g.chain limit head)[i]? = g.held i head) ∧
        ∀ p s, g.step? p = some s → g.find? s.uuid = some p := by
  constructor
  · rw [← Graph.sound_iff]
    constructor
    · rintro ⟨g, hg⟩
      obtain ⟨rfl, sound⟩ := (Graph.build_eq_ok_iff steps root g).1 hg
      exact sound
    · intro sound
      exact ⟨_, (Graph.build_eq_ok_iff steps root _).2 ⟨rfl, sound⟩⟩
  · intro g hg
    have sound := ((Graph.build_eq_ok_iff steps root g).1 hg).2
    refine ⟨?_, ?_, ?_, fun p s => Graph.find?_of_step sound⟩
    · rintro S values rfl
      refine ⟨fun r hr => (hr.settled sound).within, fun r hr => ?_⟩
      exact ((hr.balanced sound).unneeded sound).dangling
    · intro ev fuel head w hhead p hdangling
      have hfuel := walkFrom_fails ev sound fuel ((Graph.placed_iff g head).2 hhead) w _ hdangling
      exact absurd hfuel (by simp)
    · intro head hhead
      have hplaced := (Graph.placed_iff g head).2 hhead
      refine ⟨fun i => (Graph.placed_iff g _).1 (hplaced.held sound i), fun limit i hi => ?_⟩
      exact Graph.getElem?_chain sound hplaced hi

/-- The gallery: its chain has two of its steps, and the third is inside of the first. -/
theorem gallery_places_hold :
    Graph.WellFormed Engine.gallerySteps (some 0) ∧
      (∀ r, Moment Engine.gallery Engine.galleryValues r → ∀ p, r.Touches p → p < 3) ∧
      (∀ fuel p, walkFrom .names Engine.gallery.graph fuel (some 0) ⟨Context.strict .empty, []⟩
        ≠ .error (.dangling p)) ∧
      (Engine.gallery.graph.chain 9 (some 0))[1]? = some 2 ∧ Engine.gallery.graph.find? "open" = some 1 := by
  obtain ⟨hbuilt, hplaces⟩ := built_places_hold String String Engine.gallerySteps (some 0)
  obtain ⟨hruns, hwalks, hchains, hfound⟩ := hplaces Engine.gallery.graph rfl
  have hroot : ∀ p, some 0 = some p → p < Engine.gallery.graph.size := by
    rintro p ⟨⟩
    show 0 < 3
    omega
  refine ⟨hbuilt.1 ⟨_, rfl⟩, fun r hr => ((hruns Engine.gallery _ rfl).1 r hr).1, fun fuel p => ?_, ?_, ?_⟩
  · exact hwalks .names fuel (some 0) _ hroot p
  · exact (hchains (some 0) hroot).2 9 1 (by omega)
  · exact hfound 1 _ rfl

end Validation

end Walkthrough
