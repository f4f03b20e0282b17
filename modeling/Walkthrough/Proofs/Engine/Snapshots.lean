import Walkthrough.Proofs.Engine.Accounting

/-!
# Snapshots of the tree

A caller may look at the tree of a run between any two calls. All that it saw stays where it was: the list
of all nodes only gets longer, and only at its end (`snapshots_grow`). Inside of a call one turn adds at
most one node, for the step that it enters; at the end of a chain, where a container is closed or begins
anew, and where the run fails or is finished, the list stays as it is.

* `Run.Orderly.grows_call` — a call adds to the end of the tree;
* `Reachable.facts_prefix` — and so do any further calls.
-/

namespace Walkthrough.Engine

variable {Req Res : Type} {S : Setup Req Res} {values : Bindings Json} {r r' : Run Req Res}

/-- The kinds and identifiers of all nodes in the tree of a run. -/
def Run.listing (r : Run Req Res) : List (Tag × String) :=
  r.tree.flatten.map fun n => (n.facts.tag, n.facts.uuid)

/-- Calls lead from one run to another. -/
def Later (S : Setup Req Res) : Run Req Res → Run Req Res → Prop :=
  Relation.ReflTransGen fun r r' => ∃ fuel c answer, call S fuel r c = .ok (answer, r')

theorem listing_eq (r : Run Req Res) : r.listing = r.facts.map fun f => (f.tag, f.uuid) := by
  unfold Run.listing Run.facts
  rw [List.map_map]
  rfl

/-! ## Calls -/

theorem Reachable.orderly (h : Reachable S values r) :
    r.Orderly ∧ (r.phase = .created → r.cursors = []) := by
  obtain ⟨log, answers, htold⟩ := h.told
  obtain ⟨b, haccounted⟩ := htold.accounted
  exact ⟨haccounted.agree.orderly, haccounted.fresh⟩

/-- Whatever comes of an exchange, at most its own record is new. -/
theorem Run.Orderly.judged (h : r.Orderly) {s : Step} {request : Req} {response : Res}
    {answer : Except Error Unit} (hjudged : Judged S r s request response (answer, r')) :
    ∃ added, r.Grows r' added := by
  have unchanged : r.Grows r [] := ⟨h, (List.append_nil _).symm⟩
  cases hjudged with
  | noRequest => exact ⟨[], unchanged⟩
  | unwritten => exact ⟨[], unchanged⟩
  | unextracted => exact ⟨[], unchanged⟩
  | unjudged => exact ⟨[], unchanged⟩
  | unmet => exact ⟨_, h.record _⟩
  | @met leaf exchange f extracted outcomes =>
      -- what was extracted is bound and kept before the exchange is recorded
      let kept : Run Req Res := { r with
        context := (bindAll r.context extracted.entries).recordCompleted
        extractions := r.extractions.extend extracted }
      have hkept : kept.Orderly := h.congr rfl
      have hrecord := hkept.record (exchangeNode s exchange extracted outcomes)
      have hbefore : kept.facts = r.facts := facts_congr rfl rfl
      refine ⟨Result.Node.allFacts [exchangeNode s exchange extracted outcomes],
        hrecord.orderly.congr rfl, ?_⟩
      rw [← hbefore, ← hrecord.facts]
      exact facts_congr rfl rfl

theorem Run.Orderly.grows_call (h : r.Orderly) (hfresh : r.phase = .created → r.cursors = [])
    {fuel : Nat} {c : Call Req Res} {answer : Answered Req}
    (hcall : call S fuel r c = .ok (answer, r')) : ∃ added, r.Grows r' added := by
  cases c with
  | peek =>
      obtain ⟨a, hpeek, _⟩ := peek_of_call hcall
      obtain ⟨⟨⟨added, hgrows, _⟩, _⟩, _⟩ := silent_of_peek h hfresh hpeek
      exact ⟨added, hgrows⟩
  | resume request response =>
      obtain ⟨a, hresume, _⟩ := resume_of_call hcall
      cases resumed_of_resume hresume with
      | refused => exact ⟨[], h, (List.append_nil _).symm⟩
      | @rejected p s e r₁ hawaited hcomplete =>
          have hjudged := judged_of_complete hcomplete
          obtain ⟨added, hgrows⟩ := h.judged hjudged
          exact ⟨added, hgrows.orderly.congr rfl, hgrows.facts⟩
      | @taken p s r₁ r₂ _ _ hawaited hcomplete hturns hends =>
          have hjudged := judged_of_complete hcomplete
          obtain ⟨added, hgrows⟩ := h.judged hjudged
          have hsilent := (hgrows.orderly.silent_turns hturns).trans fun h₂ => h₂.silent_ends hends
          obtain ⟨more, hmore, _⟩ := hsilent.grows
          exact ⟨added ++ more, hgrows.trans hmore⟩

theorem Reachable.later (h : Reachable S values r) (hlater : Later S r r') : Reachable S values r' := by
  induction hlater with
  | refl => exact h
  | tail _ hcall ih =>
      obtain ⟨fuel, c, answer, hcall⟩ := hcall
      exact ih.call hcall

/-- What is known of all nodes at some moment is how it begins at any later moment. -/
theorem Reachable.facts_prefix (h : Reachable S values r) (hlater : Later S r r') :
    r.facts <+: r'.facts := by
  induction hlater with
  | refl => exact List.prefix_refl _
  | @tail r₁ r₂ hbefore hcall ih =>
      obtain ⟨fuel, c, answer, hcall⟩ := hcall
      obtain ⟨horderly, hfresh⟩ := (h.later hbefore).orderly
      obtain ⟨added, hgrows⟩ := horderly.grows_call hfresh hcall
      exact ih.trans ⟨added, hgrows.facts.symm⟩

/-! ## Turns -/

theorem Passing.orderly (h : Passing S values r) : r.Orderly := by
  induction h with
  | begun hreachable hphase =>
      obtain ⟨horderly, hfresh⟩ := hreachable.orderly
      obtain ⟨added, hgrows, _⟩ := (horderly.silent_begin (S := S) (hfresh hphase)).grows
      exact hgrows.orderly
  | @taken r r₁ p s request response hreachable _ hcomplete =>
      have hjudged := judged_of_complete hcomplete
      obtain ⟨added, hgrows⟩ := hreachable.orderly.1.judged hjudged
      exact hgrows.orderly
  | turn _ hturn ih =>
      obtain ⟨added, hgrows, _⟩ := (ih.silent_turn hturn).grows
      exact hgrows.orderly

/-- A turn that enters no step, or after which the run does not go on, leaves the list of all nodes as it
is. -/
theorem Turn.Adds.listing_eq {t : Turn Req Res} {added : List Result.Facts} (h : t.Adds S r added)
    (hend : (∀ r', t ≠ .on r') ∨ ∀ p s, ¬ r.At S p s) : t.run.listing = r.listing := by
  obtain rfl : added = [] := by
    by_contra hne
    obtain ⟨⟨r', hon⟩, p, s, hat⟩ := h.entering hne
    rcases hend with hstop | hnowhere
    · exact hstop r' hon
    · exact hnowhere p s hat
  rw [Engine.listing_eq, Engine.listing_eq, h.grows.facts, List.append_nil]

/-- Whatever a turn does, the list of all nodes gets at most one node longer, at its end. -/
theorem Turn.Adds.listing_prefix {t : Turn Req Res} {added : List Result.Facts}
    (h : t.Adds S r added) :
    r.listing <+: t.run.listing ∧ t.run.listing.length ≤ r.listing.length + 1 := by
  have hmore : (added.map fun f => (f.tag, f.uuid)).length ≤ 1 := by
    rw [List.length_map]
    exact h.single
  rw [Engine.listing_eq, Engine.listing_eq, h.grows.facts, List.map_append, List.length_append]
  exact ⟨List.prefix_append _ _, Nat.add_le_add_left hmore _⟩

/-- The innermost chain is at its end, or none is open. -/
def Run.AtEnd (r : Run Req Res) : Prop := ∀ c, r.cursors.head? = some c → c.position = none

theorem Run.AtEnd.not_at (h : r.AtEnd) (p : Nat) (s : Step) : ¬ r.At S p s := by
  rintro ⟨⟨k, rest, hcursors⟩, _⟩
  exact absurd (h _ (by rw [hcursors]; rfl)) (by simp)

/-- **Snapshots.** What is known of all nodes in the tree of a run between calls, and so the list of their
kinds and identifiers, is how the same begins after any further calls: nothing that was reported is ever
removed, changed, moved, or reported again in another place. The same holds inside of the calls: a turn
adds at most one node, at the end; it adds none where the innermost chain is at its end and its container
is closed or begins anew, where the run fails, and where it is finished. -/
theorem snapshots_grow (h : Reachable S values r) :
    (∀ r', Later S r r' →
      r.tree.flatten.map (·.facts) <+: r'.tree.flatten.map (·.facts) ∧ r.listing <+: r'.listing) ∧
    ∀ r₁, Passing S values r₁ → ∀ t, turn S r₁ = .ok t →
      (r₁.listing <+: t.run.listing ∧ t.run.listing.length ≤ r₁.listing.length + 1) ∧
      (r₁.AtEnd → t.run.listing = r₁.listing) ∧
      (∀ r₂ e, t = .failed r₂ e → r₂.fail.listing = r₁.listing) ∧
      ∀ r₂, t = .finished r₂ → r₂.finish.listing = r₁.listing := by
  constructor
  · intro r' hlater
    have hfacts := h.facts_prefix hlater
    refine ⟨hfacts, ?_⟩
    rw [listing_eq, listing_eq]
    exact hfacts.map _
  · intro r₁ hpassing t hturn
    obtain ⟨added, hadds⟩ := hpassing.orderly.turned (turned_of_turn hturn)
    refine ⟨hadds.listing_prefix, fun hend => hadds.listing_eq (.inr hend.not_at), ?_, ?_⟩
    · rintro r₂ e rfl
      exact hadds.listing_eq (.inl (by simp))
    · rintro r₂ rfl
      exact hadds.listing_eq (.inl (by simp))

/-- After the first page of the gallery the open loop is listed with it; at the end they come first, and
then the second page and the last address. -/
theorem gallery_snapshots :
    ∃ r r', Reachable gallery galleryValues r ∧ Later gallery r r' ∧
      r.listing = [(.each, "walk"), (.visit, "open")] ∧
      r'.listing = [(.each, "walk"), (.visit, "open"), (.visit, "open"), (.visit, "home")] ∧
      r.listing <+: r'.listing := by
  have hcalls : ∃ r₁ r₂ r₃ r₄ r₅ r₆ a₁ a₂ a₃ a₄ a₅ a₆,
      call gallery 9 (.start galleryValues) .peek = .ok (a₁, r₁) ∧
      call gallery 9 r₁ (.resume "/a" "first") = .ok (a₂, r₂) ∧
      call gallery 9 r₂ .peek = .ok (a₃, r₃) ∧
      call gallery 9 r₃ (.resume "/b" "second") = .ok (a₄, r₄) ∧
      call gallery 9 r₄ .peek = .ok (a₅, r₅) ∧
      call gallery 9 r₅ (.resume "/" "last") = .ok (a₆, r₆) ∧
      r₂.listing = [(.each, "walk"), (.visit, "open")] ∧
      r₆.listing = [(.each, "walk"), (.visit, "open"), (.visit, "open"), (.visit, "home")] :=
    ⟨_, _, _, _, _, _, _, _, _, _, _, _, rfl, rfl, rfl, rfl, rfl, rfl, rfl, rfl⟩
  obtain ⟨r₁, r₂, r₃, r₄, r₅, r₆, a₁, a₂, a₃, a₄, a₅, a₆, h₁, h₂, h₃, h₄, h₅, h₆, hfirst, hlast⟩ := hcalls
  have hreachable : Reachable gallery galleryValues r₂ := (Reachable.start.call h₁).call h₂
  have hlater : Later gallery r₂ r₆ :=
    (((Relation.ReflTransGen.single ⟨9, _, a₃, h₃⟩).tail ⟨9, _, a₄, h₄⟩).tail ⟨9, _, a₅, h₅⟩).tail
      ⟨9, _, a₆, h₆⟩
  exact ⟨r₂, r₆, hreachable, hlater, hfirst, hlast, ((snapshots_grow hreachable).1 r₆ hlater).2⟩

end Walkthrough.Engine
