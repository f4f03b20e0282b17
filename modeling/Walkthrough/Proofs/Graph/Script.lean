import Walkthrough.Proofs.Graph.Links

/-!
# Scripts

A script is a chain of steps written out: what comes after a step and what it contains are scripts
again, so that a script can be gone through by recursion. Every sound acyclic graph has one
(`Sound.exists_script`), and no other (`Reads.unique`). Conversely, if a chain reads as a script in which
every step occurs, the graph is acyclic (`acyclic_of_reads`).
-/

namespace Walkthrough

/-- A chain of steps, each with its place, what it contains (of a choice, the branch for a condition
that holds), the other branch, and the rest of the chain. -/
inductive Script where
  | stop
  | step (place : Nat) (s : Step) (inner other rest : Script)

/-- The places of a script: each step comes before what it contains, and that before the rest of its
chain. -/
def Script.places : Script → List Nat
  | .stop => []
  | .step p _ inner other rest => p :: (inner.places ++ other.places ++ rest.places)

namespace Graph

/-- The script of the chain from a place on, if links go no deeper than `depth`. -/
def scriptFrom (g : Graph) : (depth : Nat) → Option Nat → Option Script
  | _, none => some .stop
  | 0, some _ => none
  | depth + 1, some place => do
    let s ← g.step? place
    let inner ← g.scriptFrom depth s.action.inner
    let other ← g.scriptFrom depth s.action.other
    let rest ← g.scriptFrom depth s.next
    return .step place s inner other rest

/-- The script of a graph; no link goes deeper than the graph has steps, unless in a circle. -/
def script? (g : Graph) : Option Script := g.scriptFrom (g.size + 1) g.root

@[simp] theorem scriptFrom_none (g : Graph) (depth : Nat) : g.scriptFrom depth none = some .stop := by
  cases depth <;> rfl

/-- The chain from a place on reads as a script. -/
inductive Reads (g : Graph) : Option Nat → Script → Prop
  | stop : Reads g none .stop
  | step {p : Nat} {s : Step} {inner other rest : Script} :
      g.step? p = some s → Reads g s.action.inner inner → Reads g s.action.other other →
      Reads g s.next rest → Reads g (some p) (.step p s inner other rest)

theorem reads_of_scriptFrom {g : Graph} {depth : Nat} {head : Option Nat} {script : Script}
    (h : g.scriptFrom depth head = some script) : g.Reads head script := by
  induction depth generalizing head script with
  | zero =>
      cases head with
      | none =>
          obtain rfl : Script.stop = script := by simpa using h
          exact .stop
      | some p => exact absurd h (by simp [scriptFrom])
  | succ depth ih =>
      cases head with
      | none =>
          obtain rfl : Script.stop = script := by simpa using h
          exact .stop
      | some p =>
          simp only [scriptFrom, Option.bind_eq_bind, Option.bind_eq_some_iff, Option.pure_def,
            Option.some.injEq] at h
          obtain ⟨s, hs, inner, hinner, other, hother, rest, hrest, rfl⟩ := h
          exact .step hs (ih hinner) (ih hother) (ih hrest)

/-- A chain whose steps have a rank below the depth has a script of that depth. -/
theorem Sound.exists_scriptFrom {g : Graph} (sound : g.Sound) (acyclic : g.Acyclic) (depth : Nat)
    (head : Option Nat) (placed : g.Placed head) (deep : ∀ p, head = some p → g.rank p < depth) :
    ∃ script, g.scriptFrom depth head = some script := by
  induction depth generalizing head with
  | zero =>
      cases head with
      | none => exact ⟨.stop, rfl⟩
      | some p => exact absurd (deep p rfl) (Nat.not_lt_zero _)
  | succ depth ih =>
      cases head with
      | none => exact ⟨.stop, rfl⟩
      | some p =>
          obtain ⟨s, hs⟩ := placed.step
          have hdeep := deep p rfl
          -- every link from `p` leads to a step of lower rank, so that the depth that is left is enough
          have hlower : ∀ q, s.next = some q ∨ q ∈ s.action.children → g.rank q < depth := by
            intro q hq
            have := rank_lt_of_links sound acyclic ⟨s, hs, hq⟩
            omega
          obtain ⟨inner, hinner⟩ := ih s.action.inner (sound.inner hs) fun q hq =>
            hlower q (.inr ((Action.mem_children_iff _ q).2 (.inl hq)))
          obtain ⟨other, hother⟩ := ih s.action.other (sound.other hs) fun q hq =>
            hlower q (.inr ((Action.mem_children_iff _ q).2 (.inr hq)))
          obtain ⟨rest, hrest⟩ := ih s.next (sound.next hs) fun q hq => hlower q (.inl hq)
          refine ⟨.step p s inner other rest, ?_⟩
          simp [scriptFrom, hs, hinner, hother, hrest]

/-- Every sound acyclic graph has a script. -/
theorem Sound.exists_script {g : Graph} (sound : g.Sound) (acyclic : g.Acyclic) :
    ∃ script, g.script? = some script := by
  refine sound.exists_scriptFrom acyclic _ _ sound.root ?_
  intro p _
  have := g.rank_le_size p
  omega

/-! ## Reading -/

/-- A chain reads as one script at most. -/
theorem Reads.unique {g : Graph} {head : Option Nat} {a b : Script} (h : g.Reads head a)
    (h' : g.Reads head b) : a = b := by
  induction h generalizing b with
  | stop =>
      cases h' with
      | stop => rfl
  | step hs _ _ _ ihInner ihOther ihRest =>
      cases h' with
      | step hs' hinner hother hrest =>
          obtain rfl := Option.some.inj (hs.symm.trans hs')
          rw [ihInner hinner, ihOther hother, ihRest hrest]

theorem script?_eq_some {g : Graph} (sound : g.Sound) (acyclic : g.Acyclic) {script : Script}
    (h : g.Reads g.root script) : g.script? = some script := by
  obtain ⟨script', hscript⟩ := sound.exists_script acyclic
  rw [hscript, (reads_of_scriptFrom hscript).unique h]

/-- Another graph with the same steps at the places of a script reads as that script as well. -/
theorem Reads.congr {g g' : Graph} {head : Option Nat} {script : Script} (h : g.Reads head script)
    (hsame : ∀ p ∈ script.places, g'.step? p = g.step? p) : g'.Reads head script := by
  induction h with
  | stop => exact .stop
  | step hs _ _ _ ihInner ihOther ihRest =>
      simp only [Script.places, List.mem_cons, List.mem_append] at hsame
      refine .step ((hsame _ (.inl rfl)).trans hs) (ihInner fun q hq => ?_) (ihOther fun q hq => ?_)
        (ihRest fun q hq => ?_)
      · exact hsame q (.inr (.inl (.inl hq)))
      · exact hsame q (.inr (.inl (.inr hq)))
      · exact hsame q (.inr (.inr hq))

theorem Reads.head_mem {g : Graph} {p : Nat} {script : Script} (h : g.Reads (some p) script) :
    p ∈ script.places := by
  cases h with
  | step => exact List.mem_cons_self

/-- No endless path of links begins at a place of a script. -/
theorem Reads.acc {g : Graph} {head : Option Nat} {script : Script} (h : g.Reads head script) :
    ∀ p ∈ script.places, Acc (fun q p => g.Links p q) p := by
  induction h with
  | stop => exact fun p hp => absurd hp (by simp [Script.places])
  | @step p s inner other rest hs hinner hother hrest ihInner ihOther ihRest =>
      -- links from the step lead to the first steps of the scripts in it and after it
      have hself : Acc (fun q p => g.Links p q) p := by
        refine ⟨p, ?_⟩
        rintro q ⟨s', hs', hlink⟩
        obtain rfl := Option.some.inj (hs.symm.trans hs')
        rcases hlink with hnext | hchild
        · rw [hnext] at hrest
          exact ihRest q hrest.head_mem
        · rcases (Action.mem_children_iff _ q).1 hchild with hfirst | hsecond
          · rw [hfirst] at hinner
            exact ihInner q hinner.head_mem
          · rw [hsecond] at hother
            exact ihOther q hother.head_mem
      intro q hq
      simp only [Script.places, List.mem_cons, List.mem_append] at hq
      rcases hq with rfl | (hq | hq) | hq
      · exact hself
      · exact ihInner q hq
      · exact ihOther q hq
      · exact ihRest q hq

theorem acyclic_of_reads {g : Graph} {head : Option Nat} {script : Script} (h : g.Reads head script)
    (hall : ∀ p < g.size, p ∈ script.places) : g.Acyclic := by
  have hacc : WellFounded fun q p => g.Links p q := by
    refine ⟨fun p => ?_⟩
    by_cases hp : p < g.size
    · exact h.acc p (hall p hp)
    · -- nothing is linked from a place outside of the graph
      refine ⟨p, ?_⟩
      rintro q ⟨s, hs, _⟩
      exact absurd (lt_size_of_step hs) hp
  intro p hcycle
  have hback : Relation.TransGen (fun q p => g.Links p q) p p := Relation.transGen_swap.2 hcycle
  exact hacc.transGen.asymmetric p p hback hback

end Graph

end Walkthrough
