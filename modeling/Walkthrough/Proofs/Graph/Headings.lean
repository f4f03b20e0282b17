import Walkthrough.Proofs.Graph.Links

/-!
# Headings of chains

What a step and its records have in common is a heading, and a chain is read off by its headings
(`Graph.headings`). In a sound acyclic graph no chain is cut off: the chain from a step on is that step,
and then the chain from the next (`headings_some`).
-/

namespace Walkthrough

/-- What a step and its records have in common. -/
structure Heading where
  uuid : String
  tag : Tag
  name : Option String
  deriving DecidableEq

/-- The heading of a step. -/
def Step.heading (s : Step) : Heading := ⟨s.uuid, s.tag, s.name⟩

namespace Graph

/-- The headings of the steps of the chain from a place on. -/
def headings (g : Graph) (head : Option Nat) : List Heading :=
  (g.chain (g.size + 1) head).filterMap fun p => (g.step? p).map Step.heading

@[simp] theorem headings_none (g : Graph) : g.headings none = [] := rfl

/-- How far a chain is followed does not matter beyond the rank of its first step. -/
theorem chain_eq_chain {g : Graph} (sound : g.Sound) (acyclic : g.Acyclic) {limit limit' : Nat}
    {head : Option Nat} (h : ∀ p, head = some p → g.rank p < limit ∧ g.rank p < limit') :
    g.chain limit head = g.chain limit' head := by
  induction limit generalizing limit' head with
  | zero =>
      cases head with
      | none => cases limit' <;> rfl
      | some p => exact absurd (h p rfl).1 (Nat.not_lt_zero _)
  | succ limit ih =>
      cases head with
      | none => cases limit' <;> rfl
      | some p =>
          obtain ⟨hlimit, hlimit'⟩ := h p rfl
          cases limit' with
          | zero => exact absurd hlimit' (Nat.not_lt_zero _)
          | succ limit' =>
              cases hs : g.step? p with
              | none => simp [chain, hs]
              | some s =>
                  have hrest : g.chain limit s.next = g.chain limit' s.next := by
                    refine ih fun q hq => ?_
                    have hlower := rank_lt_of_links sound acyclic ⟨s, hs, .inl hq⟩
                    omega
                  simp [chain, hs, hrest]

theorem headings_some {g : Graph} (sound : g.Sound) (acyclic : g.Acyclic) {p : Nat} {s : Step}
    (hs : g.step? p = some s) : g.headings (some p) = s.heading :: g.headings s.next := by
  have hchain : g.chain (g.size + 1) (some p) = p :: g.chain g.size s.next := by
    simp [chain, hs]
  have hrest : g.chain g.size s.next = g.chain (g.size + 1) s.next := by
    refine chain_eq_chain sound acyclic fun q hq => ?_
    have hlower := rank_lt_of_links sound acyclic ⟨s, hs, .inl hq⟩
    have hsize := g.rank_le_size p
    omega
  rw [headings, hchain, hrest, List.filterMap_cons, hs]
  rfl

end Graph

end Walkthrough
