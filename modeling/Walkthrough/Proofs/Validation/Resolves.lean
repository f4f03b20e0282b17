import Walkthrough.Proofs.Graph.Script
import Walkthrough.Proofs.Scope.Bound

/-!
# Names that a script needs

Scripts all of whose expressions, taken as names, are bound where they are evaluated
(`Script.Resolves`). Which names are bound at a step depends on the script alone: a step that produces a
request adds its extractions for the rest of its chain, and a container adds names for what it contains.
More names do no harm (`Script.Resolves.mono`).
-/

namespace Walkthrough

/-- Named expressions that are evaluated in order, each seeing the names before, are bound. -/
def Readable : List (String × String) → Set String → Prop
  | [], _ => True
  | (name, e) :: rest, N => e ∈ N ∧ Readable rest (insert name N)

/-- The expressions from which an action makes its request. -/
def Action.requestExpressions : Action → List String
  | .visit url method body leaf =>
    url :: (method.toList ++ body.toList) ++ leaf.headers.entries.map Prod.snd
  | .click link leaf => link :: leaf.headers.entries.map Prod.snd
  | .reload leaf | .follow leaf => leaf.headers.entries.map Prod.snd
  | _ => []

theorem Action.requestExpressions_eq_nil {a : Action} (h : a.leaf? = none) :
    a.requestExpressions = [] := by
  cases a with
  | visit | click | reload | follow => exact absurd h (by simp [Action.leaf?])
  | empty | block | each | repeated | choice => rfl

/-- The names under which expressions see an exchange and what was extracted from it. -/
def Leaf.shown (leaf : Leaf) : Set String :=
  {Engine.requestName, Engine.responseName} ∪ namesOf leaf.extractions.entries

/-- What a step binds for the rest of its chain. -/
def Action.binds (a : Action) : Set String :=
  match a.leaf? with
  | some leaf => namesOf leaf.extractions.entries
  | none => ∅

/-- The names that an action needs are among those that are bound; `inner` and `other` say so of the
chains that it contains. -/
def Action.Resolves (a : Action) (inner other : Set String → Prop) (N : Set String) : Prop :=
  match a with
  | .visit _ _ _ leaf | .click _ leaf | .reload leaf | .follow leaf =>
    (∀ e ∈ a.requestExpressions, e ∈ N) ∧
      Readable leaf.extractions.entries (N ∪ {Engine.requestName, Engine.responseName}) ∧
        ∀ e ∈ leaf.assertions, e ∈ N ∪ leaf.shown
  | .empty => True
  | .block declarations _ =>
    Readable declarations.entries N ∧ inner (N ∪ namesOf declarations.entries)
  | .each collection key value _ => collection ∈ N ∧ inner (N ∪ {key, value})
  | .repeated condition _ => condition ∈ N ∧ inner N
  | .choice condition _ _ => condition ∈ N ∧ inner N ∧ other N

/-- The names that a script needs are bound where they are needed, if some are bound at its
beginning. -/
def Script.Resolves : Script → Set String → Prop
  | .stop, _ => True
  | .step _ s inner other rest, N =>
    s.action.Resolves inner.Resolves other.Resolves N ∧ rest.Resolves (N ∪ s.action.binds)

theorem Readable.mono {entries : List (String × String)} {N N' : Set String} (hsub : N ⊆ N')
    (h : Readable entries N) : Readable entries N' := by
  induction entries generalizing N N' with
  | nil => trivial
  | cons entry entries ih => exact ⟨hsub h.1, ih (Set.insert_subset_insert hsub) h.2⟩

theorem Action.Resolves.mono {a : Action} {inner other : Set String → Prop}
    (hinner : ∀ N N', N ⊆ N' → inner N → inner N') (hother : ∀ N N', N ⊆ N' → other N → other N')
    {N N' : Set String} (hsub : N ⊆ N') (h : a.Resolves inner other N) :
    a.Resolves inner other N' := by
  cases a with
  | visit | click | reload | follow =>
      refine ⟨fun e he => hsub (h.1 e he), h.2.1.mono ?_, fun e he => ?_⟩
      · exact Set.union_subset_union_left _ hsub
      · exact Set.union_subset_union_left _ hsub (h.2.2 e he)
  | empty => trivial
  | block => exact ⟨h.1.mono hsub, hinner _ _ (Set.union_subset_union_left _ hsub) h.2⟩
  | each => exact ⟨hsub h.1, hinner _ _ (Set.union_subset_union_left _ hsub) h.2⟩
  | repeated => exact ⟨hsub h.1, hinner _ _ hsub h.2⟩
  | choice => exact ⟨hsub h.1, hinner _ _ hsub h.2.1, hother _ _ hsub h.2.2⟩

/-- What a step that produces a request needs. -/
theorem Action.Resolves.leaf {a : Action} {leaf : Leaf} {inner other : Set String → Prop}
    {N : Set String} (h : a.Resolves inner other N) (hleaf : a.leaf? = some leaf) :
    (∀ e ∈ a.requestExpressions, e ∈ N) ∧
      Readable leaf.extractions.entries (N ∪ {Engine.requestName, Engine.responseName}) ∧
        ∀ e ∈ leaf.assertions, e ∈ N ∪ leaf.shown := by
  cases a with
  | visit | click | reload | follow =>
      obtain rfl := Option.some.inj hleaf
      exact h
  | empty | block | each | repeated | choice => exact absurd hleaf (by simp [Action.leaf?])

/-- A script that resolves among some names resolves among more. -/
theorem Script.Resolves.mono {script : Script} {N N' : Set String} (hsub : N ⊆ N')
    (h : script.Resolves N) : script.Resolves N' := by
  induction script generalizing N N' with
  | stop => trivial
  | step place s inner other rest ihinner ihother ihrest =>
      refine ⟨h.1.mono ?_ ?_ hsub, ihrest (Set.union_subset_union_left _ hsub) h.2⟩
      · exact fun _ _ => ihinner
      · exact fun _ _ => ihother

end Walkthrough
