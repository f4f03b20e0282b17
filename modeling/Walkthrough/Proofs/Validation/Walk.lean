import Walkthrough.Proofs.Fallible
import Walkthrough.Proofs.Validation.Resolves
import Walkthrough.Validation

/-!
# What a report says of names

A graph is walked with the evaluator for which expressions are names. The walk meets every expression
once and misses those that are bound nowhere (`Sees`); if it misses none, the script of the graph
resolves among the base values (`script_resolves`). The walk over a graph that has a script ends
(`walkFrom_returns`).
-/

namespace Walkthrough.Validation

open Engine (Stop)

/-! ## Names that are missed -/

/-- A walk leads to another with the given frames; if that one misses nothing, the first does not
either, and something is known. -/
structure Sees (w w' : Walk) (frames : List Frame) (known : Prop) : Prop where
  values : w'.context.values = w.context.values
  tolerant : w'.context.tolerant = w.context.tolerant
  frames : w'.context.frames = frames
  missing : w'.context.missing = [] → w.context.missing = [] ∧ known

namespace Sees

variable {w w₁ w' : Walk} {frames frames' : List Frame} {P Q : Prop}

theorem refl (w : Walk) : Sees w w w.context.frames True :=
  ⟨rfl, rfl, rfl, fun h => ⟨h, trivial⟩⟩

theorem trans (h : Sees w w₁ frames P) (h' : Sees w₁ w' frames' Q) : Sees w w' frames' (P ∧ Q) where
  values := h'.values.trans h.values
  tolerant := h'.tolerant.trans h.tolerant
  frames := h'.frames
  missing hnil := by
    obtain ⟨hnil₁, hQ⟩ := h'.missing hnil
    obtain ⟨hnil₀, hP⟩ := h.missing hnil₁
    exact ⟨hnil₀, hP, hQ⟩

theorem imp (h : Sees w w' frames P) (himp : P → Q) : Sees w w' frames Q :=
  { h with missing := fun hnil => ⟨(h.missing hnil).1, himp (h.missing hnil).2⟩ }

theorem push (h : Sees w w' frames P) (f : Frame) : Sees w (w'.push f) (f :: frames) P :=
  ⟨h.values, h.tolerant, congrArg (f :: ·) h.frames, h.missing⟩

theorem pop {f : Frame} (h : Sees w w' (f :: frames) P) : Sees w w'.pop frames P :=
  ⟨h.values, h.tolerant, congrArg List.tail h.frames, h.missing⟩

end Sees

/-! ## Expressions -/

section

variable {w : Walk} {frames : List Frame} {s : Step}

/-- Whatever the text, it is an expression. -/
theorem check_names (s : Step) (w : Walk) (expressions : List String) :
    expressions.foldl (Walk.check .names s) w = w := by
  induction expressions with
  | nil => rfl
  | cons e expressions ih => exact ih

theorem sees_eval (htolerant : w.context.tolerant = true) (hframes : w.context.frames ≠ [])
    (e : String) (f : Frame) :
    Sees w (w.eval .names s e f).2 w.context.frames
      (e ∈ Bound w.context.values (f :: w.context.frames)) := by
  have hbound := lookup_isSome_iff hframes (some f) e
  have htolerates : (w.context.scopeWith f).isTolerant = true := htolerant
  unfold Walk.eval
  simp only [Evaluator.names, Evaluator.ofEvaluate, Scope.resolve]
  cases hlookup : (w.context.scopeWith f).lookup e with
  | some v =>
      refine ⟨rfl, rfl, rfl, fun hnil => ⟨hnil, hbound.1 ?_⟩⟩
      exact Option.isSome_iff_exists.2 ⟨v, hlookup⟩
  | none =>
      simp only [htolerates, if_true]
      refine ⟨rfl, rfl, rfl, fun hnil => absurd hnil ?_⟩
      exact Context.insertName_ne_nil e w.context.missing

theorem sees_evalAll (htolerant : w.context.tolerant = true) (hframes : w.context.frames ≠ [])
    (expressions : List String) (f : Frame) :
    Sees w (w.evalAll .names s f expressions) w.context.frames
      (∀ e ∈ expressions, e ∈ Bound w.context.values (f :: w.context.frames)) := by
  induction expressions generalizing w with
  | nil => exact (Sees.refl w).imp fun _ => by simp
  | cons e expressions ih =>
      have hfirst := sees_eval (s := s) htolerant hframes e f
      have hrest := ih (w := (w.eval .names s e f).2) (hfirst.tolerant.trans htolerant)
        (by rw [hfirst.frames]; exact hframes)
      rw [hfirst.frames, hfirst.values] at hrest
      refine (hfirst.trans hrest).imp ?_
      rintro ⟨he, hall⟩ e' he'
      rcases List.mem_cons.1 he' with rfl | he'
      · exact he
      · exact hall e' he'

/-- Named expressions: the frame with all of them binds their names. -/
theorem sees_evalNamed (htolerant : w.context.tolerant = true) (hframes : w.context.frames ≠ [])
    (entries : List (String × String)) (f : Frame) (found : List (String × Json)) :
    ∃ f' found' w', Walk.evalNamed .names s f found w entries = (f', found ++ found', w') ∧
      Sees w w' w.context.frames
        (Readable entries (Bound w.context.values (f :: w.context.frames))) ∧
      (∀ values frames, Bound values (f' :: frames) = Bound values (f :: frames) ∪ namesOf entries) ∧
      namesOf found' = namesOf entries := by
  induction entries generalizing w f found with
  | nil =>
      refine ⟨f, [], w, by simp [Walk.evalNamed], (Sees.refl w).imp fun _ => trivial, ?_, rfl⟩
      intro values frames
      rw [namesOf_nil, Set.union_empty]
  | cons entry entries ih =>
      obtain ⟨name, e⟩ := entry
      have hfirst := sees_eval (s := s) htolerant hframes e f
      obtain ⟨f', found', w', heval, hsees, hbound, hnames⟩ :=
        ih (w := (w.eval .names s e f).2) (hfirst.tolerant.trans htolerant)
          (by rw [hfirst.frames]; exact hframes) (f.insert name (w.eval .names s e f).1)
          (found ++ [(name, (w.eval .names s e f).1)])
      rw [hfirst.frames, hfirst.values, bound_insert] at hsees
      refine ⟨f', (name, (w.eval .names s e f).1) :: found', w', ?_, hfirst.trans hsees, ?_, ?_⟩
      · rw [Walk.evalNamed]
        simp only [heval, List.append_assoc, List.singleton_append]
      · intro values frames
        rw [hbound, bound_insert, union_namesOf_cons]
      · have hsplit := union_namesOf_cons ∅ name (w.eval .names s e f).1 found'
        have hsplit' := union_namesOf_cons ∅ name e entries
        simp only [Set.empty_union] at hsplit hsplit'
        rw [hsplit, hsplit', hnames]

end

/-! ## Steps -/

/-- Go on with expressions that are evaluated over the same frames. -/
theorem Sees.evalAll {w w₁ : Walk} {P : Prop} (h : Sees w w₁ w.context.frames P)
    (htolerant : w.context.tolerant = true) (hframes : w.context.frames ≠ []) (s : Step)
    (expressions : List String) (f : Frame) :
    Sees w (w₁.evalAll .names s f expressions) w.context.frames
      (P ∧ ∀ e ∈ expressions, e ∈ Bound w.context.values (f :: w.context.frames)) := by
  have hrest := sees_evalAll (s := s) (h.tolerant.trans htolerant) (by rw [h.frames]; exact hframes)
    expressions f
  rw [h.frames, h.values] at hrest
  exact h.trans hrest

/-- A request is made from the expressions of the action itself and those of its headers. -/
theorem mem_requestExpressions {a : Action} {leaf : Leaf} (hleaf : a.leaf? = some leaf) {e : String}
    (he : e ∈ a.requestExpressions) :
    (e ∈ match a with
      | .visit url method body _ => url :: (method.toList ++ body.toList)
      | .click link _ => [link]
      | _ => []) ∨ e ∈ leaf.headers.entries.map Prod.snd := by
  cases a with
  | visit url method body leaf' =>
      obtain rfl := Option.some.inj hleaf
      exact List.mem_append.1 he
  | click link leaf' =>
      obtain rfl := Option.some.inj hleaf
      simpa [Action.requestExpressions] using he
  | reload leaf' | follow leaf' =>
      obtain rfl := Option.some.inj hleaf
      exact .inr he
  | empty | block | each | repeated | choice => exact absurd hleaf (by simp [Action.leaf?])

/-- A step that produces a request. -/
theorem sees_walkLeaf {w : Walk} {s : Step} {leaf : Leaf} (hleaf : s.action.leaf? = some leaf)
    (htolerant : w.context.tolerant = true) {f : Frame} {frames : List Frame}
    (hframes : w.context.frames = f :: frames) (inner other : Set String → Prop) :
    ∃ f', Sees w (walkLeaf .names s leaf w) (f' :: frames)
        (s.action.Resolves inner other (Bound w.context.values (f :: frames))) ∧
      ∀ values, Bound values (f' :: frames) = Bound values (f :: frames) ∪ s.action.binds := by
  have hne : w.context.frames ≠ [] := by rw [hframes]; simp
  unfold walkLeaf
  extract_lets own w₁ w₂ shown
  have hrequest := ((Sees.refl w).evalAll htolerant hne s own .empty).evalAll htolerant hne s
    (leaf.headers.entries.map Prod.snd) .empty
  have hrequest₂ : Sees w w₂ w.context.frames _ := hrequest
  obtain ⟨g, found, w₃, heval, hnamed, hbound, hnames⟩ := sees_evalNamed (s := s)
    (hrequest₂.tolerant.trans htolerant) (by rw [hrequest₂.frames]; exact hne)
    leaf.extractions.entries shown []
  rw [hrequest₂.frames, hrequest₂.values] at hnamed
  have hall := (hrequest₂.trans hnamed).evalAll htolerant hne s leaf.assertions g
  simp only [heval, List.nil_append]
  obtain ⟨f', hbind, hbinds⟩ := bindAll_bound (hall.frames.trans hframes) found
  have hleafBinds : s.action.binds = namesOf leaf.extractions.entries := by
    simp [Action.binds, hleaf]
  refine ⟨f', ⟨?_, ?_, ?_, ?_⟩, ?_⟩
  · simp only [hbind]
    exact hall.values
  · simp only [hbind]
    exact hall.tolerant
  · simp only [hbind]
  · simp only [hbind]
    intro hnil
    obtain ⟨hmissing, ⟨⟨⟨_, hown⟩, hheaders⟩, hreadable⟩, hassertions⟩ := hall.missing hnil
    refine ⟨hmissing, ?_⟩
    rw [hframes, bound_empty] at hown hheaders
    rw [hbound, hframes, bound_exchangeFrame, Set.union_assoc] at hassertions
    rw [hframes, bound_exchangeFrame] at hreadable
    have hrequests : ∀ e ∈ s.action.requestExpressions, e ∈ Bound w.context.values (f :: frames) := by
      intro e he
      rcases mem_requestExpressions hleaf he with he | he
      · exact hown e he
      · exact hheaders e he
    cases haction : s.action with
    | visit | click | reload | follow =>
        rw [haction] at hleaf hrequests
        obtain rfl := Option.some.inj hleaf
        exact ⟨hrequests, hreadable, hassertions⟩
    | empty | block | each | repeated | choice =>
        rw [haction] at hleaf
        exact absurd hleaf (by simp [Action.leaf?])
  · intro values
    rw [hbinds, hnames, hleafBinds]

/-! ## Chains -/

/-- What a walker of chains does to a chain: it keeps the frames around the innermost, and if it misses
nothing, the script of the chain resolves. -/
def Walks (walk : Option Nat → Walk → Except Stop Walk) (head : Option Nat) (script : Script) : Prop :=
  ∀ (w w' : Walk) (f : Frame) (frames : List Frame), w.context.tolerant = true →
    w.context.frames = f :: frames → walk head w = .ok w' →
      ∃ f', Sees w w' (f' :: frames) (script.Resolves (Bound w.context.values (f :: frames)))

/-- A chain that is walked in a frame of its own. -/
theorem Walks.within {walk : Option Nat → Walk → Except Stop Walk} {head : Option Nat} {script : Script}
    (h : Walks walk head script) {w w₁ w' : Walk} {g : Frame} {frames : List Frame} {P : Prop}
    (htolerant : w.context.tolerant = true) (hsees : Sees w w₁ (g :: frames) P)
    (hwalk : (walk head w₁).map Walk.pop = .ok w') :
    Sees w w' frames (P ∧ script.Resolves (Bound w.context.values (g :: frames))) := by
  obtain ⟨w₂, hwalk₂, rfl⟩ := map_eq_ok hwalk
  obtain ⟨f', hchain⟩ := h w₁ w₂ g frames (hsees.tolerant.trans htolerant) hsees.frames hwalk₂
  rw [hsees.values] at hchain
  exact (hsees.trans hchain).pop

/-- A step, if the chains that it contains are walked. -/
theorem sees_walkStep {walk : Option Nat → Walk → Except Stop Walk} {s : Step} {inner other : Script}
    (hinner : Walks walk s.action.inner inner) (hother : Walks walk s.action.other other) {w w' : Walk}
    {f : Frame} {frames : List Frame} (htolerant : w.context.tolerant = true)
    (hframes : w.context.frames = f :: frames) (hwalk : walkStep .names walk s w = .ok w') :
    ∃ f', Sees w w' (f' :: frames) (s.action.Resolves inner.Resolves other.Resolves
        (Bound w.context.values (f :: frames))) ∧
      ∀ values, Bound values (f' :: frames) = Bound values (f :: frames) ∪ s.action.binds := by
  have hne : w.context.frames ≠ [] := by rw [hframes]; simp
  unfold walkStep at hwalk
  cases haction : s.action with
  | visit | click | reload | follow =>
      simp only [haction, Except.ok.injEq] at hwalk
      subst hwalk
      have hsees := sees_walkLeaf (s := s) (by rw [haction]; rfl) htolerant hframes inner.Resolves
        other.Resolves
      rw [haction] at hsees
      exact hsees
  | empty =>
      simp only [haction, Except.ok.injEq] at hwalk
      subst hwalk
      refine ⟨f, ?_, fun values => (Set.union_empty _).symm⟩
      rw [← hframes]
      exact Sees.refl w
  | block declarations child =>
      obtain ⟨g, found, w₁, heval, hsees, hbound, _⟩ := sees_evalNamed (s := s) htolerant hne
        declarations.entries .empty []
      simp only [haction, heval] at hwalk
      rw [haction] at hinner
      have hchain := hinner.within htolerant (hsees.push g) hwalk
      rw [hbound, bound_empty, hframes] at hchain
      exact ⟨f, hchain, fun values => (Set.union_empty _).symm⟩
  | each collection key value child =>
      have hsees := sees_eval (s := s) htolerant hne collection .empty
      simp only [haction] at hwalk
      rw [haction] at hinner
      have hchain := hinner.within htolerant (hsees.push _) hwalk
      rw [bound_itemFrame, bound_empty, hframes] at hchain
      exact ⟨f, hchain, fun values => (Set.union_empty _).symm⟩
  | repeated condition child =>
      have hpushed := (Sees.refl w).push .empty
      have hsees := sees_eval (w := w.push .empty) (s := s) htolerant (by rw [hpushed.frames]; simp)
        condition .empty
      rw [hpushed.frames, hpushed.values, bound_empty, bound_empty] at hsees
      simp only [haction] at hwalk
      rw [haction] at hinner
      have hchain := hinner.within htolerant (hpushed.trans hsees) hwalk
      rw [bound_empty, hframes] at hchain
      exact ⟨f, hchain.imp fun h => ⟨h.1.2, h.2⟩, fun values => (Set.union_empty _).symm⟩
  | choice condition holds otherwise =>
      have hsees := sees_eval (s := s) htolerant hne condition .empty
      simp only [haction] at hwalk
      obtain ⟨w₁, hholds, hotherwise⟩ := bind_eq_ok hwalk
      rw [haction] at hinner hother
      have hpopped := congrArg (Except.map Walk.pop) hholds
      have hfirst := hinner.within htolerant (hsees.push .empty) hpopped
      have hchain := hother.within htolerant (hfirst.push .empty) hotherwise
      rw [bound_empty, hframes] at hchain
      exact ⟨f, hchain.imp fun h => ⟨h.1.1, h.1.2, h.2⟩, fun values => (Set.union_empty _).symm⟩

/-- A walk that gets past a place found a step there, checked it, and walked it and what follows. -/
theorem walkFrom_eq_ok {ev : Evaluator} {g : Graph} {fuel p : Nat} {w w' : Walk}
    (h : walkFrom ev g (fuel + 1) (some p) w = .ok w') :
    ∃ s, g.step? p = some s ∧ ∃ w₁,
      walkStep ev (walkFrom ev g fuel) s (s.action.expressions.foldl (Walk.check ev s) w) = .ok w₁ ∧
        walkFrom ev g fuel s.next w₁ = .ok w' := by
  cases hs : g.step? p with
  | none => exact absurd h (by simp [walkFrom, hs])
  | some s =>
      simp only [walkFrom, hs] at h
      exact ⟨s, rfl, bind_eq_ok h⟩

/-- A chain is walked step by step. -/
theorem walks_walkFrom (g : Graph) (fuel : Nat) {head : Option Nat} {script : Script}
    (h : g.Reads head script) : Walks (walkFrom .names g fuel) head script := by
  -- on the fuel, of which the chains inside a step and the rest of its chain get the same
  induction fuel generalizing head script with
  | zero =>
      intro w w' f frames htolerant hframes hwalk
      cases h with
      | stop =>
          obtain rfl : w = w' := by simpa [walkFrom] using hwalk
          exact ⟨f, by rw [← hframes]; exact Sees.refl w⟩
      | step hs => simp [walkFrom] at hwalk
  | succ fuel ih =>
      intro w w' f frames htolerant hframes hwalk
      cases h with
      | stop =>
          obtain rfl : w = w' := by simpa [walkFrom] using hwalk
          exact ⟨f, by rw [← hframes]; exact Sees.refl w⟩
      | @step p s inner other rest hs hinner hother hrest =>
          obtain ⟨t, ht, w₁, hstep, hmore⟩ := walkFrom_eq_ok hwalk
          obtain rfl : s = t := Option.some.inj (hs.symm.trans ht)
          rw [check_names] at hstep
          obtain ⟨f₁, hsees, hbound⟩ := sees_walkStep (ih hinner) (ih hother) htolerant hframes hstep
          obtain ⟨f', hchain⟩ := ih hrest w₁ w' f₁ frames (hsees.tolerant.trans htolerant) hsees.frames
            hmore
          rw [hbound, hsees.values] at hchain
          exact ⟨f', hsees.trans hchain⟩

theorem walkStep_returns (ev : Evaluator) (walk : Option Nat → Walk → Except Stop Walk) {s : Step}
    (hinner : ∀ w, ∃ w', walk s.action.inner w = .ok w')
    (hother : ∀ w, ∃ w', walk s.action.other w = .ok w') (w : Walk) :
    ∃ w', walkStep ev walk s w = .ok w' := by
  unfold walkStep
  cases haction : s.action with
  | visit | click | reload | follow => exact ⟨_, rfl⟩
  | empty => exact ⟨_, rfl⟩
  | block | each | repeated =>
      rw [haction] at hinner
      obtain ⟨w', hwalk⟩ := hinner _
      exact ⟨w'.pop, congrArg (Except.map Walk.pop) hwalk⟩
  | choice condition holds otherwise =>
      rw [haction] at hinner hother
      obtain ⟨w₁, hholds⟩ := hinner ((w.eval ev s condition .empty).2.push .empty)
      obtain ⟨w₂, hotherwise⟩ := hother (w₁.pop.push .empty)
      simp only [Action.inner] at hholds
      simp only [Action.other] at hotherwise
      simp [hholds, hotherwise, bind, Except.bind, Except.map]

/-- The walk over a chain that has a script ends. -/
theorem walkFrom_returns (ev : Evaluator) {g : Graph} {depth : Nat} {head : Option Nat}
    {script : Script} (h : g.scriptFrom depth head = some script) (w : Walk) :
    ∃ w', walkFrom ev g depth head w = .ok w' := by
  induction depth generalizing head script w with
  | zero =>
      cases head with
      | none => exact ⟨w, rfl⟩
      | some p => exact absurd h (by simp [Graph.scriptFrom])
  | succ depth ih =>
      cases head with
      | none => exact ⟨w, rfl⟩
      | some p =>
          simp only [Graph.scriptFrom, Option.bind_eq_bind, Option.bind_eq_some_iff] at h
          obtain ⟨s, hs, inner, hinner, other, hother, rest, hrest, _⟩ := h
          obtain ⟨w₁, hstep⟩ := walkStep_returns ev (walkFrom ev g depth) (s := s)
            (ih hinner) (ih hother) (s.action.expressions.foldl (Walk.check ev s) w)
          obtain ⟨w', hmore⟩ := ih hrest w₁
          refine ⟨w', ?_⟩
          simp [walkFrom, hs, hstep, hmore, bind, Except.bind]

/-- There is a report on every graph that has a script. -/
theorem validate_returns (ev : Evaluator) {g : Graph} {script : Script}
    (h : g.script? = some script) (values : Bindings Json) :
    ∃ report, validate ev g values = some report := by
  obtain ⟨w', hwalk⟩ := walkFrom_returns ev h ⟨(Context.recording values).push .empty, []⟩
  exact ⟨⟨w'.context.missing, w'.issues⟩, by simp [validate, hwalk]⟩

/-- A report is made of a walk. -/
theorem walk_of_validate {ev : Evaluator} {g : Graph} {values : Bindings Json} {report : Report}
    (h : validate ev g values = some report) :
    ∃ w, walkFrom ev g (g.size + 1) g.root ⟨(Context.recording values).push .empty, []⟩ = .ok w ∧
      report = ⟨w.context.missing, w.issues⟩ := by
  unfold validate at h
  split at h
  · next w hwalk => exact ⟨w, hwalk, (Option.some.inj h).symm⟩
  · exact absurd h (by simp)

/-- If a report over base values misses no name, the script of the graph resolves among them. -/
theorem script_resolves {g : Graph} {script : Script} (h : g.Reads g.root script)
    {values : Bindings Json} {report : Report} (hreport : validate .names g values = some report)
    (hmissing : report.missing = []) : script.Resolves (Bound values []) := by
  obtain ⟨w', hwalk, rfl⟩ := walk_of_validate hreport
  obtain ⟨f', hsees⟩ := walks_walkFrom g (g.size + 1) h _ w' .empty [] rfl rfl hwalk
  have hresolves := (hsees.missing hmissing).2
  rw [bound_empty] at hresolves
  exact hresolves

end Walkthrough.Validation
