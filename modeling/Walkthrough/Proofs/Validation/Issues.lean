import Walkthrough.Proofs.Validation.Walk
import Walkthrough.Template.Evaluator

/-!
# What a report says of expressions

A walk looks at every expression of every step that its chain reaches, and notes each that is none
exactly once (`Notes`). All else that it notes are calls of what is not allowed, which messages tell
apart (`Issue.isDenial`).

* `notes_walkStep` — what is noted of a step, from what is noted of the chains inside it
* `notes_walkFrom` — what is noted of a chain
* `validate_exact`, `subjects_exact` — what is in a report
-/

namespace Walkthrough.Validation

open Engine (Stop)

/-! ## Issues -/

/-- The issue is a call of what is not allowed. -/
def Issue.isDenial (i : Issue) : Bool := "Security error: ".toList.isPrefixOf i.message.toList

/-- The issue says that an expression of a step is none, and why. -/
def Flaw (ev : Evaluator) (s : Step) (i : Issue) : Prop :=
  ∃ e ∈ s.action.expressions, ∃ err, ev.check e = .error err ∧ i = ⟨s.uuid, e, err.message⟩

/-- The issue is a flaw of a step that a chain reaches. -/
def FlawWithin (ev : Evaluator) (g : Graph) (head : Option Nat) (i : Issue) : Prop :=
  ∃ p s, g.Reaches head p ∧ g.step? p = some s ∧ Flaw ev s i

theorem isDenial_of_denied {s : Step} {e : String} {err : Error} (h : Walk.isDenial err = true) :
    (⟨s.uuid, e, err.message⟩ : Issue).isDenial = true := by
  cases err with
  | security e' f =>
    unfold Issue.isDenial Error.message
    simp only [List.isPrefixOf_iff_prefix, String.toList_append]
    have hbegins : (toString "Security error: `").toList = "Security error: ".toList ++ ['`'] := rfl
    rw [hbegins, List.append_assoc, List.append_assoc, List.append_assoc]
    exact List.prefix_append _ _
  | _ => exact absurd h (by simp [Walk.isDenial])

/-- Among issues found after others, those that are no denials are the ones described, and none occurs
twice unless it did before. -/
structure Notes (before after : List Issue) (Q : Issue → Prop) : Prop where
  mem_iff : ∀ i, i.isDenial = false → (i ∈ after ↔ i ∈ before ∨ Q i)
  nodup : before.Nodup → after.Nodup

namespace Notes

variable {issues issues₁ issues₂ : List Issue} {Q Q₁ Q₂ : Issue → Prop}

theorem nothing (issues : List Issue) : Notes issues issues fun _ => False :=
  ⟨fun _ _ => by simp, id⟩

theorem trans (h₁ : Notes issues issues₁ Q₁) (h₂ : Notes issues₁ issues₂ Q₂) :
    Notes issues issues₂ fun i => Q₁ i ∨ Q₂ i where
  mem_iff i hi := by rw [h₂.mem_iff i hi, h₁.mem_iff i hi, or_assoc]
  nodup h := h₂.nodup (h₁.nodup h)

theorem congr (h : Notes issues issues₁ Q₁) (hiff : ∀ i, Q₁ i ↔ Q₂ i) : Notes issues issues₁ Q₂ where
  mem_iff i hi := by rw [h.mem_iff i hi, hiff]
  nodup := h.nodup

theorem push {w : Walk} (h : Notes issues w.issues Q) (f : Frame) : Notes issues (w.push f).issues Q := h

/-- Nothing is found in either of two stretches. -/
theorem silent (h₁ : Notes issues issues₁ fun _ => False) (h₂ : Notes issues₁ issues₂ fun _ => False) :
    Notes issues issues₂ fun _ => False :=
  (h₁.trans h₂).congr fun _ => or_self_iff

end Notes

/-! ## Expressions -/

section

variable (ev : Evaluator) (s : Step) (w : Walk)

theorem notes_report (e : String) (err : Error) :
    Notes w.issues (w.report s e err).issues fun i => i = ⟨s.uuid, e, err.message⟩ := by
  unfold Walk.report
  by_cases hseen : w.issues.contains ⟨s.uuid, e, err.message⟩
  · rw [if_pos hseen]
    refine ⟨fun i _ => ⟨.inl, ?_⟩, id⟩
    rintro (hmem | rfl)
    · exact hmem
    · simpa using hseen
  · rw [if_neg hseen]
    refine ⟨fun i _ => by simp, fun hnodup => ?_⟩
    refine List.nodup_append.2 ⟨hnodup, by simp, ?_⟩
    intro i hi j hj heq
    obtain rfl := List.mem_singleton.1 hj
    exact hseen (by simpa [heq] using hi)

theorem notes_check (e : String) : Notes w.issues (Walk.check ev s w e).issues
    fun i => ∃ err, ev.check e = .error err ∧ i = ⟨s.uuid, e, err.message⟩ := by
  unfold Walk.check
  cases hcheck : ev.check e with
  | ok v => exact (Notes.nothing _).congr fun i => by simp
  | error err => exact (notes_report s w e err).congr fun i => by simp

/-- All expressions of a list are checked. -/
theorem notes_checks (expressions : List String) :
    Notes w.issues (expressions.foldl (Walk.check ev s) w).issues
      fun i => ∃ e ∈ expressions, ∃ err, ev.check e = .error err ∧ i = ⟨s.uuid, e, err.message⟩ := by
  induction expressions generalizing w with
  | nil => exact (Notes.nothing _).congr fun i => by simp
  | cons e expressions ih =>
    exact ((notes_check ev s w e).trans (ih _)).congr fun i => by simp

/-- Evaluating finds nothing but denials. -/
theorem notes_eval (e : String) (f : Frame) :
    Notes w.issues (w.eval ev s e f).2.issues fun _ => False := by
  unfold Walk.eval
  extract_lets a w₁
  cases a.result with
  | ok v => exact .nothing _
  | error err =>
    by_cases hdenial : Walk.isDenial err = true
    · simp only [hdenial, if_true]
      have hreport := notes_report s w₁ e err
      refine ⟨fun i hi => ?_, hreport.nodup⟩
      rw [hreport.mem_iff i hi, or_iff_left, or_iff_left not_false]
      rintro rfl
      rw [isDenial_of_denied hdenial] at hi
      exact absurd hi (by simp)
    · simp only [hdenial]
      exact .nothing _

theorem notes_evalAll (f : Frame) (expressions : List String) :
    Notes w.issues (w.evalAll ev s f expressions).issues fun _ => False := by
  induction expressions generalizing w with
  | nil => exact .nothing _
  | cons e expressions ih => exact (notes_eval ev s w e f).silent (ih _)

theorem notes_evalNamed (entries : List (String × String)) (f : Frame)
    (found : List (String × Json)) :
    Notes w.issues (Walk.evalNamed ev s f found w entries).2.2.issues fun _ => False := by
  induction entries generalizing w f found with
  | nil => exact .nothing _
  | cons entry entries ih =>
    obtain ⟨name, e⟩ := entry
    exact (notes_eval ev s w e f).silent (ih _ _ _)

/-! ## Steps -/

theorem notes_walkLeaf (leaf : Leaf) :
    Notes w.issues (walkLeaf ev s leaf w).issues fun _ => False := by
  unfold walkLeaf
  extract_lets own w₁ w₂ shown
  have hrequest : Notes w.issues w₂.issues fun _ => False :=
    (notes_evalAll ev s w .empty own).silent (notes_evalAll ev s w₁ .empty _)
  have hnamed := notes_evalNamed ev s w₂ leaf.extractions.entries shown []
  exact (hrequest.silent hnamed).silent (notes_evalAll ev s _ _ leaf.assertions)

end

/-- What is noted of a chain is what is noted of a step that contains it. -/
theorem Notes.inside {walk : Option Nat → Walk → Except Stop Walk} {Q : Option Nat → Issue → Prop}
    (h : ∀ head w w', walk head w = .ok w' → Notes w.issues w'.issues (Q head))
    {head : Option Nat} {issues : List Issue} {w w' : Walk}
    (hbefore : Notes issues w.issues fun _ => False) (hwalk : (walk head w).map Walk.pop = .ok w') :
    Notes issues w'.issues (Q head) := by
  obtain ⟨w₁, hwalk₁, rfl⟩ := map_eq_ok hwalk
  exact (hbefore.trans (h head w w₁ hwalk₁)).congr fun i => by simp

/-- Of a step is noted what is noted of the chains inside it. -/
theorem notes_walkStep {ev : Evaluator} {walk : Option Nat → Walk → Except Stop Walk}
    {Q : Option Nat → Issue → Prop} (hnone : ∀ i, ¬ Q none i)
    (h : ∀ head w w', walk head w = .ok w' → Notes w.issues w'.issues (Q head)) {s : Step} {w w' : Walk}
    (hwalk : walkStep ev walk s w = .ok w') :
    Notes w.issues w'.issues fun i => Q s.action.inner i ∨ Q s.action.other i := by
  unfold walkStep at hwalk
  cases haction : s.action with
  | visit | click | reload | follow =>
    simp only [haction, Except.ok.injEq] at hwalk
    subst hwalk
    exact (notes_walkLeaf ev s w _).congr fun i => by simp [Action.inner, Action.other, hnone]
  | empty =>
    simp only [haction, Except.ok.injEq] at hwalk
    subst hwalk
    exact (Notes.nothing _).congr fun i => by simp [Action.inner, Action.other, hnone]
  | block declarations child =>
    simp only [haction] at hwalk
    have hnamed := notes_evalNamed ev s w declarations.entries .empty []
    exact (Notes.inside h (hnamed.push _) hwalk).congr fun i => by simp [Action.inner, Action.other, hnone]
  | each collection key value child =>
    simp only [haction] at hwalk
    have hvalue := notes_eval ev s w collection .empty
    exact (Notes.inside h (hvalue.push _) hwalk).congr fun i => by simp [Action.inner, Action.other, hnone]
  | repeated condition child =>
    simp only [haction] at hwalk
    have hholds := notes_eval ev s (w.push .empty) condition .empty
    exact (Notes.inside h hholds hwalk).congr fun i => by simp [Action.inner, Action.other, hnone]
  | choice condition holds otherwise =>
    simp only [haction] at hwalk
    obtain ⟨w₁, hholds, hotherwise⟩ := bind_eq_ok hwalk
    have hcondition := notes_eval ev s w condition .empty
    have hfirst := (Notes.inside h (hcondition.push .empty) (congrArg (Except.map Walk.pop) hholds))
    have hsecond := Notes.inside h (Notes.nothing _) hotherwise
    exact hfirst.trans hsecond

/-! ## Chains -/

/-- Of a chain is noted what is wrong with the steps that it reaches. -/
theorem notes_walkFrom (ev : Evaluator) (g : Graph) (fuel : Nat) (head : Option Nat) (w w' : Walk)
    (hwalk : walkFrom ev g fuel head w = .ok w') :
    Notes w.issues w'.issues (FlawWithin ev g head) := by
  have hnone : ∀ i, ¬ FlawWithin ev g none i := by
    rintro i ⟨p, s, hreaches, _⟩
    exact Graph.not_reaches_none hreaches
  induction fuel generalizing head w w' with
  | zero =>
    cases head with
    | none =>
      obtain rfl : w = w' := by simpa [walkFrom] using hwalk
      exact (Notes.nothing _).congr fun i => by simp [hnone]
    | some p => exact absurd hwalk (by simp [walkFrom])
  | succ fuel ih =>
    cases head with
    | none =>
      obtain rfl : w = w' := by simpa [walkFrom] using hwalk
      exact (Notes.nothing _).congr fun i => by simp [hnone]
    | some p =>
      obtain ⟨s, hs, w₁, hstep, hrest⟩ := walkFrom_eq_ok hwalk
      have hown := notes_checks ev s w s.action.expressions
      have hinside := notes_walkStep hnone ih hstep
      refine ((hown.trans hinside).trans (ih _ _ _ hrest)).congr fun i => ?_
      -- what the chain reaches is this step, the chains inside it, and the rest of the chain
      have hreach : ∀ q, g.Reaches (some p) q ↔ _ := Graph.reaches_some_iff hs
      constructor
      · rintro ((hflaw | ⟨q, t, hq, ht, hflaw⟩ | ⟨q, t, hq, ht, hflaw⟩) | ⟨q, t, hq, ht, hflaw⟩)
        · exact ⟨p, s, .refl g p, hs, hflaw⟩
        · exact ⟨q, t, (hreach q).2 (.inr (.inl hq)), ht, hflaw⟩
        · exact ⟨q, t, (hreach q).2 (.inr (.inr (.inl hq))), ht, hflaw⟩
        · exact ⟨q, t, (hreach q).2 (.inr (.inr (.inr hq))), ht, hflaw⟩
      · rintro ⟨q, t, hq, ht, hflaw⟩
        rcases (hreach q).1 hq with rfl | hinner | hother | hnext
        · obtain rfl : s = t := Option.some.inj (hs.symm.trans ht)
          exact .inl (.inl hflaw)
        · exact .inl (.inr (.inl ⟨q, t, hinner, ht, hflaw⟩))
        · exact .inl (.inr (.inr ⟨q, t, hother, ht, hflaw⟩))
        · exact .inr ⟨q, t, hnext, ht, hflaw⟩

/-! ## Reports -/

/-- The step and the expression that an issue is about. -/
def Issue.subject (i : Issue) : String × String := (i.step, i.expression)

/-- The issues of a report that are no calls of what is not allowed. -/
def Report.flaws (r : Report) : List Issue := r.issues.filter fun i => !i.isDenial

/-- If no error of a check reads as a denial, then the issues of a report that are no denials are the flaws
of the steps that the root reaches. -/
theorem validate_exact {ev : Evaluator} {g : Graph} {values : Bindings Json} {report : Report}
    (hreport : validate ev g values = some report)
    (hcheck : ∀ s i, Flaw ev s i → i.isDenial = false) :
    report.issues.Nodup ∧ ∀ i, i ∈ report.flaws ↔ FlawWithin ev g g.root i := by
  obtain ⟨w', hwalk, rfl⟩ := walk_of_validate hreport
  have hnotes := notes_walkFrom ev g (g.size + 1) g.root _ w' hwalk
  refine ⟨hnotes.nodup List.nodup_nil, fun i => ?_⟩
  have hmem : i.isDenial = false → (i ∈ w'.issues ↔ FlawWithin ev g g.root i) := fun hi => by
    rw [hnotes.mem_iff i hi, or_iff_right List.not_mem_nil]
  unfold Report.flaws
  rw [List.mem_filter, Bool.not_eq_true']
  constructor
  · rintro ⟨hi, hdenial⟩
    exact (hmem hdenial).1 hi
  · intro hflaw
    have hdenial : i.isDenial = false := by
      obtain ⟨p, s, _, _, hstep⟩ := hflaw
      exact hcheck s i hstep
    exact ⟨(hmem hdenial).2 hflaw, hdenial⟩

/-- A flaw says of its subject what the check says. -/
theorem Flaw.subject {ev : Evaluator} {s : Step} {i : Issue} (h : Flaw ev s i) :
    i.step = s.uuid ∧ i.expression ∈ s.action.expressions ∧
      ∃ err, ev.check i.expression = .error err ∧ i.message = err.message := by
  obtain ⟨e, he, err, hcheck, rfl⟩ := h
  exact ⟨rfl, he, err, hcheck, rfl⟩

/-- Flaws of the same subject are the same. -/
theorem Flaw.eq_of_subject {ev : Evaluator} {s s' : Step} {i i' : Issue} (h : Flaw ev s i)
    (h' : Flaw ev s' i') (hsubject : i.subject = i'.subject) : i = i' := by
  obtain ⟨step, expression, message⟩ := i
  obtain ⟨step', expression', message'⟩ := i'
  obtain ⟨rfl, rfl⟩ := Prod.mk.inj hsubject
  obtain ⟨_, _, err, hcheck, hmessage⟩ := h.subject
  obtain ⟨_, _, err', hcheck', hmessage'⟩ := h'.subject
  obtain rfl : err = err' := Except.error.inj (hcheck.symm.trans hcheck')
  exact congrArg _ (hmessage.trans hmessage'.symm)

/-- A report has one flaw for each subject that the check rejects. -/
theorem subjects_exact {ev : Evaluator} {g : Graph} {report : Report} (hnodup : report.issues.Nodup)
    (hflaws : ∀ i, i ∈ report.flaws ↔ FlawWithin ev g g.root i) :
    (report.flaws.map Issue.subject).Nodup ∧
      ∀ uuid e, (uuid, e) ∈ report.flaws.map Issue.subject ↔
        ∃ p s, g.Reaches g.root p ∧ g.step? p = some s ∧ s.uuid = uuid ∧ e ∈ s.action.expressions ∧
          ∃ err, ev.check e = .error err := by
  constructor
  · refine List.Nodup.map_on ?_ (hnodup.filter _)
    intro i hi i' hi' hsubject
    obtain ⟨_, s, _, _, hflaw⟩ := (hflaws i).1 hi
    obtain ⟨_, s', _, _, hflaw'⟩ := (hflaws i').1 hi'
    exact hflaw.eq_of_subject hflaw' hsubject
  · intro uuid e
    rw [List.mem_map]
    constructor
    · rintro ⟨i, hi, hsubject⟩
      obtain ⟨p, s, hp, hs, hflaw⟩ := (hflaws i).1 hi
      obtain ⟨rfl, rfl⟩ := Prod.mk.inj hsubject
      obtain ⟨hstep, he, err, hcheck, _⟩ := hflaw.subject
      exact ⟨p, s, hp, hs, hstep.symm, he, err, hcheck⟩
    · rintro ⟨p, s, hp, hs, rfl, he, err, hcheck⟩
      exact ⟨⟨s.uuid, e, err.message⟩, (hflaws _).2 ⟨p, s, hp, hs, e, he, err, hcheck, rfl⟩, rfl⟩

end Walkthrough.Validation
