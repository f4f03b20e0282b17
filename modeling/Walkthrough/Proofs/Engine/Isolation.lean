import Walkthrough.Proofs.Engine.Moments
import Walkthrough.Proofs.Scope.Observed

/-!
# Scopes of containers

The frames of a run and its open containers go up and down together, and whatever happens it happens at
their top: the innermost frame is bound to or replaced, one more is opened, or the innermost is closed
(`Shifts`). So while a container is open, the frames around it stay what they were when it was entered
(`Encloses`), over any number of turns and calls.

* `Happens.shifts` — what anything that happens does to frames and open containers;
* `Encloses.along` — as long as a container is open, the frames around it stay;
* `scopes_isolated` — when it closes they are all that is open, as each next item of a loop finds them.
-/

namespace Walkthrough.Engine

variable {Req Res : Type} {S : Setup Req Res} {values : Bindings Json} {r r' : Run Req Res}

/-- The places of the steps whose containers are open, from the innermost; the top chain has none. -/
def Run.homes (r : Run Req Res) : List (Option Nat) :=
  r.cursors.map fun c => c.container.map (·.place)

/-- What may become of open containers and variables at once. -/
inductive Shifts (S : Setup Req Res) (r r' : Run Req Res) : Prop
  | kept : r'.homes = r.homes → r'.context = r.context → Shifts S r r'
  /-- The innermost frame is another one, and a request may be counted. -/
  | bound {f f' outer completed} : r'.homes = r.homes → r.context.frames = f :: outer →
      r'.context = { r.context with frames := f' :: outer, completed } → Shifts S r r'
  /-- The run begins, or the container of a step is entered. -/
  | opened {home f} : (r.cursors = [] ∨ ∃ p s, home = some p ∧ r.At S p s) →
      r'.homes = home :: r.homes → r'.context = r.context.push f → Shifts S r r'
  | closed {home f outer} : r.homes = home :: r'.homes → r.context.frames = f :: outer →
      r'.context = { r.context with frames := outer } → Shifts S r r'

/-- Only the cursors and the variables matter. -/
theorem Shifts.congr {r₁ : Run Req Res} (h : Shifts S r r₁) (hcursors : r'.cursors = r₁.cursors)
    (hcontext : r'.context = r₁.context) : Shifts S r r' := by
  have hhomes : r'.homes = r₁.homes := by rw [Run.homes, hcursors, Run.homes]
  cases h with
  | kept hh hc => exact .kept (hhomes.trans hh) (hcontext.trans hc)
  | bound hh hf hc => exact .bound (hhomes.trans hh) hf (hcontext.trans hc)
  | opened hat hh hc => exact .opened hat (hhomes.trans hh) (hcontext.trans hc)
  | closed hh hf hc => exact .closed (by rw [hh, hhomes]) hf (hcontext.trans hc)

/-! ## Operations -/

theorem length_homes (r : Run Req Res) : r.homes.length = r.cursors.length := List.length_map _

@[simp] theorem homes_moveTo (r : Run Req Res) (next : Option Nat) : (r.moveTo next).homes = r.homes := by
  cases hcursors : r.cursors with
  | nil => rw [moveTo_nil hcursors]
  | cons c rest =>
    rw [moveTo_eq hcursors]
    simp only [Run.homes, hcursors, List.map_cons]

@[simp] theorem homes_record (r : Run Req Res) (n : Result.Node) : (r.record n).homes = r.homes := by
  unfold Run.record
  split
  · next position c rest hcursors => simp only [Run.homes, hcursors, List.map_cons, Option.map_some]
  · rfl

theorem Run.At.shifts {p : Nat} {s : Step} (hat : r.At S p s) (next head : Option Nat)
    (control : Control) (n : Result.Node) (f : Frame) :
    Shifts S r ((r.moveTo next).openContainer head ⟨p, control, n⟩ f) := by
  have hhomes : ((r.moveTo next).openContainer head ⟨p, control, n⟩ f).homes =
      some p :: (r.moveTo next).homes := rfl
  have hcontext : ((r.moveTo next).openContainer head ⟨p, control, n⟩ f).context =
      (r.moveTo next).context.push f := rfl
  rw [homes_moveTo] at hhomes
  rw [moveTo_context] at hcontext
  exact .opened (.inr ⟨p, s, rfl, hat⟩) hhomes hcontext

theorem homes_close {c : Cursor} {rest : List Cursor} (h : r.cursors = c :: rest) :
    r.homes = c.container.map (·.place) :: r.close.homes := by
  unfold Run.close
  rw [h]
  obtain ⟨position, container⟩ := c
  cases container with
  | none => simp only [Run.homes, h, List.map_cons]
  | some c =>
    simp only [homes_record]
    simp only [Run.homes, h, List.map_cons]

theorem context_close {c : Cursor} {rest : List Cursor} (h : r.cursors = c :: rest) :
    r.close.context = r.context.pop := by
  unfold Run.close
  rw [h]
  obtain ⟨position, container⟩ := c
  cases container with
  | none => rfl
  | some c => exact record_context _ _

/-- Closing takes the innermost container away, and its frame. -/
theorem Aligned.shifts_close (h : Aligned S r) {c : Cursor} {rest : List Cursor}
    (hcursors : r.cursors = c :: rest) : Shifts S r r.close := by
  obtain ⟨f, outer, hframes⟩ := List.exists_cons_of_ne_nil
    (h.frames_ne_nil (by rw [hcursors]; exact List.cons_ne_nil _ _))
  refine .closed (homes_close hcursors) hframes ?_
  rw [context_close hcursors, Context.pop, hframes, List.tail_cons]

theorem homes_beginIteration {c : Container} {s : Step} {rest : List Cursor} (hend : r.EndOf S c s rest)
    (context : Context) (control : Control) (head : Option Nat) (key value : Option Json) :
    (beginIteration { r with context } rest c control head key value).homes = r.homes := by
  simp only [Run.homes, hend.1, beginIteration, List.map_cons, Option.map_some]

/-! ## Everything that happens -/

/-- A turn does something only at the top of open containers and frames. -/
theorem Aligned.shifts (h : Aligned S r) {t : Turn Req Res} (hturn : Turned S r t) :
    Shifts S r t.run := by
  have moved : ∀ next, Shifts S r (r.moveTo next) := fun next =>
    .kept (homes_moveTo r next) (moveTo_context r next)
  have passed : ∀ next n, Shifts S r ((r.moveTo next).record n) := fun next n =>
    .kept ((homes_record _ n).trans (homes_moveTo r next)) ((record_context _ n).trans (moveTo_context r next))
  cases hturn with
  | finish => exact .kept rfl rfl
  | want => exact moved _
  | skip => exact passed _ _
  | enterBlock hat => exact hat.shifts _ _ _ _ _
  | failBlock => exact moved _
  | passEach => exact passed _ _
  | enterEach hat => exact hat.shifts _ _ _ _ _
  | failEach => exact moved _
  | passRepeated => exact passed _ _
  | enterRepeated hat => exact hat.shifts _ _ _ _ _
  | failRepeated => exact moved _
  | enterChoice hat => exact hat.shifts _ _ _ _ _
  | failChoice => exact moved _
  | closeTop hcursors => exact h.shifts_close hcursors
  | closeContainer hend => exact h.shifts_close hend.1
  | @nextItem c s rest collection key value child item items hend =>
    -- the frame of the item before is replaced
    obtain ⟨f, outer, hframes⟩ := List.exists_cons_of_ne_nil
      (h.frames_ne_nil (by rw [hend.1]; exact List.cons_ne_nil _ _))
    have hcontext : r.context.pop.push (itemFrame key value item) =
        { r.context with frames := itemFrame key value item :: outer } := by
      rw [Context.push, Context.pop, hframes, List.tail_cons]
    exact .bound (homes_beginIteration hend _ _ _ _ _) hframes hcontext
  | nextRound hend => exact .kept (homes_beginIteration hend r.context _ _ _ _) rfl
  | failRound => exact .kept rfl rfl
  | exceed => exact .kept rfl rfl

/-- What comes of an exchange is bound in the innermost frame. -/
theorem Aligned.shifts_judged (h : Aligned S r) (hcursors : r.cursors ≠ []) {s : Step} {request : Req}
    {response : Res} {result : Except Error Unit × Run Req Res}
    (hjudged : Judged S r s request response result) : Shifts S r result.2 := by
  cases hjudged with
  | noRequest => exact .kept rfl rfl
  | unwritten => exact .kept rfl rfl
  | unextracted => exact .kept rfl rfl
  | unjudged => exact .kept rfl rfl
  | unmet => exact .kept (homes_record _ _) (record_context _ _)
  | @met leaf exchange f extracted outcomes =>
    obtain ⟨innermost, outer, hframes⟩ := List.exists_cons_of_ne_nil (h.frames_ne_nil hcursors)
    obtain ⟨f', hbind, _⟩ := bindAll_bound hframes extracted.entries
    have hcontext : (bindAll r.context extracted.entries).recordCompleted =
        { r.context with frames := f' :: outer, completed := r.context.completed + 1 } := by
      rw [hbind, Context.recordCompleted]
    exact .bound (homes_record _ _) hframes ((record_context _ _).trans hcontext)

/-- Whatever happens to a run, it happens at the top of open containers and frames. -/
theorem Happens.shifts (hsettled : Settled S r) (h : Happens S r r') : Shifts S r r' := by
  cases h with
  | begun hphase =>
    have hbalanced := hsettled.balanced fun hadvances => absurd (hphase.symm.trans hadvances.1) (by simp)
    exact .opened (.inl (hbalanced.created hphase).1) rfl rfl
  | turned _ hturn => exact hsettled.aligned.shifts (turned_of_turn hturn)
  | stopped _ hends =>
    cases hends with
    | wanted hturn => exact (hsettled.aligned.shifts (turned_of_turn hturn)).congr rfl rfl
    | finished hturn => exact (hsettled.aligned.shifts (turned_of_turn hturn)).congr rfl rfl
    | failed hturn => exact (hsettled.aligned.shifts (turned_of_turn hturn)).congr rfl rfl
  | made => exact .kept rfl rfl
  | unmade => exact .kept rfl rfl
  | taken hawaited hcomplete =>
    exact hsettled.aligned.shifts_judged (hsettled.waits hawaited) (judged_of_complete hcomplete)
  | rejected hawaited hcomplete =>
    have hjudged := judged_of_complete hcomplete
    exact (hsettled.aligned.shifts_judged (hsettled.waits hawaited) hjudged).congr rfl rfl

/-! ## While a container is open -/

/-- What happens as long as more than so many chains are open. -/
def Within (S : Setup Req Res) (depth : Nat) : Run Req Res → Run Req Res → Prop :=
  Relation.ReflTransGen fun r r' => Happens S r r' ∧ depth < r'.cursors.length

theorem Within.moment {depth : Nat} (h : Within S depth r r') (hmoment : Moment S values r) :
    Moment S values r' := by
  induction h with
  | refl => exact hmoment
  | tail _ hstep ih => exact ih.tail hstep.1

/-- The container that was entered at a place is still open. Every container further in has a frame of its
own, and around it everything is as it was, except that further requests may be completed. -/
structure Encloses (r : Run Req Res) (p : Nat) (r' : Run Req Res) : Prop where
  stack : ∃ opened inner, r'.homes = opened ++ some p :: r.homes ∧
    r'.context.frames = inner ++ r.context.frames ∧ inner.length = opened.length + 1
  context : r'.context =
    { r.context with frames := r'.context.frames, completed := r'.context.completed }

/-- A container that was entered at a place has just been closed, and everything is as it was, except that
further requests may be completed. -/
structure Restores (r r' : Run Req Res) : Prop where
  homes : r'.homes = r.homes
  context : r'.context = { r.context with completed := r'.context.completed }

theorem Encloses.lt {p : Nat} (h : Encloses r p r') : r.cursors.length < r'.cursors.length := by
  obtain ⟨⟨opened, inner, hhomes, _⟩, _⟩ := h
  have hlength := congrArg List.length hhomes
  rw [List.length_append, List.length_cons, length_homes, length_homes] at hlength
  omega

theorem Restores.length (h : Restores r r') : r'.cursors.length = r.cursors.length := by
  rw [← length_homes, ← length_homes, h.homes]

/-- Entering a container encloses all that is in it. -/
theorem Shifts.encloses (h : Shifts S r r') {p : Nat} {s : Step} (hat : r.At S p s)
    (hdeeper : r.cursors.length < r'.cursors.length) : Encloses r p r' := by
  rw [← length_homes, ← length_homes] at hdeeper
  cases h with
  | kept hhomes _ => exact absurd hdeeper (by rw [hhomes]; exact Nat.lt_irrefl _)
  | bound hhomes _ _ => exact absurd hdeeper (by rw [hhomes]; exact Nat.lt_irrefl _)
  | closed hhomes _ _ => exact absurd hdeeper (by rw [hhomes, List.length_cons]; omega)
  | @opened home f hentered hhomes hcontext =>
    obtain ⟨⟨k, rest, hcursors⟩, _⟩ := hat
    rcases hentered with hnil | ⟨q, s', rfl, ⟨k', rest', hcursors'⟩, _⟩
    · exact absurd (hcursors.symm.trans hnil) (List.cons_ne_nil _ _)
    · obtain ⟨⟨rfl, _⟩, _⟩ : (q = p ∧ k' = k) ∧ rest' = rest := by
        simpa [hcursors] using hcursors'.symm
      refine ⟨⟨[], [f], hhomes, ?_, rfl⟩, ?_⟩
      · rw [hcontext]
        rfl
      · rw [hcontext]
        rfl

/-- Whatever happens while a container is open leaves everything around it, also if it is closed. -/
theorem Encloses.shifts {r₁ : Run Req Res} {p : Nat} (h : Encloses r p r₁) (hshifts : Shifts S r₁ r') :
    Encloses r p r' ∨ Restores r r' := by
  obtain ⟨⟨opened, inner, hhomes, hframes, hlength⟩, hcontext⟩ := h
  cases hshifts with
  | kept hh hc =>
    refine .inl ⟨⟨opened, inner, hh.trans hhomes, ?_, hlength⟩, ?_⟩
    · rw [hc, hframes]
    · rw [hc]
      exact hcontext
  | @bound f f' outer completed hh hf hc =>
    obtain ⟨g, inner, rfl⟩ := List.exists_cons_of_length_eq_add_one hlength
    obtain ⟨rfl, rfl⟩ := List.cons.inj (hf.symm.trans hframes)
    refine .inl ⟨⟨opened, f' :: inner, hh.trans hhomes, ?_, hlength⟩, ?_⟩
    · rw [hc]
      rfl
    · rw [hc, hcontext]
  | @opened home f _ hh hc =>
    refine .inl ⟨⟨home :: opened, f :: inner, ?_, ?_, ?_⟩, ?_⟩
    · rw [hh, hhomes]
      rfl
    · rw [hc, Context.push, hframes]
      rfl
    · rw [List.length_cons, List.length_cons, hlength]
    · rw [hc, hcontext]
      rfl
  | @closed home f outer hh hf hc =>
    obtain ⟨g, inner, rfl⟩ := List.exists_cons_of_length_eq_add_one hlength
    obtain ⟨rfl, rfl⟩ := List.cons.inj (hf.symm.trans hframes)
    cases opened with
    | nil =>
      -- it was this container, whose frame was the only one further in
      obtain rfl := List.length_eq_zero_iff.1 (Nat.succ.inj hlength)
      refine .inr ⟨(List.cons.inj (hh.symm.trans hhomes)).2, ?_⟩
      rw [hc, hcontext]
      rfl
    | cons first opened =>
      refine .inl ⟨⟨opened, inner, (List.cons.inj (hh.symm.trans hhomes)).2, ?_, ?_⟩, ?_⟩
      · rw [hc]
        rfl
      · exact Nat.succ.inj hlength
      · rw [hc, hcontext]

/-- As long as a container is open, everything around it stays. -/
theorem Encloses.along (sound : S.graph.Sound) {r₁ : Run Req Res} {p : Nat} (h : Encloses r p r₁)
    (hmoment : Moment S values r₁) (hwithin : Within S r.cursors.length r₁ r') : Encloses r p r' := by
  induction hwithin with
  | refl => exact h
  | @tail r₂ r₃ hbefore hstep ih =>
    have hsettled := (Within.moment hbefore hmoment).settled sound
    rcases ih.shifts (hstep.1.shifts hsettled) with hencloses | hrestores
    · exact hencloses
    · exact absurd hstep.2 (by rw [hrestores.length]; exact Nat.lt_irrefl _)

/-! ## The items of a loop -/

/-- At the end of its chain a loop goes on with its next item, in a frame of the item alone, or is closed. -/
theorem Aligned.next_item (h : Aligned S r) {c : Container} {s : Step} {rest : List Cursor}
    (hend : r.EndOf S c s rest) {collection key value : String} {child : Option Nat}
    (haction : s.action = .each collection key value child) (hturn : turn S r = .ok (.on r')) :
    r' = r.close ∨ ∃ item, r'.context = r.context.pop.push (itemFrame key value item) := by
  have hfits := h.fits hend
  have hon : Turn.on r' = continueContainer S r rest c s :=
    (Except.ok.inj ((turn_of_endOf hend).symm.trans hturn)).symm
  rw [haction] at hfits
  cases hcontrol : c.control with
  | block | choice | counted => exact absurd hfits (by simp [hcontrol, Control.Fits])
  | items items =>
    unfold continueContainer at hon
    rw [hcontrol, haction] at hon
    cases items with
    | nil => exact .inl (Turn.on.inj hon)
    | cons item items =>
      obtain rfl := Turn.on.inj hon
      exact .inr ⟨item, rfl⟩

/-- The frame of an item binds the names of its loop, and shows what is around it for every other name. -/
theorem lookup_itemFrame {c : Context} {key value name : String} (item : Json × Json)
    (hindex : name ≠ indexName) (hkey : name ≠ key) (hvalue : name ≠ value) :
    (c.push (itemFrame key value item)).scope.lookup name = c.scope.lookup name := by
  refine lookup_push hindex ?_
  simp only [itemFrame, Bindings.find?_insert, if_neg hkey.symm, if_neg hvalue.symm, Bindings.find?_empty]

/-- **Scopes.** A container that is entered has its own frames from then on until it is closed, whatever
calls and turns come in between: the frames that were open are still what they were, and so are the base
values. When it is closed, they are all that is open, so that every name but that of the number of
completed requests has the value that it had before. And whenever a loop goes on with an item, that item
alone is bound over them, so that nothing that was bound for an item before is seen. -/
theorem scopes_isolated (S : Setup Req Res) (steps : Array Step) (root : Option Nat)
    (built : Graph.build steps root = .ok S.graph) {values : Bindings Json} {r r₁ r₂ : Run Req Res}
    (h : Moment S values r) {p : Nat} {s : Step} (hat : r.At S p s) (hentered : Happens S r r₁)
    (hdeeper : r.cursors.length < r₁.cursors.length) (hwithin : Within S r.cursors.length r₁ r₂) :
    (∃ inner, inner ≠ [] ∧ r₂.context = { r.context with
      frames := inner ++ r.context.frames
      completed := r₂.context.completed }) ∧
    (∀ r₃, Happens S r₂ r₃ → r₃.cursors.length ≤ r.cursors.length →
      r₃.cursors.length = r.cursors.length ∧
      r₃.context = { r.context with completed := r₃.context.completed } ∧
      ∀ name, name ≠ indexName → r₃.scope.lookup name = r.scope.lookup name) ∧
    ∀ collection key value child, s.action = .each collection key value child →
      ∀ c rest, r₂.EndOf S c s rest → r₂.cursors.length = r.cursors.length + 1 →
      ∀ r₃, turn S r₂ = .ok (.on r₃) → r.cursors.length < r₃.cursors.length →
        ∃ item, r₃.context = { r.context with
            frames := itemFrame key value item :: r.context.frames
            completed := r₃.context.completed } ∧
          ∀ name, name ≠ indexName → name ≠ key → name ≠ value →
            r₃.scope.lookup name = r.scope.lookup name := by
  have sound := ((Graph.build_eq_ok_iff steps root S.graph).1 built).2
  have hencloses₁ := (hentered.shifts (h.settled sound)).encloses hat hdeeper
  have hencloses := hencloses₁.along sound (h.tail hentered) hwithin
  have hsettled := (hwithin.moment (h.tail hentered)).settled sound
  obtain ⟨⟨opened, inner, hhomes, hframes, hlength⟩, hcontext⟩ := hencloses
  refine ⟨⟨inner, ?_, ?_⟩, ?_, ?_⟩
  · intro hnil
    rw [hnil] at hlength
    exact absurd hlength (by simp)
  · rw [← hframes]
    exact hcontext
  · intro r₃ hhappens hclosed
    rcases Encloses.shifts ⟨⟨opened, inner, hhomes, hframes, hlength⟩, hcontext⟩ (hhappens.shifts hsettled)
      with hstill | hrestores
    · exact absurd hstill.lt (Nat.not_lt_of_le hclosed)
    · refine ⟨hrestores.length, hrestores.context, fun name hname => ?_⟩
      rw [Run.scope, hrestores.context]
      exact lookup_counted hname _
  · intro collection key value child haction c rest hend hinnermost r₃ hturn hopen
    rcases hsettled.aligned.next_item hend haction hturn with rfl | ⟨item, hitem⟩
    · -- closing would leave as many chains as before the loop
      have hshorter := congrArg List.length (homes_close hend.1)
      rw [List.length_cons, length_homes, length_homes] at hshorter
      omega
    · -- the loop is the innermost container, so that its frame is the only one further in
      have hsingle : inner.length = 1 := by
        have hdepth := congrArg List.length hhomes
        rw [List.length_append, List.length_cons, length_homes, length_homes] at hdepth
        omega
      obtain ⟨f, rfl⟩ := List.length_eq_one_iff.1 hsingle
      have hcontext₃ : r₃.context = { r.context with
          frames := itemFrame key value item :: r.context.frames
          completed := r₃.context.completed } := by
        rw [hitem, Context.push, Context.pop, hframes, hcontext]
        rfl
      refine ⟨item, hcontext₃, fun name hindex hkey hvalue => ?_⟩
      rw [Run.scope, hcontext₃]
      exact (lookup_counted hindex _).trans (lookup_itemFrame item hindex hkey hvalue)

/-- What was extracted from the first page of the gallery is not seen when the loop goes on with the
second. -/
theorem gallery_isolated :
    ∃ r r₁ r₂ r₃, Moment gallery galleryValues r ∧ Happens gallery r r₁ ∧
      Within gallery r.cursors.length r₁ r₂ ∧ turn gallery r₂ = .ok (.on r₃) ∧
      r₂.scope.lookup "seen" = some (.string "first") ∧
      r₃.scope.lookup "seen" = r.scope.lookup "seen" := by
  -- the loop is entered, its first page waits, is asked for and answered, and the second is next
  have hruns : ∃ r₁ wanting asked r₂ r₃ c, Happens gallery (begin gallery (.start galleryValues)) r₁ ∧
      Happens gallery r₁ wanting ∧ Happens gallery wanting asked ∧ Happens gallery asked r₂ ∧
      turn gallery r₂ = .ok (.on r₃) ∧ r₁.cursors.length = 2 ∧ wanting.cursors.length = 2 ∧
      asked.cursors.length = 2 ∧ r₂.cursors.length = 2 ∧ r₃.cursors.length = 2 ∧
      r₂.EndOf gallery c gallerySteps[0] [⟨some 2, none⟩] ∧
      r₂.scope.lookup "seen" = some (.string "first") :=
    ⟨_, _, _, _, _, _, .turned ⟨rfl, rfl⟩ rfl, .stopped ⟨rfl, rfl⟩ (.wanted rfl), .made rfl rfl rfl,
      .taken (show awaited gallery _ "/a" = _ from rfl) (show complete gallery _ _ _ "first" = _ from rfl),
      rfl, rfl, rfl, rfl, rfl, rfl, ⟨rfl, rfl⟩, rfl⟩
  obtain ⟨r₁, wanting, asked, r₂, r₃, c, h₁, hwanting, hasked, h₂, h₃, hlength₁, hlengthW, hlengthA,
    hlength₂, hlength₃, hend, hseen⟩ := hruns
  have hbegun : Moment gallery galleryValues (begin gallery (.start galleryValues)) :=
    .single (.begun rfl)
  have hat : (begin gallery (.start galleryValues)).At gallery 0 gallerySteps[0] :=
    ⟨⟨none, [], rfl⟩, rfl⟩
  have hdepth : (begin gallery (.start galleryValues)).cursors.length = 1 := rfl
  have hwithin : Within gallery 1 r₁ r₂ :=
    ((Relation.ReflTransGen.single ⟨hwanting, by rw [hlengthW]; decide⟩).tail
      ⟨hasked, by rw [hlengthA]; decide⟩).tail ⟨h₂, by rw [hlength₂]; decide⟩
  obtain ⟨_, _, hitems⟩ := scopes_isolated gallery gallerySteps (some 0) rfl hbegun hat h₁
    (by rw [hdepth, hlength₁]; decide) (hdepth ▸ hwithin)
  obtain ⟨item, _, hlookup⟩ := hitems _ _ _ _ rfl c _ hend (by rw [hdepth, hlength₂]) r₃ h₃
    (by rw [hdepth, hlength₃]; decide)
  exact ⟨_, r₁, r₂, r₃, hbegun, h₁, hdepth ▸ hwithin, h₃, hseen,
    hlookup "seen" (by decide) (by decide) (by decide)⟩

end Walkthrough.Engine
