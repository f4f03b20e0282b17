import Walkthrough.Proofs.Engine.Call
import Walkthrough.Proofs.Graph.Links
import Walkthrough.Proofs.Scope.Bound

/-!
# Cursors, frames and what waits

The variables, the cursors, the phase and the request that waits are changed apart from each other, and
belong together all the same: every cursor has its frame, only the bottom one is without a container,
what is left to do in a container is what its step is made for (`Aligned`), and the phase says what is
open and what waits (`Balanced`).

* `Aligned.turned` — every turn keeps runs aligned;
* `balanced_of_ends` — a run that has advanced is balanced;
* `runs_balanced` — every run that calls lead to is balanced, and no call takes a way out that is only
  there in case it is not.
-/

namespace Walkthrough.Engine

variable {Req Res : Type}

/-- What is left to do belongs to the kind of a step. -/
def Control.Fits : Control → Action → Prop
  | .block, .block .. => True
  | .choice, .choice .. => True
  | .items _, .each .. => True
  | .counted _, .repeated .. => True
  | _, _ => False

/-- A cursor is without a container exactly if nothing is below it. -/
def Grounded : List Cursor → Prop
  | [] => True
  | c :: rest => (c.container = none ↔ rest = []) ∧ Grounded rest

/-- A cursor stands in the graph, and its container is that of a step of its kind. -/
def Seated (g : Graph) (c : Cursor) : Prop :=
  g.Placed c.position ∧
    ∀ k, c.container = some k → ∃ s, g.step? k.place = some s ∧ k.control.Fits s.action

/-- Cursors and frames belong together. -/
structure Aligned (S : Setup Req Res) (r : Run Req Res) : Prop where
  frames : r.context.frames.length = r.cursors.length
  grounded : Grounded r.cursors
  seated : ∀ c ∈ r.cursors, Seated S.graph c

/-- Cursors, frames, the phase and what waits belong together. -/
structure Balanced (S : Setup Req Res) (r : Run Req Res) : Prop where
  aligned : Aligned S r
  created : r.phase = .created → r.cursors = [] ∧ r.context.frames = [] ∧ r.pending = none
  awaiting : r.phase = .awaiting → r.cursors ≠ [] ∧
    ∃ p made s, r.pending = some ⟨p, made⟩ ∧ S.graph.step? p = some s ∧ s.action.isRequest = true
  done : r.phase = .done → r.cursors = [] ∧ r.context.frames = [] ∧ r.pending = none
  failed : r.phase = .failed → r.pending = none

/-! ## What the operations of a run keep -/

theorem Aligned.frames_ne_nil {S : Setup Req Res} {r : Run Req Res} (h : Aligned S r)
    (hcursors : r.cursors ≠ []) : r.context.frames ≠ [] := by
  intro hnil
  have hlength := h.frames
  rw [hnil] at hlength
  exact hcursors (List.length_eq_zero_iff.1 hlength.symm)

theorem Aligned.frames_nil {S : Setup Req Res} {r : Run Req Res} (h : Aligned S r)
    (hcursors : r.cursors = []) : r.context.frames = [] := by
  have hlength := h.frames
  rw [hcursors] at hlength
  exact List.length_eq_zero_iff.1 hlength

/-- Another run with as many frames and with the same cursors, apart from the innermost, is aligned as
well. -/
theorem Aligned.replace {S : Setup Req Res} {r r' : Run Req Res} {c c' : Cursor} {rest : List Cursor}
    (h : Aligned S r) (hcursors : r.cursors = c :: rest) (hcursors' : r'.cursors = c' :: rest)
    (hframes : r'.context.frames.length = r.context.frames.length)
    (hcontainer : c'.container = none ↔ c.container = none) (hseated : Seated S.graph c') :
    Aligned S r' := by
  refine ⟨?_, ?_, ?_⟩
  · rw [hframes, h.frames, hcursors, hcursors']
    rfl
  · have hgrounded := h.grounded
    rw [hcursors] at hgrounded
    rw [hcursors']
    exact ⟨hcontainer.trans hgrounded.1, hgrounded.2⟩
  · intro d hd
    rw [hcursors'] at hd
    rcases List.mem_cons.1 hd with rfl | hd
    · exact hseated
    · exact h.seated d (by rw [hcursors]; exact List.mem_cons_of_mem _ hd)

theorem Aligned.moveTo {S : Setup Req Res} {r : Run Req Res} (h : Aligned S r) {next : Option Nat}
    (hnext : S.graph.Placed next) : Aligned S (r.moveTo next) := by
  cases hcursors : r.cursors with
  | nil =>
      rw [moveTo_nil hcursors]
      exact h
  | cons c rest =>
      have hseated := h.seated c (by rw [hcursors]; exact List.mem_cons_self)
      have hmoved : (r.moveTo next).cursors = ⟨next, c.container⟩ :: rest := by
        rw [moveTo_eq hcursors]
      exact h.replace hcursors hmoved (by rw [moveTo_context]) Iff.rfl ⟨hnext, hseated.2⟩

theorem Aligned.record {S : Setup Req Res} {r : Run Req Res} (h : Aligned S r) (n : Result.Node) :
    Aligned S (r.record n) := by
  unfold Run.record
  split
  · next position c rest hcursors =>
    have hseated := h.seated _ (by rw [hcursors]; exact List.mem_cons_self)
    refine h.replace hcursors rfl rfl (by simp) ⟨hseated.1, ?_⟩
    intro k hk
    obtain rfl := Option.some.inj hk
    exact hseated.2 c rfl
  · exact ⟨h.frames, h.grounded, h.seated⟩

theorem Aligned.openContainer {S : Setup Req Res} {r : Run Req Res} (h : Aligned S r)
    (hcursors : r.cursors ≠ []) {head : Option Nat} (hhead : S.graph.Placed head) {c : Container}
    {s : Step} (hs : S.graph.step? c.place = some s) (hfits : c.control.Fits s.action) (f : Frame) :
    Aligned S (r.openContainer head c f) := by
  refine ⟨?_, ?_, ?_⟩
  · show (f :: r.context.frames).length = (_ :: r.cursors).length
    rw [List.length_cons, List.length_cons, h.frames]
  · exact ⟨by simp [hcursors], h.grounded⟩
  · intro d hd
    rcases List.mem_cons.1 hd with rfl | hd
    · refine ⟨hhead, ?_⟩
      intro k hk
      obtain rfl := Option.some.inj hk
      exact ⟨s, hs, hfits⟩
    · exact h.seated d hd

theorem Aligned.close {S : Setup Req Res} {r : Run Req Res} (h : Aligned S r) : Aligned S r.close := by
  unfold Run.close
  split
  · exact h
  · next position container rest hcursors =>
    have hrest : Aligned S { r with context := r.context.pop, cursors := rest } := by
      refine ⟨?_, ?_, ?_⟩
      · show r.context.frames.tail.length = rest.length
        rw [List.length_tail, h.frames, hcursors]
        rfl
      · have hgrounded := h.grounded
        rw [hcursors] at hgrounded
        exact hgrounded.2
      · intro d hd
        exact h.seated d (by rw [hcursors]; exact List.mem_cons_of_mem _ hd)
    cases container with
    | none => exact hrest
    | some c => exact hrest.record c.node

/-- Beginning an iteration leaves runs aligned, also if the innermost frame is another than before. -/
theorem Aligned.beginIteration {S : Setup Req Res} {r : Run Req Res} (h : Aligned S r) {c : Container}
    {s : Step} {rest : List Cursor} (hend : r.EndOf S c s rest) {context : Context}
    (hframes : context.frames.length = r.context.frames.length) {control : Control}
    (hfits : control.Fits s.action) {head : Option Nat} (hhead : S.graph.Placed head)
    (key value : Option Json) :
    Aligned S (Engine.beginIteration { r with context } rest c control head key value) := by
  refine h.replace hend.1 rfl hframes (by simp) ⟨hhead, ?_⟩
  intro k hk
  obtain rfl := Option.some.inj hk
  exact ⟨s, hend.2, hfits⟩

theorem pop_push_length {r : Run Req Res} (hne : r.context.frames ≠ []) (f : Frame) :
    (r.context.pop.push f).frames.length = r.context.frames.length := by
  cases hframes : r.context.frames with
  | nil => exact absurd hframes hne
  | cons g rest => simp [Context.pop, Context.push, hframes]

/-! ## Turns -/

theorem At.cursors_ne_nil {S : Setup Req Res} {r : Run Req Res} {p : Nat} {s : Step}
    (h : r.At S p s) (next : Option Nat) : (r.moveTo next).cursors ≠ [] := by
  obtain ⟨⟨k, rest, hcursors⟩, _⟩ := h
  rw [moveTo_eq hcursors]
  simp

/-- Every turn keeps runs aligned. -/
theorem Aligned.turned {S : Setup Req Res} (sound : S.graph.Sound) {r : Run Req Res}
    (h : Aligned S r) {t : Turn Req Res} (hturn : Turned S r t) : Aligned S t.run := by
  have moved : ∀ {p s}, r.At S p s → Aligned S (r.moveTo s.next) := fun hat =>
    h.moveTo (sound.next hat.2)
  have opened : ∀ {p s}, r.At S p s → ∀ {head : Option Nat} {c : Container} {f : Frame},
      c.place = p → c.control.Fits s.action → S.graph.Placed head →
      Aligned S ((r.moveTo s.next).openContainer head c f) := by
    intro p s hat head c f hplace hfits hhead
    exact (moved hat).openContainer (At.cursors_ne_nil hat _) hhead (hplace ▸ hat.2) hfits f
  cases hturn with
  | finish _ => exact h
  | want hat _ => exact moved hat
  | skip hat _ => exact (moved hat).record _
  | enterBlock hat haction _ =>
      refine opened hat rfl (by rw [haction]; trivial) ?_
      have hinner := sound.inner hat.2
      rwa [haction] at hinner
  | failBlock hat _ _ => exact moved hat
  | passEach hat _ _ => exact (moved hat).record _
  | enterEach hat haction _ =>
      refine opened hat rfl (by rw [haction]; trivial) ?_
      have hinner := sound.inner hat.2
      rwa [haction] at hinner
  | failEach hat _ _ => exact moved hat
  | passRepeated hat _ _ => exact (moved hat).record _
  | enterRepeated hat haction _ =>
      refine opened hat rfl (by rw [haction]; trivial) ?_
      have hinner := sound.inner hat.2
      rwa [haction] at hinner
  | failRepeated hat _ _ => exact moved hat
  | @enterChoice p s condition holds otherwise b hat haction _ =>
      refine opened hat rfl (by rw [haction]; trivial) ?_
      have hinner := sound.inner hat.2
      have hother := sound.other hat.2
      rw [haction] at hinner hother
      cases b with
      | true => exact hinner
      | false => exact hother
  | failChoice hat _ _ => exact moved hat
  | closeTop _ => exact h.close
  | closeContainer _ _ => exact h.close
  | nextItem hend _ haction =>
      have hne := h.frames_ne_nil (by rw [hend.1]; simp)
      refine h.beginIteration hend (pop_push_length hne _) (by rw [haction]; trivial) ?_ _ _
      have hinner := sound.inner hend.2
      rwa [haction] at hinner
  | nextRound hend _ haction _ _ =>
      refine h.beginIteration hend rfl (by rw [haction]; trivial) ?_ _ _
      have hinner := sound.inner hend.2
      rwa [haction] at hinner
  | failRound _ _ _ _ => exact h
  | exceed _ _ _ _ _ => exact h

/-- A run in the middle of a call: aligned, in the phase of a run that goes on, and without anything
that waits. -/
structure Underway (S : Setup Req Res) (r : Run Req Res) : Prop where
  aligned : Aligned S r
  phase : r.phase = .awaiting
  pending : r.pending = none

theorem Underway.turn {S : Setup Req Res} (sound : S.graph.Sound) {r r' : Run Req Res}
    (h : Underway S r) (hturn : turn S r = .ok (.on r')) : Underway S r' := by
  have hstanding : r'.standing = r.standing := turn_standing hturn
  refine ⟨h.aligned.turned sound (turned_of_turn hturn), ?_, ?_⟩
  · exact (congrArg Standing.phase hstanding).trans h.phase
  · exact (congrArg Standing.pending hstanding).trans h.pending

theorem Underway.turns {S : Setup Req Res} (sound : S.graph.Sound) {r r' : Run Req Res}
    (h : Underway S r) (hturns : Turns S r r') : Underway S r' :=
  hturns.keep (fun _ _ ih hturn => ih.turn sound hturn) h

/-- A turn from an aligned run does not leave the graph. -/
theorem Aligned.turn_returns {S : Setup Req Res} {r : Run Req Res} (h : Aligned S r) :
    ∃ t, Engine.turn S r = .ok t := by
  unfold Engine.turn
  split
  · exact ⟨_, rfl⟩
  · next q container rest hcursors =>
    obtain ⟨s, hs⟩ := (h.seated _ (by rw [hcursors]; exact List.mem_cons_self)).1.step
    rw [hs]
    exact ⟨_, rfl⟩
  · exact ⟨_, rfl⟩
  · next c rest hcursors =>
    obtain ⟨s, hs, _⟩ := (h.seated _ (by rw [hcursors]; exact List.mem_cons_self)).2 c rfl
    rw [hs]
    exact ⟨_, rfl⟩

theorem Aligned.turn_ne_dangling {S : Setup Req Res} {r : Run Req Res} (h : Aligned S r) (p : Nat) :
    Engine.turn S r ≠ .error (.dangling p) := by
  obtain ⟨t, ht⟩ := h.turn_returns
  rw [ht]
  simp

/-! ## Between calls -/

theorem Aligned.fail {S : Setup Req Res} {r : Run Req Res} (h : Aligned S r) : Balanced S r.fail where
  aligned := ⟨h.frames, h.grounded, h.seated⟩
  created hphase := absurd hphase (by simp [Run.fail])
  awaiting hphase := absurd hphase (by simp [Run.fail])
  done hphase := absurd hphase (by simp [Run.fail])
  failed _ := rfl

/-- A run that has advanced is balanced. -/
theorem balanced_of_ends {S : Setup Req Res} (sound : S.graph.Sound) {r r' : Run Req Res}
    {answer : Except Error Unit} (h : Underway S r) (hends : Ends S r answer r') : Balanced S r' := by
  cases hends with
  | @wanted r₁ p hturn =>
      have haligned : Aligned S r₁ := h.aligned.turned sound (turned_of_turn hturn)
      have hphase : r₁.phase = .awaiting :=
        (congrArg Standing.phase (turn_standing hturn)).trans h.phase
      refine ⟨⟨haligned.frames, haligned.grounded, haligned.seated⟩, ?_, ?_, ?_, ?_⟩
      · intro hcreated
        exact absurd (hphase.symm.trans hcreated) (by simp)
      · intro _
        cases turned_of_turn hturn with
        | @want p s hat hrequest =>
            exact ⟨At.cursors_ne_nil hat _, p, none, s, rfl, hat.2, hrequest⟩
      · intro hdone
        exact absurd (hphase.symm.trans hdone) (by simp)
      · intro hfailed
        exact absurd (hphase.symm.trans hfailed) (by simp)
  | @finished r₁ hturn =>
      cases turned_of_turn hturn with
      | finish hnil =>
          have haligned := h.aligned
          refine ⟨⟨haligned.frames, haligned.grounded, haligned.seated⟩, ?_, ?_, ?_, ?_⟩
          · exact fun hphase => absurd hphase (by simp [Run.finish])
          · exact fun hphase => absurd hphase (by simp [Run.finish])
          · exact fun _ => ⟨hnil, haligned.frames_nil hnil, rfl⟩
          · exact fun hphase => absurd hphase (by simp [Run.finish])
  | @failed r₁ e hturn => exact (h.aligned.turned sound (turned_of_turn hturn)).fail

theorem balanced_start (S : Setup Req Res) (values : Bindings Json) :
    Balanced S (.start values : Run Req Res) where
  aligned := ⟨rfl, trivial, fun _ h => absurd h (by simp [Run.start])⟩
  created _ := ⟨rfl, rfl, rfl⟩
  awaiting hphase := absurd hphase (by simp [Run.start])
  done hphase := absurd hphase (by simp [Run.start])
  failed hphase := absurd hphase (by simp [Run.start])

theorem underway_begin {S : Setup Req Res} (sound : S.graph.Sound) {r : Run Req Res}
    (h : Balanced S r) (hphase : r.phase = .created) : Underway S (begin S r) := by
  obtain ⟨hcursors, hframes, hpending⟩ := h.created hphase
  refine ⟨⟨?_, ?_, ?_⟩, rfl, hpending⟩
  · simp [begin, Context.push, hcursors, hframes]
  · simp [begin, Grounded, hcursors]
  · intro c hc
    obtain rfl : c = ⟨S.graph.root, none⟩ := by simpa [begin, hcursors] using hc
    exact ⟨sound.root, fun _ hk => absurd hk (by simp)⟩

/-- Taking a response leaves an aligned run with an open frame aligned. -/
theorem Aligned.judged {S : Setup Req Res} {r : Run Req Res} (h : Aligned S r)
    (hcursors : r.cursors ≠ []) {s : Step} {request : Req} {response : Res}
    {result : Except Error Unit × Run Req Res} (hjudged : Judged S r s request response result) :
    Aligned S result.2 := by
  cases hjudged with
  | noRequest => exact h
  | unwritten => exact h
  | unextracted => exact h
  | unjudged => exact h
  | unmet => exact h.record _
  | @met leaf exchange f extracted outcomes =>
      have hframes : (bindAll r.context extracted.entries).frames.length =
          r.context.frames.length := by
        obtain ⟨g, rest, hne⟩ := List.exists_cons_of_ne_nil (h.frames_ne_nil hcursors)
        obtain ⟨g', hbind, _⟩ := bindAll_bound hne extracted.entries
        rw [hbind, hne]
        rfl
      have hbound : Aligned S { r with
          context := (bindAll r.context extracted.entries).recordCompleted
          extractions := r.extractions.extend extracted } :=
        ⟨hframes.trans h.frames, h.grounded, h.seated⟩
      have hrecorded := hbound.record (exchangeNode s exchange extracted outcomes)
      exact ⟨hrecorded.frames, hrecorded.grounded, hrecorded.seated⟩

theorem underway_commit {S : Setup Req Res} {r r' : Run Req Res} (h : Balanced S r) {p : Nat}
    {s : Step} {request : Req} {response : Res} (hawaited : awaited S r request = .ok (.ok (p, s)))
    (hcomplete : complete S r s request response = (.ok (), r')) : Underway S r' := by
  obtain ⟨hphase, _⟩ := awaited_eq_ok_iff.1 hawaited
  have hjudged := judged_of_complete hcomplete
  refine ⟨h.aligned.judged (h.awaiting hphase).1 hjudged, ?_, ?_⟩
  · cases hjudged
    exact (record_phase _ _).trans hphase
  · cases hjudged
    rfl

theorem Balanced.handed {S : Setup Req Res} {r r' : Run Req Res} {answer : Except Error (Next Req)}
    (h : Balanced S r) (hphase : r.phase ≠ .created) (hhanded : Handed S r answer r') :
    Balanced S r' := by
  cases hhanded with
  | nothing => exact h
  | again => exact h
  | @made p s request hpending hs hconvert =>
      refine ⟨⟨h.aligned.frames, h.aligned.grounded, h.aligned.seated⟩,
        fun hcreated => absurd hcreated hphase, ?_, ?_, ?_⟩
      · intro hawaiting
        obtain ⟨hcursors, p', made, s', hpending', hs', hrequest⟩ := h.awaiting hawaiting
        obtain rfl : p = p' := by
          rw [hpending] at hpending'
          exact congrArg Pending.place (Option.some.inj hpending')
        exact ⟨hcursors, p, some request, s', rfl, hs', hrequest⟩
      · intro hdone
        rw [(h.done hdone).2.2] at hpending
        exact absurd hpending (by simp)
      · intro hfailed
        rw [h.failed hfailed] at hpending
        exact absurd hpending (by simp)
  | unmade => exact h.aligned.fail

theorem phase_of_ends {S : Setup Req Res} {r r' : Run Req Res} {answer : Except Error Unit}
    (hphase : r.phase = .awaiting) (hends : Ends S r answer r') : r'.phase ≠ .created := by
  cases hends with
  | wanted hturn =>
      have hphase := (congrArg Standing.phase (turn_standing hturn)).trans hphase
      exact fun hcreated => absurd (hphase.symm.trans hcreated) (by simp)
  | finished => simp [Run.finish]
  | failed => simp [Run.fail]

/-- Calls keep runs balanced. -/
theorem Balanced.called {S : Setup Req Res} (sound : S.graph.Sound) {r r' : Run Req Res} {fuel : Nat}
    {c : Call Req Res} {answer : Except Error (Option (Next Req))} (h : Balanced S r)
    (hcall : call S fuel r c = .ok (answer, r')) : Balanced S r' := by
  cases c with
  | peek =>
      obtain ⟨a, hpeek, _⟩ := peek_of_call hcall
      cases peeked_of_peek hpeek with
      | failed => exact h
      | done => exact h
      | begun hphase hturns hends hhanded =>
          have hunderway := (underway_begin sound h hphase).turns sound hturns
          exact (balanced_of_ends sound hunderway hends).handed (phase_of_ends hunderway.phase hends)
            hhanded
      | stopped hphase hturns hends =>
          exact balanced_of_ends sound ((underway_begin sound h hphase).turns sound hturns) hends
      | awaiting hphase hhanded => exact h.handed (by rw [hphase]; simp) hhanded
  | resume request response =>
      obtain ⟨a, hresume, _⟩ := resume_of_call hcall
      cases resumed_of_resume hresume with
      | refused => exact h
      | @rejected p s e r₁ hawaited hcomplete =>
          obtain ⟨hphase, _⟩ := awaited_eq_ok_iff.1 hawaited
          have hjudged := judged_of_complete hcomplete
          exact (h.aligned.judged (h.awaiting hphase).1 hjudged).fail
      | taken hawaited hcomplete hturns hends =>
          exact balanced_of_ends sound ((underway_commit h hawaited hcomplete).turns sound hturns)
            hends

theorem Reachable.balanced {S : Setup Req Res} (sound : S.graph.Sound) {values : Bindings Json}
    {r : Run Req Res} (h : Reachable S values r) : Balanced S r := by
  induction h with
  | start => exact balanced_start S values
  | call _ hcall ih => exact ih.called sound hcall

theorem Passing.underway {S : Setup Req Res} (sound : S.graph.Sound) {values : Bindings Json}
    {r : Run Req Res} (h : Passing S values r) : Underway S r := by
  induction h with
  | begun hreachable hphase => exact underway_begin sound (hreachable.balanced sound) hphase
  | taken hreachable hawaited hcomplete =>
      exact underway_commit (hreachable.balanced sound) hawaited hcomplete
  | turn _ hturn ih => exact ih.turn sound hturn

/-! ## No way out is taken -/

/-- The ways out of a call that are only there in case a run is not balanced: nothing waits although a
response is expected, what waits is no request, no frame is open to bind what was extracted, and a
place lies outside the graph. -/
structure Unneeded (S : Setup Req Res) (r : Run Req Res) : Prop where
  noPending : ∀ request, awaited S r request ≠ .ok (.error (.protocol .noPending))
  noRequest : ∀ request p s, awaited S r request = .ok (.ok (p, s)) → s.action.leaf? ≠ none
  noFrame : ∀ request p s, awaited S r request = .ok (.ok (p, s)) → r.context.frames ≠ []
  dangling : ∀ fuel c p, call S fuel r c ≠ .error (.dangling p)

theorem Balanced.peekPending_returns {S : Setup Req Res} {r : Run Req Res} (h : Balanced S r)
    (hphase : r.phase ≠ .created) : ∃ answer r', peekPending S r = .ok (answer, r') := by
  unfold peekPending
  split
  · next pending hpending =>
    have hawaiting : r.phase = .awaiting := by
      cases hp : r.phase with
      | created => exact absurd hp hphase
      | awaiting => rfl
      | done => rw [(h.done hp).2.2] at hpending; exact absurd hpending (by simp)
      | failed => rw [h.failed hp] at hpending; exact absurd hpending (by simp)
    obtain ⟨_, q, made, s, hpending', hs, _⟩ := h.awaiting hawaiting
    obtain rfl : pending = ⟨q, made⟩ := by
      rw [hpending] at hpending'
      exact Option.some.inj hpending'
    unfold peekAt
    simp only [hs]
    repeat' split
    all_goals exact ⟨_, _, rfl⟩
  · exact ⟨_, _, rfl⟩

theorem Balanced.peekPending_ne_dangling {S : Setup Req Res} {r : Run Req Res} (h : Balanced S r)
    (hphase : r.phase ≠ .created) (p : Nat) : peekPending S r ≠ .error (.dangling p) := by
  obtain ⟨answer, r', hpeek⟩ := h.peekPending_returns hphase
  rw [hpeek]
  simp

theorem Balanced.peek_ne_dangling {S : Setup Req Res} (sound : S.graph.Sound) {r : Run Req Res}
    (h : Balanced S r) (fuel p : Nat) : peek S fuel r ≠ .error (.dangling p) := by
  intro hpeek
  unfold peek at hpeek
  split at hpeek
  · exact absurd hpeek (by simp)
  · exact absurd hpeek (by simp)
  · next hphase =>
    have hbegin := underway_begin sound h hphase
    split at hpeek
    · next stop hadvance =>
      obtain rfl := Except.error.inj hpeek
      obtain ⟨r₁, hturns, hdangling⟩ := advance_dangling hadvance
      exact (hbegin.turns sound hturns).aligned.turn_ne_dangling p hdangling
    · exact absurd hpeek (by simp)
    · next r₂ hadvance =>
      obtain ⟨r₁, hturns, hends⟩ := advance_eq_ok hadvance
      have hunderway := hbegin.turns sound hturns
      exact (balanced_of_ends sound hunderway hends).peekPending_ne_dangling
        (phase_of_ends hunderway.phase hends) p hpeek
  · next hphase => exact h.peekPending_ne_dangling (by rw [hphase]; simp) p hpeek

theorem Balanced.awaited_cases {S : Setup Req Res} {r : Run Req Res} (h : Balanced S r)
    (request : Req) : (∃ fault, awaited S r request = .ok (.error (.protocol fault)) ∧
        fault ≠ .noPending) ∨
      ∃ p s, awaited S r request = .ok (.ok (p, s)) ∧ s.action.isRequest = true := by
  unfold awaited
  cases hphase : r.phase with
  | created => exact .inl ⟨.resumeEarly, rfl, by simp⟩
  | done => exact .inl ⟨.resumeDone, rfl, by simp⟩
  | failed => exact .inl ⟨.resumeFailed, rfl, by simp⟩
  | awaiting =>
      obtain ⟨_, p, made, s, hpending, hs, hrequest⟩ := h.awaiting hphase
      simp only [hpending, hs]
      cases made with
      | none => exact .inl ⟨.notPeeked s.uuid, rfl, by simp⟩
      | some expected =>
          simp only
          split
          · exact .inr ⟨p, s, rfl, hrequest⟩
          · exact .inl ⟨.otherRequest s.uuid, rfl, by simp⟩

theorem Balanced.resume_ne_dangling {S : Setup Req Res} (sound : S.graph.Sound) {r : Run Req Res}
    (h : Balanced S r) (fuel : Nat) (request : Req) (response : Res) (p : Nat) :
    resume S fuel r request response ≠ .error (.dangling p) := by
  intro hresume
  unfold resume at hresume
  rcases h.awaited_cases request with ⟨fault, hawaited, _⟩ | ⟨q, s, hawaited, _⟩
  · rw [hawaited] at hresume
    exact absurd hresume (by simp)
  · rw [hawaited] at hresume
    simp only at hresume
    split at hresume
    · exact absurd hresume (by simp)
    · next r₁ hcomplete =>
      obtain ⟨r₂, hturns, hdangling⟩ := advance_dangling hresume
      exact ((underway_commit h hawaited hcomplete).turns sound hturns).aligned.turn_ne_dangling p
        hdangling

theorem Balanced.unneeded {S : Setup Req Res} (sound : S.graph.Sound) {r : Run Req Res}
    (h : Balanced S r) : Unneeded S r where
  noPending request hawaited := by
    rcases h.awaited_cases request with ⟨fault, hfault, hne⟩ | ⟨p, s, hok, _⟩
    · rw [hfault] at hawaited
      exact hne (by simpa using hawaited)
    · rw [hok] at hawaited
      exact absurd hawaited (by simp)
  noRequest request p s hawaited hleaf := by
    rcases h.awaited_cases request with ⟨fault, hfault, _⟩ | ⟨p', s', hok, hrequest⟩
    · rw [hfault] at hawaited
      exact absurd hawaited (by simp)
    · rw [hok] at hawaited
      obtain ⟨rfl, rfl⟩ := Prod.mk.inj (Except.ok.inj (Except.ok.inj hawaited))
      rw [Action.isRequest, hleaf] at hrequest
      exact absurd hrequest (by simp)
  noFrame request p s hawaited := by
    obtain ⟨hphase, _⟩ := awaited_eq_ok_iff.1 hawaited
    exact h.aligned.frames_ne_nil (h.awaiting hphase).1
  dangling fuel c p hcall := by
    rcases call_eq_error hcall with ⟨_, hpeek⟩ | ⟨request, response, _, hresume⟩
    · exact h.peek_ne_dangling sound fuel p hpeek
    · exact h.resume_ne_dangling sound fuel request response p hresume

/-- What is left to do in the container of an aligned run fits the step of the container. -/
theorem Aligned.fits {S : Setup Req Res} {r : Run Req Res} (h : Aligned S r) {c : Container}
    {s : Step} {rest : List Cursor} (hend : r.EndOf S c s rest) : c.control.Fits s.action := by
  obtain ⟨s', hs', hfits⟩ := (h.seated _ (by rw [hend.1]; exact List.mem_cons_self)).2 c rfl
  obtain rfl : s = s' := Option.some.inj (hend.2.symm.trans hs')
  exact hfits

/-- **Representation.** Over a graph that was built, every run that calls lead to is balanced, and no
call takes a way out that is only there in case it is not; wherever a chain ends during a call, what is
left to do in its container fits the step of the container. -/
theorem runs_balanced (S : Setup Req Res) (steps : Array Step) (root : Option Nat)
    (built : Graph.build steps root = .ok S.graph) (values : Bindings Json) :
    (∀ r, Reachable S values r → Balanced S r ∧ Unneeded S r) ∧
      ∀ r c s rest, Passing S values r → r.EndOf S c s rest → c.control.Fits s.action := by
  have sound : S.graph.Sound := ((Graph.build_eq_ok_iff steps root S.graph).1 built).2
  constructor
  · intro r hreachable
    have hbalanced := hreachable.balanced sound
    exact ⟨hbalanced, hbalanced.unneeded sound⟩
  · intro r c s rest hpassing hend
    exact (hpassing.underway sound).aligned.fits hend

/-- After the first request of the gallery was handed out, the loop is open and its first page waits. -/
theorem gallery_balanced :
    Graph.build gallerySteps (some 0) = .ok gallery.graph ∧
      ∃ r, call gallery 4 (.start galleryValues) .peek
          = .ok (.ok (some (.request 1 "open" "/a")), r) ∧
        r.cursors.length = 2 ∧ Balanced gallery r ∧ Unneeded gallery r := by
  have hcall : ∃ r, call gallery 4 (.start galleryValues) .peek
      = .ok (.ok (some (.request 1 "open" "/a")), r) ∧ r.cursors.length = 2 := ⟨_, rfl, rfl⟩
  obtain ⟨r, hr, hlength⟩ := hcall
  exact ⟨rfl, r, hr, hlength,
    (runs_balanced gallery gallerySteps (some 0) rfl galleryValues).1 r (.call .start hr)⟩

end Walkthrough.Engine
