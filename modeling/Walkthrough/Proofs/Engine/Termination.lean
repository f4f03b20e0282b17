import Mathlib.Data.Prod.Lex
import Mathlib.Logic.Hydra
import Walkthrough.Proofs.Engine.Balance
import Walkthrough.Proofs.Engine.Drive

/-!
# Runs come to an end

What a run has still to do, as heads of a hydra (`Run.heads`): one for the place where each chain goes
on, which counts by the rank of the place, and one for every open container, which counts by the rank of
its step and then by the rounds that may still come. A turn cuts one head, and what grows instead is
lower: a chain that begins anew is a chain of steps of lower rank, however many items its loops turn out
to have (`lighter_of_turn`).

* `Lighter.wellFounded` — a run cannot become lighter for ever;
* `advance_returns`, `Balanced.call_returns` — every call returns;
* `goes_over` — every driven run comes to an end;
* `runs_end` — both, for every acyclic graph that was built.
-/

namespace Walkthrough.Engine

open Relation

variable {Req Res : Type}

/-! ## What is still to do -/

/-- How many further rounds a container may begin. -/
def Control.left (limit : Nat) : Control → Nat
  | .items rest => rest.length
  | .counted n => limit - n
  | .block | .choice => 0

/-- The head of the place where a chain goes on, above those of containers of the same rank. -/
noncomputable def placeHeads (g : Graph) : Option Nat → Multiset (Nat ×ₗ Nat)
  | none => 0
  | some p => {toLex (2 * g.rank p + 1, 0)}

/-- The head of a container; the top chain has the lowest. -/
noncomputable def containerHead (S : Setup Req Res) : Option Container → Nat ×ₗ Nat
  | none => toLex (0, 0)
  | some c => toLex (2 * S.graph.rank c.place, c.control.left S.iterationLimit)

/-- The heads of cursors. -/
noncomputable def cursorHeads (S : Setup Req Res) : List Cursor → Multiset (Nat ×ₗ Nat)
  | [] => 0
  | c :: rest => placeHeads S.graph c.position + ({containerHead S c.container} + cursorHeads S rest)

/-- What a run has still to do. -/
noncomputable def Run.heads (S : Setup Req Res) (r : Run Req Res) : Multiset (Nat ×ₗ Nat) := cursorHeads S r.cursors

/-- One run has less to do than another: a head of the other is cut, and only lower ones grow. -/
def Lighter (S : Setup Req Res) (r' r : Run Req Res) : Prop :=
  CutExpand (· < ·) (r'.heads S) (r.heads S)

theorem Lighter.wellFounded (S : Setup Req Res) : WellFounded (Lighter S) :=
  InvImage.wf (Run.heads S) (WellFounded.cutExpand wellFounded_lt)

section

variable {S : Setup Req Res} {r r' : Run Req Res}

theorem lighter_of_heads {a : Nat ×ₗ Nat} {grown rest : Multiset (Nat ×ₗ Nat)}
    (h : r.heads S = {a} + rest) (h' : r'.heads S = grown + rest) (hlower : ∀ b ∈ grown, b < a) :
    Lighter S r' r := by
  unfold Lighter
  rw [h, h']
  exact (cutExpand_add_right rest).2 (cutExpand_singleton hlower)

/-- What a step leads to is lower than the step, whatever is still to do at either. -/
theorem placeHeads_lt (sound : S.graph.Sound) (acyclic : S.graph.Acyclic) {p : Nat} {s : Step}
    (hs : S.graph.step? p = some s) {next : Option Nat}
    (hlink : ∀ q, next = some q → s.next = some q ∨ q ∈ s.action.children) (j n : Nat) :
    ∀ b ∈ placeHeads S.graph next, b < toLex (2 * S.graph.rank p + j, n) := by
  intro b hb
  cases next with
  | none => exact absurd hb (Multiset.notMem_zero b)
  | some q =>
      have hrank := Graph.rank_lt_of_links sound acyclic ⟨s, hs, hlink q rfl⟩
      rw [Multiset.mem_singleton.1 hb, Prod.Lex.toLex_lt_toLex]
      exact .inl (by simp only; omega)

@[simp] theorem heads_record (n : Result.Node) : (r.record n).heads S = r.heads S := by
  unfold Run.heads Run.record
  split
  · next hcursors => rw [hcursors]; rfl
  · rfl

theorem heads_moveTo {p : Nat} {s : Step} (hat : r.At S p s) (next : Option Nat) :
    ∃ rest, r.heads S = {toLex (2 * S.graph.rank p + 1, 0)} + rest ∧
      (r.moveTo next).heads S = placeHeads S.graph next + rest := by
  obtain ⟨⟨k, cursors, hcursors⟩, _⟩ := hat
  refine ⟨{containerHead S k} + cursorHeads S cursors, ?_, ?_⟩
  · unfold Run.heads
    rw [hcursors]
    rfl
  · unfold Run.heads
    rw [moveTo_eq hcursors]
    rfl

/-! ## Turns -/

theorem lighter_moveTo (sound : S.graph.Sound) (acyclic : S.graph.Acyclic) {p : Nat} {s : Step}
    (hat : r.At S p s) : Lighter S (r.moveTo s.next) r := by
  obtain ⟨rest, hheads, hmoved⟩ := heads_moveTo hat s.next
  exact lighter_of_heads hheads hmoved
    (placeHeads_lt sound acyclic hat.2 (fun _ hq => .inl hq) 1 0)

theorem lighter_passed (sound : S.graph.Sound) (acyclic : S.graph.Acyclic) {p : Nat} {s : Step}
    (hat : r.At S p s) (n : Result.Node) : Lighter S ((r.moveTo s.next).record n) r := by
  have hmoved := lighter_moveTo sound acyclic hat
  unfold Lighter at hmoved ⊢
  rw [heads_record]
  exact hmoved

/-- A container that is opened and the chain in it are lower than the place of its step was. -/
theorem lighter_openContainer (sound : S.graph.Sound) (acyclic : S.graph.Acyclic) {p : Nat}
    {s : Step} (hat : r.At S p s) {head : Option Nat}
    (hhead : ∀ q, head = some q → q ∈ s.action.children) (control : Control) (n : Result.Node)
    (f : Frame) : Lighter S ((r.moveTo s.next).openContainer head ⟨p, control, n⟩ f) r := by
  obtain ⟨rest, hheads, hmoved⟩ := heads_moveTo hat s.next
  have hopened : ((r.moveTo s.next).openContainer head ⟨p, control, n⟩ f).heads S =
      placeHeads S.graph head + ({containerHead S (some ⟨p, control, n⟩)}
        + placeHeads S.graph s.next) + rest := by
    have hcons : ((r.moveTo s.next).openContainer head ⟨p, control, n⟩ f).heads S =
        placeHeads S.graph head + ({containerHead S (some ⟨p, control, n⟩)}
          + (r.moveTo s.next).heads S) := rfl
    rw [hcons, hmoved, add_assoc, add_assoc]
  refine lighter_of_heads hheads hopened ?_
  intro b hb
  rcases Multiset.mem_add.1 hb with hb | hb
  · exact placeHeads_lt sound acyclic hat.2 (fun q hq => .inr (hhead q hq)) 1 0 b hb
  rcases Multiset.mem_add.1 hb with hb | hb
  · rw [Multiset.mem_singleton.1 hb]
    exact Prod.Lex.toLex_lt_toLex.2 (.inl (by simp only; omega))
  · exact placeHeads_lt sound acyclic hat.2 (fun _ hq => .inl hq) 1 0 b hb

theorem lighter_close {k : Option Container} {rest : List Cursor}
    (hcursors : r.cursors = ⟨none, k⟩ :: rest) : Lighter S r.close r := by
  have hheads : r.heads S = {containerHead S k} + cursorHeads S rest := by
    unfold Run.heads
    rw [hcursors]
    exact zero_add _
  have hclosed : r.close.heads S = 0 + cursorHeads S rest := by
    rw [zero_add]
    unfold Run.close
    rw [hcursors]
    cases k with
    | none => rfl
    | some c => exact heads_record _
  exact lighter_of_heads hheads hclosed fun b hb => absurd hb (Multiset.notMem_zero b)

/-- An iteration that begins leaves fewer of them to come. -/
theorem lighter_beginIteration (sound : S.graph.Sound) (acyclic : S.graph.Acyclic) {c : Container}
    {s : Step} {rest : List Cursor} (hend : r.EndOf S c s rest) {head : Option Nat}
    (hhead : ∀ q, head = some q → q ∈ s.action.children) {control : Control}
    (hleft : control.left S.iterationLimit < c.control.left S.iterationLimit) (context : Context)
    (key value : Option Json) :
    Lighter S (beginIteration { r with context } rest c control head key value) r := by
  have hheads : r.heads S = {containerHead S (some c)} + cursorHeads S rest := by
    unfold Run.heads
    rw [hend.1]
    exact zero_add _
  have hbegun : (beginIteration { r with context } rest c control head key value).heads S =
      placeHeads S.graph head +
        {toLex (2 * S.graph.rank c.place, control.left S.iterationLimit)} + cursorHeads S rest := by
    rw [add_assoc]
    rfl
  refine lighter_of_heads hheads hbegun ?_
  intro b hb
  rcases Multiset.mem_add.1 hb with hb | hb
  · exact placeHeads_lt sound acyclic hend.2 (fun q hq => .inr (hhead q hq)) 0 _ b hb
  · rw [Multiset.mem_singleton.1 hb]
    exact Prod.Lex.toLex_lt_toLex.2 (.inr ⟨rfl, hleft⟩)

/-- A turn after which a run goes on leaves less to do. -/
theorem lighter_of_turn (sound : S.graph.Sound) (acyclic : S.graph.Acyclic)
    (h : turn S r = .ok (.on r')) : Lighter S r' r := by
  have inner : ∀ {s : Step}, ∀ q, s.action.inner = some q → q ∈ s.action.children := fun q hq =>
    (Action.mem_children_iff _ q).2 (.inl hq)
  cases turned_of_turn h with
  | skip hat => exact lighter_passed sound acyclic hat _
  | enterBlock hat haction =>
      exact lighter_openContainer sound acyclic hat
        (fun q hq => inner q (by rw [haction]; exact hq)) _ _ _
  | passEach hat => exact lighter_passed sound acyclic hat _
  | enterEach hat haction =>
      exact lighter_openContainer sound acyclic hat
        (fun q hq => inner q (by rw [haction]; exact hq)) _ _ _
  | passRepeated hat => exact lighter_passed sound acyclic hat _
  | enterRepeated hat haction =>
      exact lighter_openContainer sound acyclic hat
        (fun q hq => inner q (by rw [haction]; exact hq)) _ _ _
  | @enterChoice p s condition holds otherwise b hat haction =>
      refine lighter_openContainer sound acyclic hat ?_ _ _ _
      intro q hq
      rw [Action.mem_children_iff, haction]
      cases b with
      | true => exact .inl hq
      | false => exact .inr hq
  | closeTop hcursors => exact lighter_close hcursors
  | closeContainer hend => exact lighter_close hend.1
  | nextItem hend hcontrol haction =>
      refine lighter_beginIteration sound acyclic hend
        (fun q hq => inner q (by rw [haction]; exact hq)) ?_ _ _ _
      rw [hcontrol]
      exact Nat.lt_succ_self _
  | nextRound hend hcontrol haction _ hlimit =>
      refine lighter_beginIteration sound acyclic hend
        (fun q hq => inner q (by rw [haction]; exact hq)) ?_ r.context _ _
      rw [hcontrol]
      simp only [Control.left]
      omega

theorem lighter_of_wanted (sound : S.graph.Sound) (acyclic : S.graph.Acyclic) {p : Nat}
    (h : turn S r = .ok (.wanted r' p)) : Lighter S r' r := by
  cases turned_of_turn h with
  | want hat => exact lighter_moveTo sound acyclic hat

/-! ## Calls -/

/-- Advancing returns, with fuel enough. -/
theorem advance_returns (sound : S.graph.Sound) (acyclic : S.graph.Acyclic) (h : Underway S r) :
    ∃ enough answer r', ∀ fuel, enough ≤ fuel → advance S fuel r = .ok (answer, r') := by
  induction r using (Lighter.wellFounded S).induction with
  | _ r ih =>
      obtain ⟨t, hturn⟩ := h.aligned.turn_returns
      have ends : ∀ {answer r'}, Ends S r answer r' → ∃ enough answer r', ∀ fuel, enough ≤ fuel →
          advance S fuel r = .ok (answer, r') := by
        intro answer r' hends
        refine ⟨1, answer, r', ?_⟩
        intro fuel hfuel
        obtain ⟨fuel, rfl⟩ := Nat.exists_eq_add_of_le' hfuel
        exact advance_of_ends hends fuel
      cases t with
      | on r₁ =>
          obtain ⟨enough, answer, r', hadvance⟩ :=
            ih r₁ (lighter_of_turn sound acyclic hturn) (h.turn sound hturn)
          refine ⟨enough + 1, answer, r', ?_⟩
          intro fuel hfuel
          obtain ⟨fuel, rfl⟩ := Nat.exists_eq_add_of_le' (Nat.le_trans (Nat.le_add_left 1 _) hfuel)
          rw [advance_on hturn]
          exact hadvance fuel (by omega)
      | wanted r₁ p => exact ends (.wanted hturn)
      | finished r₁ => exact ends (.finished hturn)
      | failed r₁ e => exact ends (.failed hturn)

theorem Balanced.peek_returns (sound : S.graph.Sound) (acyclic : S.graph.Acyclic)
    (h : Balanced S r) :
    ∃ enough answer r', ∀ fuel, enough ≤ fuel → peek S fuel r = .ok (answer, r') := by
  cases hphase : r.phase with
  | failed => exact ⟨0, _, r, fun fuel _ => by rw [peek, hphase]⟩
  | done => exact ⟨0, _, r, fun fuel _ => by rw [peek, hphase]⟩
  | awaiting =>
      obtain ⟨answer, r', hpeek⟩ := h.peekPending_returns (by rw [hphase]; simp)
      exact ⟨0, answer, r', fun fuel _ => by rw [peek, hphase]; exact hpeek⟩
  | created =>
      have hbegin := underway_begin sound h hphase
      obtain ⟨enough, answer, r₁, hadvance⟩ := advance_returns sound acyclic hbegin
      cases answer with
      | error e =>
          refine ⟨enough, .error e, r₁, ?_⟩
          intro fuel hfuel
          rw [peek, hphase]
          simp only [hadvance fuel hfuel]
      | ok u =>
          obtain ⟨r₂, hturns, hends⟩ := advance_eq_ok (hadvance enough (Nat.le_refl _))
          have hunderway := hbegin.turns sound hturns
          obtain ⟨answer, r', hpeek⟩ := (balanced_of_ends sound hunderway hends).peekPending_returns
            (phase_of_ends hunderway.phase hends)
          refine ⟨enough, answer, r', ?_⟩
          intro fuel hfuel
          rw [peek, hphase]
          simp only [hadvance fuel hfuel, hpeek]

theorem Balanced.resume_returns (sound : S.graph.Sound) (acyclic : S.graph.Acyclic)
    (h : Balanced S r) (request : Req) (response : Res) :
    ∃ enough answer r', ∀ fuel, enough ≤ fuel →
      resume S fuel r request response = .ok (answer, r') := by
  rcases h.awaited_cases request with ⟨fault, hawaited, _⟩ | ⟨p, s, hawaited, _⟩
  · exact ⟨0, _, r, fun fuel _ => by rw [resume, hawaited]⟩
  · cases hcomplete : complete S r s request response with
    | mk answer r₁ =>
        cases answer with
        | error e =>
            refine ⟨0, .error e, r₁.fail, ?_⟩
            intro fuel _
            rw [resume, hawaited]
            simp only [hcomplete]
        | ok u =>
            obtain ⟨enough, answer, r', hadvance⟩ :=
              advance_returns sound acyclic (underway_commit h hawaited hcomplete)
            refine ⟨enough, answer, r', ?_⟩
            intro fuel hfuel
            rw [resume, hawaited]
            simp only [hcomplete, hadvance fuel hfuel]

/-- Every call returns, with fuel enough. -/
theorem Balanced.call_returns (sound : S.graph.Sound) (acyclic : S.graph.Acyclic)
    (h : Balanced S r) (c : Call Req Res) :
    ∃ enough answer r', ∀ fuel, enough ≤ fuel → call S fuel r c = .ok (answer, r') := by
  cases c with
  | peek =>
      obtain ⟨enough, answer, r', hpeek⟩ := h.peek_returns sound acyclic
      refine ⟨enough, answer.map some, r', ?_⟩
      intro fuel hfuel
      rw [call_peek, hpeek fuel hfuel]
      rfl
  | resume request response =>
      obtain ⟨enough, answer, r', hresume⟩ := h.resume_returns sound acyclic request response
      refine ⟨enough, answer.map fun _ => none, r', ?_⟩
      intro fuel hfuel
      rw [call_resume, hresume fuel hfuel]
      rfl

/-! ## Driven runs -/

/-- A response that is taken leaves the run underway, with as much to do as before. -/
theorem underway_exchanged (sound : S.graph.Sound) (h : Underway S r) {r₁ : Run Req Res} {p : Nat}
    {s : Step} {q : Req} (hwants : Wants S r r₁ p s q) (hsame : S.converter.same q q = true)
    {a : Res} (hcomplete : complete S (r₁.waiting p q) s q a = (.ok (), r')) :
    Underway S r' ∧ r'.heads S = r₁.heads S := by
  have hphase : r₁.phase = .awaiting := (phase_of_wanted hwants.turn).trans h.phase
  have hbalanced : Balanced S (r₁.waiting p q) :=
    (balanced_of_ends sound h (.wanted hwants.turn)).handed
      (phase_of_ends h.phase (.wanted hwants.turn)) (.made rfl hwants.step hwants.made)
  have hawaited : awaited S (r₁.waiting p q) q = .ok (.ok (p, s)) := by
    rw [awaited_waiting hphase hwants.step, if_pos hsame]
  refine ⟨underway_commit hbalanced hawaited hcomplete, ?_⟩
  have hjudged := judged_of_complete hcomplete
  cases hjudged
  exact heads_record _

/-- A driven run comes to an end, whatever the responses are. -/
theorem goes_over (sound : S.graph.Sound) (acyclic : S.graph.Acyclic)
    (respond : List (Nat × Req) → Res) (h : Underway S r) (asked : List (Nat × Req)) :
    ∃ d account, ReflTransGen (Goes S respond) ⟨r, asked⟩ d ∧ Over S respond d account := by
  induction r using (Lighter.wellFounded S).induction generalizing asked with
  | _ r ih =>
      obtain ⟨t, hturn⟩ := h.aligned.turn_returns
      cases t with
      | on r₁ =>
          obtain ⟨d, account, hgoes, hover⟩ :=
            ih r₁ (lighter_of_turn sound acyclic hturn) (h.turn sound hturn) asked
          exact ⟨d, account, .head (.turn hturn) hgoes, hover⟩
      | finished r₁ => exact ⟨_, _, .refl, .finished hturn⟩
      | failed r₁ e => exact ⟨_, _, .refl, .failed hturn⟩
      | wanted r₁ p =>
          obtain ⟨s, hs⟩ : ∃ s, S.graph.step? p = some s := by
            cases turned_of_turn hturn with
            | want hat => exact ⟨_, hat.2⟩
          cases hconvert : S.converter.convert S.evaluator s r₁.scope r₁.previous with
          | error e => exact ⟨_, _, .refl, .unmade hturn hs hconvert⟩
          | ok q =>
              have hwants : Wants S r r₁ p s q := ⟨hturn, hs, hconvert⟩
              by_cases hsame : S.converter.same q q = true
              · cases hcomplete : complete S (r₁.waiting p q) s q (respond (asked ++ [(p, q)])) with
                | mk answer r₂ =>
                    cases answer with
                    | error e => exact ⟨_, _, .refl, .rejected hwants hsame hcomplete⟩
                    | ok u =>
                        obtain ⟨hunderway, hheads⟩ :=
                          underway_exchanged sound h hwants hsame hcomplete
                        have hlighter : Lighter S r₂ r := by
                          have hwanted := lighter_of_wanted sound acyclic hturn
                          unfold Lighter at hwanted ⊢
                          rw [hheads]
                          exact hwanted
                        obtain ⟨d, account, hgoes, hover⟩ :=
                          ih r₂ hlighter hunderway (asked ++ [(p, q)])
                        exact ⟨d, account, .head (.exchange hwants hsame hcomplete) hgoes, hover⟩
              · exact ⟨_, _, .refl, .refused hwants (by simpa using hsame)⟩

end

/-- **Termination.** Over a graph that was built and whose links do not run in a circle, every call of a
run returns, and driving a run comes to an end after finitely many requests: from some number of turns
and of exchanges on, more of them change nothing. This is so for every limit of iterations, whatever the
expressions mean, however requests are made, and whatever the responses are. -/
theorem runs_end (S : Setup Req Res) (steps : Array Step) (root : Option Nat)
    (built : Graph.build steps root = .ok S.graph) (acyclic : S.graph.Acyclic)
    (values : Bindings Json) :
    (∀ r c, Reachable S values r →
      ∃ enough answer r', ∀ fuel, enough ≤ fuel → call S fuel r c = .ok (answer, r')) ∧
    ∀ respond : List (Nat × Req) → Res,
      ∃ account enough, ∀ turns exchanges, enough ≤ turns → enough ≤ exchanges →
        drive S respond turns exchanges [] (.start values) = .ok account := by
  have sound : S.graph.Sound := ((Graph.build_eq_ok_iff steps root S.graph).1 built).2
  constructor
  · intro r c hreachable
    exact (hreachable.balanced sound).call_returns sound acyclic c
  · intro respond
    have hbegin : Underway S (begin S (.start values)) :=
      underway_begin sound (balanced_start S values) rfl
    obtain ⟨d, account, hgoes, hover⟩ := goes_over sound acyclic respond hbegin []
    exact ⟨account, drive_of_goes hgoes hover⟩

/-- A loop over pages with a repeated chain in it that asks for nothing. -/
def idleSteps : Array Step := #[
  ⟨"walk", none, .each "pages" "number" "page" (some 1), none⟩,
  ⟨"again", none, .repeated "page" (some 2), none⟩,
  ⟨"rest", none, .empty, none⟩]

/-- The setup of a run that only idles, in which expressions are names. -/
def idle : Setup String String := ⟨⟨idleSteps, some 0⟩, .names, addressConverter, 3⟩

/-- Idling over a page without an address and one with an address does not go on for ever: the address
never stops to hold, and ends the run at the limit. -/
theorem idle_ends :
    Graph.build idleSteps (some 0) = .ok idle.graph ∧ idle.graph.Acyclic ∧
      ∃ values : Bindings Json,
        (∃ r, call idle 12 (.start values) .peek =
          .ok (.error (.configuration (.tooManyIterations "again" 3)), r)) ∧
        (∃ enough answer r', ∀ fuel, enough ≤ fuel →
          call idle fuel (.start values) .peek = .ok (answer, r')) ∧
        ∃ account enough, ∀ turns exchanges, enough ≤ turns → enough ≤ exchanges →
          drive idle (fun _ => "page") turns exchanges [] (.start values) = .ok account := by
  have acyclic : idle.graph.Acyclic := Graph.acyclic_of_ascends rfl
  refine ⟨rfl, acyclic, .ofList [("pages", .array [.string "", .string "/a"])], ⟨_, rfl⟩, ?_⟩
  obtain ⟨hcalls, hdrive⟩ := runs_end idle idleSteps (some 0) rfl acyclic
    (.ofList [("pages", .array [.string "", .string "/a"])])
  exact ⟨hcalls _ .peek .start, hdrive fun _ => "page"⟩

end Walkthrough.Engine
