import Walkthrough.Proofs.Engine.Errors
import Walkthrough.Proofs.Engine.Ledger
import Walkthrough.Proofs.Result.Mirror

/-!
# The nesting of records

The records of a run against the chains of its graph. In every open container, and at the top, what was
recorded, then the step that is in progress, and then the chain that is left come to the whole chain
(`Nested`). Turns and calls keep this, and it says how the tree of a run nests
(`results_mirror_chains`).
-/

namespace Walkthrough.Engine

open Result (Node)
open Result.Node (Closed Whole Listed Mirrors Mirrored Opened)

variable {Req Res : Type}

/-- Records against the chains of a graph. Cursors are listed from the innermost; of the innermost chain,
the steps of `gap` are neither recorded nor left, and of every other chain it is the step of the
container that is open in it. -/
inductive Nested (g : Graph) : List Heading → List Cursor → List Node → Prop
  | through {results} : Whole g g.root results → Nested g [] [] results
  | top {gap position results} :
      results.map Node.heading ++ gap ++ g.headings position = g.headings g.root →
      (∀ n ∈ results, Closed g n) → Nested g gap [⟨position, none⟩] results
  | inside {gap position c rest results s before head nodes} : g.step? c.place = some s →
      Opened g s c.node before head nodes →
      nodes.map Node.heading ++ gap ++ g.headings position = g.headings head →
      Nested g [s.heading] rest results → Nested g gap (⟨position, some c⟩ :: rest) results

/-- The records of a run nest as its graph does. -/
def Run.Nests (S : Setup Req Res) (r : Run Req Res) (gap : List Heading) : Prop :=
  Nested S.graph gap r.cursors r.results

/-! ## The tree -/

/-- The tree of nested records follows the top chain, and every record in it mirrors its step; `inner` is
the record of the containers that are further in. -/
theorem Nested.tree {g : Graph} {gap : List Heading} {cursors : List Cursor} {results : List Node}
    (h : Nested g gap cursors results) (inner : Option Node)
    (hinner : ∀ m, inner = some m → gap = [m.heading] ∧ Mirrored g m) :
    Listed g g.root (results ++ (Run.nestOpen inner cursors).toList) ∧
      ∀ n ∈ results ++ (Run.nestOpen inner cursors).toList, Mirrored g n := by
  -- from the innermost chain; every container nests what is further in
  induction h generalizing inner with
  | @through results hwhole =>
      -- without cursors no container is open that could be further in
      cases inner with
      | some m => exact absurd (hinner m rfl).1 (by simp)
      | none =>
          rw [Run.nestOpen, Option.toList_none, List.append_nil]
          exact ⟨hwhole.listed, fun n hn => (hwhole.closed n hn).mirrored⟩
  | @top gap position results hchain hclosed =>
      cases inner with
      | none =>
          show Listed g g.root (results ++ []) ∧ ∀ n ∈ results ++ [], Mirrored g n
          rw [List.append_nil]
          rw [List.append_assoc] at hchain
          exact ⟨⟨⟨_, hchain⟩, fun n hn => hclosed n (List.dropLast_subset _ hn)⟩,
            fun n hn => (hclosed n hn).mirrored⟩
      | some m =>
          obtain ⟨rfl, hm⟩ := hinner m rfl
          show Listed g g.root (results ++ [m]) ∧ ∀ n ∈ results ++ [m], Mirrored g n
          refine ⟨⟨⟨g.headings position, ?_⟩, ?_⟩, ?_⟩
          · rw [List.map_append]
            exact hchain
          · rw [List.dropLast_concat]
            exact hclosed
          · intro n hn
            rcases List.mem_append.1 hn with hn | hn
            · exact (hclosed n hn).mirrored
            · rw [List.mem_singleton.1 hn]
              exact hm
  | @inside gap position c rest results s before head nodes hs hopened hchain _ ih =>
      -- around this container its own step is in progress, whether or not something is added to its record
      cases inner with
      | none =>
          refine ih (some c.node) ?_
          rintro _ ⟨⟩
          rw [List.append_assoc] at hchain
          exact ⟨by rw [hopened.records.heading], hopened.mirrored hs ⟨_, hchain⟩⟩
      | some m =>
          obtain ⟨rfl, hm⟩ := hinner m rfl
          refine ih (some (c.node.pushChild m)) ?_
          rintro _ ⟨⟩
          obtain ⟨hrecords, _⟩ := hopened.records.pushChild hopened.listings m
          refine ⟨by rw [hrecords.heading], hopened.mirrored_pushChild hs hm ⟨g.headings position, ?_⟩⟩
          rw [List.map_append]
          exact hchain

/-! ## Operations -/

section

variable {S : Setup Req Res} {r r' : Run Req Res}

/-- The next step of the innermost chain is in progress. -/
theorem Run.Nests.moveTo (sound : S.graph.Sound) (acyclic : S.graph.Acyclic) (h : r.Nests S [])
    {p : Nat} {s : Step} (hat : r.At S p s) : (r.moveTo s.next).Nests S [s.heading] := by
  obtain ⟨⟨k, rest, hcursors⟩, hs⟩ := hat
  have hheadings := Graph.headings_some sound acyclic hs
  unfold Run.Nests at h ⊢
  rw [moveTo_eq hcursors]
  rw [hcursors] at h
  cases h with
  | top hchain hclosed =>
      rw [List.append_nil, hheadings] at hchain
      refine .top ?_ hclosed
      rw [List.append_assoc]
      exact hchain
  | inside hs' hopened hchain hrest =>
      rw [List.append_nil, hheadings] at hchain
      refine .inside hs' hopened ?_ hrest
      rw [List.append_assoc]
      exact hchain

/-- The step that was in progress is recorded. -/
theorem Run.Nests.record {n : Node} (h : r.Nests S [n.heading]) (hn : Closed S.graph n) :
    (r.record n).Nests S [] := by
  obtain ⟨context, cursors, phase, pending, previous, extractions, results⟩ := r
  cases h with
  | @top _ position _ hchain hclosed =>
      refine .top ?_ ?_
      · show (results ++ [n]).map Node.heading ++ [] ++ _ = _
        rw [List.map_append, List.append_nil]
        exact hchain
      · intro m hm
        rcases List.mem_append.1 hm with hm | hm
        · exact hclosed m hm
        · rw [List.mem_singleton.1 hm]
          exact hn
  | inside hs hopened hchain hrest =>
      refine .inside hs (hopened.pushChild hn) ?_ hrest
      rw [List.map_append, List.append_nil]
      exact hchain

/-- The container of the step that is in progress is open, and nothing is recorded in it. -/
theorem Run.Nests.openContainer {s : Step} (h : r.Nests S [s.heading]) {c : Container}
    (hs : S.graph.step? c.place = some s) {head : Option Nat}
    (hopened : Opened S.graph s c.node [] head []) (f : Frame) :
    (r.openContainer head c f).Nests S [] :=
  .inside hs hopened rfl h

/-- The innermost chain is at its end, and its container is closed. -/
theorem Run.Nests.close (h : r.Nests S []) {k : Option Container} {rest : List Cursor}
    (hcursors : r.cursors = ⟨none, k⟩ :: rest) : r.close.Nests S [] := by
  unfold Run.Nests at h
  rw [hcursors] at h
  unfold Run.close
  split
  · next hnil => exact absurd (hcursors.symm.trans hnil) (by simp)
  · next position container rest' hcursors' =>
    obtain ⟨hcursor, rfl⟩ := List.cons.inj (hcursors'.symm.trans hcursors)
    obtain ⟨rfl, rfl⟩ := Cursor.mk.inj hcursor
    -- nothing is left of the chain and no step is in progress, so that what is recorded is the whole chain
    cases h with
    | top hchain hclosed =>
        rw [Graph.headings_none, List.append_nil, List.append_nil] at hchain
        exact .through ⟨hchain, hclosed⟩
    | @inside _ _ c _ _ s before head nodes hs hopened hchain hrest =>
        rw [Graph.headings_none, List.append_nil, List.append_nil] at hchain
        refine Run.Nests.record ?_ (hopened.toClosed hs hchain)
        rw [hopened.records.heading]
        exact hrest

/-- The innermost chain is at its end, and begins once more. -/
theorem Run.Nests.beginIteration (h : r.Nests S []) {c : Container} {s : Step} {rest : List Cursor}
    (hend : r.EndOf S c s rest) (htag : s.tag = .each ∨ s.tag = .repeated) (context : Context)
    (control : Control) (key value : Option Json) :
    (Engine.beginIteration { r with context } rest c control s.action.inner key value).Nests S [] := by
  unfold Run.Nests at h
  rw [hend.1] at h
  cases h with
  | @inside _ _ _ _ _ s' before head nodes hs hopened hchain hrest =>
      obtain rfl := Option.some.inj (hs.symm.trans hend.2)
      rw [Graph.headings_none, List.append_nil, List.append_nil] at hchain
      exact .inside hs (hopened.beginIteration hchain htag key value) rfl hrest

/-! ## Turns -/

theorem records_ofStep {s : Step} (hs : s.tag ≠ .choice) : (Node.ofStep s).Records s :=
  ⟨rfl, fun hchoice => absurd hchoice hs, fun _ => rfl, fun _ => rfl, fun _ => rfl, fun _ _ => rfl⟩

/-- A record that lists no chain is closed. -/
theorem closed_of_plain {g : Graph} {p : Nat} {s : Step} (hs : g.step? p = some s) {n : Node}
    (hrecords : n.Records s) (hlistings : n.listings s = []) : Closed g n := by
  refine Result.Node.closed_of_whole hs hrecords ?_
  rw [hlistings]
  simp

theorem opened_declaring (g : Graph) {s : Step} {declarations : Bindings String} {child : Option Nat}
    (haction : s.action = .block declarations child) (f : Frame) :
    Opened g s (declaringNode s f) [] child [] where
  records := ⟨rfl, by simp [Step.tag, haction, Action.tag], fun _ => rfl, fun _ => rfl, fun _ => rfl,
    fun _ _ => rfl⟩
  listings := by
    simp [Node.listings, haction, declaringNode, Node.ofStep]
  whole := by simp
  closed := by simp

theorem opened_branch (g : Graph) {s : Step} {condition : String} {holds otherwise : Option Nat}
    (haction : s.action = .choice condition holds otherwise) (b : Bool) :
    Opened g s (branchNode s b) [] (if b then holds else otherwise) [] where
  records := ⟨rfl, by simp [branchNode], fun _ => rfl, fun _ => rfl, fun _ => rfl, fun _ _ => rfl⟩
  listings := by
    cases b <;> simp [Node.listings, haction, branchNode, Node.ofStep]
  whole := by simp
  closed := by simp

theorem opened_iteration (g : Graph) {s : Step} (htag : s.tag = .each ∨ s.tag = .repeated)
    (key value : Option Json) :
    Opened g s ((Node.ofStep s).beginIteration key value) [] s.action.inner [] := by
  have hrecords : (Node.ofStep s).Records s := records_ofStep (by rcases htag with h | h <;> simp [h])
  have hlistings : (Node.ofStep s).listings s = [] := by
    cases haction : s.action <;> simp_all [Node.listings, Node.ofStep, Step.tag, Action.tag]
  obtain ⟨hbegun, hfirst⟩ := hrecords.beginIteration htag key value
  rw [hlistings] at hfirst
  exact ⟨hbegun, hfirst, by simp, by simp⟩

/-- What turns keep of the nesting of records: a step that wants a request is in progress, and so may be
the step over which a turn fails. -/
def Turn.Nests (S : Setup Req Res) : Turn Req Res → Prop
  | .on r => r.Nests S []
  | .wanted r p => ∃ s, S.graph.step? p = some s ∧ r.Nests S [s.heading]
  | .finished r => r.cursors = [] ∧ r.Nests S []
  | .failed r _ => ∃ gap, r.Nests S gap

theorem Run.Nests.turned (sound : S.graph.Sound) (acyclic : S.graph.Acyclic) (h : r.Nests S [])
    {t : Turn Req Res} (hturn : Turned S r t) : t.Nests S := by
  have moved : ∀ {p s}, r.At S p s → (r.moveTo s.next).Nests S [s.heading] := fun hat =>
    h.moveTo sound acyclic hat
  have passed : ∀ {p s}, r.At S p s → s.tag ≠ .choice → (Node.ofStep s).listings s = [] →
      ((r.moveTo s.next).record (.ofStep s)).Nests S [] := fun hat hs hlistings =>
    (moved hat).record (closed_of_plain hat.2 (records_ofStep hs) hlistings)
  cases hturn with
  | finish hnil => exact ⟨hnil, h⟩
  | want hat _ => exact ⟨_, hat.2, moved hat⟩
  | skip hat haction =>
      exact passed hat (by simp [Step.tag, haction, Action.tag]) (by simp [Node.listings, haction])
  | enterBlock hat haction _ =>
      exact (moved hat).openContainer hat.2 (opened_declaring _ haction _) _
  | failBlock hat _ _ => exact ⟨_, moved hat⟩
  | passEach hat haction _ =>
      exact passed hat (by simp [Step.tag, haction, Action.tag])
        (by simp [Node.listings, haction, Node.ofStep])
  | @enterEach p s collection key value child item items hat haction _ =>
      have hopened := opened_iteration S.graph (s := s) (.inl (by rw [Step.tag, haction]; rfl))
        (some item.1) (some item.2)
      rw [haction] at hopened
      exact (moved hat).openContainer hat.2 hopened _
  | failEach hat _ _ => exact ⟨_, moved hat⟩
  | passRepeated hat haction _ =>
      exact passed hat (by simp [Step.tag, haction, Action.tag])
        (by simp [Node.listings, haction, Node.ofStep])
  | @enterRepeated p s condition child hat haction _ =>
      have hopened := opened_iteration S.graph (s := s) (.inr (by rw [Step.tag, haction]; rfl))
        (some (.ofNat 0)) none
      rw [haction] at hopened
      exact (moved hat).openContainer hat.2 hopened _
  | failRepeated hat _ _ => exact ⟨_, moved hat⟩
  | enterChoice hat haction _ =>
      exact (moved hat).openContainer hat.2 (opened_branch _ haction _) _
  | failChoice hat _ _ => exact ⟨_, moved hat⟩
  | closeTop hcursors => exact h.close hcursors
  | closeContainer hend _ => exact h.close hend.1
  | @nextItem c s rest collection key value child item items hend _ haction =>
      have hbegun := h.beginIteration hend (.inl (by rw [Step.tag, haction]; rfl))
        (r.context.pop.push (itemFrame key value item)) (.items items) (some item.1) (some item.2)
      rw [haction] at hbegun
      exact hbegun
  | @nextRound c s rest condition child n hend _ haction _ _ =>
      have hbegun := h.beginIteration hend (.inr (by rw [Step.tag, haction]; rfl)) r.context
        (.counted (n + 1)) (some (.ofNat n)) none
      rw [haction] at hbegun
      exact hbegun
  | failRound _ _ _ _ => exact ⟨[], h⟩
  | exceed _ _ _ _ _ => exact ⟨[], h⟩

theorem Run.Nests.turns (sound : S.graph.Sound) (acyclic : S.graph.Acyclic) (h : r.Nests S [])
    (hturns : Turns S r r') : r'.Nests S [] :=
  hturns.keep (P := fun r => r.Nests S [])
    (fun _ _ hnests hturn => hnests.turned sound acyclic (turned_of_turn hturn)) h

end

/-! ## Calls -/

/-- Between calls the records of a run nest. Nothing is recorded before it begins; then the step that
waits is in progress; and when it is done everything is recorded. -/
inductive Rests (S : Setup Req Res) (r : Run Req Res) : Prop
  | created : r.phase = .created → r.cursors = [] → r.results = [] → Rests S r
  | awaiting {p made s} : r.phase = .awaiting → r.pending = some ⟨p, made⟩ →
      S.graph.step? p = some s → r.Nests S [s.heading] → Rests S r
  | done : r.phase = .done → r.cursors = [] → Whole S.graph S.graph.root r.results → Rests S r
  | failed {gap} : r.phase = .failed → r.Nests S gap → Rests S r

section

variable {S : Setup Req Res} {r r' : Run Req Res}

theorem rests_of_ends (sound : S.graph.Sound) (acyclic : S.graph.Acyclic) (h : r.Nests S [])
    (hphase : r.phase = .awaiting) {answer : Except Error Unit} (hends : Ends S r answer r') :
    Rests S r' := by
  cases hends with
  | @wanted r₁ p hturn =>
      obtain ⟨s, hs, hnests⟩ := h.turned sound acyclic (turned_of_turn hturn)
      exact .awaiting ((congrArg Standing.phase (turn_standing hturn)).trans hphase) rfl hs hnests
  | @finished r₁ hturn =>
      obtain ⟨hnil, hnests⟩ := h.turned sound acyclic (turned_of_turn hturn)
      refine .done rfl hnil ?_
      unfold Run.Nests at hnests
      rw [hnil] at hnests
      cases hnests with
      | through hwhole => exact hwhole
  | failed hturn =>
      obtain ⟨gap, hnests⟩ := h.turned sound acyclic (turned_of_turn hturn)
      exact .failed rfl hnests

/-- The step that waits is in progress. -/
theorem Rests.waits (h : Rests S r) (hphase : r.phase = .awaiting) {p : Nat} {made : Option Req}
    {s : Step} (hpending : r.pending = some ⟨p, made⟩) (hs : S.graph.step? p = some s) :
    r.Nests S [s.heading] := by
  cases h with
  | awaiting _ hpending' hs' hnests =>
      obtain ⟨rfl, rfl⟩ : p = _ ∧ made = _ := by simpa using hpending.symm.trans hpending'
      obtain rfl := Option.some.inj (hs.symm.trans hs')
      exact hnests
  | created hcreated => exact absurd (hphase.symm.trans hcreated) (by simp)
  | done hdone => exact absurd (hphase.symm.trans hdone) (by simp)
  | failed hfailed => exact absurd (hphase.symm.trans hfailed) (by simp)

theorem Rests.handed {answer : Except Error (Next Req)} (h : Rests S r)
    (hphase : ∀ p, r.pending = some p → r.phase = .awaiting) (hhanded : Handed S r answer r') :
    Rests S r' := by
  cases hhanded with
  | nothing => exact h
  | again => exact h
  | made hpending hs _ =>
      exact .awaiting (hphase _ hpending) rfl hs (h.waits (hphase _ hpending) hpending hs)
  | unmade hpending hs _ => exact .failed rfl (h.waits (hphase _ hpending) hpending hs)

/-- An exchange is recorded for the step that waited, if it is recorded at all. -/
theorem Run.Nests.judged {p : Nat} {s : Step} (h : r.Nests S [s.heading])
    (hs : S.graph.step? p = some s) {request : Req} {response : Res} {answer : Except Error Unit}
    (hjudged : Judged S r s request response (answer, r')) :
    r'.Nests S [] ∨ answer ≠ .ok () ∧ r'.Nests S [s.heading] := by
  have recorded : ∀ {leaf}, s.action.leaf? = some leaf → ∀ exchange extracted outcomes,
      Closed S.graph (exchangeNode s exchange extracted outcomes) := by
    intro leaf hleaf exchange extracted outcomes
    refine closed_of_plain hs ⟨rfl, ?_, fun _ => rfl, fun _ => rfl, fun _ => rfl, fun _ _ => rfl⟩ ?_
    · cases haction : s.action <;> simp_all [Action.leaf?, Step.tag, Action.tag]
    · cases haction : s.action <;> simp_all [Action.leaf?, Node.listings]
  cases hjudged with
  | noRequest => exact .inr ⟨by simp, h⟩
  | unwritten => exact .inr ⟨by simp, h⟩
  | unextracted => exact .inr ⟨by simp, h⟩
  | unjudged => exact .inr ⟨by simp, h⟩
  | unmet hleaf => exact .inl (h.record (recorded hleaf _ _ _))
  | @met leaf exchange f extracted outcomes hleaf =>
      -- what is kept of the exchange touches neither cursors nor records
      have hkept : ({ r with
          context := (bindAll r.context extracted.entries).recordCompleted
          extractions := r.extractions.extend extracted } : Run Req Res).Nests S [s.heading] := h
      exact .inl (hkept.record (recorded hleaf exchange extracted outcomes))

/-- Beginning opens the top chain. -/
theorem nests_begin (hcursors : r.cursors = []) (hresults : r.results = []) :
    (begin S r).Nests S [] := by
  unfold Run.Nests begin
  rw [hcursors, hresults]
  exact .top rfl (by simp)

theorem Rests.called (sound : S.graph.Sound) (acyclic : S.graph.Acyclic) (h : Rests S r)
    {fuel : Nat} {c : Call Req Res} {answer : Except Error (Option (Next Req))}
    (hcall : call S fuel r c = .ok (answer, r')) : Rests S r' := by
  cases c with
  | peek =>
      obtain ⟨a, hpeek, _⟩ := peek_of_call hcall
      have begun : r.phase = .created → (begin S r).Nests S [] := by
        intro hphase
        cases h with
        | created _ hcursors hresults => exact nests_begin hcursors hresults
        | awaiting hawaiting => exact absurd (hphase.symm.trans hawaiting) (by simp)
        | done hdone => exact absurd (hphase.symm.trans hdone) (by simp)
        | failed hfailed => exact absurd (hphase.symm.trans hfailed) (by simp)
      cases peeked_of_peek hpeek with
      | failed => exact h
      | done => exact h
      | begun hphase hturns hends hhanded =>
          have hawaiting := congrArg Standing.phase hturns.standing
          have hnests := (begun hphase).turns sound acyclic hturns
          refine (rests_of_ends sound acyclic hnests hawaiting hends).handed ?_ hhanded
          exact fun p hp => phase_of_ends_pending hawaiting hends hp
      | stopped hphase hturns hends =>
          have hnests := (begun hphase).turns sound acyclic hturns
          exact rests_of_ends sound acyclic hnests (congrArg Standing.phase hturns.standing) hends
      | awaiting hphase hhanded => exact h.handed (fun _ _ => hphase) hhanded
  | resume request response =>
      obtain ⟨a, hresume, _⟩ := resume_of_call hcall
      cases resumed_of_resume hresume with
      | refused => exact h
      | @rejected p s e r₁ hawaited hcomplete =>
          obtain ⟨hphase, hs, expected, hpending, _⟩ := awaited_eq_ok_iff.1 hawaited
          have hjudged := judged_of_complete hcomplete
          rcases (h.waits hphase hpending hs).judged hs hjudged with hnests | ⟨_, hnests⟩
          · exact .failed rfl hnests
          · exact .failed rfl hnests
      | @taken p s r₁ r₂ _ _ hawaited hcomplete hturns hends =>
          obtain ⟨hphase, hs, expected, hpending, _⟩ := awaited_eq_ok_iff.1 hawaited
          have hjudged := judged_of_complete hcomplete
          rcases (h.waits hphase hpending hs).judged hs hjudged with hnests | ⟨hno, _⟩
          · exact rests_of_ends sound acyclic (hnests.turns sound acyclic hturns)
              (phase_of_taken hawaited hcomplete hturns) hends
          · -- a response that is taken is recorded
            exact absurd rfl hno

/-- Where no chain is open, the tree is what was recorded. -/
theorem tree_of_through (hcursors : r.cursors = []) : r.tree = ⟨r.results⟩ := by
  unfold Run.tree
  rw [hcursors]
  exact congrArg _ (List.append_nil _)

theorem Run.Nests.mirrored {gap : List Heading} (h : r.Nests S gap) :
    Listed S.graph S.graph.root r.tree.steps ∧
      ∀ n ∈ r.tree.flatten, ∃ p s, S.graph.step? p = some s ∧ Mirrors S.graph s n := by
  obtain ⟨hlisted, hmirrored⟩ := Nested.tree h none (by simp)
  refine ⟨hlisted, fun n hn => ?_⟩
  obtain ⟨m, hm, hn⟩ := Result.Node.mem_flattenAll.1 hn
  exact hmirrored m hm n hn

theorem Rests.mirrored (h : Rests S r) :
    Listed S.graph S.graph.root r.tree.steps ∧
      ∀ n ∈ r.tree.flatten, ∃ p s, S.graph.step? p = some s ∧ Mirrors S.graph s n := by
  cases h with
  | created _ hcursors hresults =>
      -- nothing is recorded yet
      rw [tree_of_through hcursors, hresults]
      exact ⟨⟨List.nil_prefix, by simp⟩, by simp [Result.Tree.flatten, Result.Node.flattenAll]⟩
  | awaiting _ _ _ hnests => exact hnests.mirrored
  | done _ hcursors hwhole =>
      have hnests : r.Nests S [] := by
        unfold Run.Nests
        rw [hcursors]
        exact .through hwhole
      exact hnests.mirrored
  | failed _ hnests => exact hnests.mirrored

theorem Rests.whole (h : Rests S r) (hphase : r.phase = .done) :
    Whole S.graph S.graph.root r.tree.steps := by
  cases h with
  | done _ hcursors hwhole =>
      rw [tree_of_through hcursors]
      exact hwhole
  | created hcreated => exact absurd (hphase.symm.trans hcreated) (by simp)
  | awaiting hawaiting => exact absurd (hphase.symm.trans hawaiting) (by simp)
  | failed hfailed => exact absurd (hphase.symm.trans hfailed) (by simp)

theorem Reachable.rests (sound : S.graph.Sound) (acyclic : S.graph.Acyclic) {values : Bindings Json}
    (h : Reachable S values r) : Rests S r := by
  induction h with
  | start => exact .created rfl rfl rfl
  | call _ hcall ih => exact ih.called sound acyclic hcall

end

/-- **The nesting of records.** Over an acyclic graph, after any calls: the records at the top of the tree
are those of the beginning of the top chain, step by step with the same identifier, kind and name. Every
record in the tree is that of a step, lists its children where the step nests them, and mirrors the
chains of the step: that of a block, that of the branch of a choice that was taken, or the chain of a
loop once for every iteration; each list is the beginning of its chain, and of several iterations all
but the last are complete. In every list, as at the top, all records but the last are through with all of
their chains and all below. When the run is done, the top chain is recorded to its end, and every record
is through. -/
theorem results_mirror_chains (S : Setup Req Res) (steps : Array Step) (root : Option Nat)
    (built : Graph.build steps root = .ok S.graph) (acyclic : S.graph.Acyclic)
    {values : Bindings Json} {r : Run Req Res} (h : Reachable S values r) :
    Listed S.graph S.graph.root r.tree.steps ∧
      (∀ n ∈ r.tree.flatten, ∃ p s, S.graph.step? p = some s ∧ Mirrors S.graph s n) ∧
      (r.phase = .done → Whole S.graph S.graph.root r.tree.steps) := by
  have sound := ((Graph.build_eq_ok_iff steps root S.graph).1 built).2
  have hrests := h.rests sound acyclic
  obtain ⟨hlisted, hmirrored⟩ := hrests.mirrored
  exact ⟨hlisted, hmirrored, hrests.whole⟩

/-- When both pages of the gallery and the last address are seen, the loop and the last address are
recorded, and both are through. -/
theorem gallery_mirrored :
    Graph.build gallerySteps (some 0) = .ok gallery.graph ∧ gallery.graph.Acyclic ∧
      ∃ r, Reachable gallery galleryValues r ∧ r.phase = .done ∧
        r.tree.steps.map Node.heading = [⟨"walk", .each, none⟩, ⟨"home", .visit, none⟩] ∧
        ∀ n ∈ r.tree.steps, Closed gallery.graph n := by
  have hcalls : ∃ answers r,
      callAll gallery 9 [.peek, .resume "/a" "first", .peek, .resume "/b" "second", .peek,
        .resume "/" "last"] (.start galleryValues) = .ok (answers, r) ∧ r.phase = .done :=
    ⟨_, _, rfl, rfl⟩
  obtain ⟨answers, r, hcalls, hdone⟩ := hcalls
  have hreachable := Reachable.start.callAll hcalls
  obtain ⟨_, _, hwhole⟩ :=
    results_mirror_chains gallery gallerySteps (some 0) rfl gallery_acyclic hreachable
  exact ⟨rfl, gallery_acyclic, r, hreachable, hdone, (hwhole hdone).headings, (hwhole hdone).closed⟩

end Walkthrough.Engine
