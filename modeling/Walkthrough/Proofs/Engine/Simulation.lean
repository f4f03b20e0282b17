import Walkthrough.Proofs.Engine.Drive
import Walkthrough.Proofs.Engine.Records

/-!
# Runs mean what their scripts mean

From any place, driving does to a run what an outcome says (`Follows`). There is one such lemma for every
kind of step, for the rounds of a loop and for those of a repeated chain, and by induction over scripts
one for every chain (`chained_meaning`).

* `drive_eq_interpret` — driving a run gives the account of the recursion over its script.
-/

namespace Walkthrough.Engine

variable {Req Res α : Type}

/-! ## What is simulated -/

/-- The account of a run that an error ends. -/
def Memory.account (m : Memory Req Res) (e : Error) (results : Result.Tree) : Account Req :=
  ⟨m.asked, some e, m.extractions, m.context.completed, results⟩

/-- From `start` on, driving does to a run what an outcome says, and the innermost chain of the run then
goes on at `next`. -/
structure Follows (S : Setup Req Res) (respond : List (Nat × Req) → Res) (start : Driven Req Res)
    (r : Run Req Res) (next : Option Nat) (o : Outcome Req Res Result.Node) : Prop where
  through : o.error = none →
    Relation.ReflTransGen (Goes S respond) start ⟨r.settle next o.memory o.records, o.memory.asked⟩
  stopped : ∀ e, o.error = some e →
    ∃ d, Relation.ReflTransGen (Goes S respond) start d ∧
      Over S respond d (o.memory.account e (r.treeWith o.records))

section

variable {S : Setup Req Res} {respond : List (Nat × Req) → Res} {r : Run Req Res}
  {position next : Option Nat} {asked : List (Nat × Req)}

theorem Follows.of_steps {start d : Driven Req Res} {o : Outcome Req Res Result.Node}
    (hsteps : Relation.ReflTransGen (Goes S respond) start d) (h : Follows S respond d r next o) :
    Follows S respond start r next o where
  through hnone := hsteps.trans (h.through hnone)
  stopped e he := by
    obtain ⟨d', hgoes, hover⟩ := h.stopped e he
    exact ⟨d', hsteps.trans hgoes, hover⟩

theorem Follows.of_goes {start d : Driven Req Res} {o : Outcome Req Res Result.Node}
    (hgoes : Goes S respond start d) (h : Follows S respond d r next o) :
    Follows S respond start r next o :=
  h.of_steps (.single hgoes)

theorem follows_done {start : Driven Req Res} {m : Memory Req Res} {nodes : List Result.Node}
    (h : Relation.ReflTransGen (Goes S respond) start ⟨r.settle next m nodes, m.asked⟩) :
    Follows S respond start r next (.done m nodes) where
  through _ := h
  stopped _ he := absurd he (by simp [Outcome.done])

theorem follows_stopped {start : Driven Req Res} {m : Memory Req Res} {nodes : List Result.Node}
    {e : Error} (h : Over S respond start (m.account e (r.treeWith nodes))) :
    Follows S respond start r next ⟨m, nodes, some e⟩ where
  through hnone := absurd hnone (by simp)
  stopped e' he := by
    obtain rfl : e = e' := Option.some.inj he
    exact ⟨start, .refl, h⟩

/-- What follows on what a chain did, follows on the outcome of both. -/
theorem Follows.andThen (hready : Ready r position) {start : Driven Req Res}
    {o : Outcome Req Res Result.Node} {more : Memory Req Res → Outcome Req Res Result.Node}
    {next' : Option Nat} (h : Follows S respond start r next o)
    (hmore : Follows S respond ⟨r.settle next o.memory o.records, o.memory.asked⟩
      (r.settle next o.memory o.records) next' (more o.memory)) :
    Follows S respond start r next' (o.andThen more) := by
  cases herror : o.error with
  | some e =>
      have hthen : o.andThen more = o := by simp [Outcome.andThen, herror]
      rw [hthen]
      exact ⟨fun hnone => absurd (herror.symm.trans hnone) (by simp), h.stopped⟩
  | none =>
      have hthen : o.andThen more =
          ⟨(more o.memory).memory, o.records ++ (more o.memory).records, (more o.memory).error⟩ := by
        simp [Outcome.andThen, herror]
      rw [hthen]
      constructor
      · intro hnone
        have hgoes := (h.through herror).trans (hmore.through hnone)
        rw [settle_settle hready] at hgoes
        exact hgoes
      · intro e he
        obtain ⟨d, hgoes, hover⟩ := hmore.stopped e he
        rw [settle_treeWith hready] at hover
        exact ⟨d, (h.through herror).trans hgoes, hover⟩

/-! ## Turns -/

/-- The turn that enters a step. -/
theorem turn_ready {p : Nat} {s : Step} (hready : Ready r (some p)) (hs : S.graph.step? p = some s) :
    turn S r = .ok (enter S (r.moveTo s.next) p s) := by
  obtain ⟨⟨k, rest, hcursors, _⟩, _⟩ := hready
  exact turn_of_at ⟨⟨k, rest, hcursors⟩, hs⟩

/-- The turn at the end of the chain in a container. -/
theorem turn_inside {c : Container} {m : Memory Req Res} {s : Step}
    (hs : S.graph.step? c.place = some s) :
    turn S (r.inside next none c m) =
      .ok (continueContainer S (r.inside next none c m) (r.moveTo next).cursors c s) := by
  have hcursors : (r.inside next none c m).cursors = ⟨none, some c⟩ :: (r.moveTo next).cursors := rfl
  exact turn_of_endOf ⟨hcursors, hs⟩

theorem settle_record (asked : List (Nat × Req)) (n : Result.Node) :
    (r.moveTo next).record n = r.settle next (r.memory asked) [n] := by
  unfold Run.settle Run.recordAll
  rw [List.foldl_cons, List.foldl_nil]
  unfold Run.carrying Run.memory
  have hcontext : ((r.moveTo next).record n).context = r.context := by simp
  have hprevious : ((r.moveTo next).record n).previous = r.previous := by simp
  have hextractions : ((r.moveTo next).record n).extractions = r.extractions := by simp
  rw [← hcontext, ← hprevious, ← hextractions]

theorem account_moveTo (hready : Ready r position) (next : Option Nat) (e : Error)
    (asked : List (Nat × Req)) :
    (r.moveTo next).account asked (some e) = (r.memory asked).account e (r.treeWith []) := by
  have htree : (r.moveTo next).tree = r.treeWith [] :=
    settle_treeWith hready next (r.memory asked) [] []
  unfold Run.account Memory.account
  rw [htree, moveTo_context, moveTo_extractions]
  rfl

theorem account_waiting_record (hready : Ready r position) (next : Option Nat) (p : Nat) (q : Req)
    (n : Result.Node) (e : Error) (asked : List (Nat × Req)) :
    (((r.moveTo next).waiting p q).record n).account asked (some e) =
      (r.memory asked).account e (r.treeWith [n]) := by
  have hrecord : ((r.moveTo next).waiting p q).record n = ((r.moveTo next).record n).waiting p q := by
    obtain ⟨⟨k, rest, hcursors, _⟩, _⟩ := hready
    rw [moveTo_eq hcursors]
    cases k <;> rfl
  have htree : (r.settle next (r.memory asked) [n]).tree = r.treeWith [n] :=
    settle_treeWith hready next (r.memory asked) [n] []
  rw [hrecord, account_waiting, settle_record asked]
  unfold Run.account
  rw [htree]
  rfl

theorem follows_failed {s : Step} (hready : Ready r position) {e : Error}
    (hturn : turn S r = .ok (.failed (r.moveTo s.next) e)) :
    Follows S respond ⟨r, asked⟩ r s.next (.failed (r.memory asked) e) := by
  refine follows_stopped ?_
  have hover : Over S respond ⟨r, asked⟩ ((r.moveTo s.next).account asked (some e)) := .failed hturn
  rw [account_moveTo hready s.next e asked] at hover
  exact hover

theorem follows_record {s : Step} {n : Result.Node}
    (hturn : turn S r = .ok (.on ((r.moveTo s.next).record n))) :
    Follows S respond ⟨r, asked⟩ r s.next (.done (r.memory asked) [n]) := by
  refine follows_done (.single ?_)
  rw [← settle_record asked]
  exact .turn hturn

/-! ## Exchanges -/

/-- The exchange of a step is committed before the run goes on. -/
theorem commit_waiting (hready : Ready r position) (p : Nat) (q : Req) (a : Res)
    (extracted : Bindings Json) (n : Result.Node) (asked' : List (Nat × Req)) :
    commit ((r.moveTo next).waiting p q) q a extracted n =
      r.settle next ⟨(bindAll r.context extracted.entries).recordCompleted, some ⟨q, a⟩,
        r.extractions.extend extracted, asked'⟩ [n] := by
  obtain ⟨⟨k, rest, hcursors, _⟩, hpending⟩ := hready
  cases k with
  | none =>
      rw [settle_none hcursors, moveTo_eq hcursors]
      simp [commit, Run.waiting, Run.record, Run.carrying, hpending]
  | some c =>
      rw [settle_some hcursors, moveTo_eq hcursors]
      simp [commit, Run.waiting, Run.record, Run.carrying, hpending, pushAll]

/-- A response that is taken, or rejected. -/
theorem follows_answered {p : Nat} {s : Step} {leaf : Leaf} {q : Req} (hready : Ready r (some p))
    (hwants : Wants S r (r.moveTo s.next) p s q) (hsame : S.converter.same q q = true)
    (hleaf : s.action.leaf? = some leaf) :
    Follows S respond ⟨r, asked⟩ r s.next
      (answered S (r.memory (asked ++ [(p, q)])) s leaf q (respond (asked ++ [(p, q)]))) := by
  have hcomplete := complete_eq (S := S) (r := (r.moveTo s.next).waiting p q) hleaf q
    (respond (asked ++ [(p, q)]))
  -- the response is judged in the run that waits, which sees the variables of `r`
  have hcontext : ((r.moveTo s.next).waiting p q).context = r.context := moveTo_context r s.next
  have hextractions : ((r.moveTo s.next).waiting p q).extractions = r.extractions :=
    moveTo_extractions r s.next
  rw [hcontext, hextractions] at hcomplete
  unfold answered
  simp only [Run.memory]
  cases hevaluated : evaluated S r.context leaf q (respond (asked ++ [(p, q)])) with
  | error e =>
      rw [hevaluated] at hcomplete
      refine follows_stopped (m := r.memory (asked ++ [(p, q)])) ?_
      rw [← account_moveTo hready s.next, ← account_waiting _ p q]
      exact .rejected hwants hsame hcomplete
  | ok result =>
      obtain ⟨shown, extracted, outcomes⟩ := result
      rw [hevaluated] at hcomplete
      simp only at hcomplete ⊢
      cases hfailures : unmet outcomes with
      | nil =>
          rw [hfailures] at hcomplete
          simp only at hcomplete ⊢
          rw [commit_waiting hready _ _ _ _ _ (asked ++ [(p, q)])] at hcomplete
          exact follows_done (.single (.exchange hwants hsame hcomplete))
      | cons failure failures =>
          rw [hfailures] at hcomplete
          refine follows_stopped (m := r.memory (asked ++ [(p, q)])) ?_
          rw [← account_waiting_record hready s.next p q]
          exact .rejected hwants hsame hcomplete

theorem follows_exchanged {p : Nat} {s : Step} {leaf : Leaf} (hready : Ready r (some p))
    (hs : S.graph.step? p = some s) (hleaf : s.action.leaf? = some leaf)
    (hturn : turn S r = .ok (.wanted (r.moveTo s.next) p)) :
    Follows S respond ⟨r, asked⟩ r s.next (exchanged S respond (r.memory asked) p s leaf) := by
  have hscope : (r.moveTo s.next).scope = r.scope := congrArg Context.scope (moveTo_context r s.next)
  have hprevious : (r.moveTo s.next).previous = r.previous := moveTo_previous r s.next
  unfold exchanged
  cases hconvert : S.converter.convert S.evaluator s (r.memory asked).context.scope
      (r.memory asked).previous with
  | error e =>
      refine follows_stopped ?_
      rw [← account_moveTo hready s.next]
      exact .unmade hturn hs (by rw [hscope, hprevious]; exact hconvert)
  | ok q =>
      have hwants : Wants S r (r.moveTo s.next) p s q :=
        ⟨hturn, hs, by rw [hscope, hprevious]; exact hconvert⟩
      simp only
      cases hsame : S.converter.same q q with
      | false =>
          refine follows_stopped (m := r.memory (asked ++ [(p, q)])) ?_
          rw [← account_moveTo hready s.next]
          exact .refused hwants hsame
      | true => exact follows_answered hready hwants hsame hleaf

/-! ## Containers -/

/-- What `chain` means is what the chain from `head` on does, in whatever run it stands. -/
def Chained (S : Setup Req Res) (respond : List (Nat × Req) → Res) (head : Option Nat)
    (chain : Memory Req Res → Outcome Req Res Result.Node) : Prop :=
  ∀ (r : Run Req Res) (asked : List (Nat × Req)), Ready r head →
    Follows S respond ⟨r, asked⟩ r none (chain (r.memory asked))

/-- The chain in an open container is through, or an error ended it inside. -/
theorem Chained.inside {head : Option Nat} {chain : Memory Req Res → Outcome Req Res Result.Node}
    (h : Chained S respond head chain) (hready : Ready r position) (next : Option Nat) (c : Container)
    (m : Memory Req Res) :
    ((chain m).error = none →
      Relation.ReflTransGen (Goes S respond) ⟨r.inside next head c m, m.asked⟩
        ⟨r.inside next none { c with node := pushAll c.node (chain m).records } (chain m).memory,
          (chain m).memory.asked⟩) ∧
    ∀ e, (chain m).error = some e →
      ∃ d, Relation.ReflTransGen (Goes S respond) ⟨r.inside next head c m, m.asked⟩ d ∧
        Over S respond d ((chain m).memory.account e
          (r.treeWith [pushAll c.node (chain m).records])) := by
  have hfollows := h (r.inside next head c m) m.asked (hready.inside next head c m)
  have hmemory : (r.inside next head c m).memory m.asked = m := rfl
  rw [hmemory] at hfollows
  constructor
  · intro hnone
    have hthrough := hfollows.through hnone
    rw [inside_settle] at hthrough
    exact hthrough
  · intro e he
    obtain ⟨d, hgoes, hover⟩ := hfollows.stopped e he
    rw [inside_treeWith hready] at hover
    exact ⟨d, hgoes, hover⟩

/-- A container in which nothing is left to do is closed. -/
theorem follows_closed (hready : Ready r position) {s : Step} {c : Container}
    (hs : S.graph.step? c.place = some s) {m : Memory Req Res}
    (hcontinue : continueContainer S (r.inside next none c m) (r.moveTo next).cursors c s =
      .on (r.inside next none c m).close) :
    Follows S respond ⟨r.inside next none c m, m.asked⟩ r next (.done m.leave [c.node]) := by
  refine follows_done (.single (.turn ?_))
  rw [turn_inside hs, hcontinue, inside_close hready]

/-- An error inside a container that is open, at the end of its chain. -/
theorem follows_failed_inside (hready : Ready r position) {s : Step} {c : Container}
    (hs : S.graph.step? c.place = some s) {m : Memory Req Res} {e : Error}
    (hcontinue : continueContainer S (r.inside next none c m) (r.moveTo next).cursors c s =
      .failed (r.inside next none c m) e) :
    Follows S respond ⟨r.inside next none c m, m.asked⟩ r next ⟨m.leave, [c.node], some e⟩ := by
  refine follows_stopped ?_
  have htree : (r.inside next none c m).tree = r.treeWith [c.node] :=
    inside_treeWith hready next none c m []
  have haccount : m.leave.account e (r.treeWith [c.node]) =
      (r.inside next none c m).account m.asked (some e) := by
    rw [← htree]
    rfl
  rw [haccount]
  refine .failed ?_
  rw [turn_inside hs, hcontinue]

/-- A container whose chain runs once, in a frame of its own. -/
theorem follows_within {head : Option Nat} {chain : Memory Req Res → Outcome Req Res Result.Node}
    (h : Chained S respond head chain) (hready : Ready r position) (next : Option Nat) {p : Nat}
    {s : Step} (hs : S.graph.step? p = some s) (control : Control) (f : Frame)
    (make : List Result.Node → Result.Node) (hmake : ∀ nodes, pushAll (make []) nodes = make nodes)
    (hcontinue : ∀ r rest node, continueContainer S r rest ⟨p, control, node⟩ s = .on r.close)
    (m : Memory Req Res) :
    Follows S respond
      ⟨r.inside next head ⟨p, control, make []⟩ (m.enter f), m.asked⟩ r next
      ((m.within f chain).gather make) := by
  obtain ⟨hthrough, hstopped⟩ := h.inside hready next ⟨p, control, make []⟩ (m.enter f)
  simp only [hmake] at hthrough hstopped
  constructor
  · intro hnone
    have hclosed : Follows S respond _ r next
        (.done (chain (m.enter f)).memory.leave [make (chain (m.enter f)).records]) :=
      follows_closed hready hs (hcontinue _ _ _)
    exact (hthrough hnone).trans (hclosed.through rfl)
  · exact hstopped

/-- The open container of a loop or of a repeated chain after some rounds. -/
def afterRounds (p : Nat) (s : Step) (control : Control) (rounds : List Round) : Container :=
  ⟨p, control, roundsNode s rounds⟩

/-- The same container at the beginning of a further round. -/
def inRound (p : Nat) (s : Step) (control : Control) (rounds : List Round) (pass : Result.Pass) :
    Container :=
  afterRounds p s control (rounds ++ [(pass, [])])

theorem Chained.round {head : Option Nat} {chain : Memory Req Res → Outcome Req Res Result.Node}
    (h : Chained S respond head chain) (hready : Ready r position) (next : Option Nat) (p : Nat)
    {s : Step} (htag : s.tag = .each ∨ s.tag = .repeated) (control : Control) (rounds : List Round)
    (pass : Result.Pass) (m : Memory Req Res) :
    ((chain m).error = none →
      Relation.ReflTransGen (Goes S respond)
        ⟨r.inside next head (inRound p s control rounds pass) m, m.asked⟩
        ⟨r.inside next none (afterRounds p s control (rounds ++ [(pass, (chain m).records)]))
          (chain m).memory, (chain m).memory.asked⟩) ∧
    ∀ e, (chain m).error = some e →
      ∃ d, Relation.ReflTransGen (Goes S respond)
          ⟨r.inside next head (inRound p s control rounds pass) m, m.asked⟩ d ∧
        Over S respond d ((chain m).memory.account e
          (r.treeWith [roundsNode s (rounds ++ [(pass, (chain m).records)])])) := by
  have hround := h.inside hready next (inRound p s control rounds pass) m
  simp only [inRound, afterRounds, pushAll_roundsNode htag, List.nil_append] at hround
  exact hround

/-- A round, and what follows on it. -/
theorem follows_round {head : Option Nat} {chain : Memory Req Res → Outcome Req Res Result.Node}
    (h : Chained S respond head chain) (hready : Ready r position) {p : Nat} {s : Step}
    (htag : s.tag = .each ∨ s.tag = .repeated) {control : Control} (rounds : List Round)
    {pass : Result.Pass} {m : Memory Req Res} (more : Memory Req Res → Outcome Req Res Round)
    (hmore : (chain m).error = none → Follows S respond
      ⟨r.inside next none (afterRounds p s control (rounds ++ [(pass, (chain m).records)]))
        (chain m).memory, (chain m).memory.asked⟩ r next
      ((more (chain m).memory.leave).gather fun rest =>
        roundsNode s (rounds ++ [(pass, (chain m).records)] ++ rest))) :
    Follows S respond ⟨r.inside next head (inRound p s control rounds pass) m, m.asked⟩ r next
      ((((chain m).leave.gather fun nodes => (pass, nodes)).andThen more).gather fun rest =>
        roundsNode s (rounds ++ rest)) := by
  obtain ⟨hthrough, hstopped⟩ := h.round hready next p htag control rounds pass m
  cases herror : (chain m).error with
  | some e =>
      obtain ⟨d, hgoes, hover⟩ := hstopped e herror
      refine Follows.of_steps hgoes ?_
      simp only [Outcome.andThen, Outcome.gather, Outcome.leave, herror]
      exact follows_stopped hover
  | none =>
      refine Follows.of_steps (hthrough herror) ?_
      simp only [Outcome.andThen, Outcome.gather, Outcome.leave, herror]
      have hrest := hmore herror
      simp only [Outcome.gather, List.append_assoc] at hrest
      exact hrest

/-- A loop in the round of an item, with further items to come. -/
theorem follows_forItems {child : Option Nat} {chain : Memory Req Res → Outcome Req Res Result.Node}
    (h : Chained S respond child chain) (hready : Ready r position) {p : Nat} {s : Step}
    (hs : S.graph.step? p = some s) {collection key value : String}
    (haction : s.action = .each collection key value child) (items : List (Json × Json))
    (item : Json × Json) (rounds : List Round) (m : Memory Req Res) :
    Follows S respond
      ⟨r.inside next child (inRound p s (.items items) rounds ⟨some item.1, some item.2⟩)
        (m.enter (itemFrame key value item)), m.asked⟩ r next
      ((forItems key value chain (item :: items) m).gather fun more => roundsNode s (rounds ++ more)) := by
  have htag : s.tag = .each := by rw [Step.tag, haction]; rfl
  -- on the items to come; the rounds before this one are in the record
  induction items generalizing item rounds m with
  | nil =>
      refine follows_round h hready (.inl htag) rounds (forItems key value chain []) ?_
      intro _
      simp only [forItems, Outcome.gather, Outcome.done, List.append_nil]
      refine follows_closed hready hs ?_
      simp only [continueContainer, afterRounds]
  | cons item' items ih =>
      refine follows_round h hready (.inl htag) rounds (forItems key value chain (item' :: items)) ?_
      intro _
      refine Follows.of_goes ?_ (ih item' _ _)
      refine .turn ?_
      rw [turn_inside hs]
      simp only [continueContainer, afterRounds, haction]
      rfl

theorem leave_andThen {β : Type} (o : Outcome Req Res α) (make : List α → β)
    (more : Memory Req Res → Outcome Req Res β) :
    ((o.gather make).andThen more).leave =
      (o.leave.gather make).andThen fun _ => (more o.memory).leave := by
  unfold Outcome.andThen Outcome.gather Outcome.leave
  cases o.error <;> rfl

/-- A repeated chain whose condition does not hold after some rounds, or has no verdict. -/
theorem follows_last {child : Option Nat} (chain : Memory Req Res → Outcome Req Res Result.Node)
    (hready : Ready r position) {p : Nat} {s : Step} (hs : S.graph.step? p = some s)
    {condition : String} (haction : s.action = .repeated condition child) (left number : Nat)
    (rounds : List Round) (m : Memory Req Res) {verdict : Except Error Bool}
    (hverdict : S.evaluator.holds condition m.context.scope = verdict) (hlast : verdict ≠ .ok true) :
    Follows S respond ⟨r.inside next none (afterRounds p s (.counted number) rounds) m, m.asked⟩ r next
      ((whileHolds S s condition chain left number verdict m).leave.gather fun more =>
        roundsNode s (rounds ++ more)) := by
  have hholds : S.evaluator.holds condition
      (r.inside next none (afterRounds p s (.counted number) rounds) m).scope = verdict := hverdict
  cases verdict with
  | error e =>
      have hwhile : whileHolds S s condition chain left number (.error e) m = .failed m e := by
        cases left <;> rfl
      simp only [hwhile, Outcome.gather, Outcome.failed, Outcome.leave, List.append_nil]
      refine follows_failed_inside hready hs ?_
      simp only [continueContainer, afterRounds, haction] at hholds ⊢
      rw [hholds]
  | ok b =>
      obtain rfl : b = false := by
        cases b with
        | false => rfl
        | true => exact absurd rfl hlast
      have hwhile : whileHolds S s condition chain left number (.ok false) m = .done m [] := by
        cases left <;> rfl
      simp only [hwhile, Outcome.gather, Outcome.done, Outcome.leave, List.append_nil]
      refine follows_closed hready hs ?_
      simp only [continueContainer, afterRounds, haction] at hholds ⊢
      rw [hholds]

/-- A repeated chain after some rounds, with so many further rounds allowed. -/
theorem follows_whileHolds {child : Option Nat}
    {chain : Memory Req Res → Outcome Req Res Result.Node} (h : Chained S respond child chain)
    (hready : Ready r position) {p : Nat} {s : Step} (hs : S.graph.step? p = some s)
    {condition : String} (haction : s.action = .repeated condition child) (left number : Nat)
    (hlimit : left + number = S.iterationLimit) (rounds : List Round) (m : Memory Req Res) :
    Follows S respond ⟨r.inside next none (afterRounds p s (.counted number) rounds) m, m.asked⟩ r next
      ((whileHolds S s condition chain left number (S.evaluator.holds condition m.context.scope)
        m).leave.gather fun more => roundsNode s (rounds ++ more)) := by
  have htag : s.tag = .repeated := by rw [Step.tag, haction]; rfl
  -- on the rounds that are left; with those that were begun they make up the limit
  induction left generalizing number rounds m with
  | zero =>
      by_cases hverdict : S.evaluator.holds condition m.context.scope = .ok true
      · have hholds : S.evaluator.holds condition
            (r.inside next none (afterRounds p s (.counted number) rounds) m).scope = .ok true :=
          hverdict
        have hnumber : S.iterationLimit ≤ number := by omega
        simp only [hverdict, whileHolds, Outcome.gather, Outcome.failed, Outcome.leave,
          List.append_nil]
        refine follows_failed_inside hready hs ?_
        simp only [continueContainer, afterRounds, haction] at hholds ⊢
        rw [hholds]
        exact if_pos hnumber
      · exact follows_last chain hready hs haction 0 number rounds m rfl hverdict
  | succ left ih =>
      by_cases hverdict : S.evaluator.holds condition m.context.scope = .ok true
      · have hholds : S.evaluator.holds condition
            (r.inside next none (afterRounds p s (.counted number) rounds) m).scope = .ok true :=
          hverdict
        have hnumber : ¬ S.iterationLimit ≤ number := by omega
        rw [hverdict, whileHolds, leave_andThen]
        -- one turn begins the next round
        have hgoes : Goes S respond
            ⟨r.inside next none (afterRounds p s (.counted number) rounds) m, m.asked⟩
            ⟨r.inside next child
              (inRound p s (.counted (number + 1)) rounds ⟨some (.ofNat number), none⟩) m,
              m.asked⟩ := by
          refine .turn ?_
          rw [turn_inside hs]
          simp only [continueContainer, afterRounds, haction] at hholds ⊢
          rw [hholds]
          simp only [if_neg hnumber]
          rfl
        refine Follows.of_goes hgoes (follows_round h hready (.inr htag) rounds _ ?_)
        intro _
        exact ih (number + 1) (by omega) _ _
      · exact follows_last chain hready hs haction (left + 1) number rounds m rfl hverdict

/-! ## Steps and chains -/

section

variable {p : Nat} {s : Step}

theorem follows_block {declarations : Bindings String} {child : Option Nat}
    {chain : Memory Req Res → Outcome Req Res Result.Node} (h : Chained S respond child chain)
    (hready : Ready r (some p)) (hs : S.graph.step? p = some s)
    (haction : s.action = .block declarations child)
    (other : Memory Req Res → Outcome Req Res Result.Node) :
    Follows S respond ⟨r, asked⟩ r s.next (perform S respond chain other p s (r.memory asked)) := by
  have hturn := turn_ready (S := S) hready hs
  have htag : s.tag = .block := by rw [Step.tag, haction]; rfl
  simp only [enter, haction, moveTo_context] at hturn
  simp only [perform, haction]
  rw [declare_eq_values] at hturn
  cases hvalues : valuesOver S.evaluator (r.memory asked).context .empty declarations.entries with
  | error e =>
      simp only [Run.memory] at hvalues
      rw [hvalues] at hturn
      exact follows_failed hready hturn
  | ok values =>
      simp only [Run.memory] at hvalues
      simp only [hvalues, Except.map] at hturn
      rw [openContainer_moveTo] at hturn
      refine Follows.of_goes (.turn hturn) ?_
      refine follows_within h hready s.next hs .block (.ofList values) (blockNode s (.ofList values)) ?_ ?_
        (r.memory asked)
      · intro nodes
        exact pushAll_blockNode htag (.ofList values) [] nodes
      · intro r rest node
        simp only [continueContainer]

theorem follows_each {collection key value : String} {child : Option Nat}
    {chain : Memory Req Res → Outcome Req Res Result.Node} (h : Chained S respond child chain)
    (hready : Ready r (some p)) (hs : S.graph.step? p = some s)
    (haction : s.action = .each collection key value child)
    (other : Memory Req Res → Outcome Req Res Result.Node) :
    Follows S respond ⟨r, asked⟩ r s.next (perform S respond chain other p s (r.memory asked)) := by
  have hturn := turn_ready (S := S) hready hs
  simp only [enter, haction, Run.scope, moveTo_context] at hturn
  simp only [perform, haction]
  cases hitems : (S.evaluator.value collection (r.memory asked).context.scope).bind (itemsOf s) with
  | error e =>
      simp only [Run.memory] at hitems
      simp only [hitems] at hturn
      exact follows_failed hready hturn
  | ok items =>
      simp only [Run.memory] at hitems
      cases items with
      | nil =>
          simp only [hitems] at hturn
          exact follows_record hturn
      | cons item items =>
          simp only [hitems] at hturn
          rw [openContainer_moveTo] at hturn
          exact Follows.of_goes (.turn hturn)
            (follows_forItems h hready hs haction items item [] (r.memory asked))

theorem follows_repeated (limit : 1 ≤ S.iterationLimit) {condition : String} {child : Option Nat}
    {chain : Memory Req Res → Outcome Req Res Result.Node} (h : Chained S respond child chain)
    (hready : Ready r (some p)) (hs : S.graph.step? p = some s)
    (haction : s.action = .repeated condition child)
    (other : Memory Req Res → Outcome Req Res Result.Node) :
    Follows S respond ⟨r, asked⟩ r s.next (perform S respond chain other p s (r.memory asked)) := by
  have hturn := turn_ready (S := S) hready hs
  have htag : s.tag = .repeated := by rw [Step.tag, haction]; rfl
  simp only [enter, haction, moveTo_context] at hturn
  simp only [perform, haction]
  cases hholds : S.evaluator.holds condition ((r.memory asked).context.scopeWith .empty) with
  | error e =>
      simp only [Run.memory] at hholds
      simp only [hholds] at hturn
      exact follows_failed hready hturn
  | ok holds =>
      simp only [Run.memory] at hholds
      obtain ⟨left, hleft⟩ := Nat.exists_eq_add_of_le' limit
      simp only [hleft]
      cases holds with
      | false =>
          simp only [hholds] at hturn
          exact follows_record hturn
      | true =>
          simp only [hholds] at hturn
          rw [openContainer_moveTo] at hturn
          refine Follows.of_goes (.turn hturn) ?_
          rw [Memory.within, whileHolds, leave_andThen]
          refine follows_round h hready (.inr htag) [] _ ?_
          intro _
          exact follows_whileHolds h hready hs haction left 1 hleft.symm _ _

theorem follows_choice {condition : String} {holds otherwise : Option Nat}
    {inner other : Memory Req Res → Outcome Req Res Result.Node}
    (hinner : Chained S respond holds inner) (hother : Chained S respond otherwise other)
    (hready : Ready r (some p)) (hs : S.graph.step? p = some s)
    (haction : s.action = .choice condition holds otherwise) :
    Follows S respond ⟨r, asked⟩ r s.next (perform S respond inner other p s (r.memory asked)) := by
  have hturn := turn_ready (S := S) hready hs
  have htag : s.tag = .choice := by rw [Step.tag, haction]; rfl
  simp only [enter, haction, Run.scope, moveTo_context] at hturn
  simp only [perform, haction]
  cases hholds : S.evaluator.holds condition (r.memory asked).context.scope with
  | error e =>
      simp only [Run.memory] at hholds
      simp only [hholds] at hturn
      exact follows_failed hready hturn
  | ok b =>
      simp only [Run.memory] at hholds
      simp only [hholds] at hturn
      rw [openContainer_moveTo] at hturn
      have hbranch : Chained S respond (if b then holds else otherwise) (if b then inner else other) := by
        cases b with
        | false => exact hother
        | true => exact hinner
      refine Follows.of_goes (.turn hturn) ?_
      have hempty : choiceNode s b [] = branchNode s b := by cases b <;> rfl
      have hwithin := follows_within hbranch hready s.next hs .choice .empty (choiceNode s b)
        (pushAll_choiceNode htag b []) (by simp [continueContainer]) (r.memory asked)
      rw [hempty] at hwithin
      exact hwithin

/-- A step does what its meaning says, if the chains that it contains do. -/
theorem follows_perform (limit : 1 ≤ S.iterationLimit)
    {inner other : Memory Req Res → Outcome Req Res Result.Node}
    (hinner : Chained S respond s.action.inner inner)
    (hother : Chained S respond s.action.other other) (hready : Ready r (some p))
    (hs : S.graph.step? p = some s) :
    Follows S respond ⟨r, asked⟩ r s.next (perform S respond inner other p s (r.memory asked)) := by
  have hturn := turn_ready (S := S) hready hs
  cases haction : s.action with
  | visit | click | reload | follow =>
      simp only [enter, haction] at hturn
      simp only [perform, haction]
      exact follows_exchanged hready hs (by rw [haction]; rfl) hturn
  | empty =>
      simp only [enter, haction] at hturn
      simp only [perform, haction]
      exact follows_record hturn
  | block declarations child =>
      rw [haction] at hinner
      exact follows_block hinner hready hs haction other
  | each collection key value child =>
      rw [haction] at hinner
      exact follows_each hinner hready hs haction other
  | repeated condition child =>
      rw [haction] at hinner
      exact follows_repeated limit hinner hready hs haction other
  | choice condition holds otherwise =>
      rw [haction] at hinner hother
      exact follows_choice hinner hother hready hs haction

end

/-- A chain does what its script means. -/
theorem chained_meaning (limit : 1 ≤ S.iterationLimit) (respond : List (Nat × Req) → Res)
    {head : Option Nat} {script : Script} (h : S.graph.Reads head script) :
    Chained S respond head (meaning S respond script) := by
  -- the run is arbitrary, so that the hypotheses on inner chains apply inside their containers
  induction h with
  | stop =>
      intro r asked hready
      refine follows_done ?_
      rw [settle_self hready]
      exact .refl
  | step hs _ _ _ ihinner ihother ihrest =>
      intro r asked hready
      refine (follows_perform limit ihinner ihother hready hs).andThen hready ?_
      exact ihrest _ _ (hready.settle _ _ _)

end

/-! ## Whole runs -/

/-- A run over base values does what its script means, and then its graph is at its end. -/
theorem over_interpret {S : Setup Req Res} (limit : 1 ≤ S.iterationLimit)
    (respond : List (Nat × Req) → Res) (values : Bindings Json) {script : Script}
    (h : S.graph.Reads S.graph.root script) :
    ∃ d, Relation.ReflTransGen (Goes S respond) ⟨begin S (.start values), []⟩ d ∧
      Over S respond d (interpret S respond values script) := by
  have hcursors : (begin S (.start values) : Run Req Res).cursors = [⟨S.graph.root, none⟩] := rfl
  have hready : Ready (begin S (.start values) : Run Req Res) S.graph.root :=
    ⟨⟨none, [], hcursors, fun _ => rfl⟩, rfl⟩
  have hfollows := chained_meaning limit respond h _ [] hready
  have hmemory : (begin S (.start values) : Run Req Res).memory [] =
      ⟨(Context.strict values).push .empty, none, .empty, []⟩ := rfl
  rw [hmemory] at hfollows
  unfold interpret
  generalize meaning S respond script ⟨(Context.strict values).push .empty, none, .empty, []⟩ = o
    at hfollows
  obtain ⟨m, nodes, error⟩ := o
  cases error with
  | some e =>
      obtain ⟨d, hgoes, hover⟩ := hfollows.stopped e rfl
      rw [treeWith_none hcursors] at hover
      exact ⟨d, hgoes, hover⟩
  | none =>
      have hgoes := hfollows.through rfl
      rw [settle_none hcursors] at hgoes
      -- the top chain is closed, and then no cursor is left
      refine ⟨_, hgoes.tail (.turn rfl), ?_⟩
      have hfinished : turn S (⟨m.context.pop, [], .awaiting, none, m.previous, m.extractions,
          nodes⟩ : Run Req Res) = .ok (.finished _) := rfl
      have hover : Over S respond ⟨_, m.asked⟩ _ := .finished hfinished
      simp only [Run.account, Run.tree, Run.nestOpen, Option.toList_none, List.append_nil] at hover
      exact hover

/-- **Refinement.** Over a graph that was built and whose links do not run in a circle, driving a run
from the start, with fuel enough, gives the account of the recursion over the script of the graph,
whatever the expressions mean, however requests are made, and whatever the responses are. -/
theorem drive_eq_interpret (S : Setup Req Res) (steps : Array Step) (root : Option Nat)
    (built : Graph.build steps root = .ok S.graph) (acyclic : S.graph.Acyclic)
    (limit : 1 ≤ S.iterationLimit) (respond : List (Nat × Req) → Res) (values : Bindings Json) :
    ∃ script, S.graph.script? = some script ∧
      ∃ enough, ∀ turns exchanges, enough ≤ turns → enough ≤ exchanges →
        drive S respond turns exchanges [] (.start values) =
          .ok (interpret S respond values script) := by
  have sound : S.graph.Sound := ((Graph.build_eq_ok_iff steps root S.graph).1 built).2
  obtain ⟨script, hscript⟩ := sound.exists_script acyclic
  obtain ⟨d, hgoes, hover⟩ := over_interpret limit respond values (Graph.reads_of_scriptFrom hscript)
  exact ⟨script, hscript, drive_of_goes hgoes hover⟩

/-! ## A small setting -/

/-- A block that declares where to wait, with a loop over pages and a wait as long as there is more; then the
way out, where the door has to be open. -/
def hallSteps : Array Step := #[
  ⟨"hall", none, .block (.ofList [("desk", "address")]) (some 1), some 5⟩,
  ⟨"walk", none, .each "pages" "number" "page" (some 2), some 3⟩,
  ⟨"look", none, .visit "page" none none ⟨.empty, .ofList [("seen", "response")], ["seen"]⟩, none⟩,
  ⟨"wait", none, .repeated "more" (some 4), none⟩,
  ⟨"ask", none, .visit "desk" none none ⟨.empty, .ofList [("more", "response")], []⟩, none⟩,
  ⟨"door", none, .choice "open" (some 6) (some 7), none⟩,
  ⟨"out", none, .empty, none⟩,
  ⟨"knock", none, .visit "start" none none ⟨.empty, .ofList [("heard", "response")], ["heard", "open"]⟩,
    none⟩]

/-- The setup of the hall, in which expressions are names. -/
def hall : Setup String String := ⟨⟨hallSteps, some 0⟩, .names, addressConverter, 10⟩

/-- Two pages, where to wait, and a door that is shut. -/
def hallValues : Bindings Json :=
  .ofList [("pages", .array [.string "/a", .string "/b"]), ("address", .string "/desk"),
    ("more", .bool true), ("open", .bool false), ("start", .string "/")]

/-- All is answered but the fourth request. -/
def hallAnswers (asked : List (Nat × String)) : String := if asked.length = 4 then "" else "yes"

/-- The hall asks for both pages, waits for two answers and knocks, as the door is shut; there the run ends, as
one of two assertions fails. Its records are those of the steps that were gone through, and the failing one. -/
theorem hall_interpreted :
    Graph.build hallSteps (some 0) = .ok hall.graph ∧ hall.graph.Acyclic ∧ 1 ≤ hall.iterationLimit ∧
      ∃ account : Account String,
        account.asked = [(2, "/a"), (2, "/b"), (4, "/desk"), (4, "/desk"), (7, "/")] ∧
        account.ending = some (.expectation ⟨"knock", ["Assertion failed: open"],
          .ofList [("seen", .string "yes"), ("more", .string ""), ("heard", .string "yes")]⟩) ∧
        account.completed = 4 ∧
        account.extractions = .ofList [("seen", .string "yes"), ("more", .string "")] ∧
        account.results.flatten.map (·.facts.uuid) =
          ["hall", "walk", "look", "look", "wait", "ask", "ask", "door", "knock"] ∧
        ∃ enough, ∀ turns exchanges, enough ≤ turns → enough ≤ exchanges →
          drive hall hallAnswers turns exchanges [] (.start hallValues) = .ok account := by
  have acyclic : hall.graph.Acyclic := Graph.acyclic_of_ascends rfl
  obtain ⟨script, hscript, hdrive⟩ := drive_eq_interpret hall hallSteps (some 0) rfl acyclic (by decide)
    hallAnswers hallValues
  obtain rfl : _ = script := Option.some.inj hscript
  exact ⟨rfl, acyclic, by decide, _, rfl, rfl, rfl, rfl, rfl, hdrive⟩

end Walkthrough.Engine
