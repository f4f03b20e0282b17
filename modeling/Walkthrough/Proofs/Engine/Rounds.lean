import Walkthrough.Proofs.Engine.Moments
import Walkthrough.Proofs.Engine.Raised
import Walkthrough.Proofs.Engine.Throughout

/-!
# The rounds of repeated chains

How often a chain may be repeated. The records of its iterations are numbered without gaps, and what is left
to do in an open container counts them (`Counts`). A further iteration begins only below the limit, so that
there are never more than the limit allows; but the first begins whatever the limit is, and so there may be
one even if none is allowed (`first_round_unlimited`).

* `Moment.counted` — iterations are counted, numbered and limited at every moment;
* `not_raises_tooManyIterations` — evaluating and making requests raise nothing about the limit;
* `exceeds_iff` — so that a run fails because of the limit exactly where a condition holds although all
  iterations that are allowed were begun, as it does with the expression language (`exceeds_iff_of_template`);
* `rounds_limited` — both of every run.
-/

namespace Walkthrough.Engine

open Result (Facts Pass Node)

variable {Req Res : Type} {S : Setup Req Res} {values : Bindings Json} {r r' : Run Req Res}

/-- So many numbered iterations. -/
def rounds (m : Nat) : List Pass := (List.range m).map fun i => ⟨some (.ofNat i), none⟩

/-- How many iterations a repeated chain may come to: the first is not asked for. -/
def Setup.roundLimit (S : Setup Req Res) : Nat := max 1 S.iterationLimit

/-- The iterations of a repeated chain are numbered, and not too many. -/
def Rounded (limit : Nat) (f : Facts) (passes : List Pass) : Prop :=
  f.tag = .repeated → ∃ m ≤ limit, passes = rounds m

/-- What is left to do in a repeated chain counts its iterations, and other containers are of other steps. -/
def Counts (limit : Nat) (control : Control) (f : Facts) (passes : List Pass) : Prop :=
  match control with
  | .counted m => 1 ≤ m ∧ m ≤ limit ∧ passes = rounds m
  | _ => f.tag ≠ .repeated

/-- The iterations of all repeated chains are counted. -/
abbrev Run.Counted (S : Setup Req Res) (r : Run Req Res) : Prop :=
  Throughout (Rounded S.roundLimit) (Counts S.roundLimit) r

theorem rounds_succ (m : Nat) : rounds (m + 1) = rounds m ++ [⟨some (.ofNat m), none⟩] := by
  unfold rounds
  rw [List.range_succ, List.map_append, List.map_singleton]

theorem length_rounds (m : Nat) : (rounds m).length = m := by simp [rounds]

/-- A record without iterations may be of any step. -/
theorem rounded_nil (limit : Nat) (f : Facts) : Rounded limit f [] :=
  fun _ => ⟨0, Nat.zero_le _, rfl⟩

theorem everywhere_of_plain {limit : Nat} {n : Node} (hchildren : n.children = [])
    (hpasses : n.passes = []) : n.Everywhere (Rounded limit) :=
  Node.everywhere_of_childless hchildren (hpasses ▸ rounded_nil limit n.facts)

/-! ## Turns -/

namespace Run.Counted

theorem passed (h : r.Counted S) (next : Option Nat) (s : Step) :
    ((r.moveTo next).record (.ofStep s)).Counted S :=
  (h.moveTo next).record (everywhere_of_plain rfl rfl)

/-- A container without iterations is opened. -/
theorem entered (h : r.Counted S) (next head : Option Nat) (p : Nat) {control : Control} {n : Node}
    (hchildren : n.children = []) (hpasses : n.passes = []) (hleft : Counts S.roundLimit control n.facts [])
    (f : Frame) : ((r.moveTo next).openContainer head ⟨p, control, n⟩ f).Counted S :=
  (h.moveTo next).openContainer (everywhere_of_plain hchildren hpasses)
    (show Counts S.roundLimit control n.facts n.passes from hpasses ▸ hleft) head f

/-- Every turn counts. -/
theorem turned (h : r.Counted S) {t : Turn Req Res} (hturn : Turned S r t) : t.run.Counted S := by
  cases hturn with
  | finish => exact h
  | want => exact h.moveTo _
  | skip => exact h.passed _ _
  | enterBlock _ haction =>
    exact h.entered _ _ _ rfl rfl (by simp [Counts, declaringNode, Node.ofStep, Step.tag, haction, Action.tag]) _
  | failBlock => exact h.moveTo _
  | passEach => exact h.passed _ _
  | @enterEach p s collection key value child item items _ haction =>
    have htag : (Node.ofStep s).facts.tag = .each := by simp [Node.ofStep, Step.tag, haction, Action.tag]
    refine (h.moveTo _).openContainer (Node.everywhere_of_childless rfl ?_) ?_ _ _
    · intro hrepeated
      exact absurd (htag.symm.trans hrepeated) (by simp)
    · show (Node.ofStep s).facts.tag ≠ .repeated
      rw [htag]
      simp
  | failEach => exact h.moveTo _
  | passRepeated => exact h.passed _ _
  | @enterRepeated p s =>
    -- the first iteration begins without a look at the limit
    have hfirst : 1 ≤ S.roundLimit := Nat.le_max_left _ _
    have hcounts : Counts S.roundLimit (.counted 1) (Node.ofStep s).facts (rounds 1) :=
      ⟨Nat.le_refl 1, hfirst, rfl⟩
    exact (h.moveTo _).openContainer (Node.everywhere_of_childless rfl fun _ => ⟨1, hfirst, rfl⟩) hcounts _ _
  | failRepeated => exact h.moveTo _
  | enterChoice _ haction =>
    exact h.entered _ _ _ rfl rfl (by simp [Counts, branchNode, Node.ofStep, Step.tag, haction, Action.tag]) _
  | failChoice => exact h.moveTo _
  | closeTop => exact h.close
  | closeContainer => exact h.close
  | @nextItem c s rest collection key value child item items hend hcontrol =>
    obtain ⟨_, hleft⟩ := h.innermost hend
    rw [hcontrol] at hleft
    exact h.beginIteration hend (fun hrepeated => absurd hrepeated hleft) hleft _ _
  | @nextRound c s rest condition child n hend hcontrol _ _ hlimit =>
    obtain ⟨_, hleft⟩ := h.innermost hend
    rw [hcontrol] at hleft
    obtain ⟨_, _, hpasses⟩ := hleft
    have hnext : c.node.passes ++ [⟨some (.ofNat n), none⟩] = rounds (n + 1) := by
      rw [hpasses, rounds_succ]
    have hallowed : n + 1 ≤ S.roundLimit := Nat.le_trans hlimit (Nat.le_max_right _ _)
    have hcounts : Counts S.roundLimit (.counted (n + 1)) c.node.facts
        (c.node.passes ++ [⟨some (.ofNat n), none⟩]) := ⟨Nat.le_add_left 1 n, hallowed, hnext⟩
    exact h.beginIteration hend (fun _ => ⟨n + 1, hallowed, hnext⟩) hcounts r.context _
  | failRound => exact h
  | exceed => exact h

/-- Whatever comes of an exchange, its record has no iterations. -/
theorem judged (h : r.Counted S) {s : Step} {request : Req} {response : Res}
    {result : Except Error Unit × Run Req Res} (hjudged : Judged S r s request response result) :
    result.2.Counted S := by
  cases hjudged with
  | noRequest => exact h
  | unwritten => exact h
  | unextracted => exact h
  | unjudged => exact h
  | unmet => exact h.record (everywhere_of_plain rfl rfl)
  | @met leaf exchange f extracted outcomes =>
    let kept : Run Req Res := { r with
      context := (bindAll r.context extracted.entries).recordCompleted
      extractions := r.extractions.extend extracted }
    have hkept : kept.Counted S := h.congr rfl rfl
    have hrecorded := hkept.record (n := exchangeNode s exchange extracted outcomes)
      (everywhere_of_plain rfl rfl)
    exact hrecorded.congr rfl rfl

theorem happens (h : r.Counted S) (hhappens : Happens S r r') : r'.Counted S := by
  cases hhappens with
  | begun =>
    refine ⟨h.results, fun cursor hmem => ?_⟩
    rcases List.mem_cons.1 hmem with rfl | hmem
    · rintro c ⟨⟩
    · exact h.opened cursor hmem
  | turned _ hturn => exact h.turned (turned_of_turn hturn)
  | stopped _ hends =>
    cases hends with
    | wanted hturn => exact Throughout.congr (h.turned (turned_of_turn hturn)) rfl rfl
    | finished hturn => exact Throughout.congr (h.turned (turned_of_turn hturn)) rfl rfl
    | failed hturn => exact Throughout.congr (h.turned (turned_of_turn hturn)) rfl rfl
  | made => exact h.congr rfl rfl
  | unmade => exact h.congr rfl rfl
  | taken _ hcomplete => exact h.judged (judged_of_complete hcomplete)
  | rejected _ hcomplete => exact Throughout.congr (h.judged (judged_of_complete hcomplete)) rfl rfl

end Run.Counted

/-- At every moment the iterations of all repeated chains are counted. -/
theorem Moment.counted (h : Moment S values r) : r.Counted S := by
  induction h with
  | refl => exact ⟨by simp [Run.start], by simp [Run.start]⟩
  | tail _ hhappens ih => exact Run.Counted.happens ih hhappens

/-! ## The limit -/

/-- Neither the evaluator of the expression language nor the making of requests raises what says that a step
exceeded the limit. -/
theorem not_raises_tooManyIterations {restricted : Bool} {host : Host}
    {S : Setup Request Response} {m : RequestMaker}
    (hevaluator : S.evaluator = Template.evaluator restricted host) (hconverter : S.converter = m.converter)
    (uuid : String) (n : Nat) : ¬ Raises S (.configuration (.tooManyIterations uuid n)) := by
  intro hraises
  cases Template.raised_of_template hevaluator hconverter hraises with
  | value hvalue => cases hvalue
  | configuration hfault => cases hfault

/-- The condition of a repeated chain holds, although it has come to all iterations that it may. -/
def Run.Overruns (S : Setup Req Res) (r : Run Req Res) (uuid : String) : Prop :=
  ∃ c s rest condition child, r.EndOf S c s rest ∧ s.uuid = uuid ∧
    s.action = .repeated condition child ∧ S.evaluator.holds condition r.scope = .ok true ∧
    c.node.iterations.length = S.roundLimit

/-- A turn fails because of the limit exactly where a repeated chain would overrun. -/
theorem failed_iff_overruns (haligned : Aligned S r) (hcounted : r.Counted S) {uuid : String} {n : Nat}
    (hquiet : ¬ Raises S (.configuration (.tooManyIterations uuid n))) :
    (∃ r', turn S r = .ok (.failed r' (.configuration (.tooManyIterations uuid n)))) ↔
      n = S.iterationLimit ∧ r.Overruns S uuid := by
  constructor
  · rintro ⟨r', hturn⟩
    cases turned_of_turn hturn with
    | failBlock _ _ hdeclare => exact absurd (raisesAt_of_declare hdeclare).raises hquiet
    | @failEach _ s collection _ _ _ _ _ _ hitems =>
      cases hvalue : S.evaluator.value collection r.scope with
      | error e =>
        rw [hvalue] at hitems
        obtain rfl := Except.error.inj hitems
        exact absurd (.value hvalue) hquiet
      | ok v =>
        rw [hvalue] at hitems
        obtain ⟨v', hfault⟩ := itemsOf_error hitems
        exact absurd hfault (by simp)
    | failRepeated _ _ hholds => exact absurd (.holds hholds) hquiet
    | failChoice _ _ hholds => exact absurd (.holds hholds) hquiet
    | failRound _ _ _ hholds => exact absurd (.holds hholds) hquiet
    | @exceed c s rest condition child m hend hcontrol haction hholds hlimit =>
      obtain ⟨_, hleft⟩ := Throughout.innermost hcounted hend
      rw [hcontrol] at hleft
      obtain ⟨hfirst, hallowed, hpasses⟩ := hleft
      have hlength : c.node.iterations.length = m := by
        rw [← length_rounds m, ← hpasses, Node.passes, List.length_map]
      have hmost : m = S.roundLimit := Nat.le_antisymm hallowed (Nat.max_le.2 ⟨hfirst, hlimit⟩)
      exact ⟨rfl, c, s, rest, condition, child, hend, rfl, haction, hholds, hlength.trans hmost⟩
  · rintro ⟨rfl, c, s, rest, condition, child, hend, rfl, haction, hholds, hlength⟩
    refine ⟨r, ?_⟩
    have hfits := haligned.fits hend
    rw [haction] at hfits
    cases hcontrol : c.control with
    | block | choice | items => exact absurd hfits (by simp [hcontrol, Control.Fits])
    | counted m =>
      obtain ⟨_, hleft⟩ := Throughout.innermost hcounted hend
      rw [hcontrol] at hleft
      obtain ⟨_, _, hpasses⟩ := hleft
      have hmost : m = S.roundLimit := by
        rw [← hlength, ← length_rounds m, ← hpasses, Node.passes, List.length_map]
      have hlimit : S.iterationLimit ≤ m := hmost ▸ Nat.le_max_right _ _
      rw [turn_of_endOf hend, continueContainer, hcontrol, haction]
      simp only [hholds, if_pos hlimit]

/-- What a call answers because of the limit was found by a turn. -/
theorem failed_during {c : Call Req Res} {fuel n : Nat} {uuid : String}
    (hquiet : ¬ Raises S (.configuration (.tooManyIterations uuid n)))
    (hcall : call S fuel r c = .ok (.error (.configuration (.tooManyIterations uuid n)), r')) :
    ∃ r₁ r₂, During S r c r₁ ∧
      turn S r₁ = .ok (.failed r₂ (.configuration (.tooManyIterations uuid n))) := by
  have handed : ∀ {r₁ r₂ : Run Req Res},
      ¬ Handed S r₁ (.error (.configuration (.tooManyIterations uuid n))) r₂ := by
    rintro r₁ r₂ ⟨⟩
    next hconvert => exact hquiet (.convert hconvert)
  cases c with
  | peek =>
    obtain ⟨a, hpeek, ha⟩ := peek_of_call hcall
    obtain rfl := error_of_map ha.symm
    cases peeked_of_peek hpeek with
    | begun _ _ _ hhanded => exact absurd hhanded handed
    | stopped hphase hturns hends =>
      cases hends with
      | failed hturn => exact ⟨_, _, .peek hphase hturns, hturn⟩
    | awaiting _ hhanded => exact absurd hhanded handed
  | resume request response =>
    obtain ⟨a, hresume, ha⟩ := resume_of_call hcall
    obtain rfl := error_of_map ha.symm
    cases resumed_of_resume hresume with
    | refused hawaited =>
      obtain ⟨fault, hfault⟩ := awaited_eq_error hawaited
      exact absurd hfault (by simp)
    | rejected _ hcomplete =>
      cases judged_of_complete hcomplete with
      | unwritten _ hjson =>
        obtain ⟨fault, hfault⟩ := serialization_of_exchangeJson hjson
        exact absurd hfault (by simp)
      | unextracted _ _ hextract => exact absurd (raisesAt_of_extract hextract).raises hquiet
      | unjudged _ _ _ hjudge => exact absurd (raisesAt_of_judge hjudge).raises hquiet
    | taken hawaited hcomplete hturns hends =>
      cases hends with
      | failed hturn => exact ⟨_, _, .resume hawaited hcomplete hturns, hturn⟩

/-- A call answers that a step exceeded the limit exactly if a repeated chain would overrun inside of it. -/
theorem exceeds_iff (sound : S.graph.Sound) (h : Reachable S values r) (c : Call Req Res) {uuid : String}
    {n : Nat} (hquiet : ¬ Raises S (.configuration (.tooManyIterations uuid n))) :
    (∃ fuel r', call S fuel r c = .ok (.error (.configuration (.tooManyIterations uuid n)), r') ∧
        r'.phase = .failed) ↔
      n = S.iterationLimit ∧ ∃ r₁, During S r c r₁ ∧ r₁.Overruns S uuid := by
  have hbalanced := h.balanced sound
  -- the runs of a call are moments, at which iterations are counted
  have hmoment : ∀ {r₁ : Run Req Res}, During S r c r₁ → Moment S values r₁ := fun hduring =>
    (h.moment sound).trans (hduring.leads sound hbalanced).1
  constructor
  · rintro ⟨fuel, r', hcall, _⟩
    obtain ⟨r₁, r₂, hduring, hturn⟩ := failed_during hquiet hcall
    have hr₁ := hmoment hduring
    obtain ⟨hn, hoverruns⟩ :=
      (failed_iff_overruns (hr₁.settled sound).aligned hr₁.counted hquiet).1 ⟨r₂, hturn⟩
    exact ⟨hn, r₁, hduring, hoverruns⟩
  · rintro ⟨hn, r₁, hduring, hoverruns⟩
    have hr₁ := hmoment hduring
    obtain ⟨r₂, hturn⟩ :=
      (failed_iff_overruns (hr₁.settled sound).aligned hr₁.counted hquiet).2 ⟨hn, hoverruns⟩
    obtain ⟨fuel, hcall⟩ := call_of_failed hduring hturn
    exact ⟨fuel, r₂.fail, hcall, rfl⟩

/-- With the expression language and requests of the web nothing else is answered in these words. -/
theorem exceeds_iff_of_template {restricted : Bool} {host : Host} {S : Setup Request Response}
    {m : RequestMaker} (hevaluator : S.evaluator = Template.evaluator restricted host)
    (hconverter : S.converter = m.converter) (sound : S.graph.Sound) {r : Run Request Response}
    (h : Reachable S values r) (c : Call Request Response) (uuid : String) (n : Nat) :
    (∃ fuel r', call S fuel r c = .ok (.error (.configuration (.tooManyIterations uuid n)), r') ∧
        r'.phase = .failed) ↔
      n = S.iterationLimit ∧ ∃ r₁, During S r c r₁ ∧ r₁.Overruns S uuid :=
  exceeds_iff sound h c (not_raises_tooManyIterations hevaluator hconverter uuid n)

/-- **The limit.** At every moment of every run, the records of the iterations of each repeated chain have
the keys 0, 1, 2 and so on, and there are not more than the limit allows, apart from the first, for which
the limit is not asked. A call answers that a step exceeded the limit exactly if inside of the call, with
that many iterations begun, the condition of the step held once more; then the run has failed. -/
theorem rounds_limited (S : Setup Req Res) (steps : Array Step) (root : Option Nat)
    (built : Graph.build steps root = .ok S.graph) (values : Bindings Json) :
    (∀ r, Moment S values r → ∀ n ∈ r.tree.flatten, n.facts.tag = .repeated →
      n.iterations.length ≤ max 1 S.iterationLimit ∧
      n.iterations.map (·.1.key) = (List.range n.iterations.length).map fun i => some (.ofNat i)) ∧
    ∀ r, Reachable S values r → ∀ c uuid n,
      ¬ Raises S (.configuration (.tooManyIterations uuid n)) →
      ((∃ fuel r', call S fuel r c = .ok (.error (.configuration (.tooManyIterations uuid n)), r') ∧
          r'.phase = .failed) ↔
        n = S.iterationLimit ∧ ∃ r₁, During S r c r₁ ∧ r₁.Overruns S uuid) := by
  have sound := ((Graph.build_eq_ok_iff steps root S.graph).1 built).2
  constructor
  · intro r h n hn htag
    obtain ⟨m, hm, hpasses⟩ := Throughout.tree h.counted n hn htag
    have hlength : n.iterations.length = m := by
      rw [← length_rounds m, ← hpasses, Node.passes, List.length_map]
    refine ⟨hlength ▸ hm, ?_⟩
    have hkeys : n.iterations.map (·.1.key) = n.passes.map (·.key) := by
      rw [Node.passes, List.map_map]
      rfl
    rw [hkeys, hpasses, hlength, rounds, List.map_map]
    rfl
  · exact fun r h c uuid n hquiet => exceeds_iff sound h c hquiet

/-! ## A small setting -/

/-- An address that is asked as long as there is more. -/
def pollingSteps : Array Step := #[
  ⟨"poll", none, .repeated "more" (some 1), none⟩,
  ⟨"ask", none, .visit "address" none none ⟨.empty, .ofList [("more", "response")], []⟩, none⟩]

/-- The setup in which an address is asked at most so many times; expressions are names. -/
def polling (limit : Nat) : Setup String String :=
  ⟨⟨pollingSteps, some 0⟩, .names, addressConverter, limit⟩

/-- There is more at first. -/
def pollingValues : Bindings Json := .ofList [("more", .bool true), ("address", .string "/poll")]

theorem polling_quiet (limit : Nat) (uuid : String) (n : Nat) :
    ¬ Raises (polling limit) (.configuration (.tooManyIterations uuid n)) := by
  intro hraises
  rcases raised_of_names rfl rfl hraises with ⟨_, hfault⟩ | ⟨_, _, hfault⟩
  · exact absurd hfault (by simp)
  · exact absurd hfault (by simp)

/-- If one iteration is allowed and there is still more after it, the limit ends the run, and one is
recorded. -/
theorem polling_limited :
    ∃ r, Reachable (polling 1) pollingValues r ∧
      (∃ fuel r', call (polling 1) fuel r (.resume "/poll" "again") =
        .ok (.error (.configuration (.tooManyIterations "poll" 1)), r') ∧ r'.phase = .failed) ∧
      ∀ n ∈ r.tree.flatten, n.facts.tag = .repeated → n.iterations.length ≤ 1 := by
  have hruns : ∃ r r₀ c s, call (polling 1) 4 (.start pollingValues) .peek =
        .ok (.ok (some (.request 1 "ask" "/poll")), r) ∧
      awaited (polling 1) r "/poll" = .ok (.ok (1, s)) ∧
      complete (polling 1) r s "/poll" "again" = (.ok (), r₀) ∧
      r₀.EndOf (polling 1) c pollingSteps[0] [⟨none, none⟩] ∧
      Evaluator.names.holds "more" r₀.scope = .ok true ∧ c.node.iterations.length = 1 :=
    ⟨_, _, _, _, rfl, rfl, rfl, ⟨rfl, rfl⟩, rfl, rfl⟩
  obtain ⟨r, r₀, c, s, hcall, hawaited, hcomplete, hend, hholds, hlength⟩ := hruns
  have hreachable : Reachable (polling 1) pollingValues r := Reachable.start.call hcall
  obtain ⟨hbounded, hexceeds⟩ := rounds_limited (polling 1) pollingSteps (some 0) rfl pollingValues
  have hmoment := hreachable.moment ((Graph.build_eq_ok_iff pollingSteps (some 0) _).1 rfl).2
  refine ⟨r, hreachable, ?_, fun n hn htag => (hbounded r hmoment n hn htag).1⟩
  have hoverruns : r₀.Overruns (polling 1) "poll" :=
    ⟨c, _, _, "more", some 1, hend, rfl, rfl, hholds, hlength⟩
  exact (hexceeds r hreachable _ "poll" 1 (polling_quiet 1 "poll" 1)).2
    ⟨rfl, r₀, .resume hawaited hcomplete .refl, hoverruns⟩

/-- The first iteration is not asked for: even if none is allowed, one is begun, and if there is no more
after it, the run comes to its end without an error. -/
theorem first_round_unlimited :
    ∃ r, Reachable (polling 0) pollingValues r ∧ r.phase = .done ∧
      ∃ n ∈ r.tree.flatten, n.facts.tag = .repeated ∧ (polling 0).iterationLimit < n.iterations.length := by
  have hcalls : ∃ r₁ r₂ n a, call (polling 0) 4 (.start pollingValues) .peek =
        .ok (.ok (some (.request 1 "ask" "/poll")), r₁) ∧
      call (polling 0) 4 r₁ (.resume "/poll" "") = .ok (a, r₂) ∧ r₂.phase = .done ∧
      r₂.tree.flatten.head? = some n ∧ n.facts.tag = .repeated ∧ n.iterations.length = 1 :=
    ⟨_, _, _, _, rfl, rfl, rfl, rfl, rfl, rfl⟩
  obtain ⟨r₁, r₂, n, a, h₁, h₂, hdone, hfirst, htag, hlength⟩ := hcalls
  refine ⟨r₂, (Reachable.start.call h₁).call h₂, hdone, n, List.mem_of_mem_head? hfirst, htag, ?_⟩
  rw [hlength]
  exact Nat.zero_lt_one

end Walkthrough.Engine
