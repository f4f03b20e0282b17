import Walkthrough.Proofs.Engine.Errors

/-!
# What a run touches

Wherever a run is, links lead there from the first step of its graph: a turn leads the innermost chain
along links (`touches_of_turned`), and a request that waits is that of a step on the way
(`Run.Inside`). So every error that a call answers, unless it is a refusal or a failed expectation, is
found at a step that the root reaches (`Run.Inside.called`).
-/

namespace Walkthrough.Engine

variable {Req Res : Type} {S : Setup Req Res} {r r' : Run Req Res}

/-! ## What the operations of a run touch -/

theorem touches_of_moveTo {next : Option Nat} {q : Nat} (h : (r.moveTo next).Touches q) :
    next = some q ∨ r.Touches q := by
  cases hcursors : r.cursors with
  | nil =>
    rw [moveTo_nil hcursors] at h
    exact .inr h
  | cons c rest =>
    obtain ⟨d, hd, htouches⟩ := h
    rw [moveTo_eq hcursors] at hd
    rcases List.mem_cons.1 hd with rfl | hd
    · rcases htouches with hnext | hcontainer
      · exact .inl hnext
      · exact .inr ⟨c, by rw [hcursors]; exact List.mem_cons_self, .inr hcontainer⟩
    · exact .inr ⟨d, by rw [hcursors]; exact List.mem_cons_of_mem _ hd, htouches⟩

theorem touches_of_record {n : Result.Node} {q : Nat} (h : (r.record n).Touches q) : r.Touches q := by
  unfold Run.record at h
  split at h
  · next position c rest hcursors =>
    obtain ⟨d, hd, htouches⟩ := h
    rcases List.mem_cons.1 hd with rfl | hd
    · refine ⟨⟨position, some c⟩, by rw [hcursors]; exact List.mem_cons_self, ?_⟩
      rcases htouches with hposition | ⟨k, hk, hplace⟩
      · exact .inl hposition
      · obtain rfl := Option.some.inj hk
        exact .inr ⟨c, rfl, hplace⟩
    · exact ⟨d, by rw [hcursors]; exact List.mem_cons_of_mem _ hd, htouches⟩
  · exact h

theorem touches_of_openContainer {head : Option Nat} {c : Container} {f : Frame} {q : Nat}
    (h : (r.openContainer head c f).Touches q) : head = some q ∨ c.place = q ∨ r.Touches q := by
  obtain ⟨d, hd, htouches⟩ := h
  rcases List.mem_cons.1 hd with rfl | hd
  · rcases htouches with hhead | ⟨k, hk, hplace⟩
    · exact .inl hhead
    · obtain rfl := Option.some.inj hk
      exact .inr (.inl hplace)
  · exact .inr (.inr ⟨d, hd, htouches⟩)

theorem touches_of_close {q : Nat} (h : r.close.Touches q) : r.Touches q := by
  unfold Run.close at h
  split at h
  · exact h
  · next position container rest hcursors =>
    have hrest : ∀ r₁ : Run Req Res, r₁.cursors = rest → r₁.Touches q → r.Touches q := by
      rintro r₁ hr₁ ⟨d, hd, htouches⟩
      exact ⟨d, by rw [hcursors]; exact List.mem_cons_of_mem _ (hr₁ ▸ hd), htouches⟩
    cases container with
    | none => exact hrest _ rfl h
    | some c => exact hrest _ rfl (touches_of_record h)

theorem touches_of_beginIteration {rest : List Cursor} {c : Container} {position : Option Nat}
    (hcursors : r.cursors = ⟨position, some c⟩ :: rest) {context : Context} {control : Control}
    {head : Option Nat} {key value : Option Json} {q : Nat}
    (h : (beginIteration { r with context } rest c control head key value).Touches q) :
    head = some q ∨ r.Touches q := by
  obtain ⟨d, hd, htouches⟩ := h
  rcases List.mem_cons.1 hd with rfl | hd
  · rcases htouches with hhead | ⟨k, hk, hplace⟩
    · exact .inl hhead
    · obtain rfl := Option.some.inj hk
      exact .inr ⟨⟨position, some c⟩, by rw [hcursors]; exact List.mem_cons_self, .inr ⟨c, rfl, hplace⟩⟩
  · exact .inr ⟨d, by rw [hcursors]; exact List.mem_cons_of_mem _ hd, htouches⟩

/-! ## Turns -/

/-- A turn leads along one link at most. -/
theorem touches_of_turned {t : Turn Req Res} (h : Turned S r t) {q : Nat} (hq : t.run.Touches q) :
    r.Touches q ∨ ∃ p, r.Touches p ∧ S.graph.Links p q := by
  -- leaving a step for the next of its chain
  have moved : ∀ {p s}, r.At S p s → (r.moveTo s.next).Touches q →
      r.Touches q ∨ ∃ p, r.Touches p ∧ S.graph.Links p q := by
    intro p s hat hmoved
    rcases touches_of_moveTo hmoved with hnext | hbefore
    · exact .inr ⟨p, hat.touches, Graph.links_next hat.2 q hnext⟩
    · exact .inl hbefore
  -- opening one of the chains inside a step
  have entered : ∀ {p s head c f}, r.At S p s → (∀ q, head = some q → S.graph.Links p q) →
      c.place = p → ((r.moveTo s.next).openContainer head c f).Touches q →
      r.Touches q ∨ ∃ p, r.Touches p ∧ S.graph.Links p q := by
    intro p s head c f hat hhead hplace hopened
    rcases touches_of_openContainer hopened with hfirst | hcontainer | hmoved
    · exact .inr ⟨p, hat.touches, hhead q hfirst⟩
    · exact .inl (by rw [← hcontainer, hplace]; exact hat.touches)
    · exact moved hat hmoved
  -- beginning the chain inside a container anew
  have again : ∀ {c : Container} {s rest context control key value}, r.EndOf S c s rest →
      (beginIteration { r with context } rest c control s.action.inner key value).Touches q →
      r.Touches q ∨ ∃ p, r.Touches p ∧ S.graph.Links p q := by
    intro c s rest context control key value hend hbegun
    rcases touches_of_beginIteration hend.1 hbegun with hfirst | hbefore
    · exact .inr ⟨c.place, hend.touches, Graph.links_inner hend.2 q hfirst⟩
    · exact .inl hbefore
  cases h with
  | finish => exact .inl hq
  | want hat => exact moved hat hq
  | skip hat => exact moved hat (touches_of_record hq)
  | enterBlock hat haction =>
    exact entered hat (fun q hhead => Graph.links_inner hat.2 q (by rw [haction]; exact hhead)) rfl hq
  | failBlock hat => exact moved hat hq
  | passEach hat => exact moved hat (touches_of_record hq)
  | enterEach hat haction =>
    exact entered hat (fun q hhead => Graph.links_inner hat.2 q (by rw [haction]; exact hhead)) rfl hq
  | failEach hat => exact moved hat hq
  | passRepeated hat => exact moved hat (touches_of_record hq)
  | enterRepeated hat haction =>
    exact entered hat (fun q hhead => Graph.links_inner hat.2 q (by rw [haction]; exact hhead)) rfl hq
  | failRepeated hat => exact moved hat hq
  | @enterChoice p s condition holds otherwise b hat haction =>
    refine entered hat (fun q hhead => ?_) rfl hq
    cases b with
    | true => exact Graph.links_inner hat.2 q (by rw [haction]; exact hhead)
    | false => exact Graph.links_other hat.2 q (by rw [haction]; exact hhead)
  | failChoice hat => exact moved hat hq
  | closeTop => exact .inl (touches_of_close hq)
  | closeContainer => exact .inl (touches_of_close hq)
  | nextItem hend _ haction =>
    have hinner := congrArg Action.inner haction
    exact again hend (by rw [hinner]; exact hq)
  | nextRound hend _ haction =>
    have hinner := congrArg Action.inner haction
    exact @again _ _ _ r.context _ _ _ hend (by rw [hinner]; exact hq)
  | failRound => exact .inl hq
  | exceed => exact .inl hq

/-- A step whose request is wanted was next in the innermost chain. -/
theorem touches_of_wanted {p : Nat} (h : Turned S r (.wanted r' p)) : r.Touches p := by
  cases h with
  | want hat => exact hat.touches

/-! ## Runs -/

/-- All that a run touches, and the step that waits, are reached from the root. -/
structure Run.Inside (g : Graph) (r : Run Req Res) : Prop where
  touched : ∀ p, r.Touches p → g.Reaches g.root p
  pending : ∀ p made, r.pending = some ⟨p, made⟩ → g.Reaches g.root p

/-- An error is found at a step that the root reaches. -/
def Found (S : Setup Req Res) (e : Error) : Prop :=
  ∃ p s, S.graph.Reaches S.graph.root p ∧ S.graph.step? p = some s ∧ OriginAt S s e

theorem inside_start (g : Graph) (values : Bindings Json) :
    (Run.start values : Run Req Res).Inside g where
  touched p h := by
    obtain ⟨c, hc, _⟩ := h
    exact absurd hc (by simp [Run.start])
  pending p made h := absurd h (by simp [Run.start])

namespace Run.Inside

theorem of_touches {g : Graph} (h : r.Inside g) (htouches : ∀ p, r'.Touches p → r.Touches p)
    (hpending : r'.pending = none ∨ r'.pending = r.pending) : r'.Inside g where
  touched p hp := h.touched p (htouches p hp)
  pending p made hmade := by
    rcases hpending with hnone | hsame
    · exact absurd (hmade.symm.trans hnone) (by simp)
    · exact h.pending p made (hsame ▸ hmade)

theorem fail {g : Graph} (h : r.Inside g) : r.fail.Inside g :=
  h.of_touches (fun _ hp => hp) (.inl rfl)

theorem begin (h : r.Inside S.graph) : (begin S r).Inside S.graph where
  touched p hp := by
    obtain ⟨c, hc, htouches⟩ := hp
    rcases List.mem_cons.1 hc with rfl | hc
    · rcases htouches with hroot | ⟨k, hk, _⟩
      · exact ⟨p, hroot, .refl⟩
      · exact absurd hk (by simp)
    · exact h.touched p ⟨c, hc, htouches⟩
  pending := h.pending

theorem turned (h : r.Inside S.graph) {t : Turn Req Res} (hturn : turn S r = .ok t) :
    t.run.Inside S.graph where
  touched q hq := by
    rcases touches_of_turned (turned_of_turn hturn) hq with hbefore | ⟨p, hp, hlink⟩
    · exact h.touched q hbefore
    · exact (h.touched p hp).link hlink
  pending := by
    have hpending : t.run.pending = r.pending := congrArg Standing.pending (turn_standing hturn)
    rw [hpending]
    exact h.pending

theorem turns (h : r.Inside S.graph) (hturns : Turns S r r') : r'.Inside S.graph :=
  hturns.keep (P := fun r => r.Inside S.graph) (fun _ _ h hturn => h.turned hturn) h

theorem ends (h : r.Inside S.graph) {answer : Except Error Unit} (hends : Ends S r answer r') :
    r'.Inside S.graph ∧ ∀ e, answer = .error e → Found S e := by
  cases hends with
  | @wanted r₁ p hturn =>
    refine ⟨⟨(h.turned hturn).touched, ?_⟩, fun e he => absurd he (by simp)⟩
    intro q made hq
    obtain rfl : p = q := congrArg Pending.place (Option.some.inj hq)
    exact h.touched p (touches_of_wanted (turned_of_turn hturn))
  | @finished r₁ hturn =>
    have hafter : r₁.Inside S.graph := h.turned hturn
    exact ⟨hafter.of_touches (fun _ hp => hp) (.inl rfl), fun e he => absurd he (by simp)⟩
  | @failed r₁ err hturn =>
    have hafter : r₁.Inside S.graph := h.turned hturn
    refine ⟨hafter.fail, fun e he => ?_⟩
    obtain rfl := Except.error.inj he
    obtain ⟨p, s, htouches, hs, horigin⟩ := originAt_of_turned (turned_of_turn hturn)
    exact ⟨p, s, h.touched p htouches, hs, horigin⟩

theorem handed (h : r.Inside S.graph) {answer : Except Error (Next Req)}
    (hhanded : Handed S r answer r') :
    r'.Inside S.graph ∧ ∀ e, answer = .error e → Found S e := by
  cases hhanded with
  | nothing => exact ⟨h, fun e he => absurd he (by simp)⟩
  | again => exact ⟨h, fun e he => absurd he (by simp)⟩
  | @made p s request hpending =>
    refine ⟨⟨h.touched, fun q made hq => ?_⟩, fun e he => absurd he (by simp)⟩
    obtain rfl : p = q := congrArg Pending.place (Option.some.inj hq)
    exact h.pending p none hpending
  | @unmade p s err hpending hs hconvert =>
    refine ⟨h.fail, fun e he => ?_⟩
    obtain rfl := Except.error.inj he
    exact ⟨p, s, h.pending p none hpending, hs, .convert hconvert⟩

theorem judged (h : r.Inside S.graph) {s : Step} {request : Req} {response : Res}
    {answer : Except Error Unit} (hjudged : Judged S r s request response (answer, r')) :
    r'.Inside S.graph := by
  cases hjudged with
  | noRequest => exact h
  | unwritten => exact h
  | unextracted => exact h
  | unjudged => exact h
  | unmet => exact h.of_touches (fun _ hp => touches_of_record hp) (.inr (record_pending _ _))
  | @met leaf exchange f extracted outcomes =>
    let kept : Run Req Res := { r with
      context := (bindAll r.context extracted.entries).recordCompleted
      extractions := r.extractions.extend extracted }
    refine h.of_touches (fun q hq => ?_) (.inl rfl)
    have hrecorded : (kept.record (exchangeNode s exchange extracted outcomes)).Touches q := hq
    have hkept : kept.Touches q := touches_of_record hrecorded
    exact hkept

/-! ## Calls -/

theorem peeked (h : r.Inside S.graph) {answer : Except Error (Next Req)}
    (hpeeked : Peeked S r answer r') :
    r'.Inside S.graph ∧ ∀ e, answer = .error e → (∃ fault, e = .protocol fault) ∨ Found S e := by
  cases hpeeked with
  | failed => exact ⟨h, fun e he => .inl ⟨_, (Except.error.inj he).symm⟩⟩
  | done => exact ⟨h, fun e he => absurd he (by simp)⟩
  | begun _ hturns hends hhanded =>
    obtain ⟨hinside, herror⟩ := ((h.begin.turns hturns).ends hends).1.handed hhanded
    exact ⟨hinside, fun e he => .inr (herror e he)⟩
  | stopped _ hturns hends =>
    obtain ⟨hinside, herror⟩ := (h.begin.turns hturns).ends hends
    exact ⟨hinside, fun e he => .inr (herror e (congrArg _ (Except.error.inj he)))⟩
  | awaiting _ hhanded =>
    obtain ⟨hinside, herror⟩ := h.handed hhanded
    exact ⟨hinside, fun e he => .inr (herror e he)⟩

theorem resumed (h : r.Inside S.graph) {request : Req} {response : Res} {answer : Except Error Unit}
    (hresumed : Resumed S r request response answer r') :
    r'.Inside S.graph ∧ ∀ e, answer = .error e →
      (∃ fault, e = .protocol fault) ∨ (∃ failure, e = .expectation failure) ∨ Found S e := by
  cases hresumed with
  | refused hawaited =>
    obtain ⟨fault, rfl⟩ := awaited_eq_error hawaited
    exact ⟨h, fun e he => .inl ⟨fault, (Except.error.inj he).symm⟩⟩
  | @rejected p s err r₁ hawaited hcomplete =>
    have hjudged := judged_of_complete hcomplete
    refine ⟨(h.judged hjudged).fail, fun e he => .inr ?_⟩
    obtain rfl := Except.error.inj he
    obtain ⟨_, hs, expected, hpending, _⟩ := awaited_eq_ok_iff.1 hawaited
    rcases error_of_judged hjudged with horigin | hexpectation
    · exact .inr ⟨p, s, h.pending p _ hpending, hs, horigin⟩
    · exact .inl hexpectation
  | @taken p s r₁ r₂ _ _ hawaited hcomplete hturns hends =>
    have hjudged := judged_of_complete hcomplete
    obtain ⟨hinside, herror⟩ := ((h.judged hjudged).turns hturns).ends hends
    exact ⟨hinside, fun e he => .inr (.inr (herror e he))⟩

/-- A call stays inside of what the root reaches; if it answers an error, that is a refusal, a failed
expectation, or found at a step there. -/
theorem called (h : r.Inside S.graph) {fuel : Nat} {c : Call Req Res} {answer : Answered Req}
    (hcall : call S fuel r c = .ok (answer, r')) :
    r'.Inside S.graph ∧ ∀ e, answer = .error e →
      (∃ fault, e = .protocol fault) ∨ (∃ failure, e = .expectation failure) ∨ Found S e := by
  cases c with
  | peek =>
    obtain ⟨a, hpeek, rfl⟩ := peek_of_call hcall
    obtain ⟨hinside, herror⟩ := h.peeked (peeked_of_peek hpeek)
    exact ⟨hinside, fun e he => (herror e (error_of_map he)).imp_right .inr⟩
  | resume request response =>
    obtain ⟨a, hresume, rfl⟩ := resume_of_call hcall
    obtain ⟨hinside, herror⟩ := h.resumed (resumed_of_resume hresume)
    exact ⟨hinside, fun e he => herror e (error_of_map he)⟩

end Run.Inside

theorem Reachable.inside {values : Bindings Json} (h : Reachable S values r) : r.Inside S.graph := by
  induction h with
  | start => exact inside_start _ values
  | call _ hcall ih => exact (ih.called hcall).1

end Walkthrough.Engine
