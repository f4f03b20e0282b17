import Walkthrough.Proofs.Engine.Call

/-!
# Where errors lead

An error that a call answers is either a refusal, which leaves the run as it was, or the end of the run
(`call_error`). A run that has come to its end answers further calls without any change, and so does a
run whose request was handed out until a response to it is taken.

* `Origin`, `OriginAt` — where the errors inside of a call come from, and those found at a step;
* `callAll_of_fixed` — calls one after the other, none of which changes the run;
* `errors_routed` — which errors leave a run untouched and which end it, and what is asked in vain.
-/

namespace Walkthrough.Engine

variable {Req Res : Type}

/-! ## What errors come from -/

/-- The evaluator or the converter of a setup raises an error itself. -/
inductive Raises (S : Setup Req Res) (e : Error) : Prop
  | value {expression scope} : S.evaluator.value expression scope = .error e → Raises S e
  | holds {expression scope} : S.evaluator.holds expression scope = .error e → Raises S e
  | convert {s scope previous} :
      S.converter.convert S.evaluator s scope previous = .error e → Raises S e

/-- Where an error comes from that is found inside of a call: it is raised by the evaluator or the
converter, or it says what is wrong with a step, or that something cannot be written as JSON. -/
inductive Origin (S : Setup Req Res) : Error → Prop
  | raised {e} : Raises S e → Origin S e
  | configuration (fault) : Origin S (.configuration fault)
  | serialization (fault) : Origin S (.serialization fault)

/-- The evaluator of a setup raises an error at one of some expressions. -/
inductive RaisesAt (S : Setup Req Res) (expressions : List String) (e : Error) : Prop
  | value {x scope} : x ∈ expressions → S.evaluator.value x scope = .error e → RaisesAt S expressions e
  | holds {x scope} : x ∈ expressions → S.evaluator.holds x scope = .error e → RaisesAt S expressions e

/-- Where an error comes from that is found at a step: it is raised at one of the expressions of the step
or when its request is made, or it says what is wrong with the step, or that something cannot be written as
JSON. -/
inductive OriginAt (S : Setup Req Res) (s : Step) : Error → Prop
  | raised {e} : RaisesAt S s.action.expressions e → OriginAt S s e
  | convert {scope previous e} : S.converter.convert S.evaluator s scope previous = .error e →
      OriginAt S s e
  | configuration (fault) : OriginAt S s (.configuration fault)
  | serialization (fault) : OriginAt S s (.serialization fault)

theorem RaisesAt.of_subset {S : Setup Req Res} {xs ys : List String} {e : Error}
    (h : RaisesAt S xs e) (hsubset : ∀ x ∈ xs, x ∈ ys) : RaisesAt S ys e := by
  cases h with
  | value hx hvalue => exact .value (hsubset _ hx) hvalue
  | holds hx hholds => exact .holds (hsubset _ hx) hholds

theorem RaisesAt.raises {S : Setup Req Res} {xs : List String} {e : Error} (h : RaisesAt S xs e) :
    Raises S e := by
  cases h with
  | value _ hvalue => exact .value hvalue
  | holds _ hholds => exact .holds hholds

theorem OriginAt.origin {S : Setup Req Res} {s : Step} {e : Error} (h : OriginAt S s e) :
    Origin S e := by
  cases h with
  | raised hraises => exact .raised hraises.raises
  | convert hconvert => exact .raised (.convert hconvert)
  | configuration fault => exact .configuration fault
  | serialization fault => exact .serialization fault

theorem error_of_map {α β : Type} {f : α → β} {x : Except Error α} {e : Error}
    (h : x.map f = .error e) : x = .error e := by
  cases x with
  | error err => exact congrArg _ (Except.error.inj h)
  | ok v => exact absurd h (by simp [Except.map])

/-- What is judged of a step that produces a request are expressions of the step. -/
theorem mem_expressions_of_leaf {a : Action} {leaf : Leaf} (hleaf : a.leaf? = some leaf) {x : String}
    (hx : x ∈ leaf.extractions.entries.map Prod.snd ∨ x ∈ leaf.assertions) : x ∈ a.expressions := by
  unfold Action.expressions
  simp only [hleaf, List.mem_append]
  rcases hx with hextracts | hasserts
  · exact .inl (.inr hextracts)
  · exact .inr hasserts

section

variable {S : Setup Req Res} {e : Error}

theorem raisesAt_of_declare {c : Context} {f : Frame} {entries : List (String × String)}
    (h : declare S.evaluator c f entries = .error e) : RaisesAt S (entries.map Prod.snd) e := by
  induction entries generalizing f with
  | nil => exact absurd h (by simp [declare])
  | cons entry entries ih =>
      obtain ⟨name, expression⟩ := entry
      unfold declare at h
      split at h
      · exact (ih h).of_subset fun _ => List.mem_cons_of_mem _
      · next err hvalue =>
        obtain rfl := Except.error.inj h
        exact .value List.mem_cons_self hvalue

theorem raisesAt_of_extract {c : Context} {f : Frame} {extracted : Bindings Json}
    {entries : List (String × String)} (h : extract S.evaluator c f extracted entries = .error e) :
    RaisesAt S (entries.map Prod.snd) e := by
  induction entries generalizing f extracted with
  | nil => exact absurd h (by simp [extract])
  | cons entry entries ih =>
      obtain ⟨name, expression⟩ := entry
      unfold extract at h
      split at h
      · exact (ih h).of_subset fun _ => List.mem_cons_of_mem _
      · next err hvalue =>
        obtain rfl := Except.error.inj h
        exact .value List.mem_cons_self hvalue

theorem raisesAt_of_judge {c : Context} {f : Frame} {assertions : List String}
    (h : judge S.evaluator c f assertions = .error e) : RaisesAt S assertions e := by
  induction assertions with
  | nil => exact absurd h (by simp [judge])
  | cons expression assertions ih =>
      unfold judge at h
      split at h
      · split at h
        · exact absurd h (by simp)
        · next err hrest =>
          obtain rfl := Except.error.inj h
          exact (ih hrest).of_subset fun _ => List.mem_cons_of_mem _
      · next err hholds =>
        obtain rfl := Except.error.inj h
        exact .holds List.mem_cons_self hholds

theorem serialization_of_exchangeJson {request : Req} {response : Res}
    (h : exchangeJson S request response = .error e) : ∃ fault, e = .serialization fault := by
  unfold exchangeJson at h
  split at h
  · exact ⟨_, (Except.error.inj h).symm⟩
  · split at h
    · exact ⟨_, (Except.error.inj h).symm⟩
    · exact absurd h (by simp)

/-- A turn fails at a step that the run touches. -/
theorem originAt_of_turned {r r' : Run Req Res} (h : Turned S r (.failed r' e)) :
    ∃ p s, r.Touches p ∧ S.graph.step? p = some s ∧ OriginAt S s e := by
  cases h with
  | @failBlock p s declarations child _ hat haction hdeclare =>
      refine ⟨p, s, hat.touches, hat.2, .raised ?_⟩
      rw [haction]
      exact raisesAt_of_declare hdeclare
  | @failEach p s collection key value child _ hat haction hitems =>
      refine ⟨p, s, hat.touches, hat.2, ?_⟩
      cases hvalue : S.evaluator.value collection r.scope with
      | error err =>
          rw [hvalue] at hitems
          obtain rfl : err = e := Except.error.inj hitems
          refine .raised (.value ?_ hvalue)
          rw [haction]
          exact List.mem_cons_self
      | ok v =>
          rw [hvalue] at hitems
          obtain ⟨v', rfl⟩ := itemsOf_error hitems
          exact .configuration _
  | @failRepeated p s condition child _ hat haction hholds =>
      refine ⟨p, s, hat.touches, hat.2, .raised (.holds ?_ hholds)⟩
      rw [haction]
      exact List.mem_cons_self
  | @failChoice p s condition holds otherwise _ hat haction hholds =>
      refine ⟨p, s, hat.touches, hat.2, .raised (.holds ?_ hholds)⟩
      rw [haction]
      exact List.mem_cons_self
  | @failRound c s rest condition child n _ hend _ haction hholds =>
      refine ⟨c.place, s, hend.touches, hend.2, .raised (.holds ?_ hholds)⟩
      rw [haction]
      exact List.mem_cons_self
  | @exceed c s rest condition child n hend => exact ⟨c.place, s, hend.touches, hend.2, .configuration _⟩

theorem error_of_ends {r r' : Run Req Res} (h : Ends S r (.error e) r') :
    r'.phase = .failed ∧ Origin S e := by
  cases h with
  | failed hturn =>
      obtain ⟨p, s, _, _, horigin⟩ := originAt_of_turned (turned_of_turn hturn)
      exact ⟨rfl, horigin.origin⟩

theorem error_of_handed {r r' : Run Req Res} (h : Handed S r (.error e) r') :
    r'.phase = .failed ∧ Origin S e := by
  cases h with
  | unmade _ _ hconvert => exact ⟨rfl, .raised (.convert hconvert)⟩

/-- An exchange is rejected for an error at its step, or because its assertions do not all hold. -/
theorem error_of_judged {r r' : Run Req Res} {s : Step} {request : Req} {response : Res}
    (h : Judged S r s request response (.error e, r')) :
    OriginAt S s e ∨ ∃ failure, e = .expectation failure := by
  cases h with
  | noRequest => exact .inl (.configuration _)
  | unwritten _ hjson =>
      obtain ⟨fault, rfl⟩ := serialization_of_exchangeJson hjson
      exact .inl (.serialization fault)
  | unextracted hleaf _ hextract =>
      exact .inl (.raised ((raisesAt_of_extract hextract).of_subset fun x hx =>
        mem_expressions_of_leaf hleaf (.inl hx)))
  | unjudged hleaf _ _ hjudge =>
      exact .inl (.raised ((raisesAt_of_judge hjudge).of_subset fun x hx =>
        mem_expressions_of_leaf hleaf (.inr hx)))
  | unmet => exact .inr ⟨_, rfl⟩

/-- An error is a refusal, which leaves the run as it was, or it ends the run. -/
theorem call_error {fuel : Nat} {r r' : Run Req Res} {c : Call Req Res}
    (h : call S fuel r c = .ok (.error e, r')) :
    (∃ fault, e = .protocol fault) ∧ r' = r ∨
      r'.phase = .failed ∧ (Origin S e ∨ ∃ failure, e = .expectation failure) := by
  cases c with
  | peek =>
      obtain ⟨a, hpeek, ha⟩ := peek_of_call h
      obtain rfl := error_of_map ha.symm
      cases peeked_of_peek hpeek with
      | failed => exact .inl ⟨⟨_, rfl⟩, rfl⟩
      | begun _ _ _ hhanded =>
          obtain ⟨hphase, horigin⟩ := error_of_handed hhanded
          exact .inr ⟨hphase, .inl horigin⟩
      | stopped _ _ hends =>
          obtain ⟨hphase, horigin⟩ := error_of_ends hends
          exact .inr ⟨hphase, .inl horigin⟩
      | awaiting _ hhanded =>
          obtain ⟨hphase, horigin⟩ := error_of_handed hhanded
          exact .inr ⟨hphase, .inl horigin⟩
  | resume request response =>
      obtain ⟨a, hresume, ha⟩ := resume_of_call h
      obtain rfl := error_of_map ha.symm
      cases resumed_of_resume hresume with
      | refused hawaited => exact .inl ⟨awaited_eq_error hawaited, rfl⟩
      | @rejected p s err r₁ hawaited hcomplete =>
          have hjudged := judged_of_complete hcomplete
          exact .inr ⟨rfl, (error_of_judged hjudged).imp_left OriginAt.origin⟩
      | taken _ _ _ hends =>
          obtain ⟨hphase, horigin⟩ := error_of_ends hends
          exact .inr ⟨hphase, .inl horigin⟩

/-- An error of a refusal comes from inside of a call only if it is raised there. -/
theorem raises_of_protocol {fault : ProtocolFault}
    (h : Origin S (.protocol fault) ∨ ∃ failure, Error.protocol fault = .expectation failure) :
    Raises S (.protocol fault) := by
  rcases h with horigin | ⟨failure, hfailure⟩
  · cases horigin with
    | raised hraises => exact hraises
  · exact absurd hfailure (by simp)

end

/-! ## Calls in a row -/

/-- What a call answers to a caller. -/
abbrev Answered (Req : Type) := Except Error (Option (Next Req))

/-- Calls one after the other: what they answer, and the run after them. -/
def callAll (S : Setup Req Res) (fuel : Nat) : List (Call Req Res) → Run Req Res →
    Except Stop (List (Answered Req) × Run Req Res)
  | [], r => .ok ([], r)
  | c :: calls, r =>
    match call S fuel r c with
    | .error stop => .error stop
    | .ok (answer, r) => (callAll S fuel calls r).map fun (answers, r) => (answer :: answers, r)

theorem callAll_cons_eq_ok {S : Setup Req Res} {fuel : Nat} {r r' : Run Req Res} {c : Call Req Res}
    {calls : List (Call Req Res)} {answers : List (Answered Req)}
    (h : callAll S fuel (c :: calls) r = .ok (answers, r')) :
    ∃ answer r₁ more, call S fuel r c = .ok (answer, r₁) ∧ callAll S fuel calls r₁ = .ok (more, r') ∧
      answers = answer :: more := by
  unfold callAll at h
  split at h
  · exact absurd h (by simp)
  · next answer r₁ hcall =>
    cases hrest : callAll S fuel calls r₁ with
    | error stop =>
        rw [hrest] at h
        exact absurd h (by simp [Except.map])
    | ok result =>
        obtain ⟨more, r₂⟩ := result
        rw [hrest] at h
        obtain ⟨rfl, rfl⟩ := Prod.mk.inj (Except.ok.inj h)
        exact ⟨answer, r₁, more, hcall, hrest, rfl⟩

theorem Reachable.callAll {S : Setup Req Res} {values : Bindings Json} {fuel : Nat}
    {r r' : Run Req Res} {calls : List (Call Req Res)} {answers : List (Answered Req)}
    (h : Reachable S values r) (hcalls : Engine.callAll S fuel calls r = .ok (answers, r')) :
    Reachable S values r' := by
  induction calls generalizing r answers with
  | nil =>
      obtain ⟨_, rfl⟩ := Prod.mk.inj (Except.ok.inj hcalls)
      exact h
  | cons c calls ih =>
      obtain ⟨answer, r₁, more, hcall, hrest, _⟩ := callAll_cons_eq_ok hcalls
      exact ih (h.call hcall) hrest

theorem callAll_of_fixed {S : Setup Req Res} {fuel : Nat} {r : Run Req Res}
    {answer : Call Req Res → Answered Req} {calls : List (Call Req Res)}
    (h : ∀ c ∈ calls, call S fuel r c = .ok (answer c, r)) :
    callAll S fuel calls r = .ok (calls.map answer, r) := by
  induction calls with
  | nil => rfl
  | cons c calls ih =>
      have hrest := ih fun c' hc' => h c' (List.mem_cons_of_mem _ hc')
      rw [callAll, h c List.mem_cons_self]
      simp only [hrest, Except.map, List.map_cons]

/-- What a run that is done answers. -/
def Call.whenDone : Call Req Res → Answered Req
  | .peek => .ok (some .done)
  | .resume _ _ => .error (.protocol .resumeDone)

/-- What a run that has failed answers. -/
def Call.whenFailed : Call Req Res → Answered Req
  | .peek => .error (.protocol .peekFailed)
  | .resume _ _ => .error (.protocol .resumeFailed)

/-- What a run answers whose request was handed out, as long as only responses to other requests are
there. -/
def Call.whenHanded (place : Nat) (uuid : String) (request : Req) : Call Req Res → Answered Req
  | .peek => .ok (some (.request place uuid request))
  | .resume _ _ => .error (.protocol (.otherRequest uuid))

section

variable {S : Setup Req Res} {r : Run Req Res}

theorem call_done (h : r.phase = .done) (fuel : Nat) (c : Call Req Res) :
    call S fuel r c = .ok (c.whenDone, r) := by
  cases c with
  | peek => simp [call, peek, h, Except.map, Call.whenDone]
  | resume request response => simp [call, resume, awaited, h, Except.map, Call.whenDone]

theorem call_failed (h : r.phase = .failed) (fuel : Nat) (c : Call Req Res) :
    call S fuel r c = .ok (c.whenFailed, r) := by
  cases c with
  | peek => simp [call, peek, h, Except.map, Call.whenFailed]
  | resume request response => simp [call, resume, awaited, h, Except.map, Call.whenFailed]

/-- A request that waits was handed out: its step is known, and so is what it asks. -/
structure Run.Holds (S : Setup Req Res) (r : Run Req Res) (place : Nat) (s : Step) (request : Req) :
    Prop where
  phase : r.phase = .awaiting
  pending : r.pending = some ⟨place, some request⟩
  step : S.graph.step? place = some s

theorem phase_of_ends_pending {r r' : Run Req Res} {p : Pending Req} (hphase : r.phase = .awaiting)
    (h : Ends S r (.ok ()) r') (hpending : r'.pending = some p) : r'.phase = .awaiting := by
  cases h with
  | wanted hturn => exact (congrArg Standing.phase (turn_standing hturn)).trans hphase
  | finished => exact absurd hpending (by simp [Run.finish])

theorem holds_of_handed {r r' : Run Req Res} {place : Nat} {uuid : String} {request : Req}
    (hphase : ∀ p, r.pending = some p → r.phase = .awaiting)
    (h : Handed S r (.ok (.request place uuid request)) r') :
    ∃ s, s.uuid = uuid ∧ r'.Holds S place s request := by
  cases h with
  | @again p s q hpending hs => exact ⟨s, rfl, hphase _ hpending, hpending, hs⟩
  | @made p s q hpending hs hconvert => exact ⟨s, rfl, hphase _ hpending, rfl, hs⟩

/-- After a request was handed out, the run holds it. -/
theorem holds_of_peek {fuel : Nat} {r' : Run Req Res} {place : Nat} {uuid : String} {request : Req}
    (h : call S fuel r .peek = .ok (.ok (some (.request place uuid request)), r')) :
    ∃ s, s.uuid = uuid ∧ r'.Holds S place s request := by
  obtain ⟨a, hpeek, ha⟩ := peek_of_call h
  obtain rfl : a = .ok (.request place uuid request) := by
    cases a with
    | error err => exact absurd ha (by simp [Except.map])
    | ok next => exact congrArg _ (Option.some.inj (Except.ok.inj ha)).symm
  cases peeked_of_peek hpeek with
  | begun _ hturns hends hhanded =>
      have hphase := congrArg Standing.phase hturns.standing
      exact holds_of_handed (fun p hp => phase_of_ends_pending hphase hends hp) hhanded
  | awaiting hphase hhanded => exact holds_of_handed (fun _ _ => hphase) hhanded

/-- A run that holds a request hands it out again, and refuses the response to any other. -/
theorem call_holds {place : Nat} {s : Step} {request : Req} (h : r.Holds S place s request)
    (fuel : Nat) {c : Call Req Res}
    (hother : ∀ q a, c = .resume q a → S.converter.same request q = false) :
    call S fuel r c = .ok (c.whenHanded place s.uuid request, r) := by
  cases c with
  | peek =>
      simp [call, peek, peekPending, peekAt, h.phase, h.pending, h.step, Except.map, Call.whenHanded]
  | resume q a =>
      have hsame := hother q a rfl
      simp [call, resume, awaited, h.phase, h.pending, h.step, hsame, Except.map, Call.whenHanded]

/-- Unless they are raised inside, the only refusals of a run that holds a request are of responses to
other requests. -/
theorem refused_iff (blameless : ∀ fault, ¬ Raises S (.protocol fault)) {place : Nat} {s : Step}
    {request : Req} (h : r.Holds S place s request) (fuel : Nat) (q : Req) (a : Res) :
    (∃ fault r', call S fuel r (.resume q a) = .ok (.error (.protocol fault), r')) ↔
      S.converter.same request q = false := by
  constructor
  · rintro ⟨fault, r', hcall⟩
    by_contra hsame
    have hawaited : awaited S r q = .ok (.ok (place, s)) :=
      awaited_eq_ok_iff.2 ⟨h.phase, h.step, request, h.pending, by simpa using hsame⟩
    obtain ⟨answer, hresume, hanswer⟩ := resume_of_call hcall
    obtain rfl := error_of_map hanswer.symm
    -- the response is taken, so that a refusal would have to come from inside
    cases resumed_of_resume hresume with
    | refused hrefused => exact absurd (hawaited.symm.trans hrefused) (by simp)
    | @rejected p s' e r₁ _ hcomplete =>
        have hjudged := judged_of_complete hcomplete
        exact blameless fault (raises_of_protocol ((error_of_judged hjudged).imp_left OriginAt.origin))
    | taken _ _ _ hends =>
        exact blameless fault (raises_of_protocol (.inl (error_of_ends hends).2))
  · intro hsame
    exact ⟨_, r, call_holds h fuel (c := .resume q a) (by rintro _ _ ⟨⟩; exact hsame)⟩

end

/-- **Errors.** If evaluator and converter do not themselves raise the errors of refusals, then in any
run: a call that is refused leaves the run as it was; a call with any other error leaves it failed; a run
that is done or has failed answers all further calls, whichever they are, without any change; and after a
request was handed out, the refused responses are those to other requests, and between them the same
request is handed out again, also without any change. -/
theorem errors_routed (S : Setup Req Res) (blameless : ∀ fault, ¬ Raises S (.protocol fault))
    (r : Run Req Res) :
    (∀ fuel c fault r', call S fuel r c = .ok (.error (.protocol fault), r') → r' = r) ∧
      (∀ fuel c e r', call S fuel r c = .ok (.error e, r') → (∀ fault, e ≠ .protocol fault) →
        r'.phase = .failed) ∧
      (r.phase = .done → ∀ fuel calls, callAll S fuel calls r = .ok (calls.map Call.whenDone, r)) ∧
      (r.phase = .failed → ∀ fuel calls,
        callAll S fuel calls r = .ok (calls.map Call.whenFailed, r)) ∧
      ∀ fuel place uuid request r',
        call S fuel r .peek = .ok (.ok (some (.request place uuid request)), r') →
          (∀ fuel' q a, (∃ fault r'', call S fuel' r' (.resume q a) =
            .ok (.error (.protocol fault), r'')) ↔ S.converter.same request q = false) ∧
          ∀ fuel' calls, (∀ q a, .resume q a ∈ calls → S.converter.same request q = false) →
            callAll S fuel' calls r' = .ok (calls.map (Call.whenHanded place uuid request), r') := by
  refine ⟨?_, ?_, ?_, ?_, ?_⟩
  · intro fuel c fault r' hcall
    rcases call_error hcall with ⟨_, hkept⟩ | ⟨_, hinside⟩
    · exact hkept
    · exact absurd (raises_of_protocol hinside) (blameless fault)
  · intro fuel c e r' hcall hother
    rcases call_error hcall with ⟨⟨fault, rfl⟩, _⟩ | ⟨hphase, _⟩
    · exact absurd rfl (hother fault)
    · exact hphase
  · intro hphase fuel calls
    exact callAll_of_fixed fun c _ => call_done hphase fuel c
  · intro hphase fuel calls
    exact callAll_of_fixed fun c _ => call_failed hphase fuel c
  · intro fuel place uuid request r' hpeek
    obtain ⟨s, rfl, hholds⟩ := holds_of_peek hpeek
    refine ⟨fun fuel' q a => refused_iff blameless hholds fuel' q a, ?_⟩
    intro fuel' calls hothers
    refine callAll_of_fixed fun c hc => call_holds hholds fuel' ?_
    rintro q a rfl
    exact hothers q a hc

/-- Where expressions are names and requests ask for addresses, an undefined name and a step without an
address are all that is raised. -/
theorem raised_of_names {S : Setup String String} (hevaluator : S.evaluator = .names)
    (hconverter : S.converter = addressConverter) {e : Error} (h : Raises S e) :
    (∃ fault, e = .expression fault) ∨ ∃ uuid kind, e = .configuration (.noRequest uuid kind) := by
  have hvalue : ∀ expression scope, Evaluator.names.value expression scope = .error e →
      ∃ fault, e = .expression fault := by
    intro expression scope hraised
    change (scope.resolve expression).result = _ at hraised
    unfold Scope.resolve at hraised
    repeat' split at hraised
    · exact absurd hraised (by simp)
    · exact absurd hraised (by simp)
    · exact ⟨_, (Except.error.inj hraised).symm⟩
  cases h with
  | value hraised =>
      rw [hevaluator] at hraised
      exact .inl (hvalue _ _ hraised)
  | @holds expression scope hraised =>
      rw [hevaluator] at hraised
      exact .inl (hvalue expression scope (error_of_map (f := Json.isTruthy) hraised))
  | @convert s scope previous hraised =>
      rw [hevaluator, hconverter] at hraised
      change addressConverter.convert .names s scope previous = _ at hraised
      unfold addressConverter at hraised
      simp only at hraised
      split at hraised
      · exact .inl (hvalue _ _ (error_of_map hraised))
      · exact .inr ⟨_, _, (Except.error.inj hraised).symm⟩

theorem gallery_blameless (fault : ProtocolFault) : ¬ Raises gallery (.protocol fault) := by
  intro hraises
  rcases raised_of_names rfl rfl hraises with ⟨_, hfault⟩ | ⟨_, _, hfault⟩
  · exact absurd hfault (by simp)
  · exact absurd hfault (by simp)

/-- The first page of the gallery is asked for again, before and after a response to another page. -/
theorem gallery_errors :
    (∀ fault, ¬ Raises gallery (.protocol fault)) ∧
      ∃ r, call gallery 4 (.start galleryValues) .peek
          = .ok (.ok (some (.request 1 "open" "/a")), r) ∧
        callAll gallery 4 [.peek, .resume "/b" "other", .peek] r =
          .ok ([.ok (some (.request 1 "open" "/a")), .error (.protocol (.otherRequest "open")),
            .ok (some (.request 1 "open" "/a"))], r) := by
  have hpeek : ∃ r, call gallery 4 (.start galleryValues) .peek
      = .ok (.ok (some (.request 1 "open" "/a")), r) := ⟨_, rfl⟩
  obtain ⟨r, hr⟩ := hpeek
  obtain ⟨_, _, _, _, hagain⟩ :=
    errors_routed gallery gallery_blameless (.start galleryValues)
  refine ⟨gallery_blameless, r, hr, (hagain 4 1 "open" "/a" r hr).2 4 _ ?_⟩
  intro q a hmem
  obtain ⟨rfl, rfl⟩ : q = "/b" ∧ a = "other" := by simpa using hmem
  rfl

end Walkthrough.Engine
