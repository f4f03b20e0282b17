import Walkthrough.Proofs.Engine.Call

/-!
# The ledger of a run

What happens to the requests of a run, call by call (`callEvents`), over any calls in any order
(`History`). The events of a history are those of a ledger: activations of steps that want a request,
one after the other, each reached, handed out at least once and always with the same request, answered
once and committed, and at most one further activation that has not come that far
(`exchanges_committed_once`).
-/

namespace Walkthrough.Engine

variable {Req Res : Type}

/-! ## Events -/

/-- What happens to the requests of a run. -/
inductive Event (Req Res : Type) where
  /-- A step is reached that wants a request: an activation of the step begins. -/
  | reached (place : Nat)
  /-- The caller is handed a request. -/
  | handed (place : Nat) (request : Req)
  /-- The step takes a response, with the request that the caller gives back. -/
  | accepted (place : Nat) (exchange : Exchange Req Res)
  /-- The exchange is committed. -/
  | committed (place : Nat) (exchange : Exchange Req Res)

/-- The event of having advanced. -/
def reachedBy : Except Stop (Except Error Unit × Run Req Res) → List (Event Req Res)
  | .ok (.ok (), r) => r.pending.toList.map fun p => .reached p.place
  | _ => []

/-- The event of having asked for a request. -/
def handedBy : Except Stop (Except Error (Next Req) × Run Req Res) → List (Event Req Res)
  | .ok (.ok (.request place _ request), _) => [.handed place request]
  | _ => []

/-- The events of asking for the next request. -/
def peekEvents (S : Setup Req Res) (fuel : Nat) (r : Run Req Res) : List (Event Req Res) :=
  match r.phase with
  | .created => reachedBy (advance S fuel (begin S r)) ++ handedBy (peek S fuel r)
  | _ => handedBy (peek S fuel r)

/-- The events of taking a response. -/
def resumeEvents (S : Setup Req Res) (fuel : Nat) (r : Run Req Res) (request : Req)
    (response : Res) : List (Event Req Res) :=
  match awaited S r request with
  | .ok (.ok (place, s)) =>
    .accepted place ⟨request, response⟩ ::
      match complete S r s request response with
      | (.ok (), r) => .committed place ⟨request, response⟩ :: reachedBy (advance S fuel r)
      | (.error _, _) => []
  | _ => []

/-- The events of a call. -/
def callEvents (S : Setup Req Res) (fuel : Nat) (r : Run Req Res) : Call Req Res → List (Event Req Res)
  | .peek => peekEvents S fuel r
  | .resume request response => resumeEvents S fuel r request response

/-- The events of calls and the run that they lead to, as far as the calls return. -/
inductive History (S : Setup Req Res) (values : Bindings Json) :
    List (Event Req Res) → Run Req Res → Prop
  | start : History S values [] (.start values)
  | call {log r r' fuel c answer} : History S values log r →
      Engine.call S fuel r c = .ok (answer, r') → History S values (log ++ callEvents S fuel r c) r'

/-- The events of calls one after the other, and the run that they lead to, if they all return. -/
def replay (S : Setup Req Res) (fuel : Nat) : List (Call Req Res) →
    List (Event Req Res) × Run Req Res → Option (List (Event Req Res) × Run Req Res)
  | [], past => some past
  | c :: calls, (log, r) =>
    match call S fuel r c with
    | .ok (_, r') => replay S fuel calls (log ++ callEvents S fuel r c, r')
    | .error _ => none

theorem History.replay {S : Setup Req Res} {values : Bindings Json} {fuel : Nat}
    {calls : List (Call Req Res)} {log log' : List (Event Req Res)} {r r' : Run Req Res}
    (h : History S values log r) (hreplay : Engine.replay S fuel calls (log, r) = some (log', r')) :
    History S values log' r' := by
  induction calls generalizing log r with
  | nil =>
      obtain ⟨rfl, rfl⟩ := Prod.mk.inj (Option.some.inj hreplay)
      exact h
  | cons c calls ih =>
      unfold Engine.replay at hreplay
      split at hreplay
      · next answer r₁ hcall => exact ih (h.call hcall) hreplay
      · exact absurd hreplay (by simp)

/-- The exchanges that were committed, in order. -/
def committedIn (log : List (Event Req Res)) : List (Exchange Req Res) :=
  log.filterMap fun
    | .committed _ exchange => some exchange
    | _ => none

/-! ## Ledgers -/

/-- An activation whose exchange is committed: its request was handed out, and `peeks` times again. -/
structure Activation (Req Res : Type) where
  place : Nat
  request : Req
  peeks : Nat
  exchange : Exchange Req Res

/-- The last activation, if its exchange is not committed. -/
inductive Open (Req Res : Type) where
  | none
  /-- The request has not been handed out. -/
  | reached (place : Nat)
  | handed (place : Nat) (request : Req) (peeks : Nat)
  /-- A response was taken, and the run failed over it. -/
  | accepted (place : Nat) (request : Req) (peeks : Nat) (exchange : Exchange Req Res)

/-- The events of a request that is handed out, and again `peeks` times. -/
def handedTimes (place : Nat) (request : Req) (peeks : Nat) : List (Event Req Res) :=
  List.replicate (peeks + 1) (.handed place request)

/-- The events of an activation whose exchange is committed. -/
def Activation.events (a : Activation Req Res) : List (Event Req Res) :=
  .reached a.place :: handedTimes a.place a.request a.peeks
    ++ [.accepted a.place a.exchange, .committed a.place a.exchange]

/-- The events of the last activation so far. -/
def Open.events : Open Req Res → List (Event Req Res)
  | .none => []
  | .reached place => [.reached place]
  | .handed place request peeks => .reached place :: handedTimes place request peeks
  | .accepted place request peeks exchange =>
    .reached place :: handedTimes place request peeks ++ [.accepted place exchange]

@[simp] theorem Open.events_none : (Open.none : Open Req Res).events = [] := rfl

@[simp] theorem Open.events_reached (place : Nat) :
    (Open.reached place : Open Req Res).events = [.reached place] := rfl

@[simp] theorem Open.events_handed (place : Nat) (request : Req) (peeks : Nat) :
    (Open.handed place request peeks : Open Req Res).events =
      .reached place :: handedTimes place request peeks := rfl

@[simp] theorem Open.events_accepted (place : Nat) (request : Req) (peeks : Nat)
    (exchange : Exchange Req Res) : (Open.accepted place request peeks exchange).events =
      .reached place :: handedTimes place request peeks ++ [.accepted place exchange] := rfl

/-- The last activation is the one that a run waits for, or the one that it failed at. -/
def Open.Stands (S : Setup Req Res) (r : Run Req Res) : Open Req Res → Prop
  | .none => r.pending = Option.none ∧ r.phase ≠ .awaiting
  | .reached place => (r.pending = some ⟨place, Option.none⟩ ∧ r.phase = .awaiting) ∨
      (r.pending = Option.none ∧ r.phase = .failed)
  | .handed place request _ => r.pending = some ⟨place, some request⟩ ∧ r.phase = .awaiting
  | .accepted _ request _ exchange => r.pending = Option.none ∧ r.phase = .failed ∧
      S.converter.same request exchange.request = true

/-- Activations in order: those that are settled and the last one. -/
structure Ledger (Req Res : Type) where
  settled : List (Activation Req Res)
  last : Open Req Res

/-- The events of a ledger. -/
def Ledger.events (l : Ledger Req Res) : List (Event Req Res) :=
  l.settled.flatMap Activation.events ++ l.last.events

/-- The settled activations of a ledger are what a run has counted. -/
structure Ledger.Counted (S : Setup Req Res) (l : Ledger Req Res) (r : Run Req Res) : Prop where
  same : ∀ a ∈ l.settled, S.converter.same a.request a.exchange.request = true
  completed : r.context.completed = l.settled.length
  previous : r.previous = l.settled.getLast?.map (·.exchange)

/-- A ledger tells where a run stands. -/
structure Ledger.Tells (S : Setup Req Res) (l : Ledger Req Res) (r : Run Req Res) : Prop
    extends l.Counted S r where
  stands : l.last.Stands S r

theorem Ledger.Counted.congr {S : Setup Req Res} {settled : List (Activation Req Res)}
    {last last' : Open Req Res} {r r' : Run Req Res} (h : Counted S ⟨settled, last⟩ r)
    (hcompleted : r'.context.completed = r.context.completed) (hprevious : r'.previous = r.previous) :
    Counted S ⟨settled, last'⟩ r' :=
  ⟨h.same, hcompleted.trans h.completed, hprevious.trans h.previous⟩

/-! ## What calls do to a ledger -/

theorem handedTimes_succ (place : Nat) (request : Req) (peeks : Nat) :
    (handedTimes place request (peeks + 1) : List (Event Req Res)) =
      handedTimes place request peeks ++ [.handed place request] := by
  unfold handedTimes
  rw [List.replicate_succ']

/-- A request that was handed out was so in the last activation. -/
theorem Open.Stands.handed {S : Setup Req Res} {r : Run Req Res} {last : Open Req Res}
    (h : last.Stands S r) {p : Nat} {request : Req} (hpending : r.pending = some ⟨p, some request⟩) :
    ∃ peeks, last = .handed p request peeks := by
  cases last with
  | none => exact absurd (hpending.symm.trans h.1) (by simp)
  | reached place =>
      rcases h with ⟨hwaits, _⟩ | ⟨hwaits, _⟩
      · exact absurd (hpending.symm.trans hwaits) (by simp)
      · exact absurd (hpending.symm.trans hwaits) (by simp)
  | handed place request' peeks =>
      obtain ⟨rfl, rfl⟩ : p = place ∧ request = request' := by
        simpa using hpending.symm.trans h.1
      exact ⟨peeks, rfl⟩
  | accepted place request' peeks exchange => exact absurd (hpending.symm.trans h.1) (by simp)

/-- A step that waits without a request was reached in the last activation. -/
theorem Open.Stands.reached {S : Setup Req Res} {r : Run Req Res} {last : Open Req Res}
    (h : last.Stands S r) {p : Nat} (hpending : r.pending = some ⟨p, Option.none⟩) :
    last = .reached p ∧ r.phase = .awaiting := by
  cases last with
  | none => exact absurd (hpending.symm.trans h.1) (by simp)
  | reached place =>
      rcases h with ⟨hwaits, hphase⟩ | ⟨hwaits, _⟩
      · obtain rfl : p = place := by simpa using hpending.symm.trans hwaits
        exact ⟨rfl, hphase⟩
      · exact absurd (hpending.symm.trans hwaits) (by simp)
  | handed place request peeks => exact absurd (hpending.symm.trans h.1) (by simp)
  | accepted place request peeks exchange => exact absurd (hpending.symm.trans h.1) (by simp)

/-- Nothing is reached before the run begins. -/
theorem Open.Stands.fresh {S : Setup Req Res} {r : Run Req Res} {last : Open Req Res}
    (h : last.Stands S r) (hphase : r.phase = .created) : last = .none := by
  cases last with
  | none => rfl
  | reached place =>
      rcases h with ⟨_, hawaiting⟩ | ⟨_, hfailed⟩
      · exact absurd (hphase.symm.trans hawaiting) (by simp)
      · exact absurd (hphase.symm.trans hfailed) (by simp)
  | handed place request peeks => exact absurd (hphase.symm.trans h.2) (by simp)
  | accepted place request peeks exchange => exact absurd (hphase.symm.trans h.2.1) (by simp)

/-- Handing out what waits adds to the last activation of a ledger. -/
theorem Ledger.Tells.handed {S : Setup Req Res} {l : Ledger Req Res} {r r' : Run Req Res}
    {answer : Except Error (Next Req)} (h : l.Tells S r) (hpeek : peekPending S r = .ok (answer, r')) :
    ∃ l' : Ledger Req Res, l'.events = l.events ++ handedBy (.ok (answer, r')) ∧ l'.Tells S r' := by
  obtain ⟨settled, last⟩ := l
  have hstands := h.stands
  cases handed_of_peekPending hpeek with
  | nothing => exact ⟨⟨settled, last⟩, (List.append_nil _).symm, h⟩
  | @again p s request hpending hs =>
      obtain ⟨peeks, rfl⟩ := hstands.handed hpending
      refine ⟨⟨settled, .handed p request (peeks + 1)⟩, ?_, h.toCounted.congr rfl rfl, hstands⟩
      simp [Ledger.events, handedBy, handedTimes_succ]
  | @made p s request hpending hs hconvert =>
      obtain ⟨rfl, hphase⟩ := hstands.reached hpending
      refine ⟨⟨settled, .handed p request 0⟩, ?_, h.toCounted.congr rfl rfl, rfl, hphase⟩
      simp [Ledger.events, handedBy, handedTimes]
  | @unmade p s e hpending hs hconvert =>
      obtain ⟨rfl, _⟩ := hstands.reached hpending
      exact ⟨⟨settled, .reached p⟩, (List.append_nil _).symm, h.toCounted.congr rfl rfl,
        .inr ⟨rfl, rfl⟩⟩

/-- Advancing begins at most one activation. -/
theorem Ledger.Counted.advanced {S : Setup Req Res} {settled : List (Activation Req Res)}
    {last : Open Req Res} {r r' : Run Req Res} {fuel : Nat} {answer : Except Error Unit}
    (h : Counted S ⟨settled, last⟩ r) (hphase : r.phase = .awaiting)
    (hadvance : advance S fuel r = .ok (answer, r')) :
    ∃ last' : Open Req Res, last'.events = reachedBy (.ok (answer, r')) ∧
      Tells S ⟨settled, last'⟩ r' := by
  obtain ⟨r₁, hturns, hends⟩ := advance_eq_ok hadvance
  have counted : ∀ {t : Turn Req Res} (last' : Open Req Res), turn S r₁ = .ok t →
      Counted S ⟨settled, last'⟩ t.run ∧ t.run.phase = .awaiting := by
    intro t last' hturn
    have hstanding : t.run.standing = r.standing := (turn_standing hturn).trans hturns.standing
    refine ⟨h.congr ?_ ?_, ?_⟩
    · exact congrArg Standing.completed hstanding
    · exact congrArg Standing.previous hstanding
    · exact (congrArg Standing.phase hstanding).trans hphase
  cases hends with
  | @wanted r₂ p hturn =>
      obtain ⟨hcounted, hawaiting⟩ := counted (.reached p) hturn
      exact ⟨.reached p, rfl, ⟨hcounted.same, hcounted.completed, hcounted.previous⟩,
        .inl ⟨rfl, hawaiting⟩⟩
  | @finished r₂ hturn =>
      obtain ⟨hcounted, _⟩ := counted .none hturn
      exact ⟨.none, rfl, ⟨hcounted.same, hcounted.completed, hcounted.previous⟩, rfl,
        by simp [Run.finish]⟩
  | @failed r₂ e hturn =>
      obtain ⟨hcounted, _⟩ := counted .none hturn
      exact ⟨.none, rfl, ⟨hcounted.same, hcounted.completed, hcounted.previous⟩, rfl,
        by simp [Run.fail]⟩

/-- Asking for the next request adds to the last activation, or begins the first. -/
theorem Ledger.Tells.peeked {S : Setup Req Res} {l : Ledger Req Res} {fuel : Nat}
    {r r' : Run Req Res} {answer : Except Error (Next Req)} (h : l.Tells S r)
    (hpeek : peek S fuel r = .ok (answer, r')) :
    ∃ l' : Ledger Req Res, l'.events = l.events ++ peekEvents S fuel r ∧ l'.Tells S r' := by
  unfold peekEvents
  rw [hpeek]
  unfold peek at hpeek
  cases hphase : r.phase with
  | failed =>
      rw [hphase] at hpeek
      obtain ⟨rfl, rfl⟩ := Prod.mk.inj (Except.ok.inj hpeek)
      exact ⟨l, (List.append_nil _).symm, h⟩
  | done =>
      rw [hphase] at hpeek
      obtain ⟨rfl, rfl⟩ := Prod.mk.inj (Except.ok.inj hpeek)
      exact ⟨l, (List.append_nil _).symm, h⟩
  | awaiting =>
      rw [hphase] at hpeek
      exact h.handed hpeek
  | created =>
      rw [hphase] at hpeek
      obtain ⟨settled, last⟩ := l
      obtain rfl := h.stands.fresh hphase
      have hbegin : Counted S ⟨settled, .none⟩ (begin S r) := h.toCounted.congr rfl rfl
      simp only at hpeek
      split at hpeek
      · exact absurd hpeek (by simp)
      · next e r₂ hadvance =>
        obtain ⟨rfl, rfl⟩ := Prod.mk.inj (Except.ok.inj hpeek)
        obtain ⟨last', hevents, htells⟩ := hbegin.advanced rfl hadvance
        refine ⟨⟨settled, last'⟩, ?_, htells⟩
        simp [Ledger.events, hadvance, hevents, reachedBy, handedBy]
      · next r₂ hadvance =>
        obtain ⟨last', hevents, htells⟩ := hbegin.advanced rfl hadvance
        obtain ⟨l', hevents', htells'⟩ := htells.handed hpeek
        refine ⟨l', ?_, htells'⟩
        rw [hevents', hadvance, ← hevents]
        simp [Ledger.events]

@[simp] theorem bindAll_completed (c : Context) (values : List (String × Json)) :
    (bindAll c values).completed = c.completed := by
  induction values generalizing c with
  | nil => rfl
  | cons v values ih =>
      refine (ih (c.setLocal v.1 v.2)).trans ?_
      unfold Context.setLocal
      split <;> rfl

/-- What an exchange that is not committed leaves as it was. -/
theorem standing_of_complete_error {S : Setup Req Res} {r r' : Run Req Res} {s : Step}
    {request : Req} {response : Res} {e : Error}
    (h : complete S r s request response = (.error e, r')) : r'.standing = r.standing := by
  have hjudged := judged_of_complete h
  cases hjudged with
  | noRequest => rfl
  | unwritten => rfl
  | unextracted => rfl
  | unjudged => rfl
  | unmet => exact record_standing _ _

theorem commit_of_complete_ok {S : Setup Req Res} {r r' : Run Req Res} {s : Step}
    {request : Req} {response : Res} (h : complete S r s request response = (.ok (), r')) :
    ∃ extracted node, r' = commit r request response extracted node := by
  have hjudged := judged_of_complete h
  cases hjudged
  exact ⟨_, _, rfl⟩

/-- While a run advances after a commit it is awaiting the next response. -/
theorem phase_of_taken {S : Setup Req Res} {r r₁ r₂ : Run Req Res} {p : Nat} {s : Step}
    {request : Req} {response : Res} (hawaited : awaited S r request = .ok (.ok (p, s)))
    (hcomplete : complete S r s request response = (.ok (), r₁)) (hturns : Turns S r₁ r₂) :
    r₂.phase = .awaiting := by
  obtain ⟨hphase, _⟩ := awaited_eq_ok_iff.1 hawaited
  obtain ⟨extracted, node, rfl⟩ := commit_of_complete_ok hcomplete
  have hkept := congrArg Standing.phase hturns.standing
  refine hkept.trans ?_
  simp [Run.standing, commit, hphase]

/-- Taking a response settles the last activation, or is where the run fails. -/
theorem Ledger.Tells.resumed {S : Setup Req Res} {l : Ledger Req Res} {fuel : Nat}
    {r r' : Run Req Res} {request : Req} {response : Res} {answer : Except Error Unit}
    (h : l.Tells S r) (hresume : resume S fuel r request response = .ok (answer, r')) :
    ∃ l' : Ledger Req Res,
      l'.events = l.events ++ resumeEvents S fuel r request response ∧ l'.Tells S r' := by
  unfold resumeEvents
  unfold resume at hresume
  split at hresume
  · exact absurd hresume (by simp)
  · next e hawaited =>
    obtain ⟨rfl, rfl⟩ := Prod.mk.inj (Except.ok.inj hresume)
    rw [hawaited]
    exact ⟨l, (List.append_nil _).symm, h⟩
  · next p s hawaited =>
    obtain ⟨hphase, _, expected, hpending, hsame⟩ := awaited_eq_ok_iff.1 hawaited
    obtain ⟨settled, last⟩ := l
    obtain ⟨peeks, rfl⟩ := h.stands.handed hpending
    rw [hawaited]
    simp only
    split at hresume
    · next e r₁ hcomplete =>
      obtain ⟨rfl, rfl⟩ := Prod.mk.inj (Except.ok.inj hresume)
      have hstanding := standing_of_complete_error hcomplete
      refine ⟨⟨settled, .accepted p expected peeks ⟨request, response⟩⟩, ?_, h.toCounted.congr ?_ ?_,
        rfl, rfl, hsame⟩
      · simp [Ledger.events, hcomplete]
      · exact congrArg Standing.completed hstanding
      · exact congrArg Standing.previous hstanding
    · next r₁ hcomplete =>
      obtain ⟨extracted, node, rfl⟩ := commit_of_complete_ok hcomplete
      have hcounted : Counted S
          ⟨settled ++ [⟨p, expected, peeks, ⟨request, response⟩⟩], .none⟩
          (commit r request response extracted node) := by
        refine ⟨?_, ?_, ?_⟩
        · intro a ha
          rcases List.mem_append.1 ha with ha | ha
          · exact h.same a ha
          · rw [List.mem_singleton.1 ha]
            exact hsame
        · simp [commit, Context.recordCompleted, h.completed]
        · simp [commit]
      obtain ⟨last', hevents, htells⟩ := hcounted.advanced (by simp [commit, hphase]) hresume
      refine ⟨⟨settled ++ [⟨p, expected, peeks, ⟨request, response⟩⟩], last'⟩, ?_, htells⟩
      simp [Ledger.events, Activation.events, hcomplete, hresume, hevents]

/-- Every history is that of a ledger. -/
theorem History.ledger {S : Setup Req Res} {values : Bindings Json} {log : List (Event Req Res)}
    {r : Run Req Res} (h : History S values log r) :
    ∃ l : Ledger Req Res, l.events = log ∧ l.Tells S r := by
  induction h with
  | start =>
      refine ⟨⟨[], .none⟩, rfl, ⟨?_, rfl, rfl⟩, rfl, by simp [Run.start]⟩
      exact fun a ha => absurd ha (by simp)
  | @call log r r' fuel c answer _ hcall ih =>
      obtain ⟨l, rfl, htells⟩ := ih
      cases c with
      | peek =>
          obtain ⟨a, hpeek, _⟩ := peek_of_call hcall
          exact htells.peeked hpeek
      | resume request response =>
          obtain ⟨a, hresume, _⟩ := resume_of_call hcall
          exact htells.resumed hresume

/-! ## Every exchange once -/

theorem committedIn_append (log log' : List (Event Req Res)) :
    committedIn (log ++ log') = committedIn log ++ committedIn log' := by
  unfold committedIn
  rw [List.filterMap_append]

theorem committedIn_reachedBy (result : Except Stop (Except Error Unit × Run Req Res)) :
    committedIn (reachedBy result) = [] := by
  unfold reachedBy
  split
  · next r => cases r.pending <;> rfl
  · rfl

theorem committedIn_handedTimes (place : Nat) (request : Req) (peeks : Nat) :
    committedIn (handedTimes place request peeks : List (Event Req Res)) = [] := by
  simp [committedIn, handedTimes]

theorem committedIn_activation (a : Activation Req Res) : committedIn a.events = [a.exchange] := by
  show committedIn ([.reached a.place] ++ handedTimes a.place a.request a.peeks
    ++ [.accepted a.place a.exchange, .committed a.place a.exchange]) = _
  rw [committedIn_append, committedIn_append, committedIn_handedTimes]
  rfl

theorem committedIn_open (last : Open Req Res) : committedIn last.events = [] := by
  cases last with
  | none => rfl
  | reached place => rfl
  | handed place request peeks =>
      show committedIn ([.reached place] ++ handedTimes place request peeks) = _
      rw [committedIn_append, committedIn_handedTimes]
      rfl
  | accepted place request peeks exchange =>
      show committedIn ([.reached place] ++ handedTimes place request peeks
        ++ [.accepted place exchange]) = _
      rw [committedIn_append, committedIn_append, committedIn_handedTimes]
      rfl

theorem committedIn_ledger (l : Ledger Req Res) :
    committedIn l.events = l.settled.map (·.exchange) := by
  obtain ⟨settled, last⟩ := l
  show committedIn (settled.flatMap Activation.events ++ last.events) = _
  rw [committedIn_append, committedIn_open, List.append_nil]
  induction settled with
  | nil => rfl
  | cons a settled ih =>
      rw [List.flatMap_cons, committedIn_append, committedIn_activation, ih]
      rfl

/-- **Every exchange once.** After any calls, what happened to requests are activations in order. Each
but the last was reached, its one request was handed out at least once, one response was taken with the
same request, and that exchange was committed, all before the next was reached. The last activation, if
it has not come that far, is the one that the run waits for or failed at. The run counts the committed
exchanges and knows the last of them. -/
theorem exchanges_committed_once {S : Setup Req Res} {values : Bindings Json}
    {log : List (Event Req Res)} {r : Run Req Res} (h : History S values log r) :
    ∃ (settled : List (Activation Req Res)) (last : Open Req Res),
      log = settled.flatMap Activation.events ++ last.events ∧
      (∀ a ∈ settled, S.converter.same a.request a.exchange.request = true) ∧
      last.Stands S r ∧
      committedIn log = settled.map (·.exchange) ∧
      r.context.completed = (committedIn log).length ∧
      r.previous = (committedIn log).getLast? := by
  obtain ⟨l, rfl, htells⟩ := h.ledger
  have hcommitted := committedIn_ledger l
  refine ⟨l.settled, l.last, rfl, htells.same, htells.stands, hcommitted, ?_, ?_⟩
  · rw [hcommitted, List.length_map]
    exact htells.completed
  · rw [hcommitted, List.getLast?_map]
    exact htells.previous

/-- Calls of the gallery with one page twice: too early, twice for the first page, with another
request, and at last with a response of which nothing is seen. -/
def galleryCalls : List (Call String String) := [
  .resume "/a" "early", .peek, .peek, .resume "/b" "other", .resume "/a" "first",
  .resume "/a" "unasked", .peek, .resume "/a" ""]

/-- The two exchanges of the gallery have equal requests and are told apart; the second fails. -/
theorem gallery_exchanges :
    ∃ r, History gallery (galleryValues.insert "pages" (.array [.string "/a", .string "/a"]))
        [.reached 1, .handed 1 "/a", .handed 1 "/a", .accepted 1 ⟨"/a", "first"⟩,
          .committed 1 ⟨"/a", "first"⟩, .reached 1, .handed 1 "/a", .accepted 1 ⟨"/a", ""⟩] r ∧
      r.phase = .failed ∧ r.context.completed = 1 ∧ r.previous = some ⟨"/a", "first"⟩ := by
  have hreplay : ∃ r, replay gallery 9 galleryCalls
      ([], .start (galleryValues.insert "pages" (.array [.string "/a", .string "/a"]))) =
        some ([.reached 1, .handed 1 "/a", .handed 1 "/a", .accepted 1 ⟨"/a", "first"⟩,
          .committed 1 ⟨"/a", "first"⟩, .reached 1, .handed 1 "/a", .accepted 1 ⟨"/a", ""⟩], r) ∧
      r.phase = .failed := ⟨_, rfl, rfl⟩
  obtain ⟨r, hr, hphase⟩ := hreplay
  have hhistory := History.start.replay hr
  obtain ⟨settled, last, _, _, _, _, hcompleted, hprevious⟩ := exchanges_committed_once hhistory
  exact ⟨r, hhistory, hphase, hcompleted, hprevious⟩

end Walkthrough.Engine
