import Walkthrough.Proofs.Engine.Call
import Walkthrough.Proofs.Engine.Meaning

/-!
# Driving a run

A caller that always answers: it asks for the next request, takes a response to it, and so on until
there is none or an error ends the run (`drive`). Between calls the run takes turns; a driven run as
steps (`Goes`) and their end (`Over`) does not tell these apart.

* `drive_of_goes` — steps that come to an end give the account of driving, if there is fuel enough.
-/

namespace Walkthrough.Engine

variable {Req Res : Type}

/-- The account of a run for which requests were handed out. -/
def Run.account (r : Run Req Res) (asked : List (Nat × Req)) (ending : Option Error) : Account Req :=
  ⟨asked, ending, r.extractions, r.context.completed, r.tree⟩

/-- Answer every request that is handed out until there is none or an error ends the run. A response may
depend on all requests so far. The number of turns of a call is bounded by `turns`. -/
def drive (S : Setup Req Res) (respond : List (Nat × Req) → Res) (turns : Nat) :
    (exchanges : Nat) → List (Nat × Req) → Run Req Res → Except Stop (Account Req)
  | 0, _, _ => .error .outOfFuel
  | exchanges + 1, asked, r =>
    match peek S turns r with
    | .error stop => .error stop
    | .ok (.error e, r) => .ok (r.account asked (some e))
    | .ok (.ok .done, r) => .ok (r.account asked none)
    | .ok (.ok (.request place _ request), r) =>
      let asked := asked ++ [(place, request)]
      match resume S turns r request (respond asked) with
      | .error stop => .error stop
      | .ok (.error e, r) => .ok (r.account asked (some e))
      | .ok (.ok (), r) => drive S respond turns exchanges asked r

/-! ## Steps -/

/-- A run in the middle of a call, and the requests that were handed out. -/
structure Driven (Req Res : Type) where
  run : Run Req Res
  asked : List (Nat × Req)

/-- The run that waits at a place with its request. -/
def Run.waiting (r : Run Req Res) (place : Nat) (request : Req) : Run Req Res :=
  { r with pending := some ⟨place, some request⟩ }

/-- The run wants a request at a step, and the request is made. -/
structure Wants (S : Setup Req Res) (r r' : Run Req Res) (place : Nat) (s : Step) (request : Req) :
    Prop where
  turn : turn S r = .ok (.wanted r' place)
  step : S.graph.step? place = some s
  made : S.converter.convert S.evaluator s r'.scope r'.previous = .ok request

/-- A step of a driven run: a turn, or a request and its response. -/
inductive Goes (S : Setup Req Res) (respond : List (Nat × Req) → Res) :
    Driven Req Res → Driven Req Res → Prop
  | turn {r r' asked} : turn S r = .ok (.on r') → Goes S respond ⟨r, asked⟩ ⟨r', asked⟩
  | exchange {r r₁ r' p s q asked} : Wants S r r₁ p s q → S.converter.same q q = true →
      complete S (r₁.waiting p q) s q (respond (asked ++ [(p, q)])) = (.ok (), r') →
      Goes S respond ⟨r, asked⟩ ⟨r', asked ++ [(p, q)]⟩

/-- The end of a driven run: there is no further request, a turn fails, the request cannot be made, it
is not the same as itself, or the response is rejected. -/
inductive Over (S : Setup Req Res) (respond : List (Nat × Req) → Res) :
    Driven Req Res → Account Req → Prop
  | finished {r r' asked} : turn S r = .ok (.finished r') →
      Over S respond ⟨r, asked⟩ (r'.account asked none)
  | failed {r r' e asked} : turn S r = .ok (.failed r' e) →
      Over S respond ⟨r, asked⟩ (r'.account asked (some e))
  | unmade {r r' p s e asked} : turn S r = .ok (.wanted r' p) → S.graph.step? p = some s →
      S.converter.convert S.evaluator s r'.scope r'.previous = .error e →
      Over S respond ⟨r, asked⟩ (r'.account asked (some e))
  | refused {r r' p s q asked} : Wants S r r' p s q → S.converter.same q q = false →
      Over S respond ⟨r, asked⟩
        (r'.account (asked ++ [(p, q)]) (some (.protocol (.otherRequest s.uuid))))
  | rejected {r r₁ r' p s q e asked} : Wants S r r₁ p s q → S.converter.same q q = true →
      complete S (r₁.waiting p q) s q (respond (asked ++ [(p, q)])) = (.error e, r') →
      Over S respond ⟨r, asked⟩ (r'.account (asked ++ [(p, q)]) (some e))

/-- Driving a run that takes turns first, at most `first` of them. -/
def driveOn (S : Setup Req Res) (respond : List (Nat × Req) → Res) (first turns exchanges : Nat)
    (d : Driven Req Res) : Except Stop (Account Req) :=
  match advance S first d.run with
  | .error stop => .error stop
  | .ok (.error e, r) => .ok (r.account d.asked (some e))
  | .ok (.ok (), r) => drive S respond turns exchanges d.asked r

/-- With fuel enough, driving comes to an account. -/
def ComesTo (S : Setup Req Res) (respond : List (Nat × Req) → Res) (d : Driven Req Res)
    (account : Account Req) : Prop :=
  ∃ enough, ∀ first turns exchanges, enough ≤ first → enough ≤ turns → enough ≤ exchanges →
    driveOn S respond first turns exchanges d = .ok account

section

variable {S : Setup Req Res} {respond : List (Nat × Req) → Res}

theorem account_waiting (r : Run Req Res) (place : Nat) (request : Req) (asked : List (Nat × Req))
    (ending : Option Error) :
    (r.waiting place request).account asked ending = r.account asked ending := rfl

/-- A run that wants a request keeps its phase. -/
theorem phase_of_wanted {r r' : Run Req Res} {p : Nat} (h : turn S r = .ok (.wanted r' p)) :
    r'.phase = r.phase :=
  congrArg Standing.phase (turn_standing h)

theorem peek_await {r : Run Req Res} (hphase : r.phase = .awaiting) {p : Nat} {s : Step}
    (hs : S.graph.step? p = some s) (turns : Nat) :
    peek S turns (r.await p) =
      match S.converter.convert S.evaluator s r.scope r.previous with
      | .ok q => .ok (.ok (.request p s.uuid q), r.waiting p q)
      | .error e => .ok (.error e, r.fail) := by
  have hphase' : (r.await p).phase = .awaiting := hphase
  unfold peek peekPending
  rw [hphase']
  simp only [Run.await, peekAt, hs]
  rfl

theorem awaited_waiting {r : Run Req Res} (hphase : r.phase = .awaiting) {p : Nat} {s : Step}
    (hs : S.graph.step? p = some s) (q : Req) :
    awaited S (r.waiting p q) q =
      if S.converter.same q q then .ok (.ok (p, s))
      else .ok (.error (.protocol (.otherRequest s.uuid))) := by
  have hphase' : (r.waiting p q).phase = .awaiting := hphase
  unfold awaited
  rw [hphase']
  simp only [Run.waiting, hs]

/-- Driving a run that wants a request, which is made: its response is taken, and the run goes on. -/
theorem drive_wants {r r' : Run Req Res} (hphase : r.phase = .awaiting) {p : Nat} {s : Step} {q : Req}
    (h : Wants S r r' p s q) (asked : List (Nat × Req)) (turns exchanges : Nat) :
    drive S respond turns (exchanges + 1) asked (r'.await p) =
      if S.converter.same q q then
        match complete S (r'.waiting p q) s q (respond (asked ++ [(p, q)])) with
        | (.error e, r) => .ok (r.account (asked ++ [(p, q)]) (some e))
        | (.ok (), r) => driveOn S respond turns turns exchanges ⟨r, asked ++ [(p, q)]⟩
      else .ok (r'.account (asked ++ [(p, q)]) (some (.protocol (.otherRequest s.uuid)))) := by
  have hphase' : r'.phase = .awaiting := (phase_of_wanted h.turn).trans hphase
  rw [drive, peek_await hphase' h.step, h.made]
  simp only [resume, awaited_waiting hphase' h.step]
  by_cases hsame : S.converter.same q q = true
  · simp only [hsame, if_true]
    cases complete S (r'.waiting p q) s q (respond (asked ++ [(p, q)])) with
    | mk answer r =>
        cases answer with
        | error e => rfl
        | ok u => rfl
  · simp only [hsame]
    rfl

theorem comesTo_of_over {d : Driven Req Res} {account : Account Req}
    (hphase : d.run.phase = .awaiting) (h : Over S respond d account) :
    ComesTo S respond d account := by
  refine ⟨1, ?_⟩
  intro first turns exchanges hfirst hturns hexchanges
  obtain ⟨first, rfl⟩ := Nat.exists_eq_add_of_le' hfirst
  obtain ⟨exchanges, rfl⟩ := Nat.exists_eq_add_of_le' hexchanges
  cases h with
  | finished hturn =>
      simp only [driveOn, advance_of_ends (.finished hturn)]
      rfl
  | failed hturn =>
      simp only [driveOn, advance_of_ends (.failed hturn)]
      rfl
  | unmade hturn hs hconvert =>
      simp only [driveOn, advance_of_ends (.wanted hturn)]
      rw [drive, peek_await ((phase_of_wanted hturn).trans hphase) hs, hconvert]
      rfl
  | refused hwants hsame =>
      simp only [driveOn, advance_of_ends (.wanted hwants.turn)]
      rw [drive_wants hphase hwants, hsame]
      rfl
  | rejected hwants hsame hcomplete =>
      simp only [driveOn, advance_of_ends (.wanted hwants.turn)]
      rw [drive_wants hphase hwants, if_pos hsame, hcomplete]

theorem Goes.phase {d d' : Driven Req Res} (h : Goes S respond d d') :
    d'.run.phase = d.run.phase := by
  cases h with
  | turn hturn => exact congrArg Standing.phase (turn_standing hturn)
  | @exchange r r₁ r' p s q asked hwants hsame hcomplete =>
      have hjudged := judged_of_complete hcomplete
      cases hjudged
      have hwanted : r₁.phase = r.phase := phase_of_wanted hwants.turn
      exact (record_phase _ _).trans hwanted

theorem ComesTo.of_goes {d d' : Driven Req Res} {account : Account Req}
    (hphase : d.run.phase = .awaiting) (hgoes : Goes S respond d d')
    (h : ComesTo S respond d' account) : ComesTo S respond d account := by
  obtain ⟨enough, henough⟩ := h
  -- a turn costs one of the turns of this call, an exchange one of the exchanges
  refine ⟨enough + 1, ?_⟩
  intro first turns exchanges hfirst hturns hexchanges
  obtain ⟨first, rfl⟩ := Nat.exists_eq_add_of_le' (Nat.le_trans (Nat.le_add_left 1 _) hfirst)
  obtain ⟨exchanges, rfl⟩ := Nat.exists_eq_add_of_le' (Nat.le_trans (Nat.le_add_left 1 _) hexchanges)
  cases hgoes with
  | turn hturn =>
      have hrest := henough first turns (exchanges + 1) (by omega) (by omega) (by omega)
      simp only [driveOn, advance_on hturn] at hrest ⊢
      exact hrest
  | exchange hwants hsame hcomplete =>
      have hrest := henough turns turns exchanges (by omega) (by omega) (by omega)
      simp only [driveOn, advance_of_ends (.wanted hwants.turn)]
      rw [drive_wants hphase hwants, if_pos hsame, hcomplete]
      exact hrest

/-- Steps that come to an end, seen from the run before them. -/
theorem comesTo_of_goes {d d' : Driven Req Res} {account : Account Req}
    (hphase : d.run.phase = .awaiting) (hgoes : Relation.ReflTransGen (Goes S respond) d d')
    (hover : Over S respond d' account) : ComesTo S respond d account := by
  induction hgoes using Relation.ReflTransGen.head_induction_on with
  | refl => exact comesTo_of_over hphase hover
  | head hstep _ ih => exact (ih (hstep.phase.trans hphase)).of_goes hphase hstep

/-- Turns that come to an answer without error leave a run that waits or is done. -/
theorem peek_of_ends {r r' : Run Req Res} (hphase : r.phase = .awaiting)
    (h : Ends S r (.ok ()) r') (turns : Nat) : peek S turns r' = peekPending S r' := by
  cases h with
  | @wanted r₁ p hturn =>
      have hphase' : (r₁.await p).phase = .awaiting := (phase_of_wanted hturn).trans hphase
      unfold peek
      rw [hphase']
  | @finished r₁ hturn => rfl

/-- Driving from the start, of a run that begins to take turns. -/
theorem drive_start (S : Setup Req Res) (respond : List (Nat × Req) → Res) (values : Bindings Json)
    (turns exchanges : Nat) :
    drive S respond turns (exchanges + 1) [] (.start values) =
      driveOn S respond turns turns (exchanges + 1) ⟨begin S (.start values), []⟩ := by
  have hcreated : (Run.start values : Run Req Res).phase = .created := rfl
  rw [drive, driveOn, peek, hcreated]
  cases hadvance : advance S turns (begin S (.start values)) with
  | error stop => rfl
  | ok result =>
      obtain ⟨answer, r⟩ := result
      cases answer with
      | error e => rfl
      | ok u =>
          -- a run that has advanced has begun, so that asking again does not begin it anew
          obtain ⟨r₁, hturns, hends⟩ := advance_eq_ok hadvance
          have hphase : r₁.phase = .awaiting := congrArg Standing.phase hturns.standing
          simp only [drive, peek_of_ends hphase hends]

/-- **Driving as steps.** If the steps of a run come to an end, driving it from the start gives the
account of that end, with fuel enough. -/
theorem drive_of_goes {values : Bindings Json} {d : Driven Req Res} {account : Account Req}
    (hgoes : Relation.ReflTransGen (Goes S respond) ⟨begin S (.start values), []⟩ d)
    (hover : Over S respond d account) :
    ∃ enough, ∀ turns exchanges, enough ≤ turns → enough ≤ exchanges →
      drive S respond turns exchanges [] (.start values) = .ok account := by
  obtain ⟨enough, henough⟩ := comesTo_of_goes rfl hgoes hover
  refine ⟨enough + 1, ?_⟩
  intro turns exchanges hturns hexchanges
  obtain ⟨exchanges, rfl⟩ := Nat.exists_eq_add_of_le' (Nat.le_trans (Nat.le_add_left 1 _) hexchanges)
  rw [drive_start]
  exact henough turns turns (exchanges + 1) (by omega) (by omega) (by omega)

end

end Walkthrough.Engine
