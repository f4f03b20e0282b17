import Walkthrough.Proofs.Engine.Turn
import Walkthrough.Proofs.Graph.Links

/-!
# Calls of an engine

What a caller can do to a run, in any order and with any requests and responses (`call`), the runs that
calls lead to (`Reachable`), and the runs in the middle of a call from which turns are taken
(`Passing`). `Peeked` and `Resumed` say as rules everything that a call can do.
-/

namespace Walkthrough.Engine

variable {Req Res : Type}

/-- A call of the engine. -/
inductive Call (Req Res : Type) where
  | peek
  | resume (request : Req) (response : Res)

/-- What a call answers, and the run after it; taking a response answers nothing. -/
def call (S : Setup Req Res) (fuel : Nat) (r : Run Req Res) :
    Call Req Res → Except Stop (Except Error (Option (Next Req)) × Run Req Res)
  | .peek => (peek S fuel r).map fun (answer, r) => (answer.map some, r)
  | .resume request response =>
    (resume S fuel r request response).map fun (answer, r) => (answer.map fun _ => none, r)

/-- The runs that calls lead to, as far as the calls return. -/
inductive Reachable (S : Setup Req Res) (values : Bindings Json) : Run Req Res → Prop
  | start : Reachable S values (.start values)
  | call {r r' fuel c answer} : Reachable S values r → call S fuel r c = .ok (answer, r') →
      Reachable S values r'

/-- The runs from which turns are taken during a call. -/
inductive Passing (S : Setup Req Res) (values : Bindings Json) : Run Req Res → Prop
  | begun {r} : Reachable S values r → r.phase = .created → Passing S values (begin S r)
  | taken {r r' p s request response} : Reachable S values r →
      awaited S r request = .ok (.ok (p, s)) →
      complete S r s request response = (.ok (), r') → Passing S values r'
  | turn {r r'} : Passing S values r → turn S r = .ok (.on r') → Passing S values r'

/-! ## Handing out requests -/

/-- What handing out the request that waits can do. -/
inductive Handed (S : Setup Req Res) (r : Run Req Res) :
    Except Error (Next Req) → Run Req Res → Prop
  | nothing : r.pending = none → Handed S r (.ok .done) r
  | again {p s request} : r.pending = some ⟨p, some request⟩ → S.graph.step? p = some s →
      Handed S r (.ok (.request p s.uuid request)) r
  | made {p s request} : r.pending = some ⟨p, none⟩ → S.graph.step? p = some s →
      S.converter.convert S.evaluator s r.scope r.previous = .ok request →
      Handed S r (.ok (.request p s.uuid request)) { r with pending := some ⟨p, some request⟩ }
  | unmade {p s e} : r.pending = some ⟨p, none⟩ → S.graph.step? p = some s →
      S.converter.convert S.evaluator s r.scope r.previous = .error e →
      Handed S r (.error e) r.fail

theorem handed_of_peekPending {S : Setup Req Res} {r r' : Run Req Res}
    {answer : Except Error (Next Req)} (h : peekPending S r = .ok (answer, r')) :
    Handed S r answer r' := by
  unfold peekPending peekAt at h
  split at h
  · next pending hpending =>
    obtain ⟨p, made⟩ := pending
    split at h
    · exact absurd h (by simp)
    · next s hs =>
      split at h
      · next request hmade =>
        obtain rfl : made = some request := hmade
        obtain ⟨rfl, rfl⟩ := Prod.mk.inj (Except.ok.inj h)
        exact .again hpending hs
      · next hmade =>
        obtain rfl : made = none := hmade
        split at h
        · next request hconvert =>
          obtain ⟨rfl, rfl⟩ := Prod.mk.inj (Except.ok.inj h)
          exact .made hpending hs hconvert
        · next e hconvert =>
          obtain ⟨rfl, rfl⟩ := Prod.mk.inj (Except.ok.inj h)
          exact .unmade hpending hs hconvert
  · next hpending =>
    obtain ⟨rfl, rfl⟩ := Prod.mk.inj (Except.ok.inj h)
    exact .nothing hpending

/-- What asking for the next request can do. -/
inductive Peeked (S : Setup Req Res) (r : Run Req Res) :
    Except Error (Next Req) → Run Req Res → Prop
  | failed : r.phase = .failed → Peeked S r (.error (.protocol .peekFailed)) r
  | done : r.phase = .done → Peeked S r (.ok .done) r
  | begun {r₁ r₂ r' answer} : r.phase = .created → Turns S (begin S r) r₁ → Ends S r₁ (.ok ()) r₂ →
      Handed S r₂ answer r' → Peeked S r answer r'
  | stopped {r₁ r' e} : r.phase = .created → Turns S (begin S r) r₁ → Ends S r₁ (.error e) r' →
      Peeked S r (.error e) r'
  | awaiting {r' answer} : r.phase = .awaiting → Handed S r answer r' → Peeked S r answer r'

theorem peeked_of_peek {S : Setup Req Res} {fuel : Nat} {r r' : Run Req Res}
    {answer : Except Error (Next Req)} (h : peek S fuel r = .ok (answer, r')) :
    Peeked S r answer r' := by
  unfold peek at h
  split at h
  · next hphase =>
    obtain ⟨rfl, rfl⟩ := Prod.mk.inj (Except.ok.inj h)
    exact .failed hphase
  · next hphase =>
    obtain ⟨rfl, rfl⟩ := Prod.mk.inj (Except.ok.inj h)
    exact .done hphase
  · next hphase =>
    split at h
    · exact absurd h (by simp)
    · next e r₂ hadvance =>
      obtain ⟨rfl, rfl⟩ := Prod.mk.inj (Except.ok.inj h)
      obtain ⟨r₁, hturns, hends⟩ := advance_eq_ok hadvance
      exact .stopped hphase hturns hends
    · next r₂ hadvance =>
      obtain ⟨r₁, hturns, hends⟩ := advance_eq_ok hadvance
      exact .begun hphase hturns hends (handed_of_peekPending h)
  · next hphase => exact .awaiting hphase (handed_of_peekPending h)

/-! ## Taking responses -/

/-- A step takes a response exactly to the request that waits and was handed out. -/
theorem awaited_eq_ok_iff {S : Setup Req Res} {r : Run Req Res} {request : Req} {p : Nat} {s : Step} :
    awaited S r request = .ok (.ok (p, s)) ↔
      r.phase = .awaiting ∧ S.graph.step? p = some s ∧
        ∃ expected, r.pending = some ⟨p, some expected⟩ ∧ S.converter.same expected request = true := by
  constructor
  · intro h
    unfold awaited at h
    split at h
    · exact absurd h (by simp)
    · exact absurd h (by simp)
    · exact absurd h (by simp)
    · next hphase =>
      split at h
      · exact absurd h (by simp)
      · next pending hpending =>
        obtain ⟨p', made⟩ := pending
        split at h
        · exact absurd h (by simp)
        · next s' hs =>
          split at h
          · exact absurd h (by simp)
          · next expected hmade =>
            obtain rfl : made = some expected := hmade
            split at h
            · next hsame =>
              obtain ⟨rfl, rfl⟩ := Prod.mk.inj (Except.ok.inj (Except.ok.inj h))
              exact ⟨hphase, hs, expected, hpending, hsame⟩
            · exact absurd h (by simp)
  · rintro ⟨hphase, hs, expected, hpending, hsame⟩
    simp [awaited, hphase, hpending, hs, hsame]

/-- A refusal is a protocol error. -/
theorem awaited_eq_error {S : Setup Req Res} {r : Run Req Res} {request : Req} {e : Error}
    (h : awaited S r request = .ok (.error e)) : ∃ fault, e = .protocol fault := by
  unfold awaited at h
  repeat' split at h
  all_goals first
    | exact ⟨_, (Except.error.inj (Except.ok.inj h)).symm⟩
    | exact absurd h (by simp)

/-- What judging an exchange can do. -/
inductive Judged (S : Setup Req Res) (r : Run Req Res) (s : Step) (request : Req) (response : Res) :
    Except Error Unit × Run Req Res → Prop
  | noRequest : s.action.leaf? = none →
      Judged S r s request response (.error (.configuration (.noRequest s.uuid none)), r)
  | unwritten {leaf e} : s.action.leaf? = some leaf → exchangeJson S request response = .error e →
      Judged S r s request response (.error e, r)
  | unextracted {leaf exchange e} : s.action.leaf? = some leaf →
      exchangeJson S request response = .ok exchange →
      extract S.evaluator r.context (exchangeFrame exchange) .empty leaf.extractions.entries
        = .error e →
      Judged S r s request response (.error e, r)
  | unjudged {leaf exchange f extracted e} : s.action.leaf? = some leaf →
      exchangeJson S request response = .ok exchange →
      extract S.evaluator r.context (exchangeFrame exchange) .empty leaf.extractions.entries
        = .ok (f, extracted) →
      judge S.evaluator r.context f leaf.assertions = .error e →
      Judged S r s request response (.error e, r)
  | unmet {leaf exchange f extracted outcomes} : s.action.leaf? = some leaf →
      exchangeJson S request response = .ok exchange →
      extract S.evaluator r.context (exchangeFrame exchange) .empty leaf.extractions.entries
        = .ok (f, extracted) →
      judge S.evaluator r.context f leaf.assertions = .ok outcomes → failuresOf outcomes ≠ [] →
      Judged S r s request response
        (.error (.expectation ⟨s.uuid, failuresOf outcomes, r.extractions.extend extracted⟩),
          r.record (exchangeNode s exchange extracted outcomes))
  | met {leaf exchange f extracted outcomes} : s.action.leaf? = some leaf →
      exchangeJson S request response = .ok exchange →
      extract S.evaluator r.context (exchangeFrame exchange) .empty leaf.extractions.entries
        = .ok (f, extracted) →
      judge S.evaluator r.context f leaf.assertions = .ok outcomes → failuresOf outcomes = [] →
      Judged S r s request response
        (.ok (), commit r request response extracted (exchangeNode s exchange extracted outcomes))

theorem judged_of_complete {S : Setup Req Res} {r : Run Req Res} {s : Step} {request : Req}
    {response : Res} {result : Except Error Unit × Run Req Res}
    (h : complete S r s request response = result) : Judged S r s request response result := by
  subst h
  unfold complete
  split
  · next hleaf => exact .noRequest hleaf
  · next leaf hleaf =>
    split
    · next e hjson => exact .unwritten hleaf hjson
    · next exchange hjson =>
      split
      · next e hextract => exact .unextracted hleaf hjson hextract
      · next f extracted hextract =>
        split
        · next e hjudge => exact .unjudged hleaf hjson hextract hjudge
        · next outcomes hjudge =>
          simp only
          split
          · next hmet => exact .met hleaf hjson hextract hjudge (List.isEmpty_iff.1 hmet)
          · next hunmet =>
            exact .unmet hleaf hjson hextract hjudge fun hnil => hunmet (List.isEmpty_iff.2 hnil)

/-- What taking a response can do. -/
inductive Resumed (S : Setup Req Res) (r : Run Req Res) (request : Req) (response : Res) :
    Except Error Unit → Run Req Res → Prop
  | refused {e} : awaited S r request = .ok (.error e) → Resumed S r request response (.error e) r
  | rejected {p s e r₁} : awaited S r request = .ok (.ok (p, s)) →
      complete S r s request response = (.error e, r₁) →
      Resumed S r request response (.error e) r₁.fail
  | taken {p s r₁ r₂ r' answer} : awaited S r request = .ok (.ok (p, s)) →
      complete S r s request response = (.ok (), r₁) → Turns S r₁ r₂ → Ends S r₂ answer r' →
      Resumed S r request response answer r'

theorem resumed_of_resume {S : Setup Req Res} {fuel : Nat} {r r' : Run Req Res} {request : Req}
    {response : Res} {answer : Except Error Unit}
    (h : resume S fuel r request response = .ok (answer, r')) :
    Resumed S r request response answer r' := by
  unfold resume at h
  split at h
  · exact absurd h (by simp)
  · next e hawaited =>
    obtain ⟨rfl, rfl⟩ := Prod.mk.inj (Except.ok.inj h)
    exact .refused hawaited
  · next p s hawaited =>
    split at h
    · next e r₁ hcomplete =>
      obtain ⟨rfl, rfl⟩ := Prod.mk.inj (Except.ok.inj h)
      exact .rejected hawaited hcomplete
    · next r₁ hcomplete =>
      obtain ⟨r₂, hturns, hends⟩ := advance_eq_ok h
      exact .taken hawaited hcomplete hturns hends

theorem call_peek (S : Setup Req Res) (fuel : Nat) (r : Run Req Res) :
    call S fuel r .peek = (peek S fuel r).map fun (answer, r) => (answer.map some, r) := rfl

theorem call_resume (S : Setup Req Res) (fuel : Nat) (r : Run Req Res) (request : Req)
    (response : Res) : call S fuel r (.resume request response) =
      (resume S fuel r request response).map fun (answer, r) => (answer.map fun _ => none, r) := rfl

theorem peek_of_call {S : Setup Req Res} {fuel : Nat} {r r' : Run Req Res}
    {answer : Except Error (Option (Next Req))} (h : call S fuel r .peek = .ok (answer, r')) :
    ∃ a, peek S fuel r = .ok (a, r') ∧ answer = a.map some := by
  rw [call_peek] at h
  cases hpeek : peek S fuel r with
  | error stop =>
      rw [hpeek] at h
      exact absurd h (by simp [Except.map])
  | ok result =>
      obtain ⟨a, r₁⟩ := result
      rw [hpeek] at h
      obtain ⟨rfl, rfl⟩ := Prod.mk.inj (Except.ok.inj h)
      exact ⟨a, rfl, rfl⟩

theorem resume_of_call {S : Setup Req Res} {fuel : Nat} {r r' : Run Req Res} {request : Req}
    {response : Res} {answer : Except Error (Option (Next Req))}
    (h : call S fuel r (.resume request response) = .ok (answer, r')) :
    ∃ a, resume S fuel r request response = .ok (a, r') ∧ answer = a.map fun _ => none := by
  rw [call_resume] at h
  cases hresume : resume S fuel r request response with
  | error stop =>
      rw [hresume] at h
      exact absurd h (by simp [Except.map])
  | ok result =>
      obtain ⟨a, r₁⟩ := result
      rw [hresume] at h
      obtain ⟨rfl, rfl⟩ := Prod.mk.inj (Except.ok.inj h)
      exact ⟨a, rfl, rfl⟩

theorem call_eq_error {S : Setup Req Res} {fuel : Nat} {r : Run Req Res} {c : Call Req Res}
    {stop : Stop} (h : call S fuel r c = .error stop) :
    (c = .peek ∧ peek S fuel r = .error stop) ∨
      ∃ request response, c = .resume request response ∧
        resume S fuel r request response = .error stop := by
  cases c with
  | peek =>
      refine .inl ⟨rfl, ?_⟩
      rw [call_peek] at h
      cases hpeek : peek S fuel r with
      | error stop' =>
          rw [hpeek] at h
          exact congrArg _ (Except.error.inj h)
      | ok result =>
          rw [hpeek] at h
          exact absurd h (by simp [Except.map])
  | resume request response =>
      refine .inr ⟨request, response, rfl, ?_⟩
      rw [call_resume] at h
      cases hresume : resume S fuel r request response with
      | error stop' =>
          rw [hresume] at h
          exact congrArg _ (Except.error.inj h)
      | ok result =>
          rw [hresume] at h
          exact absurd h (by simp [Except.map])

/-! ## A small setting -/

/-- The converter that asks for the value of an address and knows no other steps. -/
def addressConverter : Converter String String where
  convert ev s scope _ :=
    match s.action with
    | .visit url _ _ _ => ev.shown url scope
    | _ => .error (.configuration (.noRequest s.uuid (some s.tag.name)))
  same := fun a b => a == b
  requestJson q := .ok (.string q)
  responseJson a := .ok (.string a)

/-- A loop over pages that keeps what was seen of each, and a last address. -/
def gallerySteps : Array Step := #[
  ⟨"walk", none, .each "pages" "number" "page" (some 1), some 2⟩,
  ⟨"open", none, .visit "page" none none ⟨.empty, .ofList [("seen", "response")], ["seen"]⟩, none⟩,
  ⟨"home", none, .visit "start" none none ⟨.empty, .empty, []⟩, none⟩]

/-- The setup of the gallery, in which expressions are names. -/
def gallery : Setup String String := ⟨⟨gallerySteps, some 0⟩, .names, addressConverter, 10⟩

/-- Two pages, and where the walk ends. -/
def galleryValues : Bindings Json :=
  .ofList [("pages", .array [.string "/a", .string "/b"]), ("start", .string "/")]

theorem gallery_acyclic : gallery.graph.Acyclic := Graph.acyclic_of_ascends rfl

end Walkthrough.Engine
