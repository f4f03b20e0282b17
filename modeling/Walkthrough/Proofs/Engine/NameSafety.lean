import Walkthrough.Proofs.Engine.Defined
import Walkthrough.Proofs.RequestMaker.Causes
import Walkthrough.Proofs.Validation.Walk

/-!
# No name is undefined

A step that waits was entered with the names that it needs (`Waits`), so that its request is made and its
response judged without an expression that has no value (`Waits.converted`, `Waits.judged`). If the report
on a graph misses no name, then no run of the graph ends with such an expression
(`no_name_undefined`).
-/

namespace Walkthrough.Engine

section

variable {Req Res : Type} {values : Bindings Json} {r : Run Req Res}

/-! ## Responses -/

theorem namesOf_insert (b : Bindings Json) (name : String) (v : Json) :
    namesOf (b.insert name v).entries = insert name (namesOf b.entries) := by
  ext n
  simp only [namesOf, Bindings.insert, Bindings.map_fst_insertEntry, Set.mem_insert_iff,
    Set.mem_ofPred_eq]
  split
  · next hmem =>
    constructor
    · exact .inr
    · rintro (rfl | h)
      · exact hmem
      · exact h
  · simp only [List.mem_append, List.mem_singleton]
    exact or_comm

/-- Extractions that resolve have values, and what is extracted has their names. -/
theorem extract_names {c : Context} (hframes : c.frames ≠ []) {entries : List (String × String)}
    {f : Frame} (h : Readable entries (Bound c.values (f :: c.frames))) (extracted : Bindings Json) :
    ∃ f' extracted', extract .names c f extracted entries = .ok (f', extracted') ∧
      (∀ values frames, Bound values (f' :: frames) = Bound values (f :: frames) ∪ namesOf entries) ∧
      namesOf extracted'.entries = namesOf extracted.entries ∪ namesOf entries := by
  induction entries generalizing f extracted with
  | nil =>
      refine ⟨f, extracted, rfl, ?_, ?_⟩
      · intro values frames
        rw [namesOf_nil, Set.union_empty]
      · rw [namesOf_nil, Set.union_empty]
  | cons entry entries ih =>
      obtain ⟨name, e⟩ := entry
      obtain ⟨v, hv⟩ := names_value (some f) hframes h.1
      have hrest := h.2
      rw [← bound_insert (v := v)] at hrest
      obtain ⟨f', extracted', hextract, hbound, hnames⟩ := ih hrest (extracted.insert name v)
      refine ⟨f', extracted', ?_, ?_, ?_⟩
      · unfold extract Context.scopeWith
        rw [hv]
        exact hextract
      · intro values frames
        rw [hbound, bound_insert, union_namesOf_cons]
      · rw [hnames, namesOf_insert, union_namesOf_cons]

/-- Assertions that resolve have verdicts. -/
theorem judge_names {c : Context} (hframes : c.frames ≠ []) {f : Frame} {assertions : List String}
    (h : ∀ e ∈ assertions, e ∈ Bound c.values (f :: c.frames)) :
    ∃ outcomes, judge .names c f assertions = .ok outcomes := by
  induction assertions with
  | nil => exact ⟨[], rfl⟩
  | cons e assertions ih =>
      obtain ⟨outcomes, hjudge⟩ := ih fun e' he' => h e' (List.mem_cons_of_mem _ he')
      obtain ⟨b, hb⟩ := names_holds (some f) hframes (h e List.mem_cons_self)
      refine ⟨⟨e, b⟩ :: outcomes, ?_⟩
      unfold judge Context.scopeWith
      rw [hb]
      simp only [hjudge]

/-- A run that waits at a step was about to enter it, with the names that it needs. -/
def Waits (S : Setup Req Res) (values : Bindings Json) (r : Run Req Res) (p : Nat) (s : Step) : Prop :=
  ∃ r₀ : Run Req Res, Defined S.graph values r₀ ∧ r₀.At S p s ∧ r.context = r₀.context ∧
    r.cursors = (r₀.moveTo s.next).cursors

theorem Waits.needs {S : Setup Req Res} {p : Nat} {s : Step} (h : Waits S values r p s) :
    r.context.values = values ∧ r.context.frames ≠ [] ∧ ∃ inner other : Script,
      s.action.Resolves inner.Resolves other.Resolves (Bound values r.context.frames) := by
  obtain ⟨r₀, hdefined, hat, hcontext, _⟩ := h
  obtain ⟨inner, other, rest, henters⟩ := hdefined.enters hat
  rw [hcontext]
  exact ⟨hdefined.base, henters.frames, inner, other, henters.resolves⟩

/-- An exchange that is committed leaves names defined. -/
theorem Waits.committed {S : Setup Req Res} {p : Nat} {s : Step} (h : Waits S values r p s) {leaf : Leaf}
    (hleaf : s.action.leaf? = some leaf) (request : Req) (response : Res) {extracted : Bindings Json}
    (hnames : namesOf extracted.entries = namesOf leaf.extractions.entries) (node : Result.Node) :
    Defined S.graph values (commit r request response extracted node) := by
  obtain ⟨r₀, hdefined, hat, hcontext, hcursors⟩ := h
  obtain ⟨inner, other, rest, henters⟩ := hdefined.enters hat
  obtain ⟨⟨k, cursors, hcons⟩, hs⟩ := hat
  have hcovers := hdefined.covers
  rw [hcons] at hcovers
  obtain ⟨f, outer, hframes⟩ := hcovers.cons
  rw [hframes] at hcovers
  obtain ⟨f', hbind, hbound⟩ := bindAll_bound (hcontext ▸ hframes : r.context.frames = f :: outer)
    extracted.entries
  have hbinds : s.action.binds = namesOf leaf.extractions.entries := by simp [Action.binds, hleaf]
  have hleaves := henters.leaves
  rw [hframes, hbinds, ← hnames, ← hbound] at hleaves
  rw [moveTo_eq hcons] at hcursors
  have hrecorded : Defined S.graph values { r with
      context := (bindAll r.context extracted.entries).recordCompleted
      extractions := r.extractions.extend extracted } := by
    refine ⟨?_, ?_⟩
    · rw [hbind]
      change r.context.values = values
      rw [hcontext]
      exact hdefined.base
    · simp only [hbind, hcursors]
      exact ⟨⟨rest, henters.readsRest, hleaves⟩, hcovers.2⟩
  have hnode := hrecorded.record node
  exact ⟨hnode.base, hnode.covers⟩

end

section

variable {g : Graph} {values : Bindings Json} {m : RequestMaker} {limit : Nat}
  {r : Run Request Response}

/-- A response is taken with names defined, or rejected for another reason. -/
theorem Waits.judged {p : Nat} {s : Step} (h : Waits (namesSetup g m limit) values r p s)
    {request : Request} {response : Response} {answer : Except Error Unit} {r' : Run Request Response}
    (hjudged : Judged (namesSetup g m limit) r s request response (answer, r')) :
    NoUndefined answer ∧ (answer = .ok () → Defined g values r') := by
  obtain ⟨hbase, hframes, inner, other, hresolves⟩ := h.needs
  -- nothing is missing, so that extractions and assertions have values
  have hextracts : ∀ (leaf : Leaf) (exchange : Json × Json), s.action.leaf? = some leaf →
      ∃ f extracted, extract .names r.context (exchangeFrame exchange) .empty leaf.extractions.entries
          = .ok (f, extracted) ∧ namesOf extracted.entries = namesOf leaf.extractions.entries ∧
        ∃ outcomes, judge .names r.context f leaf.assertions = .ok outcomes := by
    intro leaf exchange hleaf
    obtain ⟨_, hreadable, hassertions⟩ := hresolves.leaf hleaf
    rw [← hbase, ← bound_exchangeFrame _ _ exchange] at hreadable
    obtain ⟨f, extracted, hextract, hbound, hnames⟩ := extract_names hframes hreadable .empty
    have hjudge : ∀ e ∈ leaf.assertions, e ∈ Bound r.context.values (f :: r.context.frames) := by
      intro e he
      rw [hbound, bound_exchangeFrame, Set.union_assoc, hbase]
      exact hassertions e he
    refine ⟨f, extracted, hextract, ?_, judge_names hframes hjudge⟩
    rw [hnames]
    simp [namesOf, Bindings.empty]
  cases hjudged with
  | noRequest => exact ⟨noUndefined_configuration _, fun h => absurd h (by simp)⟩
  | unwritten _ hjson => exact absurd hjson (by simp [exchangeJson, namesSetup, RequestMaker.converter])
  | @unextracted leaf exchange e hleaf _ hextract =>
      obtain ⟨f, extracted, hextract', _⟩ := hextracts leaf exchange hleaf
      exact absurd (hextract.symm.trans hextract') (by simp)
  | @unjudged leaf exchange f extracted e hleaf _ hextract hjudge =>
      obtain ⟨f', extracted', hextract', _, outcomes, hjudge'⟩ := hextracts leaf exchange hleaf
      obtain ⟨rfl, _⟩ := Prod.mk.inj (Except.ok.inj (hextract.symm.trans hextract'))
      exact absurd (hjudge.symm.trans hjudge') (by simp)
  | unmet => exact ⟨fun _ hfault => absurd hfault (by simp), fun h => absurd h (by simp)⟩
  | @met leaf exchange f extracted outcomes hleaf _ hextract _ _ =>
      obtain ⟨f', extracted', hextract', hnames, _⟩ := hextracts leaf exchange hleaf
      obtain ⟨_, rfl⟩ := Prod.mk.inj (Except.ok.inj (hextract.symm.trans hextract'))
      exact ⟨noUndefined_ok _, fun _ => h.committed hleaf request response hnames _⟩

/-- The request of a step that waits is made, or not for another reason. -/
theorem Waits.converted {p : Nat} {s : Step} (h : Waits (namesSetup g m limit) values r p s)
    (previous : Option (Exchange Request Response)) :
    NoUndefined (m.request .names s r.scope previous) := by
  obtain ⟨hbase, hframes, inner, other, hresolves⟩ := h.needs
  refine RequestMaker.noUndefined_request m s previous ?_
  intro e he
  cases hleaf : s.action.leaf? with
  | none =>
      rw [Action.requestExpressions_eq_nil hleaf] at he
      exact absurd he (by simp)
  | some leaf =>
      have hbound := (hresolves.leaf hleaf).1 e he
      rw [← hbase] at hbound
      exact names_value none hframes hbound

/-! ## Calls -/

/-- Between calls: a run that has not begun is over the base values, and a run that expects a response
waits with the names that it needs. -/
structure Safe (S : Setup Request Response) (values : Bindings Json) (r : Run Request Response) :
    Prop where
  created : r.phase = .created → r.context = .strict values ∧ r.cursors = []
  awaiting : r.phase = .awaiting → ∀ p made s, r.pending = some ⟨p, made⟩ →
    S.graph.step? p = some s → Waits S values r p s

theorem safe_start (S : Setup Request Response) (values : Bindings Json) :
    Safe S values (.start values) where
  created _ := ⟨rfl, rfl⟩
  awaiting h := absurd h (by simp [Run.start])

/-- A run that no call goes on with. -/
theorem safe_of_terminal {S : Setup Request Response} (h : r.phase.isTerminal = true) :
    Safe S values r where
  created hphase := by
    rw [hphase] at h
    exact absurd h (by simp [Phase.isTerminal])
  awaiting hphase := by
    rw [hphase] at h
    exact absurd h (by simp [Phase.isTerminal])

theorem defined_begin {script : Script} (hreads : g.Reads g.root script)
    (hresolves : script.Resolves (Bound values [])) (hcontext : r.context = .strict values)
    (hcursors : r.cursors = []) : Defined g values (begin (namesSetup g m limit) r) := by
  unfold begin
  rw [hcontext, hcursors]
  exact ⟨rfl, ⟨script, hreads, by rw [bound_empty]; exact hresolves⟩,
    fun _ hk => absurd hk (by simp), trivial⟩

theorem Defined.turns (h : Defined g values r) {r' : Run Request Response}
    (hturns : Turns (namesSetup g m limit) r r') : Defined g values r' :=
  hturns.keep (P := Defined g values) (fun _ _ h hturn => h.turned (turned_of_turn hturn)) h

theorem Defined.ends (h : Defined g values r) (hphase : r.phase = .awaiting)
    {answer : Except Error Unit} {r' : Run Request Response}
    (hends : Ends (namesSetup g m limit) r answer r') :
    NoUndefined answer ∧ Safe (namesSetup g m limit) values r' := by
  cases hends with
  | @wanted r₁ p hturn =>
      refine ⟨noUndefined_ok _, ?_, ?_⟩
      · intro hcreated
        have hphase₁ : r₁.phase = r.phase := congrArg Standing.phase (turn_standing hturn)
        exact absurd ((hphase₁.trans hphase).symm.trans hcreated) (by simp)
      · intro _ p' made s' hpending hs'
        obtain rfl : p = p' := congrArg Pending.place (Option.some.inj hpending)
        cases turned_of_turn hturn with
        | @want _ s hat _ =>
            obtain rfl : s = s' := Option.some.inj (hat.2.symm.trans hs')
            exact ⟨r, h, hat, moveTo_context _ _, rfl⟩
  | finished hturn => exact ⟨noUndefined_ok _, safe_of_terminal rfl⟩
  | failed hturn =>
      have hfailed := h.turned (turned_of_turn hturn)
      exact ⟨fun fault hfault => hfailed fault (Except.error.inj hfault), safe_of_terminal rfl⟩

theorem Safe.handed (h : Safe (namesSetup g m limit) values r) (hphase : r.phase = .awaiting)
    {answer : Except Error (Next Request)} {r' : Run Request Response}
    (hhanded : Handed (namesSetup g m limit) r answer r') :
    NoUndefined answer ∧ Safe (namesSetup g m limit) values r' := by
  cases hhanded with
  | nothing => exact ⟨noUndefined_ok _, h⟩
  | again => exact ⟨noUndefined_ok _, h⟩
  | @made p s request hpending hs hconvert =>
      refine ⟨noUndefined_ok _, fun hcreated => absurd (hphase.symm.trans hcreated) (by simp), ?_⟩
      intro _ p' made s' hpending' hs'
      obtain rfl : p = p' := congrArg Pending.place (Option.some.inj hpending')
      obtain ⟨r₀, hdefined, hat, hcontext, hcursors⟩ := h.awaiting hphase p none s' hpending hs'
      exact ⟨r₀, hdefined, hat, hcontext, hcursors⟩
  | @unmade p s e hpending hs hconvert =>
      refine ⟨?_, safe_of_terminal rfl⟩
      have hwaits := h.awaiting hphase p none s hpending hs
      intro fault hfault
      obtain rfl := Except.error.inj hfault
      exact hwaits.converted r.previous fault hconvert

theorem Safe.peeked {script : Script} (hreads : g.Reads g.root script)
    (hresolves : script.Resolves (Bound values [])) (h : Safe (namesSetup g m limit) values r)
    {answer : Except Error (Next Request)} {r' : Run Request Response}
    (hpeeked : Peeked (namesSetup g m limit) r answer r') :
    NoUndefined answer ∧ Safe (namesSetup g m limit) values r' := by
  cases hpeeked with
  | failed => exact ⟨fun _ hfault => absurd hfault (by simp), h⟩
  | done => exact ⟨noUndefined_ok _, h⟩
  | @begun r₁ r₂ _ _ hphase hturns hends hhanded =>
      obtain ⟨hcontext, hcursors⟩ := h.created hphase
      have hdefined := (defined_begin hreads hresolves hcontext hcursors).turns hturns
      have hphase₁ : r₁.phase = .awaiting := congrArg Standing.phase hturns.standing
      have hsafe := (hdefined.ends hphase₁ hends).2
      cases hends with
      | @wanted r₂ p hturn =>
          exact hsafe.handed ((congrArg Standing.phase (turn_standing hturn)).trans hphase₁) hhanded
      | finished hturn =>
          -- nothing waits at the end of the graph
          cases hhanded with
          | nothing => exact ⟨noUndefined_ok _, hsafe⟩
          | again hpending => exact absurd hpending (by simp [Run.finish])
          | made hpending => exact absurd hpending (by simp [Run.finish])
          | unmade hpending => exact absurd hpending (by simp [Run.finish])
  | @stopped r₁ _ e hphase hturns hends =>
      obtain ⟨hcontext, hcursors⟩ := h.created hphase
      have hdefined := (defined_begin hreads hresolves hcontext hcursors).turns hturns
      obtain ⟨hanswer, hsafe⟩ := hdefined.ends (congrArg Standing.phase hturns.standing) hends
      exact ⟨fun fault hfault => hanswer fault (congrArg _ (Except.error.inj hfault)), hsafe⟩
  | awaiting hphase hhanded => exact h.handed hphase hhanded

theorem Safe.resumed (h : Safe (namesSetup g m limit) values r) {request : Request}
    {response : Response} {answer : Except Error Unit} {r' : Run Request Response}
    (hresumed : Resumed (namesSetup g m limit) r request response answer r') :
    NoUndefined answer ∧ Safe (namesSetup g m limit) values r' := by
  cases hresumed with
  | refused hawaited =>
      obtain ⟨fault, rfl⟩ := awaited_eq_error hawaited
      exact ⟨fun _ hfault => absurd hfault (by simp), h⟩
  | @rejected p s e r₁ hawaited hcomplete =>
      obtain ⟨hphase, hs, expected, hpending, _⟩ := awaited_eq_ok_iff.1 hawaited
      have hjudged := judged_of_complete hcomplete
      have hwaits := h.awaiting hphase p _ s hpending hs
      exact ⟨(hwaits.judged hjudged).1, safe_of_terminal rfl⟩
  | @taken p s r₁ r₂ _ _ hawaited hcomplete hturns hends =>
      obtain ⟨hphase, hs, expected, hpending, _⟩ := awaited_eq_ok_iff.1 hawaited
      have hjudged := judged_of_complete hcomplete
      have hwaits := h.awaiting hphase p _ s hpending hs
      have hdefined := ((hwaits.judged hjudged).2 rfl).turns hturns
      have hphase₁ : r₁.phase = r.phase := by
        cases hjudged
        exact record_phase _ _
      have hphase₂ : r₂.phase = r₁.phase := congrArg Standing.phase hturns.standing
      exact hdefined.ends (hphase₂.trans (hphase₁.trans hphase)) hends

theorem Safe.called {script : Script} (hreads : g.Reads g.root script)
    (hresolves : script.Resolves (Bound values [])) (h : Safe (namesSetup g m limit) values r)
    {fuel : Nat} {c : Call Request Response} {answer : Except Error (Option (Next Request))}
    {r' : Run Request Response} (hcall : call (namesSetup g m limit) fuel r c = .ok (answer, r')) :
    NoUndefined answer ∧ Safe (namesSetup g m limit) values r' := by
  cases c with
  | peek =>
      obtain ⟨a, hpeek, rfl⟩ := peek_of_call hcall
      obtain ⟨hanswer, hsafe⟩ := h.peeked hreads hresolves (peeked_of_peek hpeek)
      exact ⟨hanswer.map _, hsafe⟩
  | resume request response =>
      obtain ⟨a, hresume, rfl⟩ := resume_of_call hcall
      obtain ⟨hanswer, hsafe⟩ := h.resumed (resumed_of_resume hresume)
      exact ⟨hanswer.map _, hsafe⟩

theorem Reachable.safe {script : Script} (hreads : g.Reads g.root script)
    (hresolves : script.Resolves (Bound values []))
    (h : Reachable (namesSetup g m limit) values r) : Safe (namesSetup g m limit) values r := by
  induction h with
  | start => exact safe_start _ values
  | call _ hcall ih => exact (ih.called hreads hresolves hcall).2

end

/-- **Names.** Over a graph that was built and whose links do not run in a circle there is a report; if it
misses no name, no call answers that an expression has no value, wherever requests go, however often a
chain may be repeated, and whatever calls were made before. -/
theorem no_name_undefined (steps : Array Step) (root : Option Nat) (g : Graph)
    (built : Graph.build steps root = .ok g) (acyclic : g.Acyclic) (values : Bindings Json) :
    ∃ report, Validation.validate .names g values = some report ∧
      (report.missing = [] → ∀ (m : RequestMaker) (limit : Nat) (r : Run Request Response),
        Reachable (namesSetup g m limit) values r → ∀ fuel c answer r',
          call (namesSetup g m limit) fuel r c = .ok (answer, r') →
            ∀ fault, answer ≠ .error (.expression fault)) := by
  have sound : g.Sound := ((Graph.build_eq_ok_iff steps root g).1 built).2
  obtain ⟨script, hscript⟩ := sound.exists_script acyclic
  have hreads := Graph.reads_of_scriptFrom hscript
  obtain ⟨report, hreport⟩ := Validation.validate_returns .names hscript values
  refine ⟨report, hreport, ?_⟩
  intro hmissing m limit r hreachable fuel c answer r' hcall
  have hresolves := Validation.script_resolves hreads hreport hmissing
  exact ((hreachable.safe hreads hresolves).called hreads hresolves hcall).1

/-- The pages of the gallery on the web. -/
def webValues : Bindings Json :=
  .ofList [("pages", .array [.string "http://a.test/1", .string "http://a.test/2"]),
    ("start", .string "http://a.test/")]

set_option maxRecDepth 100000 in
/-- The report on the gallery misses nothing; its first page is asked for and taken. -/
theorem gallery_names_defined :
    Graph.build gallerySteps (some 0) = .ok gallery.graph ∧ gallery.graph.Acyclic ∧
      ∃ report, Validation.validate .names gallery.graph webValues = some report ∧
        report.missing = [] ∧
      ∃ r answer r', call (namesSetup gallery.graph .plain 10) 4 (.start webValues) .peek
          = .ok (.ok (some (.request 1 "open" (Request.get "http://a.test/1"))), r) ∧
        call (namesSetup gallery.graph .plain 10) 4 r
            (.resume (Request.get "http://a.test/1") (.new 200)) = .ok (answer, r') ∧
          ∀ fault, answer ≠ .error (.expression fault) := by
  obtain ⟨report, hreport, hnames⟩ :=
    no_name_undefined gallerySteps (some 0) gallery.graph rfl gallery_acyclic webValues
  have hmissing : report.missing = [] := by
    obtain rfl : _ = report := Option.some.inj hreport
    rfl
  have hcalls : ∃ r answer r', call (namesSetup gallery.graph .plain 10) 4 (.start webValues) .peek
        = .ok (.ok (some (.request 1 "open" (Request.get "http://a.test/1"))), r) ∧
      call (namesSetup gallery.graph .plain 10) 4 r
          (.resume (Request.get "http://a.test/1") (.new 200)) = .ok (answer, r') :=
    ⟨_, _, _, rfl, rfl⟩
  obtain ⟨r, answer, r', hpeek, hresume⟩ := hcalls
  exact ⟨rfl, gallery_acyclic, report, hreport, hmissing, r, answer, r', hpeek, hresume,
    hnames hmissing .plain 10 r (.call .start hpeek) 4 _ answer r' hresume⟩

end Walkthrough.Engine
