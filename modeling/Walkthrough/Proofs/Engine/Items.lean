import Walkthrough.Proofs.Engine.Isolation
import Walkthrough.Proofs.Fallible
import Walkthrough.Proofs.Graph.WellFormed
import Walkthrough.Proofs.Result.Passes

/-!
# The items of a loop

A loop takes its items from the value that its collection has when the loop is entered. It goes through the
first at once and through each of the others when its chain is at its end, with any number of turns and calls,
and of other containers, in between. At every moment until then the iterations that are recorded and the items
that are left are those of the value, one after the other (`Iterating`).

* `lists_of_itemsOf` — what the items of a value are;
* `Iterating.turned` — a turn brings record, items that are left and frame forward together, or none of them;
* `Iterating.happens` — and nothing else touches them (`Proceeds`);
* `items_complete` — so that none is lost, goes twice or finds the frame of another.
-/

namespace Walkthrough.Engine

open Result (Facts Pass Node)

variable {Req Res : Type} {S : Setup Req Res} {values : Bindings Json} {r r' outer : Run Req Res}
variable {p : Nat} {s : Step} {f : Facts} {collection key value : String} {child : Option Nat}
variable {done left : List (Json × Json)}

/-! ## Items -/

/-- The items of a value, each a key and a value, in order: the elements of a list with the keys 0, 1, 2 and so
on, or the members of an object with their names. -/
def Lists : Json → List (Json × Json) → Prop
  | .array elements, items =>
    items.map Prod.fst = (List.range elements.length).map Json.ofNat ∧ items.map Prod.snd = elements
  | .object members, items =>
    items.map Prod.fst = members.map (fun m => .string m.1) ∧ items.map Prod.snd = members.map Prod.snd
  | _, _ => False

theorem map_fst_keyed {α β : Type} (key : Nat → β) (elements : List α) :
    (elements.zipIdx.map fun (v, i) => (key i, v)).map Prod.fst = (List.range elements.length).map key := by
  have hkeys : elements.zipIdx.map (Prod.fst ∘ fun (v, i) => (key i, v)) =
      elements.zipIdx.map (key ∘ Prod.snd) := List.map_congr_left fun ⟨_, _⟩ _ => rfl
  rw [List.map_map, hkeys, ← List.map_map, List.zipIdx_map_snd, List.range_eq_range']

theorem map_snd_keyed {α β : Type} (key : Nat → β) (elements : List α) :
    (elements.zipIdx.map fun (v, i) => (key i, v)).map Prod.snd = elements := by
  rw [List.map_map]
  exact List.zipIdx_map_fst 0 elements

theorem lists_of_itemsOf {v : Json} {items : List (Json × Json)} (h : itemsOf s v = .ok items) :
    Lists v items := by
  unfold itemsOf at h
  split at h
  · next elements =>
    obtain rfl := Except.ok.inj h
    exact ⟨map_fst_keyed Json.ofNat elements, map_snd_keyed Json.ofNat elements⟩
  · next members =>
    obtain rfl := Except.ok.inj h
    rw [Lists, List.map_map, List.map_map]
    exact ⟨rfl, rfl⟩
  · exact absurd h (by simp)

/-- The iterations that go through some items. -/
def passesOf (items : List (Json × Json)) : List Pass := items.map fun item => ⟨some item.1, some item.2⟩

theorem passesOf_append (items : List (Json × Json)) (item : Json × Json) :
    passesOf (items ++ [item]) = passesOf items ++ [⟨some item.1, some item.2⟩] := by
  unfold passesOf
  rw [List.map_append, List.map_singleton]

/-- The frame of an item binds its key and its value, and nothing else. -/
theorem entries_itemFrame (hnames : key ≠ value) (item : Json × Json) :
    (itemFrame key value item).entries = [(key, item.1), (value, item.2)] := by
  simp [itemFrame, Bindings.insert, Bindings.insertEntry, Bindings.empty, hnames]

/-! ## Loops that are open -/

/-- Around some cursors stands that of the loop at a place: its record has the iterations of the items that are
done, and some are left. Further in there are containers only. -/
inductive Stack (below : List Cursor) (p : Nat) (f : Facts) (done left : List (Json × Json)) :
    List Cursor → Prop
  | loop {position n} : n.facts = f → n.passes = passesOf done →
      Stack below p f done left (⟨position, some ⟨p, .items left, n⟩⟩ :: below)
  | inside {position c rest} : Stack below p f done left rest →
      Stack below p f done left (⟨position, some c⟩ :: rest)

/-- The loop at a place is open, and what is around it is as in another run. -/
structure Iterating (outer : Run Req Res) (p : Nat) (f : Facts) (done left : List (Json × Json))
    (r : Run Req Res) : Prop where
  stack : Stack outer.cursors p f done left r.cursors
  results : r.results = outer.results

/-- A chain begins in a frame that is open over those of another run, and binds the names of the loop to the key
and value of one item. -/
structure Starts (outer : Run Req Res) (key value : String) (child : Option Nat) (item : Json × Json)
    (r : Run Req Res) : Prop where
  cursor : ∃ c, r.cursors = ⟨child, some c⟩ :: outer.cursors
  frame : ∃ g : Frame, g.entries = [(key, item.1), (value, item.2)] ∧
    r.context.frames = g :: outer.context.frames

/-- The loop is closed, and its record is with the records of the run around it. -/
def Closes (outer : Run Req Res) (f : Facts) (done : List (Json × Json)) (r : Run Req Res) : Prop :=
  ∃ n : Node, n.facts = f ∧ n.passes = passesOf done ∧ r.cursors = (outer.record n).cursors ∧
    r.results = (outer.record n).results

/-- What becomes of an open loop at once. -/
inductive Proceeds (outer : Run Req Res) (p : Nat) (f : Facts) (key value : String) (child : Option Nat)
    (done left : List (Json × Json)) (r : Run Req Res) : Prop
  | stays : Iterating outer p f done left r → Proceeds outer p f key value child done left r
  | begins {item left'} : left = item :: left' → Iterating outer p f (done ++ [item]) left' r →
      Starts outer key value child item r → Proceeds outer p f key value child done left r
  | closes : left = [] → Closes outer f done r → Proceeds outer p f key value child done left r

theorem Stack.length {below cursors : List Cursor} (h : Stack below p f done left cursors) :
    below.length < cursors.length := by
  induction h with
  | loop => exact Nat.lt_succ_self _
  | inside _ ih => exact Nat.lt_succ_of_lt ih

theorem record_congr (hcursors : r.cursors = r'.cursors) (hresults : r.results = r'.results) (n : Node) :
    (r.record n).cursors = (r'.record n).cursors ∧ (r.record n).results = (r'.record n).results := by
  unfold Run.record
  rw [hcursors]
  split
  · exact ⟨rfl, hresults⟩
  · exact ⟨rfl, congrArg (· ++ [n]) hresults⟩

theorem length_record (r : Run Req Res) (n : Node) : (r.record n).cursors.length = r.cursors.length := by
  rw [← length_homes, homes_record, length_homes]

theorem length_moveTo (r : Run Req Res) (next : Option Nat) :
    (r.moveTo next).cursors.length = r.cursors.length := by
  rw [← length_homes, homes_moveTo, length_homes]

namespace Iterating

theorem congr (h : Iterating outer p f done left r) (hcursors : r'.cursors = r.cursors)
    (hresults : r'.results = r.results) : Iterating outer p f done left r' :=
  ⟨hcursors ▸ h.stack, hresults.trans h.results⟩

/-- The innermost chain is that of a container. -/
theorem innermost (h : Iterating outer p f done left r) :
    ∃ position c rest, r.cursors = ⟨position, some c⟩ :: rest := by
  obtain ⟨hstack, _⟩ := h
  generalize r.cursors = cursors at hstack
  cases hstack with
  | loop => exact ⟨_, _, _, rfl⟩
  | inside => exact ⟨_, _, _, rfl⟩

/-- The innermost chain goes on, and what is left to do in its container and the record of its iterations stay. -/
theorem replace (h : Iterating outer p f done left r) {position position' : Option Nat} {c : Container}
    {n : Node} {rest : List Cursor} (hcursors : r.cursors = ⟨position, some c⟩ :: rest)
    (hcursors' : r'.cursors = ⟨position', some { c with node := n }⟩ :: rest)
    (hresults : r'.results = r.results) (hfacts : n.facts = c.node.facts)
    (hpasses : n.passes = c.node.passes) : Iterating outer p f done left r' := by
  obtain ⟨hstack, hsame⟩ := h
  refine ⟨?_, hresults.trans hsame⟩
  rw [hcursors] at hstack
  rw [hcursors']
  cases hstack with
  | loop hf hp => exact .loop (hfacts.trans hf) (hpasses.trans hp)
  | inside hrest => exact .inside hrest

theorem moveTo (h : Iterating outer p f done left r) (next : Option Nat) :
    Iterating outer p f done left (r.moveTo next) := by
  obtain ⟨position, c, rest, hcursors⟩ := h.innermost
  rw [moveTo_eq hcursors]
  exact h.replace (n := c.node) hcursors rfl rfl rfl rfl

theorem record (h : Iterating outer p f done left r) (n : Node) :
    Iterating outer p f done left (r.record n) := by
  obtain ⟨position, c, rest, hcursors⟩ := h.innermost
  have hrecord : r.record n =
      { r with cursors := ⟨position, some { c with node := c.node.pushChild n }⟩ :: rest } := by
    unfold Run.record
    rw [hcursors]
  rw [hrecord]
  exact h.replace hcursors rfl rfl (Node.facts_pushChild _ _) (Node.passes_pushChild _ _)

theorem openContainer (h : Iterating outer p f done left r) (head : Option Nat) (c : Container) (g : Frame) :
    Iterating outer p f done left (r.openContainer head c g) :=
  ⟨.inside h.stack, h.results⟩

/-- At the end of a chain further in, that one is closed; and at the end of its own, the loop. -/
theorem close (h : Iterating outer p f done left r) {c : Container} {rest : List Cursor}
    (hcursors : r.cursors = ⟨none, some c⟩ :: rest) :
    Iterating outer p f done left r.close ∨
      (c.place = p ∧ c.control = .items left ∧ Closes outer f done r.close) := by
  obtain ⟨hstack, hresults⟩ := h
  have hclose : r.close = Run.record { r with context := r.context.pop, cursors := rest } c.node := by
    unfold Run.close
    rw [hcursors]
  rw [hclose]
  rw [hcursors] at hstack
  cases hstack with
  | @loop _ n hfacts hpasses =>
    let around : Run Req Res := { r with context := r.context.pop, cursors := outer.cursors }
    have hcursors' : around.cursors = outer.cursors := rfl
    exact .inr ⟨rfl, rfl, n, hfacts, hpasses, record_congr hcursors' hresults n⟩
  | inside hrest =>
    have hinner : Iterating outer p f done left { r with context := r.context.pop, cursors := rest } :=
      ⟨hrest, hresults⟩
    exact .inl (hinner.record c.node)

end Iterating

/-! ## Everything that happens -/

theorem Proceeds.congr {r₁ : Run Req Res} (h : Proceeds outer p f key value child done left r₁)
    (hcursors : r'.cursors = r₁.cursors) (hresults : r'.results = r₁.results)
    (hcontext : r'.context = r₁.context) : Proceeds outer p f key value child done left r' := by
  cases h with
  | stays hopen => exact .stays (hopen.congr hcursors hresults)
  | begins hleft hopen hstarts =>
    obtain ⟨hcursor, hframe⟩ := hstarts
    refine .begins hleft (hopen.congr hcursors hresults) ⟨?_, ?_⟩
    · rw [hcursors]
      exact hcursor
    · rw [hcontext]
      exact hframe
  | closes hleft hcloses =>
    obtain ⟨n, hfacts, hpasses, hsame, hsame'⟩ := hcloses
    exact .closes hleft ⟨n, hfacts, hpasses, hcursors.trans hsame, hresults.trans hsame'⟩

/-- A turn goes through the next item with all that belongs to it, or leaves the loop as it is; and it closes the
loop only if nothing is left. -/
theorem Iterating.turned (h : Iterating outer p f done left r) (hs : S.graph.step? p = some s)
    (haction : s.action = .each collection key value child) (hnames : key ≠ value)
    (hframes : r.cursors.length = outer.cursors.length + 1 → r.context.frames.tail = outer.context.frames)
    {t : Turn Req Res} (hturn : Turned S r t) : Proceeds outer p f key value child done left t.run := by
  cases hturn with
  | finish => exact .stays h
  | want => exact .stays (h.moveTo _)
  | skip => exact .stays ((h.moveTo _).record _)
  | enterBlock => exact .stays ((h.moveTo _).openContainer _ _ _)
  | failBlock => exact .stays (h.moveTo _)
  | passEach => exact .stays ((h.moveTo _).record _)
  | enterEach => exact .stays ((h.moveTo _).openContainer _ _ _)
  | failEach => exact .stays (h.moveTo _)
  | passRepeated => exact .stays ((h.moveTo _).record _)
  | enterRepeated => exact .stays ((h.moveTo _).openContainer _ _ _)
  | failRepeated => exact .stays (h.moveTo _)
  | enterChoice => exact .stays ((h.moveTo _).openContainer _ _ _)
  | failChoice => exact .stays (h.moveTo _)
  | closeTop hcursors =>
    obtain ⟨position, c, rest, hcursors'⟩ := h.innermost
    exact absurd (hcursors.symm.trans hcursors') (by simp)
  | @closeContainer c s' rest hend hspent =>
    rcases h.close hend.1 with hopen | ⟨hplace, hcontrol, hcloses⟩
    · exact .stays hopen
    · -- with an item left, the loop would go on
      obtain rfl : s = s' := Option.some.inj (hs.symm.trans (hplace ▸ hend.2))
      refine .closes ?_ hcloses
      cases left with
      | nil => rfl
      | cons item left' =>
        unfold Spent at hspent
        rw [hcontrol, haction] at hspent
        exact hspent.elim
  | @nextItem c s' rest collection' key' value' child' item items hend hcontrol haction' =>
    obtain ⟨hstack, hresults⟩ := h
    rw [hend.1] at hstack
    cases hstack with
    | inside hrest => exact .stays ⟨.inside hrest, hresults⟩
    | loop hfacts hpasses =>
      -- the loop itself goes on: its next item is done now, and its frame is over those around the loop
      obtain rfl := Control.items.inj hcontrol
      obtain rfl : s = s' := Option.some.inj (hs.symm.trans hend.2)
      obtain ⟨rfl, rfl, rfl, rfl⟩ := Action.each.inj (haction.symm.trans haction')
      have houter : r.context.frames.tail = outer.context.frames := hframes (by rw [hend.1, List.length_cons])
      refine .begins rfl ⟨.loop (by rw [Node.facts_beginIteration, hfacts]) ?_, hresults⟩ ⟨⟨_, rfl⟩, ?_⟩
      · rw [Node.passes_beginIteration, hpasses, passesOf_append]
      · exact ⟨itemFrame key value item, entries_itemFrame hnames item, congrArg (_ :: ·) houter⟩
  | @nextRound c s' rest condition child' n hend hcontrol =>
    obtain ⟨hstack, hresults⟩ := h
    rw [hend.1] at hstack
    cases hstack with
    | inside hrest => exact .stays ⟨.inside hrest, hresults⟩
    | loop => exact absurd hcontrol (by simp)
  | failRound => exact .stays h
  | exceed => exact .stays h

/-- What comes of an exchange is recorded further in, or with the iteration of the loop. -/
theorem Iterating.judged (h : Iterating outer p f done left r) {s : Step} {request : Req} {response : Res}
    {result : Except Error Unit × Run Req Res} (hjudged : Judged S r s request response result) :
    Iterating outer p f done left result.2 := by
  cases hjudged with
  | noRequest => exact h
  | unwritten => exact h
  | unextracted => exact h
  | unjudged => exact h
  | unmet => exact h.record _
  | @met leaf exchange g extracted outcomes =>
    let kept : Run Req Res := { r with
      context := (bindAll r.context extracted.entries).recordCompleted
      extractions := r.extractions.extend extracted }
    have hkept : Iterating outer p f done left kept := h.congr rfl rfl
    exact (hkept.record (exchangeNode s exchange extracted outcomes)).congr rfl rfl

/-- Whatever happens to a run, its loops that are open proceed. -/
theorem Iterating.happens (h : Iterating outer p f done left r) (hs : S.graph.step? p = some s)
    (haction : s.action = .each collection key value child) (hnames : key ≠ value)
    (hframes : r.cursors.length = outer.cursors.length + 1 → r.context.frames.tail = outer.context.frames)
    (hsettled : Settled S r) (hhappens : Happens S r r') :
    Proceeds outer p f key value child done left r' := by
  have turned : ∀ {t}, turn S r = .ok t → Proceeds outer p f key value child done left t.run :=
    fun hturn => h.turned hs haction hnames hframes (turned_of_turn hturn)
  cases hhappens with
  | begun hphase =>
    -- nothing is open in a run that has not begun
    have hbalanced := hsettled.balanced fun hadvances => absurd (hphase.symm.trans hadvances.1) (by simp)
    obtain ⟨position, c, rest, hcursors⟩ := h.innermost
    exact absurd (hcursors.symm.trans (hbalanced.created hphase).1) (by simp)
  | turned _ hturn => exact turned hturn
  | stopped _ hends =>
    cases hends with
    | wanted hturn => exact (turned hturn).congr rfl rfl rfl
    | finished hturn => exact (turned hturn).congr rfl rfl rfl
    | failed hturn => exact (turned hturn).congr rfl rfl rfl
  | made => exact .stays (h.congr rfl rfl)
  | unmade => exact .stays (h.congr rfl rfl)
  | taken _ hcomplete => exact .stays (h.judged (judged_of_complete hcomplete))
  | rejected _ hcomplete => exact .stays ((h.judged (judged_of_complete hcomplete)).congr rfl rfl)

/-! ## While a loop is open -/

/-- In the innermost container one frame is open over those around it. -/
theorem Encloses.tail_frames (h : Encloses r p r') (hinnermost : r'.cursors.length = r.cursors.length + 1) :
    r'.context.frames.tail = r.context.frames := by
  obtain ⟨⟨opened, inner, hhomes, hframes, hlength⟩, _⟩ := h
  have hdepth := congrArg List.length hhomes
  rw [List.length_append, List.length_cons, length_homes, length_homes] at hdepth
  have hsingle : inner.length = 1 := by omega
  obtain ⟨g, rfl⟩ := List.length_eq_one_iff.1 hsingle
  rw [hframes]
  rfl

/-- As long as a loop is open, the items that are done and those that are left are together the same. -/
theorem Iterating.along (sound : S.graph.Sound) (h : Iterating outer p f done left r)
    (hmoment : Moment S values r) (hs : S.graph.step? p = some s)
    (haction : s.action = .each collection key value child) (hnames : key ≠ value)
    (hframes : ∀ r', Within S outer.cursors.length r r' → r'.cursors.length = outer.cursors.length + 1 →
      r'.context.frames.tail = outer.context.frames)
    (hwithin : Within S outer.cursors.length r r') :
    ∃ done' left', done' ++ left' = done ++ left ∧ Iterating outer p f done' left' r' := by
  induction hwithin with
  | refl => exact ⟨done, left, rfl, h⟩
  | @tail r₁ r₂ hbefore hstep ih =>
    obtain ⟨done', left', hsame, hopen⟩ := ih
    have hsettled := (Within.moment hbefore hmoment).settled sound
    cases hopen.happens hs haction hnames (hframes r₁ hbefore) hsettled hstep.1 with
    | stays hstill => exact ⟨done', left', hsame, hstill⟩
    | @begins item left'' hleft hnext =>
      refine ⟨done' ++ [item], left'', ?_, hnext⟩
      rw [List.append_assoc, List.singleton_append, ← hleft]
      exact hsame
    | closes _ hcloses =>
      -- then no more chains are open than around the loop
      obtain ⟨n, _, _, hcursors, _⟩ := hcloses
      have hdeeper := hstep.2
      rw [hcursors, length_record] at hdeeper
      exact absurd hdeeper (Nat.lt_irrefl _)

/-- A loop is entered with the items of the value of its collection: it opens with the first, or is over. -/
theorem turn_of_each (hat : r.At S p s) (haction : s.action = .each collection key value child)
    (hturn : turn S r = .ok (.on r')) :
    ∃ v items, S.evaluator.value collection r.scope = .ok v ∧ Lists v items ∧
      (items = [] → r' = (r.moveTo s.next).record (.ofStep s)) ∧
      ∀ item rest, items = item :: rest → r' = (r.moveTo s.next).openContainer child
        ⟨p, .items rest, (Node.ofStep s).beginIteration (some item.1) (some item.2)⟩
        (itemFrame key value item) := by
  have hon : enter S (r.moveTo s.next) p s = .on r' :=
    Except.ok.inj ((turn_of_at hat).symm.trans hturn)
  unfold enter at hon
  simp only [haction, Run.scope, moveTo_context] at hon
  split at hon
  · exact absurd hon (by simp)
  · next hitems =>
    obtain ⟨v, hvalue, hlists⟩ := bind_eq_ok hitems
    refine ⟨v, [], hvalue, lists_of_itemsOf hlists, fun _ => (Turn.on.inj hon).symm, ?_⟩
    intro item rest hcons
    exact absurd hcons (by simp)
  · next item rest hitems =>
    obtain ⟨v, hvalue, hlists⟩ := bind_eq_ok hitems
    refine ⟨v, item :: rest, hvalue, lists_of_itemsOf hlists, fun hnil => absurd hnil (by simp), ?_⟩
    intro item' rest' hcons
    obtain ⟨rfl, rfl⟩ := List.cons.inj hcons
    exact (Turn.on.inj hon).symm

/-- **Items.** A loop that is entered has the items of the value that its collection has then, and is over at
once if there are none. Otherwise it begins with the first, and at every moment until it is closed, the items
whose iterations are recorded and those that are left are these, in order, whatever happens in the meantime.
Each time it goes on it is with the next of them, whose iteration begins at the first step of its chain, in a
frame that binds its names to the key and the value of that item and nothing else; and when it is closed, it
has gone through all. -/
theorem items_complete (S : Setup Req Res) (steps : Array Step) (root : Option Nat)
    (built : Graph.build steps root = .ok S.graph) {values : Bindings Json} {r r₁ : Run Req Res}
    (h : Moment S values r) (hadvances : r.Advances) {p : Nat} {s : Step} (hat : r.At S p s)
    {collection key value : String} {child : Option Nat}
    (haction : s.action = .each collection key value child) (hturn : turn S r = .ok (.on r₁)) :
    ∃ v items, S.evaluator.value collection r.scope = .ok v ∧ Lists v items ∧
      (items = [] → r₁ = (r.moveTo s.next).record (.ofStep s)) ∧
      ∀ item rest, items = item :: rest →
        Iterating (r.moveTo s.next) p (Node.ofStep s).facts [item] rest r₁ ∧
        Starts (r.moveTo s.next) key value child item r₁ ∧
        ∀ r₂, Within S r.cursors.length r₁ r₂ →
          (∃ done left, done ++ left = items ∧
            Iterating (r.moveTo s.next) p (Node.ofStep s).facts done left r₂ ∧
            ∀ r₃, Happens S r₂ r₃ →
              Proceeds (r.moveTo s.next) p (Node.ofStep s).facts key value child done left r₃) ∧
          ∀ r₃, Happens S r₂ r₃ → r₃.cursors.length ≤ r.cursors.length →
            Closes (r.moveTo s.next) (Node.ofStep s).facts items r₃ := by
  have sound := ((Graph.build_eq_ok_iff steps root S.graph).1 built).2
  have hnames := sound.loop_names hat.2 haction
  have hhappens : Happens S r r₁ := .turned hadvances hturn
  have hmoment : Moment S values r₁ := h.tail hhappens
  have hdepth : (r.moveTo s.next).cursors.length = r.cursors.length := length_moveTo r s.next
  obtain ⟨v, items, hvalue, hlists, hover, hentered⟩ := turn_of_each hat haction hturn
  refine ⟨v, items, hvalue, hlists, hover, ?_⟩
  intro item rest hitems
  have hopened := hentered item rest hitems
  have hiterating : Iterating (r.moveTo s.next) p (Node.ofStep s).facts [item] rest r₁ := by
    rw [hopened]
    exact ⟨.loop rfl rfl, rfl⟩
  have hstarts : Starts (r.moveTo s.next) key value child item r₁ := by
    rw [hopened]
    exact ⟨⟨_, rfl⟩, itemFrame key value item, entries_itemFrame hnames item, rfl⟩
  refine ⟨hiterating, hstarts, ?_⟩
  -- around the loop everything stays, so that it is innermost in a frame over those that it was entered in
  have hdeeper : r.cursors.length < r₁.cursors.length := hdepth ▸ hiterating.stack.length
  have hencloses := (hhappens.shifts (h.settled sound)).encloses hat hdeeper
  have hframes : ∀ r', Within S (r.moveTo s.next).cursors.length r₁ r' →
      r'.cursors.length = (r.moveTo s.next).cursors.length + 1 →
      r'.context.frames.tail = (r.moveTo s.next).context.frames := by
    intro r' hwithin hinnermost
    rw [hdepth] at hwithin hinnermost
    rw [moveTo_context]
    exact (hencloses.along sound hmoment hwithin).tail_frames hinnermost
  intro r₂ hwithin
  have hsettled := (hwithin.moment hmoment).settled sound
  rw [← hdepth] at hwithin
  obtain ⟨done, left, hsame, hopen⟩ :=
    hiterating.along sound hmoment hat.2 haction hnames hframes hwithin
  have hproceeds := fun r₃ (hnext : Happens S r₂ r₃) =>
    hopen.happens hat.2 haction hnames (hframes r₂ hwithin) hsettled hnext
  refine ⟨⟨done, left, hsame.trans hitems.symm, hopen, hproceeds⟩, fun r₃ hnext hclosed => ?_⟩
  rw [← hdepth] at hclosed
  cases hproceeds r₃ hnext with
  | stays hstill => exact absurd hstill.stack.length (Nat.not_lt_of_le hclosed)
  | begins _ hstill => exact absurd hstill.stack.length (Nat.not_lt_of_le hclosed)
  | closes hleft hcloses =>
    obtain rfl : done = items := by
      rw [hitems, ← List.append_nil done, ← hleft]
      exact hsame
    exact hcloses

/-- After the first page of the gallery was answered, what is recorded and what is left are the two pages. -/
theorem gallery_items :
    ∃ r r₁ r₂, Moment gallery galleryValues r ∧ turn gallery r = .ok (.on r₁) ∧ Within gallery 1 r₁ r₂ ∧
      ∃ done left, done ++ left = [(.ofNat 0, .string "/a"), (.ofNat 1, .string "/b")] ∧
        Iterating (r.moveTo (some 2)) 0 (Node.ofStep gallerySteps[0]).facts done left r₂ := by
  have hruns : ∃ r₁ wanting asked r₂, turn gallery (begin gallery (.start galleryValues)) = .ok (.on r₁) ∧
      Happens gallery r₁ wanting ∧ Happens gallery wanting asked ∧ Happens gallery asked r₂ ∧
      wanting.cursors.length = 2 ∧ asked.cursors.length = 2 ∧ r₂.cursors.length = 2 :=
    ⟨_, _, _, _, rfl, .stopped ⟨rfl, rfl⟩ (.wanted rfl), .made rfl rfl rfl,
      .taken (show awaited gallery _ "/a" = _ from rfl) (show complete gallery _ _ _ "first" = _ from rfl),
      rfl, rfl, rfl⟩
  obtain ⟨r₁, wanting, asked, r₂, h₁, hwanting, hasked, h₂, hlengthW, hlengthA, hlength₂⟩ := hruns
  have hbegun : Moment gallery galleryValues (begin gallery (.start galleryValues)) := .single (.begun rfl)
  have hat : (begin gallery (.start galleryValues)).At gallery 0 gallerySteps[0] := ⟨⟨none, [], rfl⟩, rfl⟩
  have hwithin : Within gallery 1 r₁ r₂ :=
    ((Relation.ReflTransGen.single ⟨hwanting, by rw [hlengthW]; decide⟩).tail
      ⟨hasked, by rw [hlengthA]; decide⟩).tail ⟨h₂, by rw [hlength₂]; decide⟩
  obtain ⟨v, items, hvalue, hlists, _, hopen⟩ :=
    items_complete gallery gallerySteps (some 0) rfl hbegun ⟨rfl, rfl⟩ hat rfl h₁
  obtain rfl : Json.array [.string "/a", .string "/b"] = v := Except.ok.inj hvalue
  obtain ⟨hkeys, hpages⟩ := hlists
  obtain rfl : items = [(.ofNat 0, .string "/a"), (.ofNat 1, .string "/b")] := List.zip_of_prod hkeys hpages
  obtain ⟨⟨done, left, hsame, hiterating, _⟩, _⟩ := (hopen _ _ rfl).2.2 r₂ hwithin
  exact ⟨_, r₁, r₂, hbegun, h₁, hwithin, done, left, hsame, hiterating⟩

end Walkthrough.Engine
