import Walkthrough.Proofs.RequestMaker.Hygiene

/-!
# Where headers come from

A request has some headers before its step sets its own (`BaseHeaders`): those that say what its body is, or
those of the previous request, of which some do not follow a redirect. The step then sets its own, one after
the other and under names without capitals, so that of names that differ in case only the last counts
(`applyHeaders_sets`). So every header of a request that was made is one of the step or one from before
(`headers_derived`), and what was there before keeps its order and comes first.
-/

namespace Walkthrough

open Text (asciiLowercase IsLower)

/-! ## Entries under a name -/

/-- The value of the last entry under a name, of which the case does not matter. -/
def lastNamed {α : Type} (name : String) (entries : List (String × α)) : Option α :=
  (entries.reverse.find? fun e => asciiLowercase e.1 = asciiLowercase name).map Prod.snd

/-- What is found in related lists is related, if related entries are looked for alike. -/
theorem rel_find? {α β : Type} {R : α → β → Prop} {p : α → Bool} {q : β → Bool} {xs : List α}
    {ys : List β} (h : List.Forall₂ R xs ys) (halike : ∀ x y, R x y → p x = q y) :
    Option.Rel R (xs.find? p) (ys.find? q) := by
  induction h with
  | nil => exact .none
  | @cons x y xs ys hxy _ ih =>
    rw [List.find?_cons, List.find?_cons, halike x y hxy]
    cases q y with
    | true => exact .some hxy
    | false => exact ih

theorem Bindings.merges_self {α : Type} (b : Bindings α) : b.Merges b.entries := by
  have hsame : ofList b.entries = b := Bindings.ext (entries_ofList b.nodup)
  have hmerges := merges_ofList b.entries
  rw [hsame] at hmerges
  exact hmerges

/-- Names without capitals are found under the lower case of a name. -/
theorem lastNamed_of_lower {α : Type} {entries : List (String × α)}
    (hlower : ∀ e ∈ entries, IsLower e.1) (name : String) :
    lastNamed name entries =
      (entries.reverse.find? fun e => e.1 = asciiLowercase name).map Prod.snd := by
  unfold lastNamed
  congr 1
  apply List.find?_congr
  intro e he
  rw [(hlower e (List.mem_reverse.1 he)).asciiLowercase_eq]

namespace RequestMaker

variable {m : RequestMaker} {ev : Evaluator} {step : Step} {s : Scope} {previous : Option WebExchange}

/-! ## Before the step sets its own -/

/-- The body of a visit is written as JSON: it has a value, which is neither null nor a string. -/
def JsonBody (ev : Evaluator) (s : Scope) (body : Option String) : Prop :=
  ∃ e v, body = some e ∧ ev.value e s = .ok v ∧ v ≠ .null ∧ ∀ text, v ≠ .string text

/-- A header follows a redirect: it is not stripped, and it does not say what a body is that is left out. -/
def Follows (m : RequestMaker) (status : UInt16) (name : String) : Prop :=
  (∀ strip ∈ m.stripped, asciiLowercase strip ≠ asciiLowercase name) ∧
    (status = 307 ∨ status = 308 ∨ (name ≠ "content-type" ∧ name ≠ "content-length"))

instance (m : RequestMaker) (status : UInt16) (name : String) : Decidable (m.Follows status name) :=
  inferInstanceAs (Decidable (_ ∧ _))

/-- The headers of a request before its step sets its own, in order. -/
inductive BaseHeaders (m : RequestMaker) (ev : Evaluator) (s : Scope) (previous : Option WebExchange) :
    Action → List (String × String) → Prop
  | json {url method body leaf} : JsonBody ev s body →
      BaseHeaders m ev s previous (.visit url method body leaf) [("content-type", "application/json")]
  | text {url method body leaf} : ¬ JsonBody ev s body →
      BaseHeaders m ev s previous (.visit url method body leaf) []
  | click {link leaf} : BaseHeaders m ev s previous (.click link leaf) []
  | reload {leaf e} : previous = some e →
      BaseHeaders m ev s previous (.reload leaf) e.request.headers.entries
  | follow {leaf e} : previous = some e →
      BaseHeaders m ev s previous (.follow leaf)
        (e.request.headers.entries.filter fun h => m.Follows e.response.status h.1)

theorem withBodyValue_headers (method address : String) {e : String} {v : Json}
    (hvalue : ev.value e s = .ok v) (url : String) (verb : Option String) (leaf : Leaf) :
    BaseHeaders m ev s previous (.visit url verb (some e) leaf)
      (withBodyValue (Request.new method address) v).headers.entries := by
  have hbody : JsonBody ev s (some e) ↔ v ≠ .null ∧ ∀ text, v ≠ .string text := by
    constructor
    · rintro ⟨e', v', he, hv', hjson⟩
      obtain rfl := Option.some.inj he
      obtain rfl := Except.ok.inj (hvalue.symm.trans hv')
      exact hjson
    · intro hjson
      exact ⟨e, v, rfl, hvalue, hjson⟩
  cases v with
  | null => exact .text (by rw [hbody]; simp)
  | string text => exact .text (by rw [hbody]; simp)
  | bool | number | array | object => exact .json (hbody.2 (by simp))

theorem visit_headers (url : String) (method body : Option String) (leaf : Leaf) :
    Returns (fun r => BaseHeaders m ev s previous (.visit url method body leaf) r.headers.entries)
      (m.visit ev step s previous url method body) := by
  unfold visit
  refine .next fun target => .next fun address => ?_
  extract_lets go
  have hgo : ∀ verb, Returns
      (fun r => BaseHeaders m ev s previous (.visit url method body leaf) r.headers.entries) (go verb) := by
    intro verb
    simp only [go]
    split
    · exact returns_error _
    · cases body with
      | none =>
        refine returns_ok (.text ?_)
        rintro ⟨e, v, he, _⟩
        exact absurd he (by simp)
      | some e =>
        refine Returns.bind (P := fun v => ev.value e s = .ok v) (fun v hv => hv) fun v hv => ?_
        exact returns_ok (withBodyValue_headers _ _ hv _ _ _)
  cases method with
  | none => exact .next hgo
  | some e => exact .next hgo

/-- Removing headers leaves the others in their order. -/
theorem entries_foldl_removeHeader (names : List String) (r : Request) :
    (names.foldl Request.removeHeader r).headers.entries =
      r.headers.entries.filter fun h => ∀ removed ∈ names, h.1 ≠ asciiLowercase removed := by
  induction names generalizing r with
  | nil => simp
  | cons name names ih =>
    rw [List.foldl_cons, ih, Request.removeHeader, Bindings.erase, List.filter_filter]
    apply List.filter_congr
    intro h _
    simp only [List.mem_cons, forall_eq_or_imp]
    by_cases hname : h.1 = asciiLowercase name <;> simp [hname]

/-- The headers that say what the body is are left out unless the status keeps the body. -/
theorem entries_redirected (status : UInt16) (r : Request) :
    (if keepsMethod status then r
      else (({ r with method := "GET", body := none }).removeHeader "content-type").removeHeader
        "content-length").headers.entries =
      r.headers.entries.filter fun h =>
        status = 307 ∨ status = 308 ∨ (h.1 ≠ "content-type" ∧ h.1 ≠ "content-length") := by
  have htype : asciiLowercase "content-type" = "content-type" := by decide
  have hlength : asciiLowercase "content-length" = "content-length" := by decide
  by_cases hkeeps : status = 307 ∨ status = 308
  · have hall : ∀ h : String × String,
        status = 307 ∨ status = 308 ∨ (h.1 ≠ "content-type" ∧ h.1 ≠ "content-length") := by
      intro h
      exact hkeeps.imp_right .inl
    rw [if_pos (by simpa [keepsMethod] using hkeeps)]
    simp only [hall, decide_true, List.filter_true]
  · rw [if_neg (by simpa [keepsMethod] using hkeeps)]
    rw [not_or] at hkeeps
    simp only [Request.removeHeader, Bindings.erase, htype, hlength, List.filter_filter, hkeeps, false_or]
    apply List.filter_congr
    intro h _
    by_cases h.1 = "content-type" <;> by_cases h.1 = "content-length" <;> simp [*]

/-- What is left of the headers of a request when a redirect is followed. -/
theorem entries_followed (status : UInt16) {r : Request} (hlower : ∀ name ∈ r.headers.keys, IsLower name) :
    (m.stripped.foldl Request.removeHeader
      (if keepsMethod status then r
        else (({ r with method := "GET", body := none }).removeHeader "content-type").removeHeader
          "content-length")).headers.entries =
      r.headers.entries.filter fun h => m.Follows status h.1 := by
  rw [entries_foldl_removeHeader, entries_redirected, List.filter_filter]
  apply List.filter_congr
  intro h hmem
  -- a name without capitals is its own lower case
  have hname := (hlower h.1 (List.mem_map_of_mem hmem)).asciiLowercase_eq
  simp only [Follows, hname, ne_comm, Bool.decide_and]

theorem follow_headers (hlower : ∀ e, previous = some e → ∀ name ∈ e.request.headers.keys, IsLower name)
    (leaf : Leaf) :
    Returns (fun r => BaseHeaders m ev s previous (.follow leaf) r.headers.entries)
      (m.follow step previous) := by
  refine need_returns.bind fun e he => ?_
  have hfiltered : ∀ headers, headers = (e.request.headers.entries.filter fun h =>
      m.Follows e.response.status h.1) → BaseHeaders m ev s previous (.follow leaf) headers := by
    rintro headers rfl
    exact .follow he
  split
  · exact returns_error _
  · refine .next fun address => returns_ok (hfiltered _ ?_)
    exact entries_followed (r := { e.request with url := address }) e.response.status (hlower e he)

/-- The headers of a request before its step sets its own. -/
theorem base_headers (hlower : ∀ e, previous = some e → ∀ name ∈ e.request.headers.keys, IsLower name) :
    Returns (fun r => BaseHeaders m ev s previous step.action r.headers.entries)
      (m.base ev step s previous) := by
  unfold base
  cases step.action with
  | visit url method body leaf => exact visit_headers url method body leaf
  | click link leaf => exact .next fun _ => .next fun _ => .next fun _ => returns_ok .click
  | reload leaf =>
    intro r hr
    obtain ⟨e, he, rfl⟩ := map_eq_ok hr
    exact .reload (need_returns e he)
  | follow leaf => exact follow_headers hlower leaf
  | empty | block | each | repeated | choice => exact returns_error _

theorem BaseHeaders.lower {action : Action} {headers : List (String × String)}
    (h : BaseHeaders m ev s previous action headers)
    (hlower : ∀ e, previous = some e → ∀ name ∈ e.request.headers.keys, IsLower name) :
    ∀ header ∈ headers, IsLower header.1 := by
  cases h with
  | json =>
    intro header hheader
    rw [List.mem_singleton.1 hheader]
    exact Text.isLower_asciiLowercase "content-type"
  | text => simp
  | click => simp
  | @reload leaf e he =>
    intro header hheader
    exact hlower e he header.1 (List.mem_map_of_mem hheader)
  | @follow leaf e he =>
    intro header hheader
    exact hlower e he header.1 (List.mem_map_of_mem (List.mem_filter.1 hheader).1)

/-! ## The headers of the step -/

/-- A header is set by an entry of a step: its name has no capitals, and its text is the value of the entry as
it is displayed. -/
def Sets (ev : Evaluator) (s : Scope) (own header : String × String) : Prop :=
  header.1 = asciiLowercase own.1 ∧ ∃ v, ev.value own.2 s = .ok v ∧ header.2 = v.display

/-- The headers of a step are set one after the other: they are merged with those from before. -/
theorem applyHeaders_sets {headers before : List (String × String)} {r : Request}
    (h : r.headers.Merges before) :
    Returns (fun r' => ∃ set, List.Forall₂ (Sets ev s) headers set ∧ r'.headers.Merges (before ++ set))
      (applyHeaders ev s headers r) := by
  induction headers generalizing r before with
  | nil =>
    refine returns_ok ⟨[], .nil, ?_⟩
    rw [List.append_nil]
    exact h
  | cons own headers ih =>
    obtain ⟨name, e⟩ := own
    refine Returns.bind (P := fun text => ∃ v, ev.value e s = .ok v ∧ v.display = text)
      (fun text htext => map_eq_ok htext) ?_
    rintro text ⟨v, hv, rfl⟩ r' hr'
    have hset : (r.setHeader name v.display).headers.Merges
        (before ++ [(asciiLowercase name, v.display)]) := h.insert _ _
    obtain ⟨set, hsets, hmerges⟩ := ih hset r' hr'
    rw [List.append_assoc] at hmerges
    exact ⟨_ :: set, .cons ⟨rfl, v, hv, rfl⟩ hsets, hmerges⟩

theorem lower_of_sets {headers set : List (String × String)} (h : List.Forall₂ (Sets ev s) headers set) :
    ∀ header ∈ set, IsLower header.1 := by
  induction h with
  | nil => simp
  | @cons own header _ _ hown _ ih =>
    intro other hother
    rcases List.mem_cons.1 hother with rfl | hother
    · rw [hown.1]
      exact Text.isLower_asciiLowercase own.1
    · exact ih other hother

/-- What the last entry of a step under a name sets is the last header that is set under it. -/
theorem lastNamed_sets {headers set : List (String × String)} (h : List.Forall₂ (Sets ev s) headers set)
    (name : String) :
    Option.Rel (fun e text => ∃ v, ev.value e s = .ok v ∧ text = v.display)
      (lastNamed name headers) (lastNamed name set) := by
  have hfound : Option.Rel (Sets ev s)
      (headers.reverse.find? fun e => asciiLowercase e.1 = asciiLowercase name)
      (set.reverse.find? fun e => asciiLowercase e.1 = asciiLowercase name) := by
    refine rel_find? (List.forall₂_reverse_iff.2 h) ?_
    rintro own header ⟨hname, _⟩
    rw [hname, (Text.isLower_asciiLowercase own.1).asciiLowercase_eq]
  unfold lastNamed
  generalize headers.reverse.find? _ = own at hfound
  generalize set.reverse.find? _ = header at hfound
  cases hfound with
  | none => exact .none
  | some hsets => exact .some hsets.2

/-! ## All headers -/

/-- Where the headers of a request come from: a name that the step has is that of a header of the step, the
last under it, and any other that of a header from before; those come first, in their order. -/
structure Derived (ev : Evaluator) (s : Scope) (leaf : Leaf) (before : List (String × String))
    (r : Request) : Prop where
  own : ∀ name e, lastNamed name leaf.headers.entries = some e →
    ∃ v, ev.value e s = .ok v ∧ r.header? name = some v.display
  inherited : ∀ name, lastNamed name leaf.headers.entries = none →
    r.header? name = lastNamed name before
  first : before.map Prod.fst <+: r.headers.keys
  lower : ∀ name ∈ r.headers.keys, IsLower name

/-- The names of merged headers: those from before, then those that are new. -/
theorem prefix_of_merges {α : Type} {b : Bindings α} {before set : List (String × α)}
    (h : b.Merges (before ++ set)) (hnodup : (before.map Prod.fst).Nodup) :
    before.map Prod.fst <+: b.keys := by
  have hdistinct : (before.map Prod.fst).eraseDups = before.map Prod.fst := by
    rw [← (Bindings.merges_ofList before).keys, Bindings.keys, Bindings.entries_ofList hnodup]
  rw [h.keys, List.map_append, List.eraseDups_append, hdistinct]
  exact List.prefix_append _ _

theorem derived_of_merges {leaf : Leaf} {before set : List (String × String)} {r : Request}
    (hnodup : (before.map Prod.fst).Nodup) (hlower : ∀ header ∈ before, IsLower header.1)
    (hsets : List.Forall₂ (Sets ev s) leaf.headers.entries set) (h : r.headers.Merges (before ++ set)) :
    Derived ev s leaf before r := by
  have hset := lower_of_sets hsets
  have hheader : ∀ name, r.header? name = (lastNamed name set).or (lastNamed name before) := by
    intro name
    rw [lastNamed_of_lower hset, lastNamed_of_lower hlower, Request.header?, h.values, List.reverse_append,
      List.find?_append, Option.map_or]
  refine ⟨fun name e hown => ?_, fun name hnone => ?_, prefix_of_merges h hnodup, fun name hname => ?_⟩
  · have hrel := lastNamed_sets hsets name
    rw [hown] at hrel
    rw [hheader]
    generalize lastNamed name set = text at hrel
    cases hrel with
    | some hvalue =>
      obtain ⟨v, hv, rfl⟩ := hvalue
      exact ⟨v, hv, rfl⟩
  · have hrel := lastNamed_sets hsets name
    rw [hnone] at hrel
    rw [hheader]
    generalize lastNamed name set = text at hrel
    cases hrel with
    | none => rfl
  · rw [h.keys, List.mem_eraseDups, List.map_append, List.mem_append] at hname
    rcases hname with hname | hname
    · obtain ⟨header, hheader, rfl⟩ := List.mem_map.1 hname
      exact hlower header hheader
    · obtain ⟨header, hheader, rfl⟩ := List.mem_map.1 hname
      exact hset header hheader

/-- **Headers.** If a request is made, and the names of the headers of the previous one have no capitals, then
its header under a name, of which the case does not matter, displays the value of the last entry that the step
has under the name; if there is none, it is the one from before the step set its own: for a visit the content
type of JSON, exactly if its body has a value that is neither null nor a string; for a link none; for a request
that is repeated those of the previous; and for one that follows a redirect those of the previous that are not
stripped, without content type and content length unless the status keeps the body. What was there before comes
first and keeps its order. -/
theorem headers_derived (m : RequestMaker) (ev : Evaluator) (step : Step) (s : Scope)
    (previous : Option WebExchange)
    (hlower : ∀ e, previous = some e → ∀ name ∈ e.request.headers.keys, IsLower name)
    {leaf : Leaf} (hleaf : step.action.leaf? = some leaf) {r : Request}
    (hconvert : m.converter.convert ev step s previous = .ok r) :
    ∃ before, BaseHeaders m ev s previous step.action before ∧ Derived ev s leaf before r := by
  obtain ⟨base, hbase, hset⟩ := bind_eq_ok (show m.request ev step s previous = .ok r from hconvert)
  have hheaders := base_headers hlower base hbase
  simp only [hleaf] at hset
  obtain ⟨set, hsets, hmerges⟩ := applyHeaders_sets base.headers.merges_self r hset
  exact ⟨base.headers.entries, hheaders,
    derived_of_merges base.headers.nodup (hheaders.lower hlower) hsets hmerges⟩

/-! ## A small setting -/

/-- A page that was sent a text and answered that it moved. -/
def movedExchange : WebExchange where
  request := ⟨"POST", "http://a.test/", .ofList [("accept", "old"), ("x-profiling-uuid", "trace"),
    ("content-type", "text/plain"), ("cookie", "jar")], some "sent"⟩
  response := (Response.new 302).setHeader "Location" "/new"

/-- A step that follows the redirect; two of its headers differ in case only, and one is stripped otherwise. -/
def movedLeaf : Leaf :=
  ⟨.ofList [("X-Profiling-UUID", "tag"), ("Accept", "kind"), ("ACCEPT", "other")], .empty, []⟩

def movedScope : Scope :=
  (Context.strict (.ofList [("tag", .string "own"), ("kind", .string "text"), ("other", .null)])).scope

set_option maxRecDepth 100000 in
/-- The cookie is what is left of the headers from before; the last of the two names counts. -/
theorem moved_headers :
    ∃ r, RequestMaker.plain.converter.convert .names ⟨"go", none, .follow movedLeaf, none⟩ movedScope
        (some movedExchange) = .ok r ∧
      r.headers.entries = [("accept", ""), ("cookie", "jar"), ("x-profiling-uuid", "own")] ∧
      ∃ before, BaseHeaders .plain .names movedScope (some movedExchange) (.follow movedLeaf) before ∧
        Derived .names movedScope movedLeaf before r := by
  have hmade : ∃ r, RequestMaker.plain.converter.convert .names ⟨"go", none, .follow movedLeaf, none⟩
        movedScope (some movedExchange) = .ok r ∧
      r.headers.entries = [("accept", ""), ("cookie", "jar"), ("x-profiling-uuid", "own")] := ⟨_, rfl, rfl⟩
  obtain ⟨r, hconvert, hentries⟩ := hmade
  have hlower : ∀ e, some movedExchange = some e → ∀ name ∈ e.request.headers.keys, IsLower name := by
    rintro e ⟨⟩
    intro name hname
    obtain ((rfl | rfl) | rfl) | rfl : ((name = "accept" ∨ name = "x-profiling-uuid") ∨
        name = "content-type") ∨ name = "cookie" := by
      simpa [movedExchange, Bindings.ofList] using hname
    · exact Text.isLower_asciiLowercase "Accept"
    · exact Text.isLower_asciiLowercase "X-Profiling-UUID"
    · exact Text.isLower_asciiLowercase "Content-Type"
    · exact Text.isLower_asciiLowercase "Cookie"
  exact ⟨r, hconvert, hentries, headers_derived .plain .names _ movedScope _ hlower rfl hconvert⟩

end RequestMaker

end Walkthrough
