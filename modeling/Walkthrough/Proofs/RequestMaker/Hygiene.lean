import Mathlib
import Walkthrough.Proofs.Engine.Lineage
import Walkthrough.Proofs.Fallible
import Walkthrough.Proofs.Merging
import Walkthrough.RequestMaker

/-!
# Clean requests

A request is clean if it has a method and distinct names of headers without capitals (`Request.Clean`).
A request that is made after a clean one is clean (`RequestMaker.request_clean`), and so are all that are
the same as a clean one (`Request.Clean.of_same`): every request of a line of exchanges is clean, and no
response and no request that a caller passes back can change that (`clean_of_descends`).

As names have no capitals, a header that is stripped is found under the name it has in the list of
stripped headers, whatever its case. So a request that follows a redirect has none of them but those that
its own step sets (`RequestMaker.followed_request`).
-/

namespace Walkthrough

/-! ## Letters -/

namespace Text

/-- A text without capital ASCII letters. -/
def IsLower (s : String) : Prop := ∀ c ∈ s.toList, c.isUpper = false

theorem isLower_asciiLowercase (s : String) : IsLower (asciiLowercase s) := by
  intro c hc
  rw [asciiLowercase, String.toList_ofList] at hc
  obtain ⟨d, _, rfl⟩ := List.mem_map.1 hc
  exact Char.isUpper_toLower_eq_false d

theorem IsLower.asciiLowercase_eq {s : String} (h : IsLower s) : asciiLowercase s = s := by
  have hsame : s.toList.map Char.toLower = s.toList := by
    refine (List.map_congr_left fun c hc => ?_).trans (List.map_id _)
    rw [Char.toLower_eq_of_not_isUpper (Bool.not_eq_true _ ▸ h c hc), id]
  rw [asciiLowercase, hsame, String.ofList_toList]

/-- No character has an empty upper case. -/
theorem upperChar_ne_nil (c : Char) : upperChar c ≠ [] := by
  rw [upperChar]
  split
  · simp
  · split
    · rename_i ns hlong
      obtain ⟨before, after, hrow, _⟩ := List.lookup_eq_some_iff.1 hlong
      have hmem : (c.toNat, ns) ∈ longUpper := by simp [hrow]
      have hall : ∀ row ∈ longUpper, row.2 ≠ [] := by decide
      simpa using hall _ hmem
    · simp

theorem uppercase_ne_empty {s : String} (h : s ≠ "") : uppercase s ≠ "" := by
  rw [uppercase, Ne, String.ofList_eq_empty_iff, List.flatMap_eq_nil_iff]
  intro hnone
  cases hchars : s.toList with
  | nil => exact h (String.toList_eq_nil_iff.1 hchars)
  | cons c rest => exact upperChar_ne_nil c (hnone c (by simp [hchars]))

end Text

/-! ## Requests -/

/-- A request that has a method, and distinct names of headers without capitals. -/
structure Request.Clean (r : Request) : Prop where
  method : r.method ≠ ""
  distinct : r.headers.keys.Nodup
  lower : ∀ name ∈ r.headers.keys, Text.IsLower name

namespace Request

variable {r a b : Request}

theorem clean_new {method url : String} (h : method ≠ "") : (Request.new method url).Clean :=
  ⟨Text.uppercase_ne_empty h, Bindings.nodup_keys _, fun _ hname => absurd hname (by simp [Request.new])⟩

theorem Clean.setHeader (h : r.Clean) (name value : String) : (r.setHeader name value).Clean := by
  refine ⟨h.method, Bindings.nodup_keys _, fun other hother => ?_⟩
  rcases Bindings.mem_keys_insert.1 hother with hother | rfl
  · exact h.lower other hother
  · exact Text.isLower_asciiLowercase name

theorem Clean.removeHeader (h : r.Clean) (name : String) : (r.removeHeader name).Clean :=
  ⟨h.method, Bindings.nodup_keys _, fun other hother =>
    h.lower other (Bindings.mem_keys_erase.1 hother).1⟩

theorem Clean.withBody (h : r.Clean) (body : String) : (r.withBody body).Clean :=
  ⟨h.method, h.distinct, h.lower⟩

theorem Clean.foldl_removeHeader (h : r.Clean) (names : List String) :
    (names.foldl Request.removeHeader r).Clean := by
  induction names generalizing r with
  | nil => exact h
  | cons name names ih => exact ih (h.removeHeader name)

/-- Requests that are the same have the same names of headers: all of the first are among those of the
second, which has no more. -/
theorem keys_of_same (h : Request.same a b = true) : a.headers.keys.Perm b.headers.keys := by
  simp only [Request.same, Bool.and_eq_true, beq_iff_eq, List.all_eq_true] at h
  obtain ⟨⟨-, hlength⟩, hfound⟩ := h
  have hsubset : a.headers.keys ⊆ b.headers.keys := by
    intro name hname
    obtain ⟨entry, hentry, rfl⟩ := List.mem_map.1 hname
    have hfind := hfound entry hentry
    by_contra hmissing
    exact absurd (hfind.symm.trans (Bindings.findEntry_eq_none hmissing)) (by simp)
  refine (List.subperm_of_subset a.headers.nodup_keys hsubset).perm_of_length_le ?_
  simp [Bindings.keys, hlength]

theorem Clean.of_same (h : a.Clean) (hsame : Request.same a b = true) : b.Clean := by
  have hkeys := keys_of_same hsame
  simp only [Request.same, Bool.and_eq_true, beq_iff_eq] at hsame
  exact ⟨hsame.1.1.1.1 ▸ h.method, b.headers.nodup_keys, fun name hname =>
    h.lower name (hkeys.mem_iff.2 hname)⟩

theorem mem_keys_foldl_removeHeader {names : List String} {name : String} :
    name ∈ (names.foldl Request.removeHeader r).headers.keys ↔
      name ∈ r.headers.keys ∧ ∀ removed ∈ names, name ≠ Text.asciiLowercase removed := by
  induction names generalizing r with
  | nil => simp
  | cons removed names ih => simp [ih, Request.removeHeader, and_assoc]

@[simp] theorem foldl_removeHeader_method (names : List String) :
    (names.foldl Request.removeHeader r).method = r.method := by
  induction names generalizing r with
  | nil => rfl
  | cons name names ih => exact ih

@[simp] theorem foldl_removeHeader_body (names : List String) :
    (names.foldl Request.removeHeader r).body = r.body := by
  induction names generalizing r with
  | nil => rfl
  | cons name names ih => exact ih

end Request

/-! ## Making requests -/

namespace RequestMaker

variable {m : RequestMaker} {ev : Evaluator} {step : Step} {s : Scope} {previous : Option WebExchange}

/-- The request of an exchange is clean, if there is one. -/
def CleanBefore (previous : Option WebExchange) : Prop := ∀ e, previous = some e → e.request.Clean

theorem withBodyValue_clean {r : Request} (h : r.Clean) (v : Json) : (withBodyValue r v).Clean := by
  cases v with
  | null => exact h
  | string body => exact h.withBody body
  | bool | number | array | object => exact (h.withBody _).setHeader _ _

theorem need_returns : Returns (fun e => previous = some e) (need step previous) := by
  cases previous with
  | none => exact returns_error _
  | some e => exact returns_ok rfl

theorem visit_clean (url : String) (method body : Option String) :
    Returns Request.Clean (m.visit ev step s previous url method body) := by
  unfold visit
  refine .next fun target => .next fun address => ?_
  extract_lets go
  have hgo : ∀ method', Returns Request.Clean (go method') := by
    intro method'
    simp only [go]
    split
    · exact returns_error _
    · rename_i hmethod
      have hnew : (Request.new (Text.trim method') address).Clean :=
        Request.clean_new fun hempty => hmethod (by simp [hempty])
      cases body with
      | none => exact returns_ok hnew
      | some e => exact .next fun v => returns_ok (withBodyValue_clean hnew v)
  cases method with
  | none => exact .next hgo
  | some e => exact .next hgo

theorem click_clean (link : String) : Returns Request.Clean (click ev step s previous link) :=
  .next fun _ => .next fun _ => .next fun _ => returns_ok (Request.clean_new (by decide))

theorem follow_clean (h : CleanBefore previous) :
    Returns Request.Clean (m.follow step previous) := by
  refine need_returns.bind fun e he => ?_
  have hprevious := h e he
  split
  · exact returns_error _
  · refine .next fun address => returns_ok (Request.Clean.foldl_removeHeader ?_ _)
    have hmoved : ({ e.request with url := address } : Request).Clean :=
      ⟨hprevious.method, hprevious.distinct, hprevious.lower⟩
    split
    · exact hmoved
    · refine Request.Clean.removeHeader (Request.Clean.removeHeader ?_ _) _
      exact ⟨show "GET" ≠ "" by decide, hmoved.distinct, hmoved.lower⟩

theorem applyHeaders_clean {headers : List (String × String)} {r : Request} (h : r.Clean) :
    Returns Request.Clean (applyHeaders ev s headers r) := by
  induction headers generalizing r with
  | nil => exact returns_ok h
  | cons header headers ih => exact .next fun shown => ih (h.setHeader header.1 shown)

theorem base_clean (h : CleanBefore previous) : Returns Request.Clean (m.base ev step s previous) := by
  unfold base
  cases step.action with
  | visit url method body leaf => exact visit_clean url method body
  | click link leaf => exact click_clean link
  | reload leaf =>
    intro r hr
    obtain ⟨e, he, rfl⟩ := map_eq_ok hr
    exact h e (need_returns e he)
  | follow leaf => exact follow_clean h
  | empty | block | each | repeated | choice => exact returns_error _

/-- A request that is made after a clean one is clean. -/
theorem request_clean (h : CleanBefore previous) :
    Returns Request.Clean (m.request ev step s previous) := by
  refine (base_clean h).bind fun r hr => ?_
  split
  · exact applyHeaders_clean hr
  · exact returns_ok hr

/-! ## Following redirects -/

/-- A request that follows a redirect: a header that is stripped is there only if the step sets it
itself, and unless the status keeps them, the method is that of looking a page up, and there is no
body. -/
structure Followed (m : RequestMaker) (leaf : Leaf) (e : WebExchange) (r : Request) : Prop where
  stripped : ∀ name ∈ r.headers.keys, ∀ strip ∈ m.stripped,
    Text.asciiLowercase name = Text.asciiLowercase strip →
      ∃ own ∈ leaf.headers.keys, Text.asciiLowercase own = Text.asciiLowercase name
  redirected : e.response.status ≠ 307 → e.response.status ≠ 308 → r.method = "GET" ∧ r.body = none

/-- Before the step sets its headers there is none that is stripped. -/
theorem follow_returns : Returns (fun r => ∃ e, previous = some e ∧
      (∀ name ∈ r.headers.keys, ∀ strip ∈ m.stripped, name ≠ Text.asciiLowercase strip) ∧
      (keepsMethod e.response.status = false → r.method = "GET" ∧ r.body = none))
    (m.follow step previous) := by
  refine need_returns.bind fun e he => ?_
  split
  · exact returns_error _
  · refine .next fun address => returns_ok ⟨e, he, fun name hname => ?_, fun hkeeps => ?_⟩
    · exact (Request.mem_keys_foldl_removeHeader.1 hname).2
    · simp [hkeeps, Request.removeHeader]

/-- Setting headers changes neither method nor body, and all names that are new are set. -/
theorem applyHeaders_returns {headers : List (String × String)} {r : Request} :
    Returns (fun r' => r'.method = r.method ∧ r'.body = r.body ∧ ∀ name ∈ r'.headers.keys,
        name ∈ r.headers.keys ∨ ∃ own ∈ headers.map Prod.fst, name = Text.asciiLowercase own)
      (applyHeaders ev s headers r) := by
  induction headers generalizing r with
  | nil => exact returns_ok ⟨rfl, rfl, fun _ hname => .inl hname⟩
  | cons header headers ih =>
    refine .next fun shown r' hr' => ?_
    obtain ⟨hmethod, hbody, hnames⟩ := ih r' hr'
    refine ⟨hmethod, hbody, fun name hname => ?_⟩
    rcases hnames name hname with hset | ⟨own, hown, hname⟩
    · rcases Bindings.mem_keys_insert.1 hset with hold | hnew
      · exact .inl hold
      · exact .inr ⟨header.1, List.mem_cons_self, hnew⟩
    · exact .inr ⟨own, List.mem_cons_of_mem _ hown, hname⟩

/-- A clean request that is made to follow a redirect. -/
theorem request_followed {leaf : Leaf} (haction : step.action = .follow leaf)
    (h : CleanBefore previous) :
    Returns (fun r => ∃ e, previous = some e ∧ Followed m leaf e r)
      (m.request ev step s previous) := by
  intro r hr
  have hclean := request_clean h r hr
  simp only [request, base, haction, Action.leaf?] at hr
  obtain ⟨followed, hfollowed, hr⟩ := bind_eq_ok hr
  obtain ⟨e, he, hstripped, hkeeps⟩ := follow_returns followed hfollowed
  obtain ⟨hmethod, hbody, hnames⟩ := applyHeaders_returns r hr
  refine ⟨e, he, fun name hname strip hstrip hlike => ?_, fun hmoved hpermanent => ?_⟩
  · -- a clean name is its own lower case, so the lower case of what is stripped is the name itself
    rw [(hclean.lower name hname).asciiLowercase_eq] at hlike ⊢
    rcases hnames name hname with hold | ⟨own, hown, rfl⟩
    · exact absurd hlike (hstripped name hold strip hstrip)
    · exact ⟨own, hown, rfl⟩
  · rw [hmethod, hbody]
    exact hkeeps (by simp [keepsMethod, hmoved, hpermanent])

end RequestMaker

/-! ## Lines of exchanges and runs -/

namespace Engine

open RequestMaker

variable {m : RequestMaker} {S : Setup Request Response} {previous : Option (Exchange Request Response)}

/-- All requests of a line of exchanges are clean, also those that a caller passed back. -/
theorem clean_of_descends (hS : S.converter = m.converter) (h : Descends S previous) :
    CleanBefore previous := by
  induction h with
  | first => exact fun _ he => absurd he (by simp)
  | @next previous place s made request response _ hmade hsame ih =>
    intro e he
    obtain rfl := Option.some.inj he
    obtain ⟨_, scope, hconvert⟩ := hmade
    rw [hS] at hconvert hsame
    exact (request_clean ih made hconvert).of_same hsame

/-- Every request that a run hands out is clean. If its step follows a redirect, headers that are
stripped are there only if the step sets them, and method and body are those of the request that was
redirected only if the status keeps them. -/
theorem requests_clean (m : RequestMaker) (g : Graph) (ev : Evaluator) (limit : Nat)
    {values : Bindings Json} {r r' : Run Request Response} {fuel place : Nat} {uuid : String}
    {request : Request} (h : Reachable ⟨g, ev, m.converter, limit⟩ values r)
    (hpeek : call ⟨g, ev, m.converter, limit⟩ fuel r .peek
      = .ok (.ok (some (.request place uuid request)), r')) :
    request.Clean ∧ ∃ s, g.step? place = some s ∧ s.uuid = uuid ∧
      ∀ leaf, s.action = .follow leaf → ∃ e, r'.previous = some e ∧ Followed m leaf e request := by
  obtain ⟨s, huuid, ⟨hs, scope, hconvert⟩, hdescends⟩ := made_of_peek h hpeek
  have hbefore := clean_of_descends rfl hdescends
  exact ⟨request_clean hbefore request hconvert, s, hs, huuid, fun leaf haction =>
    request_followed haction hbefore request hconvert⟩

/-- The headers that the step of the detour sets which follows the redirect. -/
def detourLeaf : Leaf := ⟨.ofList [("X-Profiling-UUID", "tag")], .empty, []⟩

/-- A page is visited under two headers, and the redirect is followed under one of its own. -/
def detour : Setup Request Response where
  graph := ⟨#[
    ⟨"enter", none, .visit "start" none none
      ⟨.ofList [("X-Profiling-Query", "tag"), ("Accept", "kind")], .empty, []⟩, some 1⟩,
    ⟨"leave", none, .follow detourLeaf, none⟩], some 0⟩
  evaluator := .names
  converter := RequestMaker.plain.converter
  iterationLimit := 10

def detourValues : Bindings Json :=
  .ofList [("start", .string "http://a.test/"), ("tag", .string "t"), ("kind", .string "text")]

/-- The page that is visited first moved elsewhere. -/
def detourResponse : Response := (Response.new 302).setHeader "Location" "/new"

set_option maxRecDepth 100000 in
/-- The request that follows the redirect has the headers that are not stripped and that of its own
step. -/
theorem detour_clean :
    ∃ r r' request, Reachable detour detourValues r ∧
      call detour 3 r .peek = .ok (.ok (some (.request 1 "leave" request)), r') ∧
      request.headers.keys = ["accept", "x-profiling-uuid"] ∧ request.Clean ∧
      ∃ e, r'.previous = some e ∧ Followed .plain detourLeaf e request := by
  have hcalls : ∃ r₁ request₁ r₂ answer r₃ request,
      call detour 3 (.start detourValues) .peek
        = .ok (.ok (some (.request 0 "enter" request₁)), r₁) ∧
      call detour 3 r₁ (.resume request₁ detourResponse) = .ok (answer, r₂) ∧
      call detour 3 r₂ .peek = .ok (.ok (some (.request 1 "leave" request)), r₃) ∧
      request.headers.keys = ["accept", "x-profiling-uuid"] :=
    ⟨_, _, _, _, _, _, rfl, rfl, rfl, rfl⟩
  obtain ⟨r₁, request₁, r₂, answer, r₃, request, hpeek₁, hresume, hpeek, hkeys⟩ := hcalls
  have hreachable : Reachable detour detourValues r₂ := (Reachable.start.call hpeek₁).call hresume
  obtain ⟨hclean, s, hs, _, hfollowed⟩ :=
    requests_clean .plain detour.graph .names detour.iterationLimit hreachable hpeek
  obtain rfl : _ = s := Option.some.inj hs
  exact ⟨r₂, r₃, request, hreachable, hpeek, hkeys, hclean, hfollowed detourLeaf rfl⟩

end Engine

end Walkthrough
