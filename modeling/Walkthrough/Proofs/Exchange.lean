import Walkthrough.Exchange
import Walkthrough.Proofs.Json.Reading
import Walkthrough.Proofs.Merging

/-!
# Requests and responses read again

A request is written as the text of an object that leaves out empty headers and a missing body, a response
with all of its fields. Reading the text gives the value back, with its headers in the same order: a record
is read member by member, and what was left out has the value with which reading starts.

* `readRecordText_of` — a record that is read from a value is read from the texts of the value
* `asStringMap_headersJson` — headers are read in their order
* `written_read_back` — requests and responses come back from their text
-/

namespace Walkthrough

/-! ## Records -/

namespace Json

theorem ofNat_of_word {n : Nat} {w : Word} (h : Word.ofInt? n = some w) : ofNat n = .number (.int w) := by
  -- opened as a function: at `n` the bounds of a word would be compared with it by counting
  conv => lhs; fun; delta ofNat
  simp only [h]

variable {α : Type} {fields : List (Field α)}

theorem recordMembers_field {k : String} {v : Json} {seen : List String} {a a' : α} {f : Field α}
    (hfield : fields.find? (fun f => f.name == k) = some f) (hnew : seen.contains k = false)
    (hread : f.read v a = .ok a') (rest : List (String × Json)) :
    recordMembers fields ((k, v) :: rest) seen a = recordMembers fields rest (k :: seen) a' := by
  rw [recordMembers, hfield]
  simp only [hnew, hread]
  rfl

theorem readRecord_object {members : List (String × Json)} {seen : List String} {start a : α} (name : String)
    (hmembers : recordMembers fields members [] start = .ok (a, seen))
    (hall : (fields.find? fun f => !f.optional && !seen.contains f.name).isNone) :
    readRecord name fields start (.object members) = .ok (a, false) := by
  rw [readRecord, hmembers]
  simp only [bind, Except.bind, Option.isNone_iff_eq_none.1 hall]

/-- A record that is read from a value is read from the text of the value. -/
theorem readRecordText_of {v : Json} (hfits : Fits 127 v) {name : String} {start a : α}
    (hrecord : readRecord name fields start v = .ok (a, false)) :
    readRecordText name fields start v.compact = .ok a ∧
      readRecordText name fields start v.pretty = .ok a := by
  constructor
  · rw [readRecordText, read_compact hfits]
    simp only [hrecord]
  · rw [readRecordText, read_pretty hfits]
    simp only [hrecord]

end Json

/-! ## Headers -/

theorem fits_headersJson (headers : Bindings String) : Json.Fits 126 (headersJson headers) := by
  refine .object fun m hm => ?_
  obtain ⟨e, -, rfl⟩ := List.mem_map.1 hm
  exact .string e.2

theorem mapM_strings (es : List (String × String)) :
    (es.map fun e => (e.1, Json.string e.2)).mapM
      (fun m : String × Json => m.2.asString.map fun t => (m.1, t)) = .ok es := by
  induction es with
  | nil => rfl
  | cons e rest ih =>
    rw [List.map_cons, List.mapM_cons, ih]
    rfl

/-- Headers are read in the order in which they are written. -/
theorem asStringMap_headersJson (headers : Bindings String) : (headersJson headers).asStringMap = .ok headers := by
  have hentries : Bindings.ofList headers.entries = headers :=
    Bindings.ext (Bindings.entries_ofList headers.nodup)
  rw [headersJson, Json.asStringMap]
  show Except.map Bindings.ofList ((headers.entries.map fun e => (e.1, Json.string e.2)).mapM
    fun m : String × Json => m.2.asString.map fun t => (m.1, t)) = _
  rw [mapM_strings]
  exact congrArg Except.ok hentries

theorem Bindings.eq_empty_of_isEmpty {α : Type} {b : Bindings α} (h : b.isEmpty = true) : b = .empty :=
  Bindings.ext (List.isEmpty_iff.1 h)

namespace Request

/-- The members of a request that has headers. -/
theorem toJson_of_headers {r : Request} (h : ¬ r.headers.isEmpty = true) :
    r.toJson = .object (("method", .string r.method) :: ("url", .string r.url) ::
      ("headers", headersJson r.headers) :: (r.body.map fun b => ("body", Json.string b)).toList) := by
  rw [toJson, if_neg h]
  cases r.body <;> rfl

theorem fits_toJson (r : Request) : Json.Fits 127 r.toJson := by
  refine .object (List.forall_mem_append.2 ⟨List.forall_mem_append.2 ⟨?_, ?_⟩, ?_⟩)
  · exact List.forall_mem_cons.2 ⟨.string _, List.forall_mem_singleton.2 (.string _)⟩
  · split
    · exact List.forall_mem_nil _
    · exact List.forall_mem_singleton.2 (fits_headersJson r.headers)
  · split
    · exact List.forall_mem_singleton.2 (.string _)
    · exact List.forall_mem_nil _

theorem readRecord_toJson (r : Request) :
    Json.readRecord "HttpRequest" fields ⟨"", "", .empty, none⟩ r.toJson = .ok (r, false) := by
  obtain ⟨method, url, headers, body⟩ := r
  by_cases hnone : headers.isEmpty = true
  · obtain rfl := Bindings.eq_empty_of_isEmpty hnone
    cases body <;> rfl
  · rw [toJson_of_headers hnone]
    have hheaders : (headersJson headers).asStringMap.map
        (fun h : Bindings String => (⟨method, url, h, none⟩ : Request)) =
          .ok ⟨method, url, headers, none⟩ := by
      rw [asStringMap_headersJson]
      rfl
    have hmembers : ∀ rest, Json.recordMembers fields (("method", .string method) :: ("url", .string url) ::
        ("headers", headersJson headers) :: rest) [] ⟨"", "", .empty, none⟩ =
        Json.recordMembers fields rest ["headers", "url", "method"] ⟨method, url, headers, none⟩ := by
      intro rest
      rw [Json.recordMembers_field rfl rfl rfl, Json.recordMembers_field rfl rfl rfl,
        Json.recordMembers_field rfl rfl hheaders]
    cases body with
    | none => exact Json.readRecord_object _ (hmembers _) rfl
    | some b => exact Json.readRecord_object _ (hmembers _) rfl

end Request

namespace Response

/-- A status is written as a word. -/
theorem exists_toJson_eq (r : Response) : ∃ w : Word, w.val = r.status.toNat ∧
    r.toJson = .object [("status", .number (.int w)), ("headers", headersJson r.headers),
      ("body", .string r.body)] := by
  have hbelow := r.status.toNat_lt
  let w : Word := ⟨r.status.toNat, by omega, by omega⟩
  refine ⟨w, rfl, ?_⟩
  rw [toJson, Json.ofNat_of_word (Word.ofInt?_val w)]

theorem fits_toJson (r : Response) : Json.Fits 127 r.toJson := by
  obtain ⟨w, -, heq⟩ := exists_toJson_eq r
  rw [heq]
  exact .object (List.forall_mem_cons.2 ⟨.int w, List.forall_mem_cons.2 ⟨fits_headersJson r.headers,
    List.forall_mem_singleton.2 (.string _)⟩⟩)

theorem readRecord_toJson (r : Response) :
    Json.readRecord "HttpResponse" fields ⟨0, .empty, ""⟩ r.toJson = .ok (r, false) := by
  obtain ⟨w, hval, heq⟩ := exists_toJson_eq r
  rw [heq]
  obtain ⟨status, headers, body⟩ := r
  change w.val = status.toNat at hval
  have hstatus : ((Json.number (.int w)).asNatBelow 65536 "u16").map
      (fun n => (⟨UInt16.ofNat n, .empty, ""⟩ : Response)) = .ok ⟨status, .empty, ""⟩ := by
    have hbelow := status.toNat_lt
    rw [Json.asNatBelow, if_pos (by omega), hval]
    show Except.ok (⟨UInt16.ofNat status.toNat, .empty, ""⟩ : Response) = _
    rw [UInt16.ofNat_toNat]
  have hheaders : (headersJson headers).asStringMap.map
      (fun h : Bindings String => (⟨status, h, ""⟩ : Response)) = .ok ⟨status, headers, ""⟩ := by
    rw [asStringMap_headersJson]
    rfl
  have hmembers : Json.recordMembers fields [("status", .number (.int w)), ("headers", headersJson headers),
      ("body", .string body)] [] ⟨0, .empty, ""⟩ =
        .ok (⟨status, headers, body⟩, ["body", "headers", "status"]) := by
    rw [Json.recordMembers_field rfl rfl hstatus, Json.recordMembers_field rfl rfl hheaders,
      Json.recordMembers_field rfl rfl rfl]
    rfl
  exact Json.readRecord_object _ hmembers rfl

end Response

/-- Requests and responses come back from their text, written on one line or indented. -/
theorem written_read_back :
    (∀ r : Request, Request.ofText r.toJson.compact = .ok r ∧ Request.ofText r.toJson.pretty = .ok r) ∧
      ∀ r : Response, Response.ofText r.toJson.compact = .ok r ∧ Response.ofText r.toJson.pretty = .ok r := by
  constructor
  · intro r
    exact Json.readRecordText_of r.fits_toJson r.readRecord_toJson
  · intro r
    exact Json.readRecordText_of r.fits_toJson r.readRecord_toJson

-- a missing body is left out, an empty one is written
example : (Request.toJson ⟨"GET", "/", .empty, none⟩).compact = "\x7b\"method\":\"GET\",\"url\":\"/\"\x7d" := by
  rfl

example : (Request.toJson ⟨"GET", "/", .empty, some ""⟩).compact =
    "\x7b\"method\":\"GET\",\"url\":\"/\",\"body\":\"\"\x7d" := by
  rfl

end Walkthrough
