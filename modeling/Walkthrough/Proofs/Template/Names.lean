import Walkthrough.Proofs.Fallible
import Walkthrough.Proofs.Json.Canonical
import Walkthrough.Proofs.Scope.Shadowing
import Walkthrough.Proofs.Template.Reading
import Walkthrough.Template.Evaluator

/-!
# Names as expressions

An expression that is the name of a variable is read, evaluated over all visible variables and written as JSON;
a name can also be resolved in the scope itself. Both find the same value, since a JSON value that becomes a
value of the expression language is written as itself again, and both miss the same names.

* `toJson_ofJsonAt` — a JSON value comes back from the expression language in canonical order
* `evaluate_name` — what the name of a variable is evaluated to
* `names_alike` — the two ways to the value of a name agree
-/

namespace Walkthrough.Template

/-! ## Values back to JSON -/

namespace Value

/-- Named values as the entries of a mapping. -/
def entriesOf (members : List (String × Value)) : List (Value × Value) := members.map fun m => (text m.1, m.2)

theorem order_text (s t : String) : order (text s) (text t) = compare s t := rfl

theorem insertEntry_text (name : String) (v : Value) (members : List (String × Value)) :
    insertEntry (text name) v (entriesOf members) = entriesOf (Json.insertSorted name v members) := by
  induction members with
  | nil => rfl
  | cons m rest ih =>
    have hcompare : compare name m.1 = compareOfLessAndEq name m.1 := rfl
    show insertEntry (text name) v ((text m.1, m.2) :: entriesOf rest) = _
    rw [insertEntry, order_text, hcompare, compareOfLessAndEq, Json.insertSorted, ih]
    by_cases hless : name < m.1
    · simp only [if_pos hless]
      rfl
    · by_cases heq : name = m.1
      · simp only [if_neg hless, if_pos heq]
        rw [heq]
        rfl
      · simp only [if_neg hless, if_neg heq]
        rfl

theorem sortEntries_text (members : List (String × Value)) :
    sortEntries (entriesOf members) = entriesOf (Json.sortMembers members) := by
  induction members using List.reverseRecOn with
  | nil => rfl
  | append_singleton before m ih =>
    rw [Json.sortMembers_concat, ← insertEntry_text, ← ih, sortEntries, sortEntries, entriesOf, List.map_append,
      List.foldl_append]
    rfl

/-- Named values and members of an object that they are written as, in one order. -/
abbrev WrittenAs (members : List (String × Value)) (written : List (String × Json)) : Prop :=
  List.Forall₂ (fun m j => m.1 = j.1 ∧ toJson m.2 = .ok j.2) members written

theorem entriesToJson_text {members : List (String × Value)} {written : List (String × Json)}
    (h : WrittenAs members written) : entriesToJson (entriesOf members) = .ok written := by
  induction h with
  | nil => rfl
  | @cons m j rest written hm _ ih =>
    show entriesToJson ((text m.1, m.2) :: entriesOf rest) = _
    rw [entriesToJson, hm.2, ih, hm.1]
    rfl

mutual

/-- A JSON value that becomes a value is written as itself, in canonical order. -/
theorem toJson_ofJsonAt (origin : Origin) : ∀ j, toJson (ofJsonAt origin j) = .ok j.canonical
  | .null => rfl
  | .bool b => rfl
  | .number (.int n) => by rw [ofJsonAt, toJson, Word.ofInt?_val]; rfl
  | .number (.float x) => by rw [ofJsonAt, toJson, Json.ofFloat, FiniteFloat.ofFloat?_val]; rfl
  | .string s => rfl
  | .array items => by rw [ofJsonAt, toJson, itemsToJson_ofJsonItems origin 0 items]; rfl
  | .object members => by
    -- the members are sorted as entries of a mapping, and once more when they are written
    obtain ⟨named, hnamed, hwritten⟩ := exists_ofJsonMembers origin 0 members
    have hsorted := Json.forall₂_sortMembers (R := fun v j => toJson v = .ok j) hwritten
    rw [ofJsonAt, toJson, hnamed, sortEntries_text, entriesToJson_text hsorted]
    show Except.ok (Json.object (Json.sortMembers (Json.sortMembers (Json.canonicalMembers members)))) = _
    rw [Json.sortMembers_sortMembers]
    rfl

theorem itemsToJson_ofJsonItems (origin : Origin) (position : Nat) :
    ∀ items, itemsToJson (ofJsonItems origin position items) = .ok (Json.canonicalItems items)
  | [] => rfl
  | v :: rest => by
    rw [ofJsonItems, itemsToJson, toJson_ofJsonAt (origin.item position) v,
      itemsToJson_ofJsonItems origin (position + 1) rest]
    rfl

theorem exists_ofJsonMembers (origin : Origin) (position : Nat) :
    ∀ members, ∃ named, ofJsonMembers origin position members = entriesOf named ∧
      WrittenAs named (Json.canonicalMembers members)
  | [] => ⟨[], rfl, .nil⟩
  | (k, v) :: rest => by
    obtain ⟨named, hnamed, hwritten⟩ := exists_ofJsonMembers origin (position + 1) rest
    refine ⟨(k, ofJsonAt (origin.item position) v) :: named, by rw [ofJsonMembers, hnamed]; rfl, ?_⟩
    exact .cons ⟨rfl, toJson_ofJsonAt (origin.item position) v⟩ hwritten

end

end Value

/-! ## Answers -/

/-- An expression that has a value is evaluated to its JSON value, unless it misses names that have to be
known. -/
theorem evaluate_of_run {restricted : Bool} {host : Host} {text : String} {s : Scope} {e : Expr} {v : Value}
    {missing : List String} {j : Json} (hread : Expr.ofString text = .ok e)
    (hrun : (Eval.eval ⟨s.visible, s.isTolerant, restricted, host⟩ e).run.run [] = (.ok v, missing))
    (hallowed : missing = [] ∨ s.isTolerant = true) (hjson : v.toJson = .ok j) :
    (evaluator restricted host).evaluate text s = ⟨.ok j, missing⟩ := by
  have hvalue : valueOf restricted host text s = ⟨.ok v, missing⟩ := by
    unfold valueOf
    simp only [hread, hrun]
    rcases hallowed with rfl | htolerant
    · cases s.isTolerant <;> rfl
    · rw [htolerant]
      cases missing <;> rfl
  show (⟨(valueOf restricted host text s).result.bind toJson, (valueOf restricted host text s).missing⟩ :
    Answer Json) = _
  rw [hvalue]
  show (⟨toJson v, missing⟩ : Answer Json) = _
  rw [toJson, hjson]

/-! ## Names -/

/-- The value of a name that is not that of a function. -/
theorem run_name (env : Environment) (line : Nat) {name : String} (hname : Eval.isSilent name = false) :
    (Eval.eval env (.name line name)).run.run [] =
      match env.bindings.find? name with
      | some v => (.ok (Value.ofJsonAt (.bound name []) v), [])
      | none => (.ok (if env.tolerant then .none else .undefined), [name]) := by
  rw [Eval.eval, Eval.lookup]
  cases env.bindings.find? name with
  | some v => rfl
  | none =>
    simp only [hname]
    cases env.tolerant <;> rfl

/-- A name that is found is evaluated to its value. One that is not found is noted; it is null in a tolerant
scope and an error in a strict one. -/
theorem evaluate_name (restricted : Bool) (host : Host) {name : String} (hname : isName name.toList = true)
    (hnot : name ≠ "not") (hliteral : Parser.literalName? name = none) (hsilent : Eval.isSilent name = false)
    (s : Scope) :
    (evaluator restricted host).evaluate name s =
      match s.lookup name with
      | some v => ⟨.ok v.canonical, []⟩
      | none =>
        if s.isTolerant then ⟨.ok .null, [name]⟩
        else ⟨.error (.expression (.undefined name (some name))), []⟩ := by
  have hread := Expr.ofString_name hname hnot hliteral
  have hrun := run_name ⟨s.visible, s.isTolerant, restricted, host⟩ 1 hsilent
  rw [s.find?_visible] at hrun
  cases hlookup : s.lookup name with
  | some v =>
    rw [hlookup] at hrun
    exact evaluate_of_run hread hrun (.inl rfl) (Value.toJson_ofJsonAt _ v)
  | none =>
    rw [hlookup] at hrun
    cases htolerant : s.isTolerant with
    | true =>
      simp only [htolerant] at hrun
      exact evaluate_of_run hread (by rw [htolerant]; exact hrun) (.inr htolerant) rfl
    | false =>
      simp only [htolerant] at hrun
      have hvalue : valueOf restricted host name s =
          ⟨.error (.expression (.undefined name (some name))), []⟩ := by
        unfold valueOf
        simp only [hread, htolerant, hrun]
        rfl
      show (⟨(valueOf restricted host name s).result.bind toJson,
        (valueOf restricted host name s).missing⟩ : Answer Json) = _
      rw [hvalue]
      rfl

/-- **Names.** For every name that is no literal, no negation and not that of a function, and in every scope,
evaluating the name as an expression and resolving it miss the same names and have the same value, up to the
order in which the members of objects are written. In a strict scope both fail because of the expression,
exactly if the name is not found; in a tolerant one both are null then and miss that name alone. -/
theorem names_alike (restricted : Bool) (host : Host) {name : String} (hname : isName name.toList = true)
    (hnot : name ≠ "not") (hliteral : Parser.literalName? name = none) (hsilent : Eval.isSilent name = false)
    (s : Scope) :
    let evaluated := (evaluator restricted host).evaluate name s
    let resolved := s.resolve name
    evaluated.missing = resolved.missing ∧
    (∀ j, evaluated.result = .ok j ↔ ∃ v, resolved.result = .ok v ∧ v.canonical = j) ∧
    ((∀ v, s.lookup name = some v → v.canonical = v) →
      ∀ j, evaluated.result = .ok j ↔ resolved.result = .ok j) ∧
    (s.isTolerant = false →
      ((∃ cause, evaluated.result = .error (.expression cause)) ↔ s.lookup name = none) ∧
      ((∃ cause, resolved.result = .error (.expression cause)) ↔ s.lookup name = none)) ∧
    (s.isTolerant = true → s.lookup name = none →
      evaluated = ⟨.ok .null, [name]⟩ ∧ resolved = ⟨.ok .null, [name]⟩) := by
  intro evaluated resolved
  have hevaluated : evaluated = _ := evaluate_name restricted host hname hnot hliteral hsilent s
  have hresolved : resolved = s.resolve name := rfl
  rw [Scope.resolve] at hresolved
  cases hlookup : s.lookup name with
  | some v =>
    simp only [hlookup] at hevaluated hresolved
    rw [hevaluated, hresolved]
    refine ⟨rfl, fun j => ?_, fun hcanonical j => ?_, fun _ => ?_, fun _ h => ?_⟩
    · simp
    · simp [hcanonical v rfl]
    · simp
    · exact absurd h (by simp)
  | none =>
    simp only [hlookup] at hevaluated hresolved
    rw [hevaluated, hresolved]
    cases htolerant : s.isTolerant with
    | true => simp [Json.canonical]
    | false => simp

/-- A variable of the innermost frame is what its name is evaluated to. -/
theorem user_found :
    let s := (Context.strict .empty).scopeWith (Bindings.empty.insert "user_1" (.string "ada"))
    isName "user_1".toList = true ∧ "user_1" ≠ "not" ∧ Parser.literalName? "user_1" = none ∧
      Eval.isSilent "user_1" = false ∧ (s.resolve "user_1").result = .ok (.string "ada") ∧
      ((evaluator true .empty).evaluate "user_1" s).result = .ok (.string "ada") := by
  intro s
  have hresolved : (s.resolve "user_1").result = .ok (.string "ada") := rfl
  refine ⟨by decide, by decide, by decide +kernel, by decide, hresolved, ?_⟩
  exact ((names_alike true .empty (by decide) (by decide) (by decide +kernel) (by decide) s).2.1 _).2
    ⟨.string "ada", hresolved, rfl⟩

end Walkthrough.Template
