import Walkthrough.Proofs.Document.Spelling
import Walkthrough.Proofs.Template.Names

/-!
# Plain declarations

A block may declare an integer, a truth value or null as it is, without quotes. What is stored for it is the
text of an expression, and that has the declared value in every scope: a literal, or the opposite of one.

* `evaluate_constant` — an expression that names nothing has one value in every scope
* `declared_values_kept` — what is stored for plain declarations evaluates to them
-/

namespace Walkthrough

open Template

/-! ## Expressions without names -/

/-- An expression that has a value whatever names stand for misses nothing and has that value. -/
theorem Template.evaluate_constant {text : String} {e : Expr} {v : Template.Value} {j : Json}
    (hread : Expr.ofString text = .ok e) (heval : ∀ env, (Eval.eval env e).run.run [] = (.ok v, []))
    (hjson : v.toJson = .ok j) (restricted : Bool) (host : Host) (s : Scope) :
    (evaluator restricted host).evaluate text s = ⟨.ok j, []⟩ :=
  evaluate_of_run hread (heval _) (.inl rfl) hjson

theorem Template.run_opposite (env : Environment) (line line' : Nat) {v w : Template.Value}
    (h : v.opposite = .ok w) :
    (Eval.eval env (.opposite line (.literal line' v))).run.run [] = (.ok w, []) := by
  rw [Eval.eval, Eval.eval]
  show (Eval.orFail (.opposite line (.literal line' v)) v.opposite).run.run [] = _
  rw [h]
  rfl

theorem Template.ofLiteral_natAbs (w : Word) : Value.ofLiteral w.val.natAbs = .int w.val.natAbs := by
  have hlower := w.lower
  have hupper := w.upper
  rw [Value.ofLiteral, if_pos (by omega)]

/-- The digits of a word, after a minus sign if it is negative, evaluate to the word. -/
theorem Template.evaluate_intText (w : Word) (restricted : Bool) (host : Host) (s : Scope) :
    (evaluator restricted host).evaluate (String.ofList (Json.intText w.val)) s =
      ⟨.ok (.number (.int w)), []⟩ := by
  have hlower := w.lower
  have hupper := w.upper
  have hread := Expr.ofString_intText (n := w.val) (by unfold greatestInteger; omega)
  have hjson : (Value.int w.val).toJson = .ok (.number (.int w)) := by
    rw [Value.toJson, Word.ofInt?_val]
  refine evaluate_constant hread (fun env => ?_) hjson restricted host s
  rw [ofLiteral_natAbs]
  split
  · next hneg =>
    -- integers are wide enough for the magnitude of the least word, and for its opposite
    have hopposite : (Value.int w.val.natAbs).opposite = .ok (.int w.val) := by
      rw [Value.opposite, if_neg (by unfold Value.minInt; omega)]
      congr 2
      omega
    exact run_opposite env 1 1 hopposite
  · next hpos =>
    have habs : (w.val.natAbs : Int) = w.val := by omega
    rw [Eval.eval, habs]
    rfl

theorem Template.evaluate_literal {name : String} {v : Template.Value} {j : Json}
    (hname : isName name.toList = true) (hliteral : Parser.literalName? name = some v) (hjson : v.toJson = .ok j)
    (restricted : Bool) (host : Host) (s : Scope) :
    (evaluator restricted host).evaluate name s = ⟨.ok j, []⟩ :=
  evaluate_constant (Expr.ofString_literal hname hliteral) (fun _ => by rw [Eval.eval]; rfl) hjson restricted host s

/-! ## Declarations -/

namespace Outline

open Document

/-- What an integer, a truth value or null of a document is as JSON. -/
def plain? : Yaml.Value → Option Json
  | .int n => some (.number (.int n))
  | .bool b => some (.bool b)
  | .null => some .null
  | _ => none

/-- A text that evaluates to a value wherever it is evaluated. -/
def Always (text : String) (j : Json) : Prop :=
  ∀ restricted host s, (evaluator restricted host).evaluate text s = ⟨.ok j, []⟩

/-- What is stored for a plain value evaluates to it. -/
theorem declaration?_plain {v : Yaml.Value} {j : Json} (h : plain? v = some j) :
    ∃ text, declaration? v = some text ∧ Always text j := by
  cases v with
  | int n =>
    obtain rfl := Option.some.inj h
    exact ⟨_, rfl, evaluate_intText n⟩
  | bool b =>
    obtain rfl := Option.some.inj h
    cases b with
    | true => exact ⟨"true", rfl, evaluate_literal (by decide) rfl rfl⟩
    | false => exact ⟨"false", rfl, evaluate_literal (by decide) rfl rfl⟩
  | null =>
    obtain rfl := Option.some.inj h
    exact ⟨"none", rfl, evaluate_literal (by decide) rfl rfl⟩
  | float | string | list | map | tagged => exact absurd h (by simp [plain?])

theorem read_block_binds {depth : Nat} {path : String} {v : Yaml.Value} {label : Label}
    {declared : Bindings String} {steps : List Outline}
    (h : read (depth + 1) path v = .ok (.block label declared steps)) :
    ((v.member "block").member "variables").Binds declaration? declared :=
  ((read_tells h).tells none none).content

/-! ## Blocks of plain declarations -/

/-- Declarations as they are written. -/
def written (b : Bindings Yaml.Value) : Yaml.Value := .map (b.entries.map fun e => (.string e.1, e.2))

/-- A block that makes the given declarations and has no steps, as it is written. -/
def blockOf (b : Bindings Yaml.Value) : Yaml.Value :=
  .map [(.string "block", .map [(.string "variables", written b)])]

/-- A mapping of one known name is read as a record whose other fields may be missing. -/
theorem valueRecord_single {α : Type} {fields : List (Field Yaml.Value ShapeFault α)} {start a : α}
    {v : Yaml.Value} (what : String) (field : Field Yaml.Value ShapeFault α)
    (hfield : fields.find? (·.name == field.name) = some field) (hread : field.read v start = .ok a)
    (hothers : fields.find? (fun f => !f.optional && !List.contains [field.name] f.name) = none) :
    valueRecord what fields start (.map [(.string field.name, v)]) = .ok a := by
  have hfields : readFields id fields [(.ok field.name, v)] [] start = .ok (a, [field.name]) := by
    rw [readFields]
    simp only [bind, Except.bind, hfield, hread, List.contains_nil, Bool.false_eq_true, if_false]
    rfl
  show readRecord id fields start [(.ok field.name, v)] = _
  rw [readRecord, hfields]
  simp only [bind, Except.bind, hothers]

theorem declarations_plain (path : String) {entries : List (String × Yaml.Value)}
    (h : ∀ e ∈ entries, (plain? e.2).isSome) : ∃ texts, declarations path entries = .ok texts := by
  induction entries with
  | nil => exact ⟨[], rfl⟩
  | cons e rest ih =>
    obtain ⟨hfirst, hrest⟩ := List.forall_mem_cons.1 h
    obtain ⟨j, hj⟩ := Option.isSome_iff_exists.1 hfirst
    obtain ⟨text, htext, -⟩ := declaration?_plain hj
    obtain ⟨texts, htexts⟩ := ih hrest
    exact ⟨(e.1, text) :: texts, by rw [declarations, htext, htexts]; rfl⟩

theorem bindingsOf_written (b : Bindings Yaml.Value) : bindingsOf .ok (written b) = .ok b := by
  have hread : ∀ entries : List (String × Yaml.Value),
      (entries.map fun e => ((.string e.1, e.2) : Yaml.Value × Yaml.Value)).mapM (fun e => do
        return (← stringOf "a string" e.1, ← (.ok e.2 : Except ShapeFault Yaml.Value))) = .ok entries := by
    intro entries
    induction entries with
    | nil => rfl
    | cons e rest ih =>
      rw [List.map_cons, List.mapM_cons, ih]
      rfl
  have hsame : Bindings.ofList b.entries = b := Bindings.ext (Bindings.entries_ofList b.nodup)
  show ((b.entries.map _).mapM _ >>= fun entries => (.ok (Bindings.ofList entries) : Except ShapeFault _)) = _
  rw [hread]
  exact congrArg Except.ok hsame

theorem read_blockOf (depth : Nat) (path : String) {b : Bindings Yaml.Value}
    (h : ∀ e ∈ b.entries, (plain? e.2).isSome) :
    ∃ declared, read (depth + 1) path (blockOf b) = .ok (.block ⟨none, none⟩ declared []) := by
  obtain ⟨texts, htexts⟩ := declarations_plain path h
  have hheader : header path (blockOf b) =
      .ok ("block", .map [(.string "variables", written b)], Common.none) := rfl
  have hrecord : valueRecord "BlockDoc" blockFields .none (.map [(.string "variables", written b)]) =
      .ok { Parts.none with declared := b } := by
    refine valueRecord_single "BlockDoc" ⟨"variables", true, fun v p => (bindingsOf .ok v).map fun b =>
      { p with declared := b }⟩ rfl ?_ rfl
    show (bindingsOf .ok (written b)).map _ = _
    rw [bindingsOf_written]
    rfl
  refine ⟨.ofList texts, ?_⟩
  rw [read, hheader]
  show (inStep path (valueRecord "BlockDoc" blockFields .none (.map [(.string "variables", written b)])) >>=
    fun p => declarations path p.declared.entries >>= fun declared => _) = _
  rw [hrecord]
  show (declarations path b.entries >>= fun declared => _) = _
  rw [htexts]
  rfl

/-- **Plain declarations.** For every integer of a document, every truth value and null there is a text that
is stored for it as a declaration, and in every scope, strict or tolerant, this text evaluates to just that
value and misses no name. A block that declares nothing else is read, and every plain declaration of a block
that is read is stored as such a text. -/
theorem declared_values_kept :
    (∀ v j, plain? v = some j → ∃ text, declaration? v = some text ∧ Always text j) ∧
    (∀ depth path (b : Bindings Yaml.Value), (∀ e ∈ b.entries, (plain? e.2).isSome) →
      ∃ declared, read (depth + 1) path (blockOf b) = .ok (.block ⟨none, none⟩ declared [])) ∧
    ∀ depth path v label declared steps, read (depth + 1) path v = .ok (.block label declared steps) →
      ∀ name w j, ((v.member "block").member "variables").bindings.find? name = some w → plain? w = some j →
        ∃ text, declared.find? name = some text ∧ Always text j := by
  refine ⟨fun v j => declaration?_plain, fun depth path b => read_blockOf depth path, ?_⟩
  intro depth path v label declared steps hread name w j hw hj
  obtain ⟨text, htext, hkept⟩ := declaration?_plain hj
  have hstored := congrArg (·.find? name) (read_block_binds hread).texts
  simp only [Bindings.find?_map, hw, Option.map_some, htext] at hstored
  cases hfind : declared.find? name with
  | none =>
    rw [hfind] at hstored
    exact absurd hstored (by simp)
  | some stored =>
    rw [hfind] at hstored
    obtain rfl : text = stored := Option.some.inj (Option.some.inj hstored)
    exact ⟨text, rfl, hkept⟩

/-- The least integer of a document. Its magnitude fits no word with a sign. -/
def leastWord : Word := ⟨-9223372036854775808, by decide, by decide⟩

/-- A block that declares the least integer. -/
theorem least_word_kept :
    ∃ declared text, read 1 "steps" (blockOf (Bindings.empty.insert "least" (.int leastWord))) =
        .ok (.block ⟨none, none⟩ declared []) ∧
      declared.find? "least" = some text ∧ Always text (.number (.int leastWord)) := by
  obtain ⟨declared, hread⟩ := declared_values_kept.2.1 0 "steps"
    (Bindings.empty.insert "least" (.int leastWord)) (by decide)
  obtain ⟨text, htext, hkept⟩ := declared_values_kept.2.2 _ _ _ _ _ _ hread "least" (.int leastWord) _ rfl rfl
  exact ⟨declared, text, hread, htext, hkept⟩

end Outline

end Walkthrough
