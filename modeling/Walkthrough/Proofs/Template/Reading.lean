import Mathlib.Data.List.TakeWhile
import Walkthrough.Proofs.Template.Digits
import Walkthrough.Template.Parser

/-!
# Reading an operand

A text that is one operand and nothing else: a name, a literal that is written as a name, or the digits of an
integer, perhaps after a minus sign. The levels of binding, the suffixes and the filters that could follow each
look at the end of the text and leave the operand as it is.

* `ofChars_name`, `ofChars_digitsOf`, `ofChars_minus` — the tokens of such a text
* `Parser.Finishes.whole` — an operand that the text ends with, from the sign up to the whole expression
* `Expr.ofString_name`, `Expr.ofString_literal`, `Expr.ofString_intText` — the expressions
-/

namespace Walkthrough.Template

/-! ## Characters -/

theorem ne_of_continuesName {c d : Char} (hc : continuesName c = true) (hd : continuesName d = false) :
    c ≠ d := by
  rintro rfl
  exact absurd (hc.symm.trans hd) (by simp)

theorem continuesName_of_startsName {c : Char} (h : startsName c = true) : continuesName c = true := by
  simp only [startsName, continuesName, Char.isAlphanum, Bool.or_eq_true] at h ⊢
  tauto

theorem continuesName_of_isDigit {c : Char} (h : c.isDigit = true) : continuesName c = true := by
  simp [continuesName, Char.isAlphanum, h]

theorem not_isDigit_of_startsName {c : Char} (h : startsName c = true) : c.isDigit = false := by
  by_contra hdigit
  rw [Bool.not_eq_false] at hdigit
  have hrange := toNat_of_isDigit hdigit
  change ((decide ('A'.val ≤ c.val ∧ c.val ≤ 'Z'.val) ||
    (decide ('a'.val ≤ c.val) && decide (c.val ≤ 'z'.val))) || c == '_') = true at h
  simp only [Bool.or_eq_true, Bool.and_eq_true, decide_eq_true_eq, beq_iff_eq, UInt32.le_iff_toNat_le] at h
  change ((65 ≤ c.toNat ∧ c.toNat ≤ 90) ∨ (97 ≤ c.toNat ∧ c.toNat ≤ 122)) ∨ c = '_' at h
  rcases h with (h | h) | rfl
  · omega
  · omega
  · exact absurd hdigit (by decide)

theorem not_isBlank_of_continuesName {c : Char} (h : continuesName c = true) : isBlank c = false := by
  have hne : ∀ d, continuesName d = false → (c == d) = false := fun d hd => by
    simpa using ne_of_continuesName h hd
  rw [isBlank, hne _ (by decide), hne _ (by decide), hne _ (by decide), hne _ (by decide), hne _ (by decide)]
  rfl

theorem Mark.ofChar?_of_continuesName {c : Char} (h : continuesName c = true) : Mark.ofChar? c = none := by
  unfold Mark.ofChar?
  split <;> first | rfl | exact absurd h (by decide)

theorem Mark.ofPair?_of_continuesName {c : Char} (h : continuesName c = true) (next : Option Char) :
    next.bind (Mark.ofPair? c) = none := by
  cases next with
  | none => rfl
  | some d =>
    show Mark.ofPair? c d = none
    unfold Mark.ofPair?
    split <;> first | rfl | exact absurd h (by decide)

theorem not_quote_of_continuesName {c : Char} (h : continuesName c = true) : ¬ (c = '"' ∨ c = '\'') := by
  rintro (rfl | rfl) <;> exact absurd h (by decide)

/-! ## Tokens -/

theorem dropLineEnd_of_notMem {cs : List Char} (hfeed : '\n' ∉ cs) (hreturn : '\r' ∉ cs) :
    Text.dropLineEnd cs = cs := by
  rw [Text.dropLineEnd, if_neg fun hlast => hfeed (List.mem_of_getLast? hlast), Text.dropReturn,
    if_neg fun hlast => hreturn (List.mem_of_getLast? hlast)]

theorem startsBlockEnd_of_notMem {cs : List Char} (hbrace : '\x7d' ∉ cs) : startsBlockEnd cs = false := by
  unfold startsBlockEnd
  split
  · simp at hbrace
  · simp at hbrace
  · rfl

theorem ofCharsFrom_nil (fuel line : Nat) (nesting : Int) :
    Tokens.ofCharsFrom fuel line nesting [] = ⟨[], none⟩ := by
  cases fuel <;> rfl

/-- One token and those of the text behind it. -/
theorem ofCharsFrom_cons {c : Char} {cs rest : List Char} {t : Token} (hblank : isBlank c = false)
    (hbrace : '\x7d' ∉ c :: cs) (hread : readToken (c :: cs) = .ok (t, rest)) (fuel line : Nat) (nesting : Int) :
    Tokens.ofCharsFrom (fuel + 1) line nesting (c :: cs) =
      let next := Tokens.ofCharsFrom fuel (line + lineEnds (c :: cs) - lineEnds rest) (nesting + t.nesting) rest
      ⟨(t, line) :: next.tokens, next.fault⟩ := by
  have hblanks : (c :: cs).takeWhile isBlank = [] := by simp [hblank]
  have hstart : (c :: cs).dropWhile isBlank = c :: cs := by simp [hblank]
  rw [Tokens.ofCharsFrom, hblanks, hstart]
  simp only [startsBlockEnd_of_notMem hbrace, hread]
  simp [lineEnds]

/-- A text without line ends, all of which is one token. -/
theorem ofChars_single {c : Char} {cs : List Char} {t : Token} (hall : ∀ d ∈ c :: cs, continuesName d = true)
    (hread : readToken (c :: cs) = .ok (t, [])) : Tokens.ofChars (c :: cs) = ⟨[(t, 1)], none⟩ := by
  have hnot : ∀ d, continuesName d = false → d ∉ c :: cs := fun d hd hmem =>
    absurd ((hall d hmem).symm.trans hd) (by simp)
  rw [Tokens.ofChars, dropLineEnd_of_notMem (hnot _ (by decide)) (hnot _ (by decide)),
    ofCharsFrom_cons (not_isBlank_of_continuesName (hall c List.mem_cons_self)) (hnot _ (by decide)) hread]
  simp [ofCharsFrom_nil]

/-- A text that is one name: a letter or an underscore, then letters, digits and underscores. -/
def isName (cs : List Char) : Bool :=
  match cs with
  | [] => false
  | c :: rest => startsName c && rest.all continuesName

theorem readToken_name {c : Char} {rest : List Char} (hc : startsName c = true)
    (hrest : ∀ d ∈ rest, continuesName d = true) :
    readToken (c :: rest) = .ok (.ident (String.ofList (c :: rest)), []) := by
  have hcontinues := continuesName_of_startsName hc
  have hall : ∀ d ∈ c :: rest, continuesName d = true := List.forall_mem_cons.2 ⟨hcontinues, hrest⟩
  rw [readToken, Mark.ofPair?_of_continuesName hcontinues, Mark.ofChar?_of_continuesName hcontinues]
  simp only [if_neg (not_quote_of_continuesName hcontinues), not_isDigit_of_startsName hc, hc, if_true,
    Bool.false_eq_true, if_false, List.takeWhile_eq_self_iff.2 hall, List.dropWhile_eq_nil_iff.2 hall]

theorem ofChars_name {cs : List Char} (h : isName cs = true) :
    Tokens.ofChars cs = ⟨[(.ident (String.ofList cs), 1)], none⟩ := by
  cases cs with
  | nil => exact absurd h (by simp [isName])
  | cons c rest =>
    rw [isName, Bool.and_eq_true, List.all_eq_true] at h
    exact ofChars_single (List.forall_mem_cons.2 ⟨continuesName_of_startsName h.1, h.2⟩) (readToken_name h.1 h.2)

/-! ### Integers -/

theorem splitNumber_digits {ds : List Char} (hdigits : ∀ c ∈ ds, c.isDigit = true) :
    splitNumber 10 .whole ds = (ds, .whole, []) := by
  induction ds with
  | nil => rfl
  | cons c ds ih =>
    have hc := hdigits c List.mem_cons_self
    have hnext : NumberPart.next? 10 .whole c ds = some .whole := by
      have hpoint := ne_of_isDigit hc (d := '.') (by decide)
      have hsmall := ne_of_isDigit hc (d := 'e') (by decide)
      have hcapital := ne_of_isDigit hc (d := 'E') (by decide)
      simp [NumberPart.next?, hpoint, hsmall, hcapital, hc]
    rw [splitNumber, hnext]
    simp only [ih fun d hd => hdigits d (List.mem_cons_of_mem c hd)]

theorem baseOf_digits {ds : List Char} (hdigits : ∀ c ∈ ds, c.isDigit = true) : baseOf ds = (10, ds) := by
  unfold baseOf
  split
  · next c rest =>
    -- another base is announced by a letter after the zero
    have hc : c.isDigit = true := hdigits c (by simp)
    have hne : ∀ d, d.isDigit = false → c ≠ d := fun d hd => ne_of_isDigit hc hd
    simp [hne 'b' (by decide), hne 'B' (by decide), hne 'o' (by decide), hne 'O' (by decide),
      hne 'x' (by decide), hne 'X' (by decide)]
  · rfl

theorem readNumber_digitsOf {n : Nat} (hn : n ≤ greatestInteger) :
    readNumber (digitsOf n) = .ok (.integer n, []) := by
  have hdigits : ∀ c ∈ digitsOf n, c.isDigit = true := fun c hc => isDigit_digitsOf hc
  have hunderscore : '_' ∉ digitsOf n := fun hmem => absurd (hdigits _ hmem) (by decide)
  have hkept : (digitsOf n).filter (· ≠ '_') = digitsOf n := by
    refine List.filter_eq_self.2 fun c hc => decide_eq_true ?_
    rintro rfl
    exact hunderscore hc
  rw [readNumber, baseOf_digits hdigits]
  simp only [splitNumber_digits hdigits, hkept, numberOfDigits?_digitsOf, if_pos hn, if_true]
  rw [if_neg fun hlast => hunderscore (List.mem_of_getLast? hlast)]

theorem readToken_digitsOf {n : Nat} (hn : n ≤ greatestInteger) :
    readToken (digitsOf n) = .ok (.integer n, []) := by
  have hread := readNumber_digitsOf hn
  obtain ⟨d, ds, heq, hd⟩ := digitsOf_eq_cons n
  rw [heq] at hread ⊢
  have hcontinues := continuesName_of_isDigit hd
  rw [readToken, Mark.ofPair?_of_continuesName hcontinues, Mark.ofChar?_of_continuesName hcontinues]
  simp only [if_neg (not_quote_of_continuesName hcontinues), hd, if_true, hread]

theorem continuesName_digitsOf {n : Nat} {c : Char} (h : c ∈ digitsOf n) : continuesName c = true :=
  continuesName_of_isDigit (isDigit_digitsOf h)

theorem ofChars_digitsOf {n : Nat} (hn : n ≤ greatestInteger) :
    Tokens.ofChars (digitsOf n) = ⟨[(.integer n, 1)], none⟩ := by
  have hread := readToken_digitsOf hn
  have hall := fun c => continuesName_digitsOf (n := n) (c := c)
  obtain ⟨d, ds, heq, -⟩ := digitsOf_eq_cons n
  rw [heq] at hread hall ⊢
  exact ofChars_single hall hread

theorem readToken_minus {n : Nat} : readToken ('-' :: digitsOf n) = .ok (.mark .minus, digitsOf n) := by
  obtain ⟨d, ds, heq, -⟩ := digitsOf_eq_cons n
  rw [heq]
  have hpair : Mark.ofPair? '-' d = none := by
    unfold Mark.ofPair?
    split <;> first | rfl | simp_all
  simp [readToken, hpair, Mark.ofChar?]

theorem ofChars_minus {n : Nat} (hn : n ≤ greatestInteger) :
    Tokens.ofChars ('-' :: digitsOf n) = ⟨[(.mark .minus, 1), (.integer n, 1)], none⟩ := by
  have hnot : ∀ c, c ≠ '-' → continuesName c = false → c ∉ '-' :: digitsOf n := fun c hne hc hmem =>
    (List.mem_cons.1 hmem).elim hne fun hmem => absurd ((continuesName_digitsOf hmem).symm.trans hc) (by simp)
  have hlines : lineEnds (digitsOf n) = 0 :=
    List.count_eq_zero.2 fun hmem => absurd (continuesName_digitsOf hmem) (by decide)
  have hdigits : Tokens.ofCharsFrom ((digitsOf n).length + 1) 1 0 (digitsOf n) = ⟨[(.integer n, 1)], none⟩ := by
    have hwhole := ofChars_digitsOf hn
    rwa [Tokens.ofChars, dropLineEnd_of_notMem] at hwhole
    all_goals exact fun hmem => absurd (continuesName_digitsOf hmem) (by decide)
  rw [Tokens.ofChars, dropLineEnd_of_notMem (hnot _ (by decide) (by decide)) (hnot _ (by decide) (by decide)),
    List.length_cons, ofCharsFrom_cons rfl (hnot _ (by decide) (by decide)) readToken_minus]
  -- there is no line end between the tokens, so that both stand on the first line
  have hline : 1 + lineEnds ('-' :: digitsOf n) - lineEnds (digitsOf n) = 1 := by
    rw [hlines, lineEnds, List.count_cons_of_ne (by decide)]
    simpa [lineEnds] using hlines
  rw [hline]
  show (let next := Tokens.ofCharsFrom ((digitsOf n).length + 1) 1 0 (digitsOf n)
    (⟨(.mark .minus, 1) :: next.tokens, next.fault⟩ : Tokens)) = _
  rw [hdigits]

/-! ## The reader at the end of a text -/

namespace Parser

variable {α β : Type}

theorem run_bind {p : Parse α} {f : α → Parse β} {i j : Input} {a : α} (h : p.run i = .ok (a, j)) :
    (p >>= f).run i = (f a).run j := by
  rw [StateT.run_bind, h]
  rfl

/-- Nothing is left to read. -/
abbrev ended (last depth : Nat) : Input := ⟨⟨[], none⟩, last, depth⟩

/-- The given tokens are left to read. -/
abbrev starting (t : Token × Nat) (more : List (Token × Nat)) (last depth : Nat) : Input :=
  ⟨⟨t :: more, none⟩, last, depth⟩

section

variable (last depth fuel start : Nat) (e : Expr)

theorem peek_ended : peek.run (ended last depth) = .ok (none, ended last depth) := rfl

theorem take_ended : take.run (ended last depth) = .ok (none, ended last depth) := rfl

theorem skip_ended (t : Token) : (skip t).run (ended last depth) = .ok (false, ended last depth) := rfl

theorem line_ended : line.run (ended last depth) = .ok (last, ended last depth) := rfl

theorem conditions_ended :
    (conditions (fuel + 1) start e).run (ended last depth) = .ok (e, ended last depth) := by
  rw [conditions, run_bind (skip_ended last depth _)]
  rfl

theorem comparisons_ended : (comparisons (fuel + 1)).run (ended last depth) = .ok ([], ended last depth) := by
  rw [comparisons]
  rfl

theorem operators_ended (level : Level) :
    (operators (fuel + 1) level start e).run (ended last depth) = .ok (e, ended last depth) := by
  rw [operators, run_bind (peek_ended last depth)]
  rfl

theorem postfixes_ended :
    (postfixes (fuel + 1) start e).run (ended last depth) = .ok (e, ended last depth) := by
  rw [postfixes, run_bind (line_ended last depth), run_bind (peek_ended last depth)]
  rfl

theorem filters_ended : (filters (fuel + 1) e).run (ended last depth) = .ok (e, ended last depth) := by
  rw [filters, run_bind (peek_ended last depth)]
  rfl

end

/-! ## The reader at the start of a text -/

section

variable (t : Token) (n : Nat) (more : List (Token × Nat)) (last depth : Nat)

theorem line_starting :
    line.run (starting (t, n) more last depth) = .ok (n, starting (t, n) more last depth) := rfl

theorem peek_starting :
    peek.run (starting (t, n) more last depth) = .ok (some t, starting (t, n) more last depth) := rfl

theorem take_starting :
    take.run (starting (t, n) more last depth) = .ok (some t, ⟨⟨more, none⟩, n, depth⟩) := rfl

theorem skip_same :
    (skip t).run (starting (t, n) more last depth) = .ok (true, ⟨⟨more, none⟩, n, depth⟩) := by
  rw [skip, run_bind (peek_starting t n more last depth), if_pos rfl, run_bind (take_starting t n more last depth)]
  rfl

theorem skip_other {t u : Token} (h : t ≠ u) :
    (skip u).run (starting (t, n) more last depth) = .ok (false, starting (t, n) more last depth) := by
  rw [skip, run_bind (peek_starting t n more last depth), if_neg fun heq => h (Option.some.inj heq)]
  rfl

theorem expectAny_starting (expected : String) :
    (expectAny expected).run (starting (t, n) more last depth) = .ok (t, ⟨⟨more, none⟩, n, depth⟩) := by
  rw [expectAny, run_bind (take_starting t n more last depth)]
  rfl

end

theorem get_run (i : Input) : (get : Parse Input).run i = .ok (i, i) := rfl

theorem nested_ok {p : Parse α} {i j : Input} {a : α} (hdepth : i.depth < maxDepth)
    (h : p.run { i with depth := i.depth + 1 } = .ok (a, j)) :
    (nested p).run i = .ok (a, { j with depth := j.depth - 1 }) := by
  have hset : (set { i with depth := i.depth + 1 } : Parse PUnit).run i =
      .ok (⟨⟩, { i with depth := i.depth + 1 }) := rfl
  rw [nested, run_bind (get_run i), if_neg (by omega), run_bind hset, run_bind h]
  rfl

/-! ## An operand alone -/

/-- The expression that a token is as an operand. -/
def single? (n : Nat) : Token → Option Expr
  | .ident name => some (match literalName? name with
    | some v => .literal n v
    | none => .name n name)
  | .integer k => some (.literal n (.ofLiteral k))
  | _ => none

section

variable {t : Token} {n : Nat} {e : Expr} (he : single? n t = some e) (last depth : Nat)
include he

theorem operand_single (fuel : Nat) :
    (operand (fuel + 1)).run (starting (t, n) [] last depth) = .ok (e, ended n depth) := by
  rw [operand, run_bind (expectAny_starting t n [] last depth _)]
  cases t with
  | ident name =>
    obtain rfl := Option.some.inj he
    cases hliteral : literalName? name with
    | some v => simp only [hliteral]; rfl
    | none => simp only [hliteral]; rfl
  | integer k =>
    obtain rfl := Option.some.inj he
    rfl
  | _ => exact absurd he (by simp [single?])

theorem ne_mark_of_single (m : Mark) : t ≠ .mark m := by
  rintro rfl
  exact absurd he (by simp [single?])

theorem signed_single {depth : Nat} (hdepth : depth < maxDepth) (fuel : Nat) :
    (signed (fuel + 2)).run (starting (t, n) [] last depth) = .ok (e, ended n depth) := by
  rw [signed, run_bind (line_starting t n [] last depth),
    run_bind (skip_other n [] last depth (ne_mark_of_single he .minus))]
  exact nested_ok (i := starting (t, n) [] last depth) hdepth (operand_single he last (depth + 1) fuel)

theorem signed_minus {depth : Nat} (hdepth : depth < maxDepth) (fuel : Nat) :
    (signed (fuel + 3)).run (starting (.mark .minus, n) [(t, n)] last depth) =
      .ok (.opposite n e, ended n depth) := by
  rw [signed, run_bind (line_starting _ n _ last depth), run_bind (skip_same _ n _ last depth), if_pos rfl,
    run_bind (signed_single he n hdepth fuel)]
  rfl

end

/-- A reader with at least the given fuel reads an expression that the text ends with. -/
def Finishes (p : Nat → Parse Expr) (least : Nat) (i : Input) (e : Expr) (n depth : Nat) : Prop :=
  ∀ fuel, least ≤ fuel → (p fuel).run i = .ok (e, ended n depth)

section

variable {t : Token} {k n last depth least : Nat} {more : List (Token × Nat)} {e : Expr}

theorem Finishes.of_succ {p : Nat → Parse Expr} {i : Input}
    (h : ∀ fuel, least ≤ fuel → (p (fuel + 1)).run i = .ok (e, ended n depth)) :
    Finishes p (least + 1) i e n depth := by
  intro fuel hfuel
  obtain ⟨fuel, rfl⟩ := Nat.exists_eq_add_of_le' (Nat.le_trans (Nat.le_add_left 1 least) hfuel)
  exact h fuel (Nat.le_of_succ_le_succ hfuel)

/-- Nothing follows an operand that the text ends with. -/
theorem Finishes.sign (h : Finishes signed (least + 1) (starting (t, k) more last depth) e n depth) :
    Finishes (binary · .sign) (least + 3) (starting (t, k) more last depth) e n depth := by
  refine .of_succ fun fuel hfuel => ?_
  obtain ⟨fuel, rfl⟩ := Nat.exists_eq_add_of_le' hfuel
  rw [binary, ← Nat.add_assoc, suffixed, run_bind (line_starting t k more last depth),
    run_bind (h (fuel + least + 1) (by omega)), run_bind (postfixes_ended n depth _ _ e), filters_ended]

/-- No operator of the level follows it. -/
theorem Finishes.level {level : Level} (hsign : level ≠ .sign) (hnot : level ≠ .not)
    (hcompare : level ≠ .compare)
    (h : Finishes (binary · level.next) (least + 1) (starting (t, k) more last depth) e n depth) :
    Finishes (binary · level) (least + 2) (starting (t, k) more last depth) e n depth := by
  refine .of_succ fun fuel hfuel => ?_
  obtain ⟨fuel, rfl⟩ := Nat.exists_eq_add_of_le' hfuel
  rw [binary, run_bind (line_starting t k more last depth), run_bind (h (fuel + (least + 1)) hfuel),
    ← Nat.add_assoc, operators_ended]
  all_goals assumption

/-- No comparison follows it. -/
theorem Finishes.compare (h : Finishes (binary · .sum) (least + 1) (starting (t, k) more last depth) e n depth) :
    Finishes (binary · .compare) (least + 2) (starting (t, k) more last depth) e n depth := by
  refine .of_succ fun fuel hfuel => ?_
  obtain ⟨fuel, rfl⟩ := Nat.exists_eq_add_of_le' hfuel
  rw [binary, run_bind (get_run _), run_bind (h (fuel + (least + 1)) hfuel), ← Nat.add_assoc,
    run_bind (comparisons_ended n depth _)]
  rfl

/-- It is not a negation. -/
theorem Finishes.not (ht : t ≠ .ident "not")
    (h : Finishes (binary · .compare) least (starting (t, k) more last depth) e n depth) :
    Finishes (binary · .not) (least + 1) (starting (t, k) more last depth) e n depth := by
  refine .of_succ fun fuel hfuel => ?_
  rw [binary, run_bind (line_starting t k more last depth), run_bind (skip_other k more last depth ht)]
  exact h fuel hfuel

/-- It is all that the loosest level of binding reads. -/
theorem Finishes.loosest (ht : t ≠ .ident "not")
    (h : Finishes signed (least + 1) (starting (t, k) more last depth) e n depth) :
    Finishes (binary · .or) (least + 11) (starting (t, k) more last depth) e n depth := by
  -- every level looks at the end of the text, from the tightest to the loosest
  have hpower : Finishes (binary · .power) _ _ e n depth :=
    Finishes.level (by decide) (by decide) (by decide) h.sign
  have hproduct : Finishes (binary · .product) _ _ e n depth :=
    Finishes.level (by decide) (by decide) (by decide) hpower
  have hconcat : Finishes (binary · .concat) _ _ e n depth :=
    Finishes.level (by decide) (by decide) (by decide) hproduct
  have hsum : Finishes (binary · .sum) _ _ e n depth :=
    Finishes.level (by decide) (by decide) (by decide) hconcat
  have hand : Finishes (binary · .and) _ _ e n depth :=
    Finishes.level (by decide) (by decide) (by decide) (hsum.compare.not ht)
  exact Finishes.level (by decide) (by decide) (by decide) hand

/-- No condition follows it. -/
theorem Finishes.conditional (ht : t ≠ .ident "not")
    (h : Finishes signed (least + 1) (starting (t, k) more last depth) e n depth) :
    Finishes Parser.conditional (least + 12) (starting (t, k) more last depth) e n depth := by
  refine .of_succ fun fuel hfuel => ?_
  rw [Parser.conditional, run_bind (get_run _), run_bind (h.loosest ht fuel hfuel)]
  obtain ⟨fuel, rfl⟩ := Nat.exists_eq_add_of_le' hfuel
  exact conditions_ended n depth _ _ e

/-- It is all that there is to read. -/
theorem Finishes.whole (ht : t ≠ .ident "not")
    (h : Finishes signed (least + 1) (starting (t, k) more last 1) e n 1) :
    Finishes Parser.whole (least + 13) (starting (t, k) more last 0) e n 0 := by
  refine .of_succ fun fuel hfuel => ?_
  have hexpression : (expression (fuel + 1)).run (starting (t, k) more last 0) = .ok (e, ended n 0) := by
    rw [expression]
    have hdepth : 0 < maxDepth := by decide
    exact nested_ok (i := starting (t, k) more last 0) hdepth (h.conditional ht fuel hfuel)
  rw [Parser.whole, run_bind hexpression, run_bind (take_ended n 0)]
  rfl

end

end Parser

/-! ## Expressions -/

namespace Expr

/-- A text without what cannot be read, that an operand begins and ends with. -/
theorem ofString_alone {s : String} {t : Token} {more : List (Token × Nat)} {e : Expr}
    (htokens : Tokens.ofChars s.toList = ⟨(t, 1) :: more, none⟩) (ht : t ≠ .ident "not")
    (hsigned : Parser.Finishes Parser.signed 3 (Parser.starting (t, 1) more 0 1) e 1 1) :
    ofString s = .ok e := by
  have henough : 15 ≤ Parser.fuelFor ((t, 1) :: more).length := by
    rw [Parser.fuelFor]
    omega
  rw [ofString, htokens]
  simp only [hsigned.whole ht _ henough]
  rfl

/-- A token alone is what it is as an operand. -/
theorem ofString_single {s : String} {t : Token} {e : Expr}
    (htokens : Tokens.ofChars s.toList = ⟨[(t, 1)], none⟩) (ht : t ≠ .ident "not")
    (he : Parser.single? 1 t = some e) : ofString s = .ok e := by
  refine ofString_alone htokens ht fun fuel hfuel => ?_
  obtain ⟨fuel, rfl⟩ := Nat.exists_eq_add_of_le' (Nat.le_of_succ_le hfuel)
  exact Parser.signed_single he 0 (by decide) fuel

theorem ofString_name {name : String} (hname : isName name.toList = true) (hnot : name ≠ "not")
    (hliteral : Parser.literalName? name = none) : ofString name = .ok (.name 1 name) := by
  refine ofString_single (ofChars_name hname) (by simpa using hnot) ?_
  simp only [Parser.single?, String.ofList_toList, hliteral]

theorem ofString_literal {name : String} {v : Value} (hname : isName name.toList = true)
    (hliteral : Parser.literalName? name = some v) : ofString name = .ok (.literal 1 v) := by
  refine ofString_single (ofChars_name hname) ?_ ?_
  · rw [String.ofList_toList]
    rintro ⟨⟩
    exact absurd hliteral (by simp [Parser.literalName?])
  · simp only [Parser.single?, String.ofList_toList, hliteral]

theorem ofString_intText {n : Int} (hn : n.natAbs ≤ greatestInteger) :
    ofString (String.ofList (Json.intText n)) = .ok (
      if n < 0 then .opposite 1 (.literal 1 (.ofLiteral n.natAbs)) else .literal 1 (.ofLiteral n.natAbs)) := by
  rw [Json.intText]
  split
  · refine ofString_alone (by rw [String.toList_ofList, ofChars_minus hn]) (by simp) fun fuel hfuel => ?_
    obtain ⟨fuel, rfl⟩ := Nat.exists_eq_add_of_le' hfuel
    exact Parser.signed_minus rfl 0 (by decide) fuel
  · exact ofString_single (by rw [String.toList_ofList, ofChars_digitsOf hn]) (by simp) rfl

end Expr

end Walkthrough.Template
