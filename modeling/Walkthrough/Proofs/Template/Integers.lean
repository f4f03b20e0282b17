import Walkthrough.Proofs.Binary64.Whole
import Walkthrough.Proofs.Template.Digits
import Walkthrough.Template.Filter

/-!
# Integers made of values

The filter that makes an integer of a value leaves an integer as it is, but reads a text as a float first. So
the decimal digits of a word are read back as the nearest float, which is the word itself only if that has 53
significant bits, or is the greatest.

* `readFloat?_intText` — the digits of an integer are read as the nearest float
* `toInteger_intText` — so they become the nearest whole number that a float holds, kept within the words
* `integers_kept` — what the filter makes of an integer and of its digits
-/

namespace Walkthrough

namespace Binary64

/-! ## Digits as a float -/

theorem readUnsigned?_digits (negative : Bool) {ds : List Char} (hne : ds ≠ [])
    (hdigits : ∀ c ∈ ds, c.isDigit = true) :
    readUnsigned? negative ds = some (ofDecimal negative (digitsValue ds) 0) := by
  have hwhole : ds.takeWhile Char.isDigit = ds := List.takeWhile_eq_self_iff.2 hdigits
  have hrest : ds.dropWhile Char.isDigit = [] := List.dropWhile_eq_nil_iff.2 hdigits
  rw [readUnsigned?, hwhole, hrest]
  simp [hne, readExponent?]

theorem ofDecimal_zero (negative : Bool) {n : Nat} (hn : n < 10 ^ 20) :
    ofDecimal negative n 0 = ofRatio negative n 1 := by
  have hcount : digitCount n ≤ 20 := (Nat.length_toDigits_le_iff (by decide) (by decide)).2 hn
  rw [ofDecimal]
  split
  · next hzero => rw [hzero, ofRatio, if_pos rfl]
  · simp only [zero_add]
    rw [if_neg (by omega), if_neg (by omega), if_pos le_rfl]
    simp

/-- A word that starts with a letter does not start with a digit. -/
theorem sameLetters_of_digit {c : Char} (hc : c.isDigit = true) (cs : List Char) (word : String) {w : Char}
    {ws : List Char} (hword : word.toList = w :: ws) (hw : w.isDigit = false) :
    sameLetters (c :: cs) word = false := by
  rw [sameLetters, hword, List.map_cons, toLower_of_isDigit hc]
  simp [ne_of_isDigit hc hw]

/-- Digits after a sign are no name of a special number. -/
theorem readFloat?_digits (negative : Bool) (n : Nat) (hn : n < 2 ^ 64) :
    readFloat? (if negative then '-' :: digitsOf n else digitsOf n) = some (ofRatio negative n 1) := by
  obtain ⟨d, ds, heq, hd⟩ := digitsOf_eq_cons n
  have hread : readUnsigned? negative (d :: ds) = some (ofRatio negative n 1) := by
    rw [← heq, readUnsigned?_digits negative (digitsOf_ne_nil n) fun c hc => isDigit_digitsOf hc,
      digitsValue_digitsOf, ofDecimal_zero]
    exact hn.trans (by decide)
  -- no digit starts what an infinity or NaN is called
  have hinf := sameLetters_of_digit hd ds "inf" rfl (by decide)
  have hinfinity := sameLetters_of_digit hd ds "infinity" rfl (by decide)
  have hnan := sameLetters_of_digit hd ds "nan" rfl (by decide)
  rw [heq]
  cases negative with
  | true => simp [readFloat?, hinf, hinfinity, hnan, hread]
  | false =>
    have hminus := ne_of_isDigit hd (d := '-') (by decide)
    have hplus := ne_of_isDigit hd (d := '+') (by decide)
    simp [readFloat?, hinf, hinfinity, hnan, hread, hminus, hplus]

/-- The digits of an integer, with its sign, are read as the nearest float. -/
theorem readFloat?_intText {n : Int} (hn : n.natAbs < 2 ^ 64) :
    readFloat? (Json.intText n) = some (ofInt n) := by
  have hread := readFloat?_digits (decide (n < 0)) n.natAbs hn
  rw [Json.intText, ofInt, ← hread]
  by_cases hneg : n < 0 <;> simp [hneg]

theorem natAbs_lt_of_word {n : Int} (hleast : minWord ≤ n) (hgreatest : n ≤ maxWord) : n.natAbs < 2 ^ 64 := by
  unfold minWord at hleast
  unfold maxWord at hgreatest
  omega

end Binary64

/-! ## The filter -/

namespace Template

open Binary64

namespace Value

theorem toInteger_int {n : Int} (hleast : minWord ≤ n) (hgreatest : n ≤ maxWord) :
    toInteger (.int n) = .ok (.int n) := by
  rw [toInteger, word?, if_pos ⟨hleast, hgreatest⟩]

theorem toInteger_intText {n : Int} (hn : n.natAbs < 2 ^ 64) (safe : Bool) :
    toInteger (.string (String.ofList (Json.intText n)) safe) =
      .ok (.int (saturated (signed (n < 0) (nearest n.natAbs)))) := by
  have hread : readFloat? (Text.trim (String.ofList (Json.intText n))).toList = some (ofInt n) := by
    rw [Text.trim_intText, String.toList_ofList, readFloat?_intText hn]
  simp only [toInteger, word?, display, hread, toWord_ofInt hn]

end Value

theorem Filter.apply_integer (v : Value) : Filter.integer.apply [v] = v.toInteger := rfl

/-- **Integers.** The filter `int` gives every integer of a word back. Of the text of its decimal digits it
makes the nearest whole number of 53 significant bits, kept within the words; so it gives the integer back
exactly if that has 53 significant bits itself, or is the greatest word. -/
theorem integers_kept (n : Int) (hleast : minWord ≤ n) (hgreatest : n ≤ maxWord) (safe : Bool) :
    Filter.integer.apply [.int n] = .ok (.int n) ∧
    Filter.integer.apply [.string (String.ofList (Json.intText n)) safe] =
      .ok (.int (saturated (signed (n < 0) (nearest n.natAbs)))) ∧
    (Filter.integer.apply [.string (String.ofList (Json.intText n)) safe] = .ok (.int n) ↔
      (∃ a e, n.natAbs = a * 2 ^ e ∧ a < 2 ^ 53) ∨ n = maxWord) := by
  have hbits := natAbs_lt_of_word hleast hgreatest
  rw [Filter.apply_integer, Filter.apply_integer, Value.toInteger_intText hbits]
  refine ⟨Value.toInteger_int hleast hgreatest, rfl, ?_⟩
  rw [← toWord_ofInt_eq_self_iff hleast hgreatest, toWord_ofInt hbits]
  simp

/-- The digits of `-2 ^ 53 - 2` are read as what they say. -/
theorem even_identifier_kept :
    minWord ≤ -9007199254740994 ∧ -9007199254740994 ≤ maxWord ∧
    Filter.integer.apply [.string (String.ofList (Json.intText (-9007199254740994))) false] =
      .ok (.int (-9007199254740994)) :=
  ⟨by decide, by decide,
    (integers_kept (-9007199254740994) (by decide) (by decide) false).2.2.2
      (.inl ⟨4503599627370497, 1, by decide, by decide⟩)⟩

/-- The digits of `2 ^ 53 + 1`, the first odd number that no float is, are read as those of `2 ^ 53`. -/
theorem odd_identifier_lost :
    ¬ ∀ n : Int, minWord ≤ n → n ≤ maxWord →
      Filter.integer.apply [.int n] = .ok (.int n) ∧
      Filter.integer.apply [.string (String.ofList (Json.intText n)) false] = .ok (.int n) := by
  intro hkept
  have hlost : toWord (ofInt 9007199254740993) = 9007199254740992 := by decide +kernel
  have hread := (hkept 9007199254740993 (by decide) (by decide)).2
  have hbits := natAbs_lt_of_word (n := 9007199254740993) (by decide) (by decide)
  rw [Filter.apply_integer, Value.toInteger_intText hbits, ← toWord_ofInt hbits, hlost] at hread
  exact absurd hread (by simp)

end Template

end Walkthrough
