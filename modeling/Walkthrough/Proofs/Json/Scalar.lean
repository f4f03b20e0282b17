import Mathlib.Tactic.SplitIfs
import Walkthrough.Json.Reader
import Walkthrough.Proofs.Template.Digits

/-!
# Reading strings and integers

A string is written in quotes, with escapes, and an integer as its digits. The reader finds either again,
whatever the string holds and whatever stands behind it:

* `readString_quoted` — the characters up to the closing quote, every escape undone
* `readNumber_integer` — a word from its digits, if no number goes on behind them (`Follows`)
-/

namespace Walkthrough.Json

/-! ## Blanks -/

/-- Nothing but blanks. -/
abbrev Blank (cs : List Char) : Prop := ∀ c ∈ cs, isBlank c = true

theorem blank_nil : Blank [] := fun _ h => absurd h List.not_mem_nil

theorem skipBlanks_append {blanks : List Char} (h : Blank blanks) (cs : List Char) :
    skipBlanks (blanks ++ cs) = skipBlanks cs := by
  induction blanks with
  | nil => rfl
  | cons c blanks ih =>
    obtain ⟨hc, hblanks⟩ := List.forall_mem_cons.1 h
    rw [List.cons_append, skipBlanks, if_pos hc, ih hblanks]

theorem skipBlanks_cons {c : Char} (h : isBlank c = false) (cs : List Char) :
    skipBlanks (c :: cs) = c :: cs := by
  rw [skipBlanks, if_neg (by simp [h])]

/-! ## Strings -/

theorem quote_append (t : String) (rest : List Char) :
    quote t ++ rest = '"' :: (t.toList.flatMap escapeChar ++ '"' :: rest) := by
  simp [quote]

theorem hexValue?_hexDigit : ∀ n < 16, Text.hexValue? (hexDigit n) = some n := by decide

theorem readHex_control {n : Nat} (h : n < 32) (rest : List Char) :
    readHex ('0' :: '0' :: hexDigit (n / 16) :: hexDigit (n % 16) :: rest) = .ok (n, rest) := by
  have hzero : Text.hexValue? '0' = some 0 := by decide
  have hhigh := hexValue?_hexDigit (n / 16) (by omega)
  have hlow := hexValue?_hexDigit (n % 16) (by omega)
  have hdigits : ['0', '0', hexDigit (n / 16), hexDigit (n % 16)].mapM Text.hexValue? =
      some [0, 0, n / 16, n % 16] := by
    simp [hzero, hhigh, hlow]
  have hvalue : ((0 * 16 + 0) * 16 + n / 16) * 16 + n % 16 = n := by omega
  rw [readHex]
  simp only [List.take_succ_cons, List.take_zero, hdigits, hvalue]
  rfl

/-- An escape is read as the character that was escaped. -/
theorem readString_escapeChar (c : Char) (fuel : Nat) (acc cs : List Char) :
    readString (fuel + 1) acc (escapeChar c ++ cs) = readString fuel (c :: acc) cs := by
  unfold escapeChar
  split_ifs with hquote hback hfeed hreturn htab hbackspace hpage hcontrol
  · subst hquote; rfl
  · subst hback; rfl
  · subst hfeed; rfl
  · subst hreturn; rfl
  · subst htab; rfl
  · subst hbackspace; rfl
  · subst hpage; rfl
  · -- the other control characters are written by their number, which is no half of a surrogate pair
    have hunicode : readUnicode ('0' :: '0' :: hexDigit (c.toNat / 16) :: hexDigit (c.toNat % 16) :: cs)
        = .ok (c, cs) := by
      rw [readUnicode, readHex_control hcontrol]
      show (if 0xDC00 ≤ c.toNat ∧ c.toNat ≤ 0xDFFF then _ else
        if 0xD800 ≤ c.toNat ∧ c.toNat ≤ 0xDBFF then _ else _) = _
      rw [if_neg (by omega), if_neg (by omega), Char.ofNat_toNat]
    show (readUnicode ('0' :: '0' :: hexDigit (c.toNat / 16) :: hexDigit (c.toNat % 16) :: cs) >>=
      fun x => readString fuel (x.1 :: acc) x.2) = _
    rw [hunicode]
    rfl
  · rw [List.singleton_append, readString, if_neg hquote, if_neg hback, if_neg hcontrol]

theorem readString_escaped (s acc rest : List Char) {fuel : Nat} (h : s.length < fuel) :
    readString fuel acc (s.flatMap escapeChar ++ '"' :: rest) =
      .ok (String.ofList (acc.reverse ++ s), rest) := by
  induction s generalizing acc fuel with
  | nil =>
    obtain ⟨fuel, rfl⟩ : ∃ f, fuel = f + 1 := ⟨fuel - 1, by omega⟩
    simp [readString]
  | cons c s ih =>
    rw [List.length_cons] at h
    obtain ⟨fuel, rfl⟩ : ∃ f, fuel = f + 1 := ⟨fuel - 1, by omega⟩
    rw [List.flatMap_cons, List.append_assoc, readString_escapeChar, ih _ (by omega)]
    simp

theorem length_escapeChar_pos (c : Char) : 0 < (escapeChar c).length := by
  unfold escapeChar
  split_ifs <;> exact Nat.zero_lt_succ _

theorem length_le_escaped (s : List Char) : s.length ≤ (s.flatMap escapeChar).length := by
  induction s with
  | nil => exact Nat.zero_le _
  | cons c s ih =>
    have hc := length_escapeChar_pos c
    rw [List.flatMap_cons, List.length_append, List.length_cons]
    omega

/-- A string is read up to its closing quote. -/
theorem readString_quoted (t : String) (rest : List Char) :
    let cs := t.toList.flatMap escapeChar ++ '"' :: rest
    readString (cs.length + 1) [] cs = .ok (t, rest) := by
  intro cs
  have hfuel : t.toList.length < cs.length + 1 := by
    have hescaped := length_le_escaped t.toList
    rw [List.length_append]
    omega
  rw [readString_escaped t.toList [] rest hfuel, List.reverse_nil, List.nil_append, String.ofList_toList]

/-! ## Integers -/

/-- A text at whose start a number does not go on. -/
def Follows (rest : List Char) : Prop :=
  ∀ c ∈ rest.head?, c.isDigit = false ∧ c ≠ '.' ∧ c ≠ 'e' ∧ c ≠ 'E'

theorem follows_nil : Follows [] := fun _ h => absurd h (by simp)

theorem le_ofDigitChars (ds : List Char) (sofar : Nat) : sofar ≤ Nat.ofDigitChars 10 ds sofar := by
  induction ds generalizing sofar with
  | nil => exact Nat.le_refl _
  | cons d ds ih =>
    have hrest := ih (10 * sofar + (d.toNat - '0'.toNat))
    rw [Nat.ofDigitChars_cons]
    omega

theorem takeDigits_follows (n taken : Nat) {rest : List Char} (h : Follows rest) :
    takeDigits n taken rest = (n, taken, rest) := by
  cases rest with
  | nil => rfl
  | cons c rest => rw [takeDigits, if_neg (by simp [(h c rfl).1])]

/-- All digits are taken if the whole number fits a word, since it grows with every digit. -/
theorem takeDigits_append {ds rest : List Char} (hdigits : ∀ c ∈ ds, c.isDigit = true) (hrest : Follows rest)
    {sofar : Nat} (taken : Nat) (hword : Nat.ofDigitChars 10 ds sofar < 18446744073709551616) :
    takeDigits sofar taken (ds ++ rest) = (Nat.ofDigitChars 10 ds sofar, taken + ds.length, rest) := by
  induction ds generalizing sofar taken with
  | nil => exact takeDigits_follows sofar taken hrest
  | cons d ds ih =>
    obtain ⟨hd, hds⟩ := List.forall_mem_cons.1 hdigits
    rw [Nat.ofDigitChars_cons, Nat.mul_comm] at hword ⊢
    have hbelow := Nat.lt_of_le_of_lt (le_ofDigitChars ds _) hword
    rw [List.cons_append, takeDigits, if_pos hd]
    simp only [if_pos hbelow]
    rw [ih hds (taken + 1) hword, List.length_cons, Nat.add_assoc, Nat.add_comm 1]

theorem takeDigits_digitsOf {n : Nat} (hword : n < 18446744073709551616) {rest : List Char}
    (hrest : Follows rest) : takeDigits 0 0 (digitsOf n ++ rest) = (n, (digitsOf n).length, rest) := by
  have hvalue : Nat.ofDigitChars 10 (digitsOf n) 0 = n := Nat.ofDigitChars_toDigits (by decide) (by decide)
  rw [takeDigits_append (fun c hc => isDigit_digitsOf hc) hrest 0 (by rwa [hvalue]), hvalue, Nat.zero_add]

/-- No digits but those of zero start with a zero. -/
theorem head?_digitsOf_ne {n : Nat} (h : n ≠ 0) : (digitsOf n).head? ≠ some '0' := by
  induction n using Nat.strongRecOn with
  | ind n ih =>
    by_cases hsmall : n < 10
    · have hdigit : ∀ n < 10, n ≠ 0 → [n.digitChar].head? ≠ some '0' := by decide
      rw [digitsOf, Nat.toDigits_of_lt_base hsmall]
      exact hdigit n hsmall h
    · rw [digitsOf, Nat.toDigits_of_base_le (by decide) (Nat.le_of_not_lt hsmall),
        List.head?_append_of_ne_nil _ Nat.toDigits_ne_nil]
      exact ih (n / 10) (by omega) (by omega)

section

variable {digits : Nat} {rest : List Char} (hrest : Follows rest)

include hrest

theorem readNumber_zero (negative : Bool) :
    readNumber negative ('0' :: rest) = readAfterInteger negative 0 rest := by
  unfold readNumber
  cases rest with
  | nil => rfl
  | cons c rest =>
    simp only
    rw [if_neg (by simp [(hrest c rfl).1])]

theorem readNumber_positive (negative : Bool) (hpositive : digits ≠ 0)
    (hword : digits < 18446744073709551616) :
    readNumber negative (digitsOf digits ++ rest) = readAfterInteger negative digits rest := by
  obtain ⟨d, ds, heq, hd⟩ := digitsOf_eq_cons digits
  have hfirst : d ≠ '0' := by
    have hhead := head?_digitsOf_ne hpositive
    rw [heq, List.head?_cons] at hhead
    exact fun h => hhead (congrArg some h)
  have htake := takeDigits_digitsOf hword hrest
  rw [heq, List.cons_append] at htake ⊢
  unfold readNumber
  split
  · next h => exact absurd h (by simp)
  · next h => exact absurd (List.cons.inj h).1 hfirst
  · next h =>
    obtain ⟨rfl, rfl⟩ := List.cons.inj h
    rw [if_pos hd, htake]
    -- all digits are taken, so that none of them is left out
    cases rest with
    | nil => rfl
    | cons c rest =>
      simp only
      rw [if_neg (by simp [(hrest c rfl).1])]

/-- The digits of a number are read up to what stands behind them. -/
theorem readNumber_digitsOf (negative : Bool) (hword : digits < 18446744073709551616) :
    readNumber negative (digitsOf digits ++ rest) = readAfterInteger negative digits rest := by
  by_cases hzero : digits = 0
  · subst hzero
    exact readNumber_zero hrest negative
  · exact readNumber_positive hrest negative hzero hword

variable {negative : Bool} {w : Word} (hw : w.val = if negative then -(digits : Int) else digits)
  (hzero : ¬ (negative ∧ digits = 0))

include hw hzero

theorem readAfterInteger_word : readAfterInteger negative digits rest = .ok (.int w, rest) := by
  have hwhole : readAfterInteger.whole negative digits rest = .ok (.int w, rest) := by
    rw [readAfterInteger.whole]
    simp only [if_neg hzero, ← hw, Word.ofInt?_val]
  cases rest with
  | nil => exact hwhole
  | cons c rest =>
    obtain ⟨-, hpoint, hsmall, hlarge⟩ := hrest c rfl
    unfold readAfterInteger
    split
    · next heq => exact absurd (List.cons.inj heq).1 hpoint
    · next heq =>
      obtain ⟨rfl, rfl⟩ := List.cons.inj heq
      rw [if_neg (not_or.2 ⟨hsmall, hlarge⟩)]
      exact hwhole
    · next heq => exact absurd heq (by simp)

/-- A word is read from its digits; minus zero is none. -/
theorem readNumber_integer : readNumber negative (digitsOf digits ++ rest) = .ok (.int w, rest) := by
  have hword : digits < 18446744073709551616 := by
    have hlower := w.lower
    have hupper := w.upper
    split at hw <;> omega
  rw [readNumber_digitsOf hrest negative hword, readAfterInteger_word hrest hw hzero]

end

end Walkthrough.Json
