import Mathlib.Data.List.Basic
import Walkthrough.Template.Token

/-!
# Decimal digits

The text of an integer is its decimal digits, after a minus sign if it is negative. The readers of numbers find
the number in it again, and trimming leaves it alone.
-/

namespace Walkthrough

/-- The decimal digits of a number. -/
abbrev digitsOf (n : Nat) : List Char := Nat.toDigits 10 n

theorem isDigit_digitsOf {n : Nat} {c : Char} (h : c ∈ digitsOf n) : c.isDigit = true :=
  Nat.isDigit_of_mem_toDigits (by decide) (by decide) h

theorem digitsOf_ne_nil (n : Nat) : digitsOf n ≠ [] := Nat.toDigits_ne_nil

theorem digitsOf_eq_cons (n : Nat) : ∃ d ds, digitsOf n = d :: ds ∧ d.isDigit = true := by
  obtain ⟨d, ds, heq⟩ := List.exists_cons_of_ne_nil (digitsOf_ne_nil n)
  exact ⟨d, ds, heq, isDigit_digitsOf (heq ▸ List.mem_cons_self)⟩

theorem toNat_of_isDigit {c : Char} (h : c.isDigit = true) : 48 ≤ c.toNat ∧ c.toNat ≤ 57 := by
  simpa [Char.isDigit, UInt32.le_iff_toNat_le] using h

theorem ne_of_isDigit {c d : Char} (hc : c.isDigit = true) (hd : d.isDigit = false) : c ≠ d := by
  rintro rfl
  exact absurd (hc.symm.trans hd) (by simp)

theorem toLower_of_isDigit {c : Char} (h : c.isDigit = true) : c.toLower = c := by
  have hrange := toNat_of_isDigit h
  have hcapital : ¬ (c.val ≥ 'A'.val ∧ c.val ≤ 'Z'.val) := by
    rintro ⟨hleast, -⟩
    have hword : 65 ≤ c.toNat := UInt32.le_iff_toNat_le.1 hleast
    omega
  exact dif_neg hcapital

/-! ## The number again -/

theorem Binary64.digitsValue_digitsOf (n : Nat) : digitsValue (digitsOf n) = n := by
  have hfolds : digitsValue (digitsOf n) = Nat.ofDigitChars 10 (digitsOf n) 0 := by
    unfold digitsValue Nat.ofDigitChars
    congr 1
    funext sofar c
    rw [Nat.mul_comm]
  rw [hfolds, Nat.ofDigitChars_toDigits (by decide) (by decide)]

/-- Digits read on from a number; in base ten none of them is too large. -/
theorem Template.foldlM_digits (ds : List Char) (sofar : Nat) (hdigits : ∀ c ∈ ds, c.isDigit = true) :
    ds.foldlM (fun n c => (digitValue? c).bind fun d => if d < 10 then some (n * 10 + d) else none) sofar
      = some (Nat.ofDigitChars 10 ds sofar) := by
  induction ds generalizing sofar with
  | nil => rfl
  | cons c ds ih =>
    have hc := hdigits c List.mem_cons_self
    have hvalue : digitValue? c = some (c.toNat - '0'.toNat) := by rw [digitValue?, if_pos hc]
    have hbelow : c.toNat - '0'.toNat < 10 := by
      have hrange := toNat_of_isDigit hc
      have hzero : '0'.toNat = 48 := rfl
      omega
    rw [List.foldlM_cons, hvalue, Option.bind_some, if_pos hbelow]
    show ds.foldlM _ (sofar * 10 + (c.toNat - '0'.toNat)) = _
    rw [ih _ fun d hd => hdigits d (List.mem_cons_of_mem c hd), Nat.ofDigitChars_cons, Nat.mul_comm]

theorem Template.numberOfDigits?_digitsOf (n : Nat) : numberOfDigits? 10 (digitsOf n) = some n := by
  have hfold := foldlM_digits (digitsOf n) 0 fun c hc => isDigit_digitsOf hc
  rw [Nat.ofDigitChars_toDigits (by decide) (by decide)] at hfold
  obtain ⟨d, ds, heq, -⟩ := digitsOf_eq_cons n
  rw [heq] at hfold ⊢
  exact hfold

/-! ## Nothing to trim -/

theorem not_isBlank_of_isDigit {c : Char} (h : c.isDigit = true) : Text.isBlank c = false := by
  have hrange := toNat_of_isDigit h
  simp only [Text.isBlank, Bool.or_eq_false_iff, Bool.and_eq_false_iff, decide_eq_false_iff_not,
    beq_eq_false_iff_ne]
  omega

theorem not_isBlank_intText {n : Int} {c : Char} (h : c ∈ Json.intText n) : Text.isBlank c = false := by
  rw [Json.intText] at h
  split at h
  · rcases List.mem_cons.1 h with rfl | h
    · rfl
    · exact not_isBlank_of_isDigit (isDigit_digitsOf h)
  · exact not_isBlank_of_isDigit (isDigit_digitsOf h)

theorem Text.trimChars_of_none {drop : Char → Bool} {cs : List Char} (h : ∀ c ∈ cs, drop c = false) :
    trimChars drop cs = cs := by
  have hkept : ∀ {ds : List Char}, (∀ c ∈ ds, drop c = false) → ds.dropWhile drop = ds := by
    intro ds hds
    cases ds with
    | nil => rfl
    | cons c ds => exact List.dropWhile_cons_of_neg (by simp [hds c List.mem_cons_self])
  rw [trimChars, hkept h, hkept fun c hc => h c (List.mem_reverse.1 hc), List.reverse_reverse]

theorem Text.trim_intText (n : Int) :
    Text.trim (String.ofList (Json.intText n)) = String.ofList (Json.intText n) := by
  rw [Text.trim, String.toList_ofList, trimChars_of_none fun c hc => not_isBlank_intText hc]

end Walkthrough
