import Mathlib
import Walkthrough.Binary64.Basic

/-!
# Whole numbers as binary64 numbers

A whole number of up to 64 bits becomes the nearest multiple of a power of two that leaves it 53 bits
(`nearest`); taken as a word again it is that multiple, or the end of the words beyond which it lies
(`toWord_ofInt`). So an integer survives if it has 53 significant bits, and so does the greatest word
(`toWord_ofInt_eq_self_iff`).
-/

namespace Walkthrough.Binary64

/-! ## Bits -/

/-- The bits of a number are kept, unless they are those of an infinity or of NaN. -/
theorem toBits_ofBits {b : UInt64} (h : b.toNat / fraction % 2048 ≠ 2047) : (Float.ofBits b).toBits = b := by
  have hnan : @Float.Model.UnpackedFloat.isNaNBits .binary64 b.toBitVec = false := by
    rw [Float.Model.UnpackedFloat.isNaNBits, decide_eq_false_iff_not]
    rintro ⟨hexponent, -⟩
    rw [Float.Model.UnpackedFloat.unpackExponent_def] at hexponent
    have hnat := congrArg BitVec.toNat hexponent
    apply h
    simpa [fraction, Nat.shiftRight_eq_div_pow] using hnat
  show UInt64.ofBitVec (Float.Model.UnpackedFloat.pack .binary64
    (Float.Model.UnpackedFloat.unpack .binary64 b.toBitVec)) = b
  rw [Float.Model.UnpackedFloat.pack_unpack, hnan]
  rfl

/-- A number is taken apart into the fields that it was put together from. -/
theorem ofFloat_ofMagnitudeBits (negative : Bool) {exponent stored : Nat} (hexponent : exponent < 2047)
    (hstored : stored < fraction) :
    ofFloat (ofMagnitudeBits negative (exponent * fraction + stored)) =
      if exponent = 0 then .finite negative stored leastExponent
      else .finite negative (stored + fraction) ((exponent : Int) - 1075) := by
  unfold fraction at hstored
  obtain ⟨bits, hbits, hlt⟩ : ∃ bits, exponent * fraction + stored +
      (if negative then 9223372036854775808 else 0) = bits ∧ bits < 18446744073709551616 := by
    refine ⟨_, rfl, ?_⟩
    unfold fraction
    split <;> omega
  have hfraction : bits / fraction % 2048 = exponent := by
    rw [← hbits]
    unfold fraction
    cases negative <;> simp <;> omega
  have hrest : bits % fraction = stored := by
    rw [← hbits]
    unfold fraction
    cases negative <;> simp <;> omega
  have hsign : (bits / 9223372036854775808 == 1) = negative := by
    rw [← hbits]
    unfold fraction
    cases negative <;> simp <;> omega
  have hnat : (UInt64.ofNat bits).toNat = bits := by
    rw [UInt64.toNat_ofNat']
    exact Nat.mod_eq_of_lt hlt
  rw [ofMagnitudeBits, hbits, ofFloat, toBits_ofBits (by rw [hnat, hfraction]; omega), hnat, hfraction, hrest,
    hsign, if_neg (by omega)]

/-! ## Rounding -/

/-- The distance of the multiples that 53 bits can count up to a number. -/
def spacing (m : Nat) : Nat := 2 ^ (m.log2 - 52)

/-- The nearest multiple of the distance; of two the one that is even there. -/
def nearest (m : Nat) : Nat := roundHalfEven m (spacing m) * spacing m

theorem roundHalfEven_mem (num den : Nat) :
    roundHalfEven num den = num / den ∨ roundHalfEven num den = num / den + 1 := by
  unfold roundHalfEven
  simp only
  repeat' split
  all_goals simp

theorem roundHalfEven_of_dvd {num den : Nat} (hden : 0 < den) (h : den ∣ num) :
    roundHalfEven num den = num / den := by
  rw [roundHalfEven]
  simp only [Nat.mod_eq_zero_of_dvd h]
  rw [if_pos (by omega)]

theorem spacing_pos (m : Nat) : 0 < spacing m := Nat.two_pow_pos _

theorem spacing_of_small {m : Nat} (h : m.log2 ≤ 52) : spacing m = 1 := by
  rw [spacing, Nat.sub_eq_zero_of_le h, pow_zero]

/-- A number is the nearest multiple to itself exactly if it has 53 significant bits. -/
theorem nearest_eq_self_iff (m : Nat) : nearest m = m ↔ ∃ a e, m = a * 2 ^ e ∧ a < 2 ^ 53 := by
  constructor
  · intro h
    have hdvd : spacing m ∣ m := Dvd.intro_left _ h
    refine ⟨m / spacing m, m.log2 - 52, (Nat.div_mul_cancel hdvd).symm, ?_⟩
    rw [Nat.div_lt_iff_lt_mul (spacing_pos m), spacing, ← pow_add]
    exact lt_of_lt_of_le Nat.lt_log2_self (Nat.pow_le_pow_right (by omega) (by omega))
  · rintro ⟨a, e, hm, ha⟩
    have hdvd : spacing m ∣ m := by
      rcases Nat.eq_zero_or_pos m with rfl | hpos
      · exact dvd_zero _
      · have hlog : m.log2 < 53 + e := by
          rw [Nat.log2_lt (by omega), hm, pow_add]
          exact Nat.mul_lt_mul_of_pos_right ha (Nat.two_pow_pos e)
        rw [hm] at hlog ⊢
        exact Dvd.dvd.mul_left (pow_dvd_pow 2 (by omega)) a
    rw [nearest, roundHalfEven_of_dvd (spacing_pos m) hdvd, Nat.div_mul_cancel hdvd]

/-- The multiple that is nearest to a number, as a mantissa of 53 bits. -/
def significand (m : Nat) : Nat := roundHalfEven m (spacing m) * 2 ^ (52 - m.log2)

theorem significand_of_small {m : Nat} (h : m.log2 ≤ 52) : significand m = m * 2 ^ (52 - m.log2) := by
  rw [significand, spacing_of_small h, roundHalfEven_of_dvd Nat.one_pos (one_dvd m), Nat.div_one]

theorem significand_of_large {m : Nat} (h : 52 ≤ m.log2) : significand m = roundHalfEven m (spacing m) := by
  rw [significand, Nat.sub_eq_zero_of_le h, pow_zero, Nat.mul_one]

/-- The mantissa of a positive number has its first bit; it has no more bits, unless it was rounded up. -/
theorem significand_bounds {m : Nat} (hm : m ≠ 0) :
    2 ^ 52 ≤ significand m ∧ significand m ≤ 2 ^ 53 ∧ (m.log2 < 52 → significand m < 2 ^ 53) := by
  have hlow := Nat.log2_self_le hm
  have hhigh : m < 2 ^ (m.log2 + 1) := Nat.lt_log2_self
  rcases Nat.lt_or_ge m.log2 52 with hsmall | hlarge
  · rw [significand_of_small hsmall.le]
    have hfirst : 2 ^ 52 ≤ m * 2 ^ (52 - m.log2) := by
      calc 2 ^ 52 = 2 ^ m.log2 * 2 ^ (52 - m.log2) := by rw [← pow_add]; congr 1; omega
        _ ≤ m * 2 ^ (52 - m.log2) := Nat.mul_le_mul_right _ hlow
    have hlast : m * 2 ^ (52 - m.log2) < 2 ^ 53 := by
      calc m * 2 ^ (52 - m.log2) < 2 ^ (m.log2 + 1) * 2 ^ (52 - m.log2) :=
            Nat.mul_lt_mul_of_pos_right hhigh (Nat.two_pow_pos _)
        _ = 2 ^ 53 := by rw [← pow_add]; congr 1; omega
    exact ⟨hfirst, hlast.le, fun _ => hlast⟩
  · rw [significand_of_large hlarge]
    have hfirst : 2 ^ 52 ≤ m / spacing m := by
      rw [Nat.le_div_iff_mul_le (spacing_pos m), spacing, ← pow_add, Nat.add_sub_cancel' hlarge]
      exact hlow
    have hlast : m / spacing m < 2 ^ 53 := by
      rw [Nat.div_lt_iff_lt_mul (spacing_pos m), spacing, ← pow_add]
      exact lt_of_lt_of_le hhigh (Nat.pow_le_pow_right (by omega) (by omega))
    rcases roundHalfEven_mem m (spacing m) with heq | heq <;> rw [heq] <;> omega

/-! ## From a whole number and back -/

theorem floorLog2_one {m : Nat} (hm : m ≠ 0) : floorLog2 m 1 = m.log2 := by
  have hscaled : scaleTwo m 1 m.log2 = (m, 2 ^ m.log2) := by
    rw [scaleTwo, if_pos (by omega)]
    simp
  have hlog : (1 : Nat).log2 = 0 := by decide
  rw [floorLog2, hlog]
  simp only [Nat.cast_zero, sub_zero, hscaled]
  rw [if_pos (Nat.log2_self_le hm)]

theorem roundHalfEven_scaled {m : Nat} :
    roundHalfEven (scaleTwo m 1 ((m.log2 : Int) - 52)).1 (scaleTwo m 1 ((m.log2 : Int) - 52)).2 =
      significand m := by
  rcases Nat.lt_or_ge m.log2 52 with hsmall | hlarge
  · have hexponent : (-((m.log2 : Int) - 52)).toNat = 52 - m.log2 := by omega
    rw [scaleTwo, if_neg (by omega), significand_of_small hsmall.le, hexponent,
      roundHalfEven_of_dvd Nat.one_pos (one_dvd _), Nat.div_one]
    rfl
  · have hexponent : ((m.log2 : Int) - 52).toNat = m.log2 - 52 := by omega
    rw [scaleTwo, if_pos (by omega), significand_of_large hlarge, hexponent, Nat.one_mul]
    rfl

/-- The fields of the number that is nearest to a whole number. -/
theorem ofRatio_whole (negative : Bool) {m : Nat} (hm : m ≠ 0) (hlog : m.log2 < 1023) :
    ofRatio negative m 1 = ofMagnitudeBits negative
      ((m.log2 + 1023) * fraction + (significand m - fraction)) := by
  obtain ⟨hfirst, hlast, -⟩ := significand_bounds hm
  have hexponent : max ((m.log2 : Int) - 52) leastExponent = (m.log2 : Int) - 52 := by
    unfold leastExponent
    omega
  have hbiased : ((m.log2 : Int) - 52 + 1075).toNat = m.log2 + 1023 := by omega
  rw [ofRatio, if_neg hm, floorLog2_one hm]
  simp only [hexponent, roundHalfEven_scaled, hbiased]
  rw [if_neg (by unfold fraction; omega), min_eq_left]
  unfold infinityBits fraction
  omega

/-- A magnitude of 53 bits has the whole part that it counts multiples to. -/
theorem wholePart_significand {m : Nat} (hm : m.log2 < 52 ∨ 52 ≤ m.log2) :
    (magnitude (significand m) ((m.log2 : Int) - 52)).1 / (magnitude (significand m) ((m.log2 : Int) - 52)).2 =
      nearest m := by
  rcases hm with hsmall | hlarge
  · have hexponent : (-((m.log2 : Int) - 52)).toNat = 52 - m.log2 := by omega
    rw [magnitude, if_neg (by omega), hexponent]
    show significand m / 2 ^ (52 - m.log2) = _
    rw [significand, Nat.mul_div_cancel _ (Nat.two_pow_pos _), nearest, spacing_of_small hsmall.le, Nat.mul_one]
  · have hexponent : ((m.log2 : Int) - 52).toNat = m.log2 - 52 := by omega
    rw [magnitude, if_pos (by omega), hexponent, Nat.div_one, significand_of_large hlarge]
    rfl

/-- The whole part of the number that is nearest to a whole number. -/
theorem ofRatio_taken_apart (negative : Bool) {m : Nat} (hm : m ≠ 0) (hlog : m.log2 < 1022) :
    ∃ q e, ofFloat (ofRatio negative m 1) = .finite negative q e ∧
      (magnitude q e).1 / (magnitude q e).2 = nearest m := by
  obtain ⟨hfirst, hlast, hsmall⟩ := significand_bounds hm
  rw [ofRatio_whole negative hm (by omega)]
  by_cases hfull : significand m = 2 ^ 53
  · -- the mantissa was rounded up to the next power of two, and the exponent takes it over
    have hlarge : 52 ≤ m.log2 := by
      by_contra hlt
      exact absurd hfull (hsmall (by omega)).ne
    have hbits : (m.log2 + 1023) * fraction + (significand m - fraction) = (m.log2 + 1024) * fraction + 0 := by
      rw [hfull]
      unfold fraction
      omega
    have hexponent : ((m.log2 + 1024 : Nat) : Int) - 1075 = (m.log2 : Int) - 51 := by omega
    refine ⟨0 + fraction, (m.log2 : Int) - 51, ?_, ?_⟩
    · rw [hbits, ofFloat_ofMagnitudeBits negative (by omega) (by decide), if_neg (by omega), hexponent]
    · have htoNat : ((m.log2 : Int) - 51).toNat = m.log2 - 52 + 1 := by omega
      rw [magnitude, if_pos (by omega), htoNat, Nat.div_one, nearest, ← significand_of_large hlarge, hfull,
        spacing]
      show (0 + fraction) * 2 ^ (m.log2 - 52 + 1) = _
      rw [pow_succ, Nat.mul_comm _ 2, ← Nat.mul_assoc]
      rfl
  · have hexponent : ((m.log2 + 1023 : Nat) : Int) - 1075 = (m.log2 : Int) - 52 := by omega
    refine ⟨significand m, (m.log2 : Int) - 52, ?_, wholePart_significand (Nat.lt_or_ge _ _)⟩
    rw [ofFloat_ofMagnitudeBits negative (by omega) (by unfold fraction; omega), if_neg (by omega),
      Nat.sub_add_cancel (by unfold fraction; omega), hexponent]

/-- A word: what is beyond the least or the greatest is taken for it. -/
def saturated (n : Int) : Int := max minWord (min maxWord n)

/-- An integer of up to 64 bits becomes the nearest number, whose whole part is a word again. -/
theorem toWord_ofInt {n : Int} (hn : n.natAbs < 2 ^ 64) :
    toWord (ofInt n) = saturated (signed (n < 0) (nearest n.natAbs)) := by
  rcases Nat.eq_zero_or_pos n.natAbs with hzero | hpos
  · obtain rfl : n = 0 := Int.natAbs_eq_zero.1 hzero
    decide +kernel
  · have hlog : n.natAbs.log2 < 1022 := lt_trans ((Nat.log2_lt (by omega)).2 hn) (by omega)
    obtain ⟨q, e, hparts, hwhole⟩ := ofRatio_taken_apart (n < 0) (by omega) hlog
    rw [toWord, ofInt, hparts]
    simp only [hwhole]
    rfl

theorem saturated_of_word {n : Int} (hleast : minWord ≤ n) (hgreatest : n ≤ maxWord) : saturated n = n := by
  unfold saturated
  omega

theorem signed_natAbs (n : Int) : signed (n < 0) n.natAbs = n := by
  unfold signed
  by_cases hn : n < 0
  · rw [if_pos (decide_eq_true hn)]
    omega
  · rw [if_neg (by simpa using hn)]
    omega

/-- An integer that is a word is kept exactly if it has 53 significant bits, or is the greatest word. -/
theorem toWord_ofInt_eq_self_iff {n : Int} (hleast : minWord ≤ n) (hgreatest : n ≤ maxWord) :
    toWord (ofInt n) = n ↔ (∃ a e, n.natAbs = a * 2 ^ e ∧ a < 2 ^ 53) ∨ n = maxWord := by
  have hbits : n.natAbs < 2 ^ 64 := by
    unfold minWord at hleast
    unfold maxWord at hgreatest
    omega
  rw [toWord_ofInt hbits]
  constructor
  · intro h
    by_cases hends : n = maxWord ∨ n = minWord
    · rcases hends with rfl | rfl
      · exact .inr rfl
      · exact .inl ⟨1, 63, by decide, by decide⟩
    · -- strictly between the ends nothing was cut off
      left
      rw [← nearest_eq_self_iff]
      have hsigned : signed (n < 0) (nearest n.natAbs) = n := by
        unfold saturated at h
        omega
      unfold signed at hsigned
      split at hsigned <;> omega
  · rintro (hexact | rfl)
    · rw [(nearest_eq_self_iff _).2 hexact, signed_natAbs, saturated_of_word hleast hgreatest]
    · decide +kernel

end Walkthrough.Binary64
