import Mathlib.Data.Nat.Digits.Defs
import Walkthrough.Yaml.Value

/-!
# What scalars mean

A plain scalar without a tag is null, a truth value, an integer or a number with a point or exponent if it is
spelled as one, and a string otherwise; a tag of a kind decides (`ScalarMeans`). How numbers are spelled is said
by rules of its own.

* `int?_iff`, `float?_iff` — integers and numbers are read as they are spelled
* `plainMeaning_iff`, `meaning?_iff` — scalars are read as what they mean
-/

namespace Walkthrough.Yaml

/-! ## Spelling -/

/-- The text is one for null. -/
def SpellsNull (s : String) : Prop := s ∈ ["null", "Null", "NULL", "~"]

/-- The text is one for a truth value. -/
def SpellsBool (s : String) (b : Bool) : Prop :=
  s ∈ if b then ["true", "True", "TRUE"] else ["false", "False", "FALSE"]

/-- Digits of a base spell a number, the most significant digit first. -/
def SpellsDigits (base : Nat) (cs : List Char) (n : Nat) : Prop :=
  cs ≠ [] ∧ ∃ digits : List Nat, cs.map Text.hexValue? = digits.map some ∧ (∀ d ∈ digits, d < base) ∧
    n = Nat.ofDigits base digits.reverse

/-- A number without a sign: decimal digits, or those of another base after its mark. -/
inductive SpellsNat : List Char → Nat → Prop
  | decimal {cs n} : SpellsDigits 10 cs n → SpellsNat cs n
  | binary {cs n} : SpellsDigits 2 cs n → SpellsNat ('0' :: 'b' :: cs) n
  | octal {cs n} : SpellsDigits 8 cs n → SpellsNat ('0' :: 'o' :: cs) n
  | hexadecimal {cs n} : SpellsDigits 16 cs n → SpellsNat ('0' :: 'x' :: cs) n

/-- Decimal digits that begin with a zero, with or without a sign, are more than a zero. Such digits are no
number. -/
def Padded (cs : List Char) : Prop :=
  ∃ sign ∈ [[], ['-'], ['+']], ∃ d rest, cs = sign ++ '0' :: d :: rest ∧ ∀ c ∈ d :: rest, c.isDigit = true

/-- An integer, with or without a sign. -/
inductive SpellsSigned : List Char → Int → Prop
  | bare {cs} {n : Nat} : SpellsNat cs n → SpellsSigned cs n
  | plus {cs} {n : Nat} : SpellsNat cs n → SpellsSigned ('+' :: cs) n
  | minus {cs} {n : Nat} : SpellsNat cs n → SpellsSigned ('-' :: cs) (-n)

/-- The text is that of an integer. -/
def SpellsInt (s : String) (n : Int) : Prop := SpellsSigned s.toList n ∧ ¬ Padded s.toList

/-- An integer of at most 128 bits, with or without a sign. -/
def IsWide (n : Int) : Prop := -2 ^ 127 ≤ n ∧ n < 2 ^ 128

/-- The words for what is not finite. -/
def infinityWords : List String := [".inf", ".Inf", ".INF", "+.inf", "+.Inf", "+.INF"]

@[inherit_doc infinityWords] def minusInfinityWords : List String := ["-.inf", "-.Inf", "-.INF"]

@[inherit_doc infinityWords] def nanWords : List String := [".nan", ".NaN", ".NAN"]

/-- The text is that of a number with a point or exponent, or a word for one that is not finite. -/
inductive SpellsFloat (s : String) : Float → Prop
  | infinite : s ∈ infinityWords → SpellsFloat s (Binary64.infinity false)
  | minusInfinite : s ∈ minusInfinityWords → SpellsFloat s (Binary64.infinity true)
  | nan : s ∈ nanWords → SpellsFloat s (0.0 / 0.0)
  | finite {x} : s ∉ infinityWords ++ minusInfinityWords ++ nanWords →
      (∀ sign rest, s.toList = '+' :: sign :: rest → sign ≠ '+' ∧ sign ≠ '-') →
      Binary64.readFloat? s.toList = some x → x.isFinite = true → SpellsFloat s x

/-! ## Meanings -/

/-- What a text means that is spelled as an integer. -/
inductive IntMeans (s : String) : Meaning → Prop
  | int {w : Word} : SpellsInt s w.val → IntMeans s (.int w)
  | wide {n} : SpellsInt s n → IsWide n → (∀ w : Word, w.val ≠ n) → IntMeans s .wide

/-- What a plain scalar without a tag means. -/
inductive PlainMeans (s : String) : Meaning → Prop
  | null : s = "" ∨ SpellsNull s → PlainMeans s .null
  | bool {b} : SpellsBool s b → PlainMeans s (.bool b)
  | int {m} : IntMeans s m → PlainMeans s m
  | float {x} : ¬ Padded s.toList → (∀ m, ¬ IntMeans s m) → SpellsFloat s x → PlainMeans s (.float x)
  | string : s ≠ "" → ¬ SpellsNull s → (∀ b, ¬ SpellsBool s b) → (∀ m, ¬ IntMeans s m) →
      (Padded s.toList ∨ ∀ x, ¬ SpellsFloat s x) → PlainMeans s .string

/-- A tag that is the document's own, and its name: what stands behind the mark, or the mark if nothing does. -/
inductive OwnName : (tag name : String) → Prop
  | mark : OwnName "!" "!"
  | name {name} : name ≠ "" → OwnName ("!" ++ name) name

/-- The tag is the document's own; other tags are those of kinds. -/
def IsOwn (tag : String) : Prop := ∃ name, OwnName tag name

/-- What a scalar means: one with the tag of a kind is spelled as that kind is, and any other is a string if it
is tagged or not plain. -/
inductive ScalarMeans : (tag : Option String) → (plain : Bool) → String → Meaning → Prop
  | plain {s m} : PlainMeans s m → ScalarMeans none true s m
  | quoted {s} : ScalarMeans none false s .string
  | null {plain s} : SpellsNull s → ScalarMeans (some (kindTag "null")) plain s .null
  | bool {plain s b} : SpellsBool s b → ScalarMeans (some (kindTag "bool")) plain s (.bool b)
  | int {plain s m} : IntMeans s m → ScalarMeans (some (kindTag "int")) plain s m
  | float {plain s x} : SpellsFloat s x → ScalarMeans (some (kindTag "float")) plain s (.float x)
  | other {tag plain s} : ¬ IsOwn tag → (∀ kind ∈ ["null", "bool", "int", "float"], tag ≠ kindTag kind) →
      ScalarMeans (some tag) plain s .string

/-! ## Reading texts -/

theorem isNull_iff (s : String) : isNull s = true ↔ SpellsNull s := List.contains_iff_mem

theorem bool?_iff (s : String) (b : Bool) : bool? s = some b ↔ SpellsBool s b := by
  have hdistinct : ∀ t ∈ ["false", "False", "FALSE"], t ∉ ["true", "True", "TRUE"] := by decide
  unfold bool? SpellsBool
  by_cases htrue : s ∈ ["true", "True", "TRUE"]
  · rw [if_pos (List.contains_iff_mem.2 htrue)]
    cases b with
    | true => exact ⟨fun _ => htrue, fun _ => rfl⟩
    | false => exact ⟨fun h => absurd h (by simp), fun h => absurd htrue (hdistinct s h)⟩
  · rw [if_neg fun h => htrue (List.contains_iff_mem.1 h)]
    by_cases hfalse : s ∈ ["false", "False", "FALSE"]
    · rw [if_pos (List.contains_iff_mem.2 hfalse)]
      cases b with
      | true => exact ⟨fun h => absurd h (by simp), fun h => absurd h htrue⟩
      | false => exact ⟨fun _ => hfalse, fun _ => rfl⟩
    · rw [if_neg fun h => hfalse (List.contains_iff_mem.1 h)]
      refine ⟨fun h => absurd h (by simp), fun h => ?_⟩
      cases b with
      | true => exact absurd h htrue
      | false => exact absurd h hfalse

theorem bool?_eq_none_iff (s : String) : bool? s = none ↔ ∀ b, ¬ SpellsBool s b := by
  rw [Option.eq_none_iff_forall_ne_some]
  exact forall_congr' fun b => not_congr (bool?_iff s b)

theorem foldlM_digits (base : Nat) (cs : List Char) (start n : Nat) :
    (cs.foldlM (fun n c => do
      let d ← Text.hexValue? c
      if d < base then some (n * base + d) else none) start) = some n ↔
      ∃ digits : List Nat, cs.map Text.hexValue? = digits.map some ∧ (∀ d ∈ digits, d < base) ∧
        n = start * base ^ cs.length + Nat.ofDigits base digits.reverse := by
  -- on the digits to come; what was read before counts by their number
  induction cs generalizing start with
  | nil =>
    simp only [List.foldlM_nil, List.map_nil, List.length_nil, Nat.pow_zero, Nat.mul_one]
    constructor
    · intro h
      exact ⟨[], rfl, by simp, by simpa using (Option.some.inj h).symm⟩
    · rintro ⟨digits, hdigits, -, rfl⟩
      obtain rfl := List.map_eq_nil_iff.1 hdigits.symm
      rfl
  | cons c cs ih =>
    rw [List.foldlM_cons]
    cases hvalue : Text.hexValue? c with
    | none =>
      refine ⟨fun h => absurd h (by simp), ?_⟩
      rintro ⟨digits, hdigits, -⟩
      rw [List.map_cons, hvalue] at hdigits
      cases digits with
      | nil => exact absurd hdigits (by simp)
      | cons d digits => exact absurd (List.cons.inj hdigits).1 (by simp)
    | some d =>
      have hplace : ∀ digits : List Nat, cs.length = digits.length →
          start * base ^ (cs.length + 1) + Nat.ofDigits base (digits.reverse ++ [d]) =
            (start * base + d) * base ^ cs.length + Nat.ofDigits base digits.reverse := by
        intro digits hlength
        rw [Nat.ofDigits_append, Nat.ofDigits_singleton, List.length_reverse, ← hlength]
        ring
      show ((if d < base then some (start * base + d) else none) >>= _) = some n ↔ _
      by_cases hsmall : d < base
      · rw [if_pos hsmall]
        show List.foldlM _ (start * base + d) cs = some n ↔ _
        rw [ih]
        constructor
        · rintro ⟨digits, hdigits, hless, rfl⟩
          have hlength : cs.length = digits.length := by simpa using congrArg List.length hdigits
          refine ⟨d :: digits, by rw [List.map_cons, hvalue, hdigits, List.map_cons], ?_, ?_⟩
          · exact List.forall_mem_cons.2 ⟨hsmall, hless⟩
          · rw [List.length_cons, List.reverse_cons, hplace digits hlength]
        · rintro ⟨digits, hdigits, hless, rfl⟩
          rw [List.map_cons, hvalue] at hdigits
          obtain ⟨d', digits, rfl, hd, hrest⟩ := List.map_eq_cons_iff.1 hdigits.symm
          obtain rfl := Option.some.inj hd
          have hlength : cs.length = digits.length := by simpa using (congrArg List.length hrest).symm
          refine ⟨digits, hrest.symm, (List.forall_mem_cons.1 hless).2, ?_⟩
          rw [List.length_cons, List.reverse_cons, hplace digits hlength]
      · rw [if_neg hsmall]
        refine ⟨fun h => absurd h (by simp), ?_⟩
        rintro ⟨digits, hdigits, hless, -⟩
        rw [List.map_cons, hvalue] at hdigits
        obtain ⟨d', digits, rfl, hd, -⟩ := List.map_eq_cons_iff.1 hdigits.symm
        obtain rfl := Option.some.inj hd
        exact absurd (hless _ List.mem_cons_self) hsmall

theorem natOf?_iff (base : Nat) (cs : List Char) (n : Nat) :
    natOf? base cs = some n ↔ SpellsDigits base cs n := by
  unfold natOf? SpellsDigits
  split
  · next hempty =>
    rw [List.isEmpty_iff] at hempty
    simp [hempty]
  · next hempty =>
    rw [List.isEmpty_iff] at hempty
    rw [foldlM_digits]
    simp [hempty]

/-- Digits begin with a digit. -/
theorem SpellsDigits.head {base n : Nat} {c : Char} {cs : List Char} (h : SpellsDigits base (c :: cs) n) :
    ∃ d < base, Text.hexValue? c = some d := by
  obtain ⟨-, digits, hdigits, hless, -⟩ := h
  rw [List.map_cons] at hdigits
  obtain ⟨d, digits, rfl, hd, -⟩ := List.map_eq_cons_iff.1 hdigits.symm
  exact ⟨d, hless d List.mem_cons_self, hd.symm⟩

/-- Digits go on with digits. -/
theorem SpellsDigits.second {base n : Nat} {c c' : Char} {cs : List Char}
    (h : SpellsDigits base (c :: c' :: cs) n) : ∃ d < base, Text.hexValue? c' = some d := by
  obtain ⟨-, digits, hdigits, hless, -⟩ := h
  rw [List.map_cons, List.map_cons] at hdigits
  obtain ⟨d, digits, rfl, -, hrest⟩ := List.map_eq_cons_iff.1 hdigits.symm
  obtain ⟨d', digits, rfl, hd', -⟩ := List.map_eq_cons_iff.1 hrest
  exact ⟨d', hless d' (List.mem_cons_of_mem _ List.mem_cons_self), hd'.symm⟩

/-- The mark of another base is no decimal digit. -/
theorem not_decimal_of_mark {mark : Char} (hmark : mark = 'x' ∨ mark = 'o' ∨ mark = 'b') {cs : List Char}
    {n : Nat} : ¬ SpellsDigits 10 ('0' :: mark :: cs) n := by
  intro h
  obtain ⟨d, hless, hd⟩ := h.second
  rcases hmark with rfl | rfl | rfl
  · exact absurd hd (by simp [Text.hexValue?])
  · exact absurd hd (by simp [Text.hexValue?])
  · obtain rfl : 11 = d := by simpa [Text.hexValue?] using hd
    omega

theorem magnitude?_iff (cs : List Char) (n : Nat) : magnitude? cs = some n ↔ SpellsNat cs n := by
  unfold magnitude?
  split
  · rw [natOf?_iff]
    refine ⟨.hexadecimal, fun h => ?_⟩
    cases h with
    | hexadecimal h => exact h
    | decimal h => exact absurd h (not_decimal_of_mark (.inl rfl))
  · rw [natOf?_iff]
    refine ⟨.octal, fun h => ?_⟩
    cases h with
    | octal h => exact h
    | decimal h => exact absurd h (not_decimal_of_mark (.inr (.inl rfl)))
  · rw [natOf?_iff]
    refine ⟨.binary, fun h => ?_⟩
    cases h with
    | binary h => exact h
    | decimal h => exact absurd h (not_decimal_of_mark (.inr (.inr rfl)))
  · next hhexadecimal hoctal hbinary =>
    rw [natOf?_iff]
    refine ⟨.decimal, fun h => ?_⟩
    cases h with
    | decimal h => exact h
    | binary => exact absurd rfl (hbinary _)
    | octal => exact absurd rfl (hoctal _)
    | hexadecimal => exact absurd rfl (hhexadecimal _)

theorem padded_iff (cs : List Char) :
    isPadded.padded cs = true ↔ ∃ d rest, cs = '0' :: d :: rest ∧ ∀ c ∈ d :: rest, c.isDigit = true := by
  unfold isPadded.padded
  split
  · next d rest =>
    rw [List.all_eq_true]
    constructor
    · exact fun h => ⟨d, rest, rfl, h⟩
    · rintro ⟨d', rest', hcs, hdigits⟩
      rw [(List.cons.inj hcs).2]
      exact hdigits
  · next hother =>
    refine ⟨fun h => absurd h (by simp), ?_⟩
    rintro ⟨d, rest, rfl, -⟩
    exact absurd rfl (hother d rest)

theorem isPadded_iff (cs : List Char) : isPadded cs = true ↔ Padded cs := by
  unfold isPadded Padded
  split
  · rw [padded_iff]
    constructor
    · rintro ⟨d, rest, rfl, hdigits⟩
      exact ⟨['-'], by simp, d, rest, rfl, hdigits⟩
    · rintro ⟨sign, hsign, d, rest, hcs, hdigits⟩
      obtain rfl | rfl | rfl : sign = [] ∨ sign = ['-'] ∨ sign = ['+'] := by simpa using hsign
      · exact absurd hcs (by simp)
      · exact ⟨d, rest, (List.cons.inj hcs).2, hdigits⟩
      · exact absurd hcs (by simp)
  · rw [padded_iff]
    constructor
    · rintro ⟨d, rest, rfl, hdigits⟩
      exact ⟨['+'], by simp, d, rest, rfl, hdigits⟩
    · rintro ⟨sign, hsign, d, rest, hcs, hdigits⟩
      obtain rfl | rfl | rfl : sign = [] ∨ sign = ['-'] ∨ sign = ['+'] := by simpa using hsign
      · exact absurd hcs (by simp)
      · exact absurd hcs (by simp)
      · exact ⟨d, rest, (List.cons.inj hcs).2, hdigits⟩
  · next hminus hplus =>
    rw [padded_iff]
    constructor
    · rintro ⟨d, rest, rfl, hdigits⟩
      exact ⟨[], by simp, d, rest, rfl, hdigits⟩
    · rintro ⟨sign, hsign, d, rest, rfl, hdigits⟩
      obtain rfl | rfl | rfl : sign = [] ∨ sign = ['-'] ∨ sign = ['+'] := by simpa using hsign
      · exact ⟨d, rest, rfl, hdigits⟩
      · exact absurd rfl (hminus _)
      · exact absurd rfl (hplus _)

/-- A number without a sign does not begin with one. -/
theorem SpellsNat.head {c : Char} {cs : List Char} {n : Nat} (h : SpellsNat (c :: cs) n) :
    (Text.hexValue? c).isSome = true := by
  cases h with
  | decimal h =>
    obtain ⟨d, -, hd⟩ := h.head
    rw [hd]
    rfl
  | binary | octal | hexadecimal => rfl

theorem map_magnitude?_iff {cs : List Char} {n : Int} (make : Nat → Int) :
    (magnitude? cs).map make = some n ↔ ∃ m, SpellsNat cs m ∧ make m = n := by
  rw [Option.map_eq_some_iff]
  exact exists_congr fun m => and_congr_left' (magnitude?_iff cs m)

theorem int?_iff (cs : List Char) (n : Int) :
    int? cs = some n ↔ SpellsSigned cs n ∧ ¬ Padded cs := by
  unfold int?
  by_cases hpadded : Padded cs
  · rw [if_pos ((isPadded_iff cs).2 hpadded)]
    exact ⟨fun h => absurd h (by simp), fun h => absurd hpadded h.2⟩
  · rw [if_neg fun h => hpadded ((isPadded_iff cs).1 h), and_iff_left hpadded]
    split
    · next rest =>
      have hnegated : ((magnitude? rest >>= fun m => some (m : Int)).map fun n => -n) =
          Option.map (fun m : Nat => -(m : Int)) (magnitude? rest) := by
        cases magnitude? rest <;> rfl
      show ((magnitude? rest >>= fun m => some (m : Int)).map fun n => -n) = some n ↔ _
      rw [hnegated, map_magnitude?_iff]
      constructor
      · rintro ⟨m, hm, rfl⟩
        exact .minus hm
      · intro h
        cases h with
        | minus h => exact ⟨_, h, rfl⟩
        | bare h => exact absurd h.head (by decide)
    · next rest =>
      rw [map_magnitude?_iff Int.ofNat]
      constructor
      · rintro ⟨m, hm, rfl⟩
        exact .plus hm
      · intro h
        cases h with
        | plus h => exact ⟨_, h, rfl⟩
        | bare h => exact absurd h.head (by decide)
    · next hminus hplus =>
      rw [map_magnitude?_iff Int.ofNat]
      constructor
      · rintro ⟨m, hm, rfl⟩
        exact .bare hm
      · intro h
        cases h with
        | bare h => exact ⟨_, h, rfl⟩
        | plus => exact absurd rfl (hplus _)
        | minus => exact absurd rfl (hminus _)

theorem int?_eq_none_iff (s : String) : int? s.toList = none ↔ ∀ n, ¬ SpellsInt s n := by
  rw [Option.eq_none_iff_forall_ne_some]
  exact forall_congr' fun n => not_congr (int?_iff s.toList n)

theorem intMeaning?_iff (s : String) (m : Meaning) : intMeaning? s = some m ↔ IntMeans s m := by
  unfold intMeaning?
  constructor
  · intro h
    obtain ⟨n, hn, h⟩ := Option.bind_eq_some_iff.1 h
    have hspells : SpellsInt s n := (int?_iff s.toList n).1 hn
    split at h
    · next w hw =>
      obtain rfl := Option.some.inj h
      obtain rfl := Word.ofInt?_eq_some_iff.1 hw
      exact .int hspells
    · next hnone =>
      split at h
      · next hwide =>
        obtain rfl := Option.some.inj h
        refine .wide hspells (by unfold IsWide; omega) ?_
        rintro w rfl
        exact absurd hnone (by simp [Word.ofInt?_val])
      · exact absurd h (by simp)
  · intro h
    cases h with
    | @int w hspells =>
      have hread : int? s.toList = some w.val := (int?_iff s.toList w.val).2 hspells
      simp [hread, Word.ofInt?_val]
    | @wide n hspells hwide hword =>
      have hread : int? s.toList = some n := (int?_iff s.toList n).2 hspells
      have hnone : Word.ofInt? n = none := by
        rw [Option.eq_none_iff_forall_ne_some]
        exact fun w hw => hword w (Word.ofInt?_eq_some_iff.1 hw)
      unfold IsWide at hwide
      simp only [hread, hnone, Option.bind_eq_bind, Option.bind_some]
      rw [if_pos (by omega)]

theorem intMeaning?_eq_none_iff (s : String) : intMeaning? s = none ↔ ∀ m, ¬ IntMeans s m := by
  rw [Option.eq_none_iff_forall_ne_some]
  exact forall_congr' fun m => not_congr (intMeaning?_iff s m)

/-- What means an integer is spelled as one. -/
theorem IntMeans.spelled {s : String} {m : Meaning} (h : IntMeans s m) : ∃ n, SpellsInt s n := by
  cases h with
  | int hspells => exact ⟨_, hspells⟩
  | wide hspells => exact ⟨_, hspells⟩

theorem float?_iff (s : String) (x : Float) : float? s = some x ↔ SpellsFloat s x := by
  have hminus : ∀ t ∈ minusInfinityWords, t ∉ infinityWords := by decide
  have hnan : ∀ t ∈ nanWords, t ∉ infinityWords ∧ t ∉ minusInfinityWords := by decide
  show (if infinityWords.contains s = true then _ else if minusInfinityWords.contains s = true then _
    else if nanWords.contains s = true then _ else _) = some x ↔ _
  simp only [List.contains_iff_mem]
  constructor
  · intro h
    split at h
    · next hinfinite =>
      obtain rfl := Option.some.inj h
      exact .infinite hinfinite
    · next hinfinite =>
      split at h
      · next hminusInfinite =>
        obtain rfl := Option.some.inj h
        exact .minusInfinite hminusInfinite
      · next hminusInfinite =>
        split at h
        · next hword =>
          obtain rfl := Option.some.inj h
          exact .nan hword
        · next hword =>
          obtain ⟨hread, hfinite⟩ := Option.filter_eq_some_iff.1 h
          split at hread
          · exact absurd hread (by simp)
          · exact absurd hread (by simp)
          · next hplus hminus =>
            refine .finite (by simp [hinfinite, hminusInfinite, hword]) ?_ hread hfinite
            intro sign rest hs
            refine ⟨?_, ?_⟩
            · rintro rfl
              exact hplus _ hs
            · rintro rfl
              exact hminus _ hs
  · intro h
    cases h with
    | infinite hinfinite => rw [if_pos hinfinite]
    | minusInfinite h => rw [if_neg (hminus s h), if_pos h]
    | nan h => rw [if_neg (hnan s h).1, if_neg (hnan s h).2, if_pos h]
    | finite hwords hsigns hread hfinite =>
      simp only [List.mem_append, not_or] at hwords
      rw [if_neg hwords.1.1, if_neg hwords.1.2, if_neg hwords.2]
      refine Option.filter_eq_some_iff.2 ⟨?_, hfinite⟩
      split
      · next rest hs => exact absurd rfl (hsigns _ _ hs).1
      · next rest hs => exact absurd rfl (hsigns _ _ hs).2
      · exact hread

theorem float?_eq_none_iff (s : String) : float? s = none ↔ ∀ x, ¬ SpellsFloat s x := by
  rw [Option.eq_none_iff_forall_ne_some]
  exact forall_congr' fun x => not_congr (float?_iff s x)

/-! ## Reading scalars -/

theorem plainMeaning_of_blank {s : String} (h : s = "" ∨ SpellsNull s) : plainMeaning s = .null := by
  unfold plainMeaning
  rw [if_pos]
  rwa [Bool.or_eq_true, String.isEmpty_iff, isNull_iff]

/-- What is not blank is a truth value, an integer, a number or a string. -/
theorem plainMeaning_of_not_blank {s : String} (h : ¬ (s = "" ∨ SpellsNull s)) :
    plainMeaning s = (((bool? s).map .bool).or (intMeaning? s)).getD
      (if isPadded s.toList then .string else ((float? s).map .float).getD .string) := by
  unfold plainMeaning
  rw [if_neg (by rwa [Bool.or_eq_true, String.isEmpty_iff, isNull_iff])]
  cases bool? s with
  | some b => rfl
  | none =>
    cases intMeaning? s with
    | some m => rfl
    | none => cases float? s <;> rfl

/-- The words for truth values are not blank. -/
theorem SpellsBool.not_blank {s : String} {b : Bool} (h : SpellsBool s b) : ¬ (s = "" ∨ SpellsNull s) := by
  have hdistinct : ∀ b : Bool, ∀ t ∈ if b then ["true", "True", "TRUE"] else ["false", "False", "FALSE"],
      ¬ (t = "" ∨ t ∈ ["null", "Null", "NULL", "~"]) := by decide
  exact hdistinct b s h

/-- What is blank or the word for a truth value is no number. -/
theorem not_number_of_word {s : String} (h : (s = "" ∨ SpellsNull s) ∨ ∃ b, SpellsBool s b) :
    (∀ n, ¬ SpellsInt s n) ∧ ∀ x, ¬ SpellsFloat s x := by
  have hnone : (int? "".toList = none ∧ float? "" = none) ∧
      (∀ t ∈ ["null", "Null", "NULL", "~"], int? t.toList = none ∧ float? t = none) ∧
      ∀ b : Bool, ∀ t ∈ if b then ["true", "True", "TRUE"] else ["false", "False", "FALSE"],
        int? t.toList = none ∧ float? t = none := by
    simp only [← Option.isNone_iff_eq_none]
    decide +kernel
  rw [← int?_eq_none_iff, ← float?_eq_none_iff]
  rcases h with (rfl | hnull) | ⟨b, hbool⟩
  · exact hnone.1
  · exact hnone.2.1 s hnull
  · exact hnone.2.2 b s hbool

/-- What is spelled as a number is an integer, a number or, padded, a string. -/
theorem plainMeaning_of_number {s : String} (h : (∃ n, SpellsInt s n) ∨ ∃ x, SpellsFloat s x) :
    plainMeaning s = (intMeaning? s).getD
      (if isPadded s.toList then .string else ((float? s).map .float).getD .string) := by
  have hword : ¬ ((s = "" ∨ SpellsNull s) ∨ ∃ b, SpellsBool s b) := by
    intro hword
    obtain ⟨hint, hfloat⟩ := not_number_of_word hword
    rcases h with ⟨n, hn⟩ | ⟨x, hx⟩
    · exact hint n hn
    · exact hfloat x hx
  obtain ⟨hblank, hbool⟩ := not_or.1 hword
  rw [plainMeaning_of_not_blank hblank, (bool?_eq_none_iff s).2 (not_exists.1 hbool), Option.map_none,
    Option.none_or]

/-- What a plain scalar is read as, it means. -/
theorem plainMeans (s : String) : PlainMeans s (plainMeaning s) := by
  by_cases hblank : s = "" ∨ SpellsNull s
  · rw [plainMeaning_of_blank hblank]
    exact .null hblank
  rw [plainMeaning_of_not_blank hblank]
  cases hbool : bool? s with
  | some b => exact .bool ((bool?_iff s b).1 hbool)
  | none =>
    rw [Option.map_none, Option.none_or]
    cases hint : intMeaning? s with
    | some m => exact .int ((intMeaning?_iff s m).1 hint)
    | none =>
      rw [Option.getD_none]
      have hnoint := (intMeaning?_eq_none_iff s).1 hint
      have hstring : Padded s.toList ∨ (∀ x, ¬ SpellsFloat s x) → PlainMeans s .string :=
        .string (not_or.1 hblank).1 (not_or.1 hblank).2 ((bool?_eq_none_iff s).1 hbool) hnoint
      by_cases hpadded : Padded s.toList
      · rw [if_pos ((isPadded_iff _).2 hpadded)]
        exact hstring (.inl hpadded)
      · rw [if_neg fun h => hpadded ((isPadded_iff _).1 h)]
        cases hx : float? s with
        | none => exact hstring (.inr ((float?_eq_none_iff s).1 hx))
        | some x => exact .float hpadded hnoint ((float?_iff s x).1 hx)

theorem plainMeaning_iff (s : String) (m : Meaning) : plainMeaning s = m ↔ PlainMeans s m := by
  constructor
  · rintro rfl
    exact plainMeans s
  · intro h
    cases h with
    | null hblank => exact plainMeaning_of_blank hblank
    | bool hbool =>
      rw [plainMeaning_of_not_blank hbool.not_blank, (bool?_iff s _).2 hbool]
      rfl
    | int hint =>
      rw [plainMeaning_of_number (.inl hint.spelled), (intMeaning?_iff s _).2 hint, Option.getD_some]
    | float hpadded hnoint hx =>
      rw [plainMeaning_of_number (.inr ⟨_, hx⟩), (intMeaning?_eq_none_iff s).2 hnoint, Option.getD_none,
        if_neg fun h => hpadded ((isPadded_iff _).1 h), (float?_iff s _).2 hx]
      rfl
    | string hempty hnull hbool hnoint hother =>
      rw [plainMeaning_of_not_blank (not_or.2 ⟨hempty, hnull⟩), (bool?_eq_none_iff s).2 hbool,
        (intMeaning?_eq_none_iff s).2 hnoint, Option.map_none, Option.none_or, Option.getD_none]
      by_cases hpadded : Padded s.toList
      · rw [if_pos ((isPadded_iff _).2 hpadded)]
      · rw [if_neg fun h => hpadded ((isPadded_iff _).1 h),
          (float?_eq_none_iff s).2 (hother.resolve_left hpadded)]
        rfl

/-! ## Tags -/

theorem keptTag?_iff (tag name : String) : keptTag? (some tag) = some name ↔ OwnName tag name := by
  constructor
  · intro h
    unfold keptTag? at h
    rw [Option.map_some] at h
    split at h
    · next hmark =>
      obtain rfl := Option.some.inj h
      obtain rfl : tag = "!" := String.toList_inj.1 (Option.some.inj hmark)
      exact .mark
    · next cs hnotmark hname =>
      obtain rfl := Option.some.inj h
      have htag : tag.toList = '!' :: cs := Option.some.inj hname
      obtain rfl : tag = "!" ++ String.ofList cs := String.toList_inj.1 (by rw [htag]; simp)
      refine .name fun hempty => ?_
      obtain rfl : cs = [] := by simpa using congrArg String.toList hempty
      exact hnotmark (by simp)
    · exact absurd h (by simp)
  · intro h
    cases h with
    | mark => rfl
    | name hname =>
      obtain ⟨c, cs, hcs⟩ := List.exists_cons_of_ne_nil (mt String.toList_eq_nil_iff.1 hname)
      have htag : ("!" ++ name).toList = '!' :: c :: cs := by rw [String.toList_append, hcs]; rfl
      unfold keptTag?
      rw [Option.map_some, htag]
      exact congrArg some (by rw [← hcs, String.ofList_toList])

theorem keptTag?_eq_none_iff (tag : Option String) : keptTag? tag = none ↔ ∀ t, tag = some t → ¬ IsOwn t := by
  cases tag with
  | none => exact iff_of_true rfl (by simp)
  | some t =>
    rw [Option.eq_none_iff_forall_ne_some]
    simp only [ne_eq, keptTag?_iff, Option.some.injEq, forall_eq', IsOwn, not_exists]

/-- A tag of the document's own begins with its mark. -/
theorem isOwn_iff (tag : String) : IsOwn tag ↔ tag.startsWith "!" = true := by
  rw [String.startsWith_string_iff]
  constructor
  · rintro ⟨name, h⟩
    cases h with
    | mark => exact List.prefix_rfl
    | name => exact String.toList_append ▸ List.prefix_append _ _
  · rintro ⟨cs, hcs⟩
    obtain rfl : tag = "!" ++ String.ofList cs := String.toList_inj.1 (by rw [← hcs]; simp)
    by_cases hempty : String.ofList cs = ""
    · rw [hempty]
      exact ⟨"!", .mark⟩
    · exact ⟨_, .name hempty⟩

theorem kindTag_inj {kind kind' : String} : kindTag kind = kindTag kind' ↔ kind = kind' :=
  String.append_right_inj _

/-- The tags of kinds are not the document's own: they begin with a letter. -/
theorem not_isOwn_kindTag (kind : String) : ¬ IsOwn (kindTag kind) := by
  rw [isOwn_iff, String.startsWith_string_iff]
  unfold kindTag
  rintro ⟨cs, hcs⟩
  have hletter : "tag:yaml.org,2002:".toList.head? = some 't' := by decide
  have hmark : "!".toList.head? = some '!' := by decide
  have hfirst := congrArg List.head? hcs
  rw [String.toList_append, List.head?_append, List.head?_append, hletter, hmark] at hfirst
  exact absurd hfirst (by simp)

theorem ScalarMeans.not_isOwn {tag : Option String} {plain : Bool} {s : String} {m : Meaning}
    (h : ScalarMeans tag plain s m) (t : String) (ht : tag = some t) : ¬ IsOwn t := by
  cases h with
  | plain | quoted => exact absurd ht (by simp)
  | null | bool | int | float =>
    obtain rfl := Option.some.inj ht
    exact not_isOwn_kindTag _
  | other hown =>
    obtain rfl := Option.some.inj ht
    exact hown

/-- Scalars without a tag of the document's own are read as what they mean. -/
theorem meaning?_iff {tag : Option String} (hown : ∀ t, tag = some t → ¬ IsOwn t) (plain : Bool) (s : String)
    (m : Meaning) : meaning? tag plain s = some m ↔ ScalarMeans tag plain s m := by
  constructor
  · intro h
    cases tag with
    | none =>
      obtain rfl := Option.some.inj h
      cases plain with
      | true => exact .plain (plainMeans s)
      | false => exact .quoted
    | some t =>
      simp only [meaning?] at h
      by_cases hbool : t = kindTag "bool"
      · rw [if_pos hbool] at h
        obtain ⟨b, hb, rfl⟩ := Option.map_eq_some_iff.1 h
        exact hbool ▸ .bool ((bool?_iff s b).1 hb)
      rw [if_neg hbool] at h
      by_cases hint : t = kindTag "int"
      · rw [if_pos hint] at h
        exact hint ▸ .int ((intMeaning?_iff s m).1 h)
      rw [if_neg hint] at h
      by_cases hfloat : t = kindTag "float"
      · rw [if_pos hfloat] at h
        obtain ⟨x, hx, rfl⟩ := Option.map_eq_some_iff.1 h
        exact hfloat ▸ .float ((float?_iff s x).1 hx)
      rw [if_neg hfloat] at h
      by_cases hnull : t = kindTag "null"
      · rw [if_pos hnull] at h
        split at h
        · next hspells =>
          obtain rfl := Option.some.inj h
          exact hnull ▸ .null ((isNull_iff s).1 hspells)
        · exact absurd h (by simp)
      -- any other tag leaves the text as it is, unless it is one of the document's own
      have hnotown := hown t rfl
      rw [if_neg hnull, if_neg fun h => hnotown ((isOwn_iff t).2 (Bool.and_eq_true_iff.1 h).1)] at h
      obtain rfl := Option.some.inj h
      exact .other hnotown (by simp [hbool, hint, hfloat, hnull])
  · intro h
    cases h with
    | plain h => exact congrArg some ((plainMeaning_iff s m).2 h)
    | quoted => rfl
    | null hnull => simp [meaning?, kindTag_inj, (isNull_iff s).2 hnull]
    | bool hbool => simp [meaning?, (bool?_iff s _).2 hbool]
    | int hint => simp [meaning?, kindTag_inj, (intMeaning?_iff s m).2 hint]
    | float hfloat => simp [meaning?, kindTag_inj, (float?_iff s _).2 hfloat]
    | @other t _ _ hnotown hkinds =>
      simp only [meaning?]
      rw [if_neg (hkinds "bool" (by simp)), if_neg (hkinds "int" (by simp)), if_neg (hkinds "float" (by simp)),
        if_neg (hkinds "null" (by simp)),
        if_neg fun h => hnotown ((isOwn_iff t).2 (Bool.and_eq_true_iff.1 h).1)]

end Walkthrough.Yaml
