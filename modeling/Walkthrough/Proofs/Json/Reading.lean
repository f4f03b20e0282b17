import Walkthrough.Proofs.Json.Scalar

/-!
# Reading what is written

A value whose numbers are integers is read from its text again, written on one line or indented. Decimals
are left out, since the last bit of one may be another when it is read, and so are values that are nested
deeper than the reader goes.

Both layouts are one text with blanks of its own kind between the parts (`spaced`). The reader takes a
value from the start of a text and leaves what stands behind it (`ReadsBack`): this holds of items and
members one by one (`readItems_spaced`, `readMembers_spaced`), and so of every value by induction on how
deep it is nested (`readsBack_of_fits`).

* `read_compact` — reading undoes writing on one line
* `read_pretty` — reading undoes writing with one item or member a line
-/

namespace Walkthrough.Json

/-! ## Layouts -/

/-- Blanks between the parts of a text: before every item and member of a nesting level and the bracket
that closes it, and behind a colon. -/
structure Spacing where
  line : Nat → List Char
  colon : List Char
  blank_line : ∀ level, Blank (line level)
  blank_colon : Blank colon

/-- No blanks. -/
def Spacing.dense : Spacing := ⟨fun _ => [], [], fun _ => blank_nil, blank_nil⟩

/-- A line for every item and member, indented by its level. -/
def Spacing.indented : Spacing where
  line := newLine
  colon := [' ']
  blank_line level := by
    refine List.forall_mem_cons.2 ⟨by decide, fun c hc => ?_⟩
    rw [List.eq_of_mem_replicate hc]
    decide
  blank_colon := List.forall_mem_singleton.2 (by decide)

mutual

/-- The text of a value with blanks. -/
def spaced (s : Spacing) (level : Nat) : Json → List Char
  | .array (v :: rest) =>
    '[' :: (s.line (level + 1) ++ (spaced s (level + 1) v ++
      (spacedItems s (level + 1) rest ++ (s.line level ++ [']']))))
  | .object ((k, v) :: rest) =>
    '\x7b' :: (s.line (level + 1) ++ (quote k ++ (':' :: (s.colon ++ (spaced s (level + 1) v ++
      (spacedMembers s (level + 1) rest ++ (s.line level ++ ['\x7d'])))))))
  | v => text v

/-- Further items, each after a comma. -/
def spacedItems (s : Spacing) (level : Nat) : List Json → List Char
  | [] => []
  | v :: rest => ',' :: (s.line level ++ (spaced s level v ++ spacedItems s level rest))

/-- Further members, each after a comma. -/
def spacedMembers (s : Spacing) (level : Nat) : List (String × Json) → List Char
  | [] => []
  | (k, v) :: rest =>
    ',' :: (s.line level ++ (quote k ++ (':' :: (s.colon ++ (spaced s level v ++
      spacedMembers s level rest)))))

end

mutual

theorem text_eq_spaced (level : Nat) : ∀ v, text v = spaced .dense level v
  | .null | .bool _ | .number _ | .string _ | .array [] | .object [] => rfl
  | .array (v :: rest) => by
    rw [text, spaced, text_eq_spaced (level + 1) v, itemsText_eq_spaced (level + 1) rest]
    rfl
  | .object ((k, v) :: rest) => by
    rw [text, spaced, text_eq_spaced (level + 1) v, membersText_eq_spaced (level + 1) rest]
    rfl

theorem itemsText_eq_spaced (level : Nat) : ∀ items, itemsText items = spacedItems .dense level items
  | [] => rfl
  | v :: rest => by
    rw [itemsText, spacedItems, text_eq_spaced level v, itemsText_eq_spaced level rest]
    rfl

theorem membersText_eq_spaced (level : Nat) :
    ∀ members, membersText members = spacedMembers .dense level members
  | [] => rfl
  | (k, v) :: rest => by
    rw [membersText, spacedMembers, text_eq_spaced level v, membersText_eq_spaced level rest]
    rfl

end

mutual

theorem prettyText_eq_spaced (level : Nat) : ∀ v, prettyText level v = spaced .indented level v
  | .null | .bool _ | .number _ | .string _ | .array [] | .object [] => rfl
  | .array (v :: rest) => by
    rw [prettyText, spaced, prettyText_eq_spaced (level + 1) v, prettyItems_eq_spaced (level + 1) rest]
    simp [Spacing.indented]
  | .object ((k, v) :: rest) => by
    rw [prettyText, spaced, prettyText_eq_spaced (level + 1) v, prettyMembers_eq_spaced (level + 1) rest]
    simp [Spacing.indented]

theorem prettyItems_eq_spaced (level : Nat) :
    ∀ items, prettyItems level items = spacedItems .indented level items
  | [] => rfl
  | v :: rest => by
    rw [prettyItems, spacedItems, prettyText_eq_spaced level v, prettyItems_eq_spaced level rest]
    simp [Spacing.indented]

theorem prettyMembers_eq_spaced (level : Nat) :
    ∀ members, prettyMembers level members = spacedMembers .indented level members
  | [] => rfl
  | (k, v) :: rest => by
    rw [prettyMembers, spacedMembers, prettyText_eq_spaced level v, prettyMembers_eq_spaced level rest]
    simp [Spacing.indented]

end

/-! ## Values that are read back -/

/-- A value without decimals, in which nothing stands in more than so many lists and objects. -/
inductive Fits : Nat → Json → Prop
  | null {n} : Fits n .null
  | bool {n} (b) : Fits n (.bool b)
  | int {n} (w) : Fits n (.number (.int w))
  | string {n} (t) : Fits n (.string t)
  | array {n items} : (∀ v ∈ items, Fits n v) → Fits (n + 1) (.array items)
  | object {n members} : (∀ m ∈ members, Fits n m.2) → Fits (n + 1) (.object members)

/-- A text that starts with what is neither a blank nor the end of a list. -/
def Starts (cs : List Char) : Prop := ∃ c rest, cs = c :: rest ∧ isBlank c = false ∧ c ≠ ']'

/-- A value is read from the start of a text, and what stands behind it is left. The reader takes at most
three turns for a character. -/
structure ReadsBack (s : Spacing) (n : Nat) (v : Json) : Prop where
  starts : ∀ level, Starts (spaced s level v)
  reads : ∀ level fuel rest, 3 * (spaced s level v).length ≤ fuel → Follows rest →
    readValue fuel (n + 1) (spaced s level v ++ rest) = .ok (v, rest)

variable {s : Spacing} {n : Nat}

/-! ### Where a value starts and ends -/

theorem Starts.append {cs : List Char} (h : Starts cs) (rest : List Char) : Starts (cs ++ rest) := by
  obtain ⟨c, cs, rfl, hblank, hc⟩ := h
  exact ⟨c, cs ++ rest, rfl, hblank, hc⟩

theorem not_isBlank_of_digit {c : Char} (h : c.isDigit = true) : isBlank c = false := by
  by_contra hblank
  simp only [isBlank, Bool.not_eq_false, Bool.or_eq_true, decide_eq_true_eq] at hblank
  rcases hblank with ((rfl | rfl) | rfl) | rfl <;> exact absurd h (by decide)

theorem starts_spaced (level : Nat) {v : Json} (h : Fits n v) : Starts (spaced s level v) := by
  cases h with
  | null => exact ⟨_, _, rfl, by decide, by decide⟩
  | bool b => cases b <;> exact ⟨_, _, rfl, by decide, by decide⟩
  | int w =>
    show Starts (intText w.val)
    unfold intText
    split
    · exact ⟨_, _, rfl, by decide, by decide⟩
    · obtain ⟨d, ds, heq, hd⟩ := digitsOf_eq_cons w.val.natAbs
      exact ⟨d, ds, heq, not_isBlank_of_digit hd, ne_of_isDigit hd (by decide)⟩
  | string t => exact ⟨_, _, rfl, by decide, by decide⟩
  | @array _ items => cases items <;> exact ⟨_, _, rfl, by decide, by decide⟩
  | @object _ members => cases members <;> exact ⟨_, _, rfl, by decide, by decide⟩

theorem follows_mark {c : Char} (rest : List Char) (h : c = ',' ∨ c = ']' ∨ c = '\x7d') :
    Follows (c :: rest) := by
  intro d hd
  obtain rfl : c = d := Option.some.inj hd
  rcases h with rfl | rfl | rfl <;> decide

theorem follows_blanks {blanks rest : List Char} (h : Blank blanks) (hrest : Follows rest) :
    Follows (blanks ++ rest) := by
  cases blanks with
  | nil => exact hrest
  | cons c blanks =>
    intro d hd
    obtain rfl : c = d := Option.some.inj hd
    have hc := h c List.mem_cons_self
    simp only [isBlank, Bool.or_eq_true, decide_eq_true_eq] at hc
    rcases hc with ((rfl | rfl) | rfl) | rfl <;> decide

theorem follows_items (level : Nat) (items : List Json) {rest : List Char} (h : Follows rest) :
    Follows (spacedItems s level items ++ rest) := by
  cases items with
  | nil => exact h
  | cons v items => exact follows_mark _ (.inl rfl)

theorem follows_members (level : Nat) (members : List (String × Json)) {rest : List Char}
    (h : Follows rest) : Follows (spacedMembers s level members ++ rest) := by
  cases members with
  | nil => exact h
  | cons m members => exact follows_mark _ (.inl rfl)

/-! ### Items -/

section

variable {blanks cs rest : List Char} (hblanks : Blank blanks)

include hblanks

theorem readItems_close (fuel depth : Nat) (first : Bool) (rest : List Char) :
    readItems (fuel + 1) depth first (blanks ++ ']' :: rest) = .ok ([], rest) := by
  rw [readItems, skipBlanks_append hblanks]
  rfl

theorem readItems_first (hcs : Starts cs) (fuel depth : Nat) :
    readItems (fuel + 1) depth true (blanks ++ cs) = itemsFrom fuel depth cs := by
  obtain ⟨c, cs, rfl, hblank, hc⟩ := hcs
  rw [readItems, skipBlanks_append hblanks, skipBlanks_cons hblank]
  simp only [if_neg hc, if_true]

theorem readItems_comma (hcs : Starts cs) (fuel depth : Nat) :
    readItems (fuel + 1) depth false (',' :: (blanks ++ cs)) = itemsFrom fuel depth cs := by
  obtain ⟨c, cs, rfl, hblank, hc⟩ := hcs
  have hcomma : ',' ≠ ']' := by decide
  rw [readItems, skipBlanks_cons (by decide)]
  simp only [if_neg hcomma, Bool.false_eq_true, if_false, if_true, skipBlanks_append hblanks,
    skipBlanks_cons hblank]
  split
  · next heq => exact absurd heq (by simp)
  · next heq => exact absurd (List.cons.inj heq).1 hc
  · rfl

/-- An item is read, and then those after it. -/
theorem itemsFrom_spaced (level : Nat) {v : Json} (hv : ReadsBack s n v) {items : List Json} {fuel : Nat}
    (hfuel : 3 * (spaced s level v).length ≤ fuel)
    (hmore : readItems fuel (n + 1) false (spacedItems s level items ++ (blanks ++ ']' :: rest)) =
      .ok (items, rest)) :
    itemsFrom (fuel + 1) (n + 1)
      (spaced s level v ++ (spacedItems s level items ++ (blanks ++ ']' :: rest))) =
      .ok (v :: items, rest) := by
  have hclose : Follows (blanks ++ ']' :: rest) := follows_blanks hblanks (follows_mark rest (by simp))
  rw [itemsFrom, hv.reads level fuel _ hfuel (follows_items level items hclose)]
  show (readItems fuel (n + 1) false _ >>= fun x => pure (v :: x.1, x.2)) = _
  rw [hmore]
  rfl

/-- Further items are read up to the bracket behind them. -/
theorem readItems_spaced (level : Nat) {items : List Json} (hitems : ∀ v ∈ items, ReadsBack s n v)
    {fuel : Nat} (hfuel : 3 * (spacedItems s level items).length < fuel) :
    readItems fuel (n + 1) false (spacedItems s level items ++ (blanks ++ ']' :: rest)) =
      .ok (items, rest) := by
  induction items generalizing fuel with
  | nil =>
    obtain ⟨fuel, rfl⟩ : ∃ f, fuel = f + 1 := ⟨fuel - 1, by omega⟩
    exact readItems_close hblanks fuel (n + 1) false rest
  | cons v items ih =>
    obtain ⟨hv, hrest⟩ := List.forall_mem_cons.1 hitems
    rw [spacedItems, List.length_cons, List.length_append, List.length_append] at hfuel
    -- one turn is for the comma and one for the item with those after it
    obtain ⟨fuel, rfl⟩ : ∃ f, fuel = f + 2 := ⟨fuel - 2, by omega⟩
    rw [spacedItems, List.cons_append, List.append_assoc, List.append_assoc,
      readItems_comma (s.blank_line level) ((hv.starts level).append _)]
    exact itemsFrom_spaced hblanks level hv (by omega) (ih hrest (by omega))

end

/-! ### Members -/

section

variable {blanks rest : List Char} (hblanks : Blank blanks)

include hblanks

theorem readValue_blanks (fuel depth : Nat) (cs : List Char) :
    readValue (fuel + 1) depth (blanks ++ cs) = readValue (fuel + 1) depth cs := by
  rw [readValue, readValue, skipBlanks_append hblanks]

theorem readMembers_close (fuel depth : Nat) (first : Bool) (rest : List Char) :
    readMembers (fuel + 1) depth first (blanks ++ '\x7d' :: rest) = .ok ([], rest) := by
  rw [readMembers, skipBlanks_append hblanks]
  rfl

theorem readMembers_first (fuel depth : Nat) (cs : List Char) :
    readMembers (fuel + 1) depth true (blanks ++ '"' :: cs) = membersFrom fuel depth cs := by
  rw [readMembers, skipBlanks_append hblanks]
  rfl

theorem readMembers_comma (fuel depth : Nat) (cs : List Char) :
    readMembers (fuel + 1) depth false (',' :: (blanks ++ '"' :: cs)) = membersFrom fuel depth cs := by
  have hcomma : ',' ≠ '\x7d' := by decide
  rw [readMembers, skipBlanks_cons (by decide)]
  simp only [if_neg hcomma, Bool.false_eq_true, if_false, if_true, skipBlanks_append hblanks,
    skipBlanks_cons (c := '"') (by decide)]

/-- A member is read, from behind the first quote of its name, and then those after it. -/
theorem membersFrom_spaced (level : Nat) (k : String) {v : Json} (hv : ReadsBack s n v)
    {members : List (String × Json)} {fuel : Nat} (hfuel : 3 * (spaced s level v).length ≤ fuel + 1)
    (hmore : readMembers (fuel + 1) (n + 1) false
      (spacedMembers s level members ++ (blanks ++ '\x7d' :: rest)) = .ok (members, rest)) :
    membersFrom (fuel + 2) (n + 1) (k.toList.flatMap escapeChar ++ '"' :: ':' :: (s.colon ++
      (spaced s level v ++ (spacedMembers s level members ++ (blanks ++ '\x7d' :: rest))))) =
      .ok ((k, v) :: members, rest) := by
  have hclose : Follows (blanks ++ '\x7d' :: rest) := follows_blanks hblanks (follows_mark rest (by simp))
  have hvalue := hv.reads level (fuel + 1) (spacedMembers s level members ++ (blanks ++ '\x7d' :: rest)) hfuel
    (follows_members level members hclose)
  rw [membersFrom, readString_quoted]
  simp only [bind, Except.bind, skipBlanks_cons (c := ':') (by decide), if_true,
    readValue_blanks s.blank_colon, hvalue, hmore]
  rfl

/-- Further members are read up to the brace behind them. -/
theorem readMembers_spaced (level : Nat) {members : List (String × Json)}
    (hmembers : ∀ m ∈ members, ReadsBack s n m.2) {fuel : Nat}
    (hfuel : 3 * (spacedMembers s level members).length < fuel) :
    readMembers fuel (n + 1) false (spacedMembers s level members ++ (blanks ++ '\x7d' :: rest)) =
      .ok (members, rest) := by
  induction members generalizing fuel with
  | nil =>
    obtain ⟨fuel, rfl⟩ : ∃ f, fuel = f + 1 := ⟨fuel - 1, by omega⟩
    exact readMembers_close hblanks fuel (n + 1) false rest
  | cons m members ih =>
    obtain ⟨k, v⟩ := m
    obtain ⟨(hv : ReadsBack s n v), hrest⟩ := List.forall_mem_cons.1 hmembers
    simp only [spacedMembers, List.length_cons, List.length_append] at hfuel
    -- the turns for the comma and the name, and one that the blanks before the value need
    obtain ⟨fuel, rfl⟩ : ∃ f, fuel = f + 3 := ⟨fuel - 3, by omega⟩
    simp only [spacedMembers, List.cons_append, List.append_assoc, quote_append]
    rw [readMembers_comma (s.blank_line level)]
    exact membersFrom_spaced hblanks level k hv (by omega) (ih hrest (by omega))

end

/-! ### Values -/

theorem readValue_digit {fuel depth : Nat} {c : Char} (h : c.isDigit = true) (cs : List Char) :
    readValue (fuel + 1) depth (c :: cs) =
      readNumber false (c :: cs) >>= fun x => pure (.number x.1, x.2) := by
  rw [readValue, skipBlanks_cons (not_isBlank_of_digit h)]
  split
  · next heq => exact absurd heq (by simp)
  -- no other value starts with a digit
  iterate 7
    · next heq => exact absurd (List.cons.inj heq).1 (ne_of_isDigit h (by decide))
  · next heq =>
    obtain ⟨rfl, rfl⟩ := List.cons.inj heq
    rw [if_pos h]

theorem readValue_int (fuel depth : Nat) (w : Word) {rest : List Char} (hrest : Follows rest) :
    readValue (fuel + 1) depth (intText w.val ++ rest) = .ok (.number (.int w), rest) := by
  unfold intText
  split
  · next hnegative =>
    have hvalue : w.val = if true then -(w.val.natAbs : Int) else w.val.natAbs := by
      rw [if_pos rfl]
      omega
    have hnumber : readNumber true (digitsOf w.val.natAbs ++ rest) = .ok (.int w, rest) :=
      readNumber_integer hrest hvalue (by omega)
    rw [List.cons_append, readValue, skipBlanks_cons (by decide)]
    simp only [hnumber]
    rfl
  · next hnatural =>
    have hvalue : w.val = if false then -(w.val.natAbs : Int) else w.val.natAbs := by
      rw [if_neg (by simp)]
      omega
    have hnumber : readNumber false (digitsOf w.val.natAbs ++ rest) = .ok (.int w, rest) :=
      readNumber_integer hrest hvalue (by simp)
    obtain ⟨d, ds, heq, hd⟩ := digitsOf_eq_cons w.val.natAbs
    show readValue (fuel + 1) depth (digitsOf w.val.natAbs ++ rest) = _
    rw [heq, List.cons_append] at hnumber ⊢
    rw [readValue_digit hd, hnumber]
    rfl

theorem readValue_string (fuel depth : Nat) (t : String) (rest : List Char) :
    readValue (fuel + 1) depth (quote t ++ rest) = .ok (.string t, rest) := by
  rw [quote_append, readValue, skipBlanks_cons (by decide)]
  simp only [readString_quoted]
  rfl

theorem readValue_array {fuel : Nat} {cs rest : List Char} {items : List Json}
    (h : readItems fuel (n + 1) true cs = .ok (items, rest)) :
    readValue (fuel + 1) (n + 2) ('[' :: cs) = .ok (.array items, rest) := by
  have hdepth : ¬ n + 2 ≤ 1 := by omega
  rw [readValue, skipBlanks_cons (by decide)]
  simp only [if_neg hdepth]
  show (readItems fuel (n + 1) true cs >>= fun x => pure (array x.1, x.2)) = _
  rw [h]
  rfl

theorem readValue_object {fuel : Nat} {cs rest : List Char} {members : List (String × Json)}
    (h : readMembers fuel (n + 1) true cs = .ok (members, rest)) :
    readValue (fuel + 1) (n + 2) ('\x7b' :: cs) = .ok (.object members, rest) := by
  have hdepth : ¬ n + 2 ≤ 1 := by omega
  rw [readValue, skipBlanks_cons (by decide)]
  simp only [if_neg hdepth]
  show (readMembers fuel (n + 1) true cs >>= fun x => pure (object x.1, x.2)) = _
  rw [h]
  rfl

theorem readValue_items (level : Nat) {items : List Json} (hitems : ∀ v ∈ items, ReadsBack s n v)
    (rest : List Char) {fuel : Nat} (hfuel : 3 * (spaced s level (.array items)).length ≤ fuel) :
    readValue fuel (n + 2) (spaced s level (.array items) ++ rest) = .ok (.array items, rest) := by
  cases items with
  | nil =>
    simp only [spaced, text, List.length_cons, List.length_nil] at hfuel
    obtain ⟨fuel, rfl⟩ : ∃ f, fuel = f + 2 := ⟨fuel - 2, by omega⟩
    exact readValue_array (readItems_close blank_nil fuel (n + 1) true rest)
  | cons v items =>
    obtain ⟨hv, hrest⟩ := List.forall_mem_cons.1 hitems
    simp only [spaced, List.length_cons, List.length_append] at hfuel
    obtain ⟨fuel, rfl⟩ : ∃ f, fuel = f + 3 := ⟨fuel - 3, by omega⟩
    simp only [spaced, List.cons_append, List.append_assoc, List.nil_append]
    refine readValue_array ?_
    rw [readItems_first (s.blank_line (level + 1)) ((hv.starts (level + 1)).append _)]
    exact itemsFrom_spaced (s.blank_line level) (level + 1) hv (by omega)
      (readItems_spaced (s.blank_line level) (level + 1) hrest (by omega))

theorem readValue_members (level : Nat) {members : List (String × Json)}
    (hmembers : ∀ m ∈ members, ReadsBack s n m.2) (rest : List Char) {fuel : Nat}
    (hfuel : 3 * (spaced s level (.object members)).length ≤ fuel) :
    readValue fuel (n + 2) (spaced s level (.object members) ++ rest) = .ok (.object members, rest) := by
  cases members with
  | nil =>
    simp only [spaced, text, List.length_cons, List.length_nil] at hfuel
    obtain ⟨fuel, rfl⟩ : ∃ f, fuel = f + 2 := ⟨fuel - 2, by omega⟩
    exact readValue_object (readMembers_close blank_nil fuel (n + 1) true rest)
  | cons m members =>
    obtain ⟨k, v⟩ := m
    obtain ⟨(hv : ReadsBack s n v), hrest⟩ := List.forall_mem_cons.1 hmembers
    simp only [spaced, List.length_cons, List.length_append] at hfuel
    obtain ⟨fuel, rfl⟩ : ∃ f, fuel = f + 4 := ⟨fuel - 4, by omega⟩
    simp only [spaced, List.cons_append, List.append_assoc, List.nil_append, quote_append]
    refine readValue_object ?_
    rw [readMembers_first (s.blank_line (level + 1))]
    exact membersFrom_spaced (s.blank_line level) (level + 1) k hv (by omega)
      (readMembers_spaced (s.blank_line level) (level + 1) hrest (by omega))

/-- A value without parts takes one turn. -/
theorem readsBack_of_turn {v : Json} (hfits : Fits n v)
    (h : ∀ level fuel rest, Follows rest →
      readValue (fuel + 1) (n + 1) (spaced s level v ++ rest) = .ok (v, rest)) : ReadsBack s n v := by
  refine ⟨fun level => starts_spaced level hfits, fun level fuel rest hfuel hrest => ?_⟩
  obtain ⟨c, cs, heq, -, -⟩ := starts_spaced (s := s) level hfits
  rw [heq, List.length_cons] at hfuel
  obtain ⟨fuel, rfl⟩ : ∃ f, fuel = f + 1 := ⟨fuel - 1, by omega⟩
  exact h level fuel rest hrest

theorem readsBack_of_fits {v : Json} (h : Fits n v) : ReadsBack s n v := by
  induction h with
  | null =>
    refine readsBack_of_turn .null fun level fuel rest _ => ?_
    rw [readValue]
    rfl
  | bool b =>
    refine readsBack_of_turn (.bool b) fun level fuel rest _ => ?_
    rw [readValue]
    cases b <;> rfl
  | int w => exact readsBack_of_turn (.int w) fun level fuel rest hrest => readValue_int fuel _ w hrest
  | string t => exact readsBack_of_turn (.string t) fun level fuel rest _ => readValue_string fuel _ t rest
  | array hfits ih =>
    refine ⟨fun level => starts_spaced level (.array hfits), fun level fuel rest hfuel _ => ?_⟩
    exact readValue_items level ih rest hfuel
  | object hfits ih =>
    refine ⟨fun level => starts_spaced level (.object hfits), fun level fuel rest hfuel _ => ?_⟩
    exact readValue_members level ih rest hfuel

/-! ## Whole texts -/

theorem readWhole_spaced (s : Spacing) {v : Json} (h : Fits 127 v) : readWhole (spaced s 0 v) = .ok v := by
  have hvalue := (readsBack_of_fits (s := s) h).reads 0 (3 * (spaced s 0 v).length + 3) [] (by omega)
    follows_nil
  rw [List.append_nil] at hvalue
  rw [readWhole, hvalue]
  rfl

theorem read_compact {v : Json} (h : Fits 127 v) : read v.compact = .ok v := by
  have hwhole := readWhole_spaced .dense h
  rw [← text_eq_spaced] at hwhole
  rw [read, compact, String.toList_ofList, hwhole]

theorem read_pretty {v : Json} (h : Fits 127 v) : read v.pretty = .ok v := by
  have hwhole := readWhole_spaced .indented h
  rw [← prettyText_eq_spaced] at hwhole
  rw [read, pretty, String.toList_ofList, hwhole]

end Walkthrough.Json
