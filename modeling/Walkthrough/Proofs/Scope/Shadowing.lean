import Walkthrough.Proofs.Scope.Observed

/-!
# Shadowing

Two accounts of what a name means in a scope. Looking it up searches from the overlay through the frames, from
the innermost to the outermost, to the base values, and stops at the first that knows it; listing all that is
visible lays the frames over the base values, from the outermost to the innermost, so that later bindings
replace earlier ones, and adds the number of completed requests. Both agree on every name, also on the name of
that number, which each frame knows although it may not bind it.

* `find?_merged` — merged frames bind a name to what the innermost frame binds it to that binds it at all;
* `find?_counted` — so does the search, also for the number of completed requests;
* `visible_shows_lookup` — a name is listed exactly if it is found, and with the same value.
-/

namespace Walkthrough

/-! ## Entries -/

section

variable {α : Type}

/-- The entries of a map are what is found in it. -/
theorem Bindings.mem_entries_iff (b : Bindings α) (name : String) (v : α) :
    (name, v) ∈ b.entries ↔ b.find? name = some v := by
  obtain ⟨es, hnodup⟩ := b
  show (name, v) ∈ es ↔ findEntry name es = some v
  induction es with
  | nil => simp [findEntry]
  | cons e rest ih =>
    obtain ⟨k, w⟩ := e
    rw [List.map_cons, List.nodup_cons] at hnodup
    rw [List.mem_cons, ih hnodup.2, findEntry]
    by_cases hk : k = name
    · subst hk
      -- the name occurs once, so that nothing of the rest is found under it
      rw [findEntry_eq_none hnodup.1, if_pos rfl]
      simp [eq_comm]
    · have hne : (name, v) ≠ (k, w) := fun heq => hk (Prod.mk.inj heq).1.symm
      rw [if_neg hk]
      simp [hne]

theorem Bindings.mem_keys_iff (b : Bindings α) (name : String) :
    name ∈ b.keys ↔ (b.find? name).isSome = true := by
  rw [Option.isSome_iff_exists]
  constructor
  · intro hname
    obtain ⟨⟨k, v⟩, hentry, rfl⟩ := List.mem_map.1 hname
    exact ⟨v, (b.mem_entries_iff k v).1 hentry⟩
  · rintro ⟨v, hv⟩
    exact List.mem_map.2 ⟨(name, v), (b.mem_entries_iff name v).2 hv, rfl⟩

end

/-! ## Frames -/

/-- What a name is bound to in the innermost frame that binds it. -/
def boundIn (name : String) (frames : List Frame) : Option Json := frames.findSome? (·.find? name)

theorem boundIn_cons (name : String) (f : Frame) (frames : List Frame) :
    boundIn name (f :: frames) = (f.find? name).or (boundIn name frames) := by
  rw [boundIn, List.findSome?_cons]
  cases f.find? name <;> rfl

/-- In merged frames inner bindings are in front of outer ones, and all in front of the base values. -/
theorem find?_merged (values : Bindings Json) (frames : List Frame) (name : String) :
    (frames.foldr (fun f b => b.extend f) values).find? name =
      (boundIn name frames).or (values.find? name) := by
  induction frames with
  | nil => rfl
  | cons f frames ih =>
    rw [List.foldr_cons, Bindings.find?_extend, ih, boundIn_cons, Option.or_assoc]

/-- The search through the frames is for what is bound, unless the name is that of the number of completed
requests. -/
theorem lookupFrames_eq_boundIn {name : String} (hname : name ≠ indexName) (completed : Nat)
    (frames : List Frame) : lookupFrames name completed frames = boundIn name frames := by
  induction frames with
  | nil => rfl
  | cons f frames ih =>
    rw [lookupFrames, boundIn_cons, if_neg hname, ih]
    cases f.find? name <;> rfl

/-! ## Scopes -/

/-- The merged frames of a context over its base values, and the number of completed requests unless the
innermost frame binds its name. -/
def Context.counted (c : Context) : Bindings Json :=
  match c.frames with
  | [] => c.bound
  | f :: _ =>
    if f.contains indexName then c.bound else c.bound.insert indexName (Json.ofNat c.completed)

/-- What is merged and counted is what the search finds in the frames, and else in the base values. -/
theorem find?_counted (c : Context) (name : String) :
    c.counted.find? name =
      (lookupFrames name c.completed c.frames).or (c.values.find? name) := by
  have hbound : c.bound.find? name = (boundIn name c.frames).or (c.values.find? name) :=
    find?_merged c.values c.frames name
  unfold Context.counted
  split
  · next hframes =>
    rw [hbound, hframes]
    rfl
  · next f frames hframes =>
    rw [hframes] at hbound ⊢
    by_cases hname : name = indexName
    · -- the search ends at the innermost frame, whatever the outer ones bind
      subst hname
      rw [lookupFrames_index, Option.some_or]
      rw [boundIn_cons, Option.or_assoc] at hbound
      cases hf : f.find? indexName with
      | some v =>
        have hcontains : f.contains indexName = true := by simp [Bindings.contains, hf]
        rw [if_pos hcontains, hbound, hf, Option.some_or, Option.getD_some]
      | none =>
        have hcontains : ¬ f.contains indexName = true := by simp [Bindings.contains, hf]
        rw [if_neg hcontains, Bindings.find?_insert, if_pos rfl, Option.getD_none]
    · rw [lookupFrames_eq_boundIn hname, ← hbound]
      split
      · rfl
      · rw [Bindings.find?_insert, if_neg fun heq => hname heq.symm]

namespace Scope

theorem find?_visible (s : Scope) (name : String) : s.visible.find? name = s.lookup name := by
  obtain ⟨c, overlay⟩ := s
  cases overlay with
  | none => exact find?_counted c name
  | some f =>
    show (c.counted.extend f).find? name = _
    rw [Bindings.find?_extend, find?_counted, lookup, Option.bind_some]
    cases f.find? name <;> rfl

/-- **Shadowing.** Whatever the base values, the frames, the number of completed requests and the overlay are,
a name is among the visible bindings exactly if it is found, and its value there is the value that is found.
The name of that number shows what the overlay binds to it, else what the innermost frame binds to it, else the
number; the base values are asked for it only if no frame is open. -/
theorem visible_shows_lookup (s : Scope) :
    (∀ name, name ∈ s.visible.keys ↔ (s.lookup name).isSome = true) ∧
    (∀ name v, (name, v) ∈ s.visible.entries ↔ s.lookup name = some v) ∧
    s.visible.find? indexName = (s.overlay.bind (·.find? indexName)).or
      (match s.context.frames with
        | [] => s.context.values.find? indexName
        | f :: _ => some ((f.find? indexName).getD (.ofNat s.context.completed))) := by
  refine ⟨fun name => ?_, fun name v => ?_, ?_⟩
  · rw [Bindings.mem_keys_iff, find?_visible]
  · rw [Bindings.mem_entries_iff, find?_visible]
  · have hsearch : s.lookup indexName = (s.overlay.bind (·.find? indexName)).or
        ((lookupFrames indexName s.context.completed s.context.frames).or
          (s.context.values.find? indexName)) := by
      rw [lookup]
      cases s.overlay.bind (·.find? indexName) <;> rfl
    rw [find?_visible, hsearch]
    congr 1
    cases s.context.frames with
    | nil => rfl
    | cons f frames => rw [lookupFrames_index, Option.some_or]

end Scope

end Walkthrough
