import EntityViews.Proofs.Keys
import EntityViews.Record

/-!
Look-up by names, in lists of entries and in the records of a store. What is done to one key of one record leaves all
other keys and records as they are.
-/

namespace EntityViews

/-- A key equals a text exactly if it is this text. -/
theorem Value.same_text_iff {v : Value} {name : String} : v.same (.text name) = true ↔ v.asText? = some name := by
  cases v with
  | scalar a =>
    cases a with
    | columnKind k =>
      simp only [Value.same, Scalar.same, Scalar.magnitude?, Value.asText?, Value.label?, Option.map_some, Label.text,
        beq_iff_eq, Option.some.injEq]
      exact eq_comm
    | _ => simp [Value.same, Scalar.same, Scalar.magnitude?, Value.asText?, Value.label?, Label.text]
  | list | tuple | set | map => simp [Value.same, Value.asText?, Value.label?]

theorem Value.asText?_text (name : String) : (Value.text name).asText? = some name := rfl

theorem Value.same_texts {a b : String} : (Value.text a).same (.text b) = true ↔ a = b := by
  rw [Value.same_text_iff, Value.asText?_text, Option.some.injEq]

variable {α : Type}

/-- What is held after an assignment is the assigned value or was held before. -/
theorem mem_of_mem_assign {key : Value} {v : α} {entries : List (Value × α)} {p : Value × α}
    (h : p ∈ assign key v entries) : p.2 = v ∨ p ∈ entries := by
  induction entries with
  | nil =>
    rw [assign, List.mem_singleton] at h
    exact Or.inl (h ▸ rfl)
  | cons e rest ih =>
    obtain ⟨k, x⟩ := e
    rw [assign] at h
    split at h
    · rcases List.mem_cons.mp h with rfl | h
      · exact Or.inl rfl
      · exact Or.inr (List.mem_cons_of_mem _ h)
    · rcases List.mem_cons.mp h with rfl | h
      · exact Or.inr List.mem_cons_self
      · rcases ih h with h | h
        · exact Or.inl h
        · exact Or.inr (List.mem_cons_of_mem _ h)

/-- Every value in a collected mapping is that of some pair. -/
theorem mem_of_mem_collect {pairs : List (Value × α)} {p : Value × α} (h : p ∈ collect pairs) : ∃ q ∈ pairs, q.2 = p.2 := by
  have hstep : ∀ (pairs entries : List (Value × α)),
      p ∈ pairs.foldl (fun es q => assign q.1 q.2 es) entries → (∃ q ∈ pairs, q.2 = p.2) ∨ p ∈ entries := by
    intro pairs
    induction pairs with
    | nil => exact fun entries h => Or.inr h
    | cons q rest ih =>
      intro entries h
      rcases ih _ h with ⟨r, hr, he⟩ | h
      · exact Or.inl ⟨r, List.mem_cons_of_mem _ hr, he⟩
      · rcases mem_of_mem_assign h with h | h
        · exact Or.inl ⟨q, List.mem_cons_self, h.symm⟩
        · exact Or.inr h
  rcases hstep pairs [] h with h | h
  · exact h
  · cases h

theorem mem_of_lookup? {key : Value} {v : α} {entries : List (Value × α)} (h : lookup? key entries = some v) :
    ∃ p ∈ entries, p.1.same key = true ∧ p.2 = v := by
  obtain ⟨p, hp, he⟩ := Option.map_eq_some_iff.mp h
  have hsame := List.find?_some hp
  exact ⟨p, List.mem_of_find?_eq_some hp, hsame, he⟩

/-- What is found under a name among entries that were put in one after the other, if all of the name have one value. -/
theorem lookup?_collect {name : String} {v : α} {xs : List (String × α)} (hmem : ∃ x ∈ xs, x.1 = name)
    (hall : ∀ x ∈ xs, x.1 = name → x.2 = v) :
    lookup? (.text name) (collect (xs.map fun x => (Value.text x.1, x.2))) = some v := by
  -- By induction from the front: either the name is still to come, or its value is there already.
  have hstep : ∀ (xs : List (String × α)) (entries : List (Value × α)),
      (∃ x ∈ xs, x.1 = name) ∨ lookup? (.text name) entries = some v → (∀ x ∈ xs, x.1 = name → x.2 = v) →
      lookup? (.text name) ((xs.map fun x => (Value.text x.1, x.2)).foldl (fun es p => assign p.1 p.2 es) entries) =
        some v := by
    intro xs
    induction xs with
    | nil =>
      rintro entries (⟨x, hx, _⟩ | h) _
      · cases hx
      · exact h
    | cons x xs ih =>
      intro entries h hall
      rw [List.map_cons, List.foldl_cons]
      refine ih _ ?_ (fun y hy => hall y (List.mem_cons_of_mem _ hy))
      rw [lookup?_assign]
      by_cases hx : x.1 = name
      · rw [if_pos (Value.same_texts.mpr hx), hall x List.mem_cons_self hx]
        exact Or.inr rfl
      · rw [if_neg fun h => hx (Value.same_texts.mp h)]
        rcases h with ⟨y, hy, he⟩ | h
        · rcases List.mem_cons.mp hy with rfl | hy
          · exact absurd he hx
          · exact Or.inl ⟨y, hy, he⟩
        · exact Or.inr h
  exact hstep xs [] (Or.inl hmem) hall

theorem lookup?_collect_concat {key k : Value} {v : α} (h : k.same key = true) (entries : List (Value × α)) :
    lookup? key (collect (entries ++ [(k, v)])) = some v := by
  rw [collect, List.foldl_append, List.foldl_cons, List.foldl_nil, lookup?_assign, if_pos h]

/-- Something is found under a key among entries that were put in one after the other if any of them has it. -/
theorem isSome_lookup?_collect (key : Value) (pairs : List (Value × α)) :
    (lookup? key (collect pairs)).isSome = true ↔ ∃ p ∈ pairs, p.1.same key = true := by
  have hstep : ∀ (pairs entries : List (Value × α)),
      (lookup? key (pairs.foldl (fun es p => assign p.1 p.2 es) entries)).isSome = true ↔
        (∃ p ∈ pairs, p.1.same key = true) ∨ (lookup? key entries).isSome = true := by
    intro pairs
    induction pairs with
    | nil => simp
    | cons p rest ih =>
      intro entries
      rw [List.foldl_cons, ih, lookup?_assign]
      by_cases hp : p.1.same key = true
      · simp [hp]
      · simp [hp]
  have hall := hstep pairs []
  rwa [or_iff_left nofun] at hall

theorem assign_of_new {key : Value} {entries : List (Value × α)} (h : ∀ e ∈ entries, e.1.same key = false) (v : α) :
    assign key v entries = entries ++ [(key, v)] := by
  induction entries with
  | nil => rfl
  | cons e rest ih =>
    have hrest := ih fun e he => h e (List.mem_cons_of_mem _ he)
    rw [assign, if_neg (Bool.eq_false_iff.mp (h e List.mem_cons_self)), hrest, List.cons_append]

/-- Entries with different keys stay as they are. -/
theorem collect_eq_self {pairs : List (Value × α)} (h : pairs.Pairwise fun p q => p.1.same q.1 = false) :
    collect pairs = pairs := by
  have hstep : ∀ (pairs entries : List (Value × α)), (entries ++ pairs).Pairwise (fun p q => p.1.same q.1 = false) →
      pairs.foldl (fun entries p => assign p.1 p.2 entries) entries = entries ++ pairs := by
    intro pairs
    induction pairs with
    | nil => exact fun entries _ => (List.append_nil _).symm
    | cons p rest ih =>
      intro entries hpairs
      have hnew : ∀ e ∈ entries, e.1.same p.1 = false := by
        intro e he
        exact (List.pairwise_append.mp hpairs).2.2 e he p List.mem_cons_self
      rw [List.foldl_cons, assign_of_new hnew, ih _ (by rwa [List.append_assoc]), List.append_assoc]
      rfl
  exact hstep pairs [] h

/-- An assignment changes no entry with another key. -/
theorem filter_assign {key : Value} (hkey : key.same key = true) (v : α) (entries : List (Value × α)) :
    (assign key v entries).filter (fun e => !e.1.same key) = entries.filter fun e => !e.1.same key := by
  induction entries with
  | nil =>
    rw [assign, List.filter_cons, List.filter_nil]
    simp only [hkey, Bool.not_true, Bool.false_eq_true, if_false]
  | cons e rest ih =>
    obtain ⟨k, x⟩ := e
    rw [assign]
    by_cases hk : k.same key
    · rw [if_pos hk, List.filter_cons, List.filter_cons]
      simp only [hk, Bool.not_true, Bool.false_eq_true, if_false]
    · rw [if_neg hk, List.filter_cons, List.filter_cons, ih]

/-- To drop a name hides no other name. -/
theorem lookup?_without {name other : String} (hne : other ≠ name) (entries : List (Value × α)) :
    lookup? (.text name) (entries.filter fun e => !e.1.same (.text other)) = lookup? (.text name) entries := by
  induction entries with
  | nil => rfl
  | cons e rest ih =>
    obtain ⟨k, x⟩ := e
    rw [List.filter_cons, lookup?_cons]
    by_cases ho : k.same (.text other)
    · have hn : ¬k.same (.text name) = true := by
        rw [Value.same_text_iff] at ho ⊢
        rw [ho]
        exact fun he => hne (Option.some.inj he)
      simp only [ho, Bool.not_true, Bool.false_eq_true, if_false]
      rw [if_neg hn]
      exact ih
    · simp only [ho, Bool.not_false, if_true]
      rw [lookup?_cons, ih]

namespace Store

/-- To set a field of one record changes the entries of this record only. -/
theorem entries_set (s : Store) (id i : Nat) (key : Value) (v : Node) :
    (s.set id key v).entries i =
      if id = i ∧ i < s.records.size then assign key v (s.entries i) else s.entries i := by
  rw [entries, entries, set, Array.getElem?_modify]
  by_cases hi : id = i
  · subst hi
    by_cases hs : id < s.records.size
    · simp [hs]
    · simp [hs]
  · simp [hi]

/-- After a field was set it holds the new value, and every other field what it held. -/
theorem get?_set (s : Store) (id i : Nat) (name other : String) (v : Node) :
    (s.set id (.text name) v).get? i (.text other) =
      if id = i ∧ i < s.records.size ∧ name = other then some v else s.get? i (.text other) := by
  rw [get?, entries_set]
  by_cases hi : id = i ∧ i < s.records.size
  · rw [if_pos hi, lookup?_assign]
    simp only [hi.1, hi.2, true_and, Value.same_texts]
    rfl
  · rw [if_neg hi]
    have hno : ¬(id = i ∧ i < s.records.size ∧ name = other) := fun h => hi ⟨h.1, h.2.1⟩
    rw [if_neg hno]
    rfl

theorem size_set (s : Store) (id : Nat) (key : Value) (v : Node) : (s.set id key v).records.size = s.records.size := by
  rw [set, Array.size_modify]

theorem entries_alloc (s : Store) (entries : List (Value × Node)) (i : Nat) :
    (s.alloc entries).2.entries i = if i = s.records.size then entries else s.entries i := by
  rw [alloc, Store.entries, Store.entries, Array.getElem?_push]
  split
  · rfl
  · rfl

def Grows (s t : Store) : Prop := s.records.size ≤ t.records.size ∧ ∀ i < s.records.size, t.entries i = s.entries i

theorem Grows.refl (s : Store) : s.Grows s := ⟨Nat.le_refl _, fun _ _ => rfl⟩

theorem Grows.trans {s t u : Store} (h : s.Grows t) (h' : t.Grows u) : s.Grows u := by
  refine ⟨Nat.le_trans h.1 h'.1, ?_⟩
  intro i hi
  rw [h'.2 i (Nat.lt_of_lt_of_le hi h.1), h.2 i hi]

theorem grows_alloc (s : Store) (entries : List (Value × Node)) : s.Grows (s.alloc entries).2 := by
  refine ⟨?_, ?_⟩
  · rw [alloc, Array.size_push]
    omega
  · intro i hi
    rw [entries_alloc, if_neg (Nat.ne_of_lt hi)]

mutual

theorem grows_load (s : Store) : (v : Value) → s.Grows (s.load v).2
  | .scalar _ => .refl s
  | .list items | .tuple items | .set items => grows_loadItems s items
  | .map entries => (grows_loadEntries s entries).trans (grows_alloc _ _)

theorem grows_loadItems (s : Store) : (items : List Value) → s.Grows (s.loadItems items).2
  | [] => .refl s
  | item :: rest => (grows_load s item).trans (grows_loadItems _ rest)

theorem grows_loadEntries (s : Store) : (entries : List (Value × Value)) → s.Grows (s.loadEntries entries).2
  | [] => .refl s
  | (_, value) :: rest => (grows_load s value).trans (grows_loadEntries _ rest)

end

/-- What a key finds among loaded entries is the loaded value that it finds before. -/
theorem lookup?_loadEntries {s : Store} {entries : List (Value × Value)} {key v : Value}
    (h : lookup? key entries = some v) : ∃ t : Store, lookup? key (s.loadEntries entries).1 = some (t.load v).1 := by
  induction entries generalizing s with
  | nil => cases h
  | cons e rest ih =>
    obtain ⟨k, x⟩ := e
    rw [lookup?_cons] at h
    rw [loadEntries, lookup?_cons]
    by_cases hk : k.same key
    · rw [if_pos hk] at h ⊢
      cases h
      exact ⟨s, rfl⟩
    · rw [if_neg hk] at h ⊢
      exact ih h

end Store

end EntityViews
