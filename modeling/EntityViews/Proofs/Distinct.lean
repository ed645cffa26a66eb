import Mathlib.Data.List.Induction
import EntityViews.Fetch.Plan

/-!
Lists without repetitions: `addNew` keeps first occurrences, in order, so that adding in portions is the same as adding
everything at once.
-/

namespace EntityViews

variable {α : Type} [DecidableEq α]

theorem distinct_eq_addNew (xs : List α) : distinct xs = addNew [] xs := rfl

@[simp] theorem addNew_nil (known : List α) : addNew known [] = known := rfl

theorem addNew_cons (known : List α) (x : α) (xs : List α) :
    addNew known (x :: xs) = addNew (if x ∈ known then known else known ++ [x]) xs := rfl

theorem addNew_append (known xs ys : List α) : addNew known (xs ++ ys) = addNew (addNew known xs) ys :=
  List.foldl_append

@[simp] theorem mem_addNew {known xs : List α} {x : α} : x ∈ addNew known xs ↔ x ∈ known ∨ x ∈ xs := by
  induction xs generalizing known with
  | nil => simp
  | cons y ys ih =>
    rw [addNew_cons, ih, List.mem_cons]
    by_cases hy : y ∈ known
    · rw [if_pos hy]
      constructor
      · rintro (h | h)
        · exact Or.inl h
        · exact Or.inr (Or.inr h)
      · rintro (h | rfl | h)
        · exact Or.inl h
        · exact Or.inl hy
        · exact Or.inr h
    · rw [if_neg hy, List.mem_append, List.mem_singleton, or_assoc]

@[simp] theorem mem_distinct {xs : List α} {x : α} : x ∈ distinct xs ↔ x ∈ xs := by
  rw [distinct_eq_addNew, mem_addNew]
  simp only [List.not_mem_nil, false_or]

/-- Items that were made distinct among themselves first are the same addition. -/
theorem addNew_addNew (known xs ys : List α) : addNew known (addNew xs ys) = addNew (addNew known xs) ys := by
  induction ys generalizing xs with
  | nil => rfl
  | cons y ys ih =>
    rw [addNew_cons, addNew_cons, ih]
    by_cases hy : y ∈ xs
    · have hk : y ∈ addNew known xs := mem_addNew.mpr (Or.inr hy)
      rw [if_pos hy, if_pos hk]
    · rw [if_neg hy, addNew_append, addNew_cons, addNew_nil]

theorem addNew_distinct (known xs : List α) : addNew known (distinct xs) = addNew known xs := by
  rw [distinct_eq_addNew, addNew_addNew, addNew_nil]

theorem distinct_append_distinct (xs ys : List α) : distinct (xs ++ distinct ys) = distinct (xs ++ ys) := by
  rw [distinct_eq_addNew (xs ++ distinct ys), addNew_append, addNew_distinct, ← addNew_append, ← distinct_eq_addNew]

theorem nodup_addNew {known : List α} (h : known.Nodup) (xs : List α) : (addNew known xs).Nodup := by
  induction xs generalizing known with
  | nil => exact h
  | cons x xs ih =>
    rw [addNew_cons]
    apply ih
    by_cases hx : x ∈ known
    · rwa [if_pos hx]
    · rw [if_neg hx, List.nodup_append]
      refine ⟨h, List.pairwise_singleton _ x, ?_⟩
      rintro y hy _ hx' rfl
      exact hx (List.mem_singleton.mp hx' ▸ hy)

theorem nodup_distinct (xs : List α) : (distinct xs).Nodup := nodup_addNew List.nodup_nil xs

theorem head?_distinct_cons (x : α) (xs : List α) : (distinct (x :: xs)).head? = some x := by
  have hgrow (known xs : List α) (h : known.head? = some x) : (addNew known xs).head? = some x := by
    induction xs generalizing known with
    | nil => exact h
    | cons y ys ih =>
      rw [addNew_cons]
      apply ih
      split
      · exact h
      · rw [List.head?_append, h, Option.some_or]
  rw [distinct_eq_addNew, addNew_cons]
  exact hgrow _ xs rfl

theorem addNew_of_subset {known xs : List α} (h : ∀ x ∈ xs, x ∈ known) : addNew known xs = known := by
  induction xs with
  | nil => rfl
  | cons x xs ih =>
    rw [addNew_cons, if_pos (h x List.mem_cons_self)]
    exact ih fun y hy => h y (List.mem_cons_of_mem _ hy)

/-- What is added of members that come once are those not known yet. -/
theorem addNew_eq_append (known : List α) {xs : List α} (h : xs.Nodup) :
    addNew known xs = known ++ xs.filter (· ∉ known) := by
  induction xs generalizing known with
  | nil => simp
  | cons x xs ih =>
    obtain ⟨hx, hxs⟩ := List.nodup_cons.mp h
    rw [addNew_cons, ih _ hxs]
    by_cases hk : x ∈ known
    · rw [if_pos hk, List.filter_cons_of_neg (by simpa using hk)]
    · have hrest : xs.filter (· ∉ known ++ [x]) = xs.filter (· ∉ known) := by
        apply List.filter_congr
        intro y hy
        have hne : y ≠ x := fun he => hx (he ▸ hy)
        simp [hne]
      rw [if_neg hk, hrest, List.filter_cons_of_pos (by simpa using hk), List.append_assoc, List.singleton_append]

theorem addNew_of_nodup (known xs : List α) (h : (known ++ xs).Nodup) : addNew known xs = known ++ xs := by
  obtain ⟨_, hxs, hapart⟩ := List.nodup_append.mp h
  have hnew : ∀ x ∈ xs, decide (x ∉ known) = true := by
    intro x hx
    exact decide_eq_true fun hk => hapart x hk x hx rfl
  rw [addNew_eq_append known hxs, List.filter_eq_self.mpr hnew]

theorem distinct_of_nodup {xs : List α} (h : xs.Nodup) : distinct xs = xs := addNew_of_nodup [] xs h

theorem distinct_distinct_append (xs ys : List α) : distinct (distinct xs ++ ys) = distinct (xs ++ ys) := by
  rw [distinct_eq_addNew, addNew_append, ← distinct_eq_addNew, distinct_of_nodup (nodup_distinct xs), distinct_eq_addNew xs,
    ← addNew_append, ← distinct_eq_addNew]

theorem distinct_concat (xs : List α) (x : α) : distinct (xs ++ [x]) = if x ∈ xs then distinct xs else distinct xs ++ [x] := by
  rw [distinct_eq_addNew, addNew_append, addNew_cons, addNew_nil, ← distinct_eq_addNew]
  simp only [mem_distinct]

/-- What comes before an item in the list without repetitions came before its first occurrence. -/
theorem exists_of_distinct_eq {xs before after : List α} {x : α} (h : distinct xs = before ++ x :: after) :
    ∃ ys zs, xs = ys ++ x :: zs ∧ before = distinct ys := by
  induction xs using List.reverseRecOn generalizing after with
  | nil =>
    have hlength := congrArg List.length h
    simp [distinct_eq_addNew] at hlength
  | append_singleton xs y ih =>
    rw [distinct_concat] at h
    split at h
    · obtain ⟨ys, zs, rfl, hbefore⟩ := ih h
      exact ⟨ys, zs ++ [y], by simp, hbefore⟩
    · rcases List.eq_nil_or_concat after with rfl | ⟨after', z, rfl⟩
      · obtain ⟨hbefore, hx⟩ := List.append_inj' h rfl
        cases hx
        exact ⟨xs, [], rfl, hbefore.symm⟩
      · rw [List.concat_eq_append, ← List.cons_append, ← List.append_assoc] at h
        obtain ⟨hxs, _⟩ := List.append_inj' h rfl
        obtain ⟨ys, zs, rfl, hbefore⟩ := ih hxs
        exact ⟨ys, zs ++ [y], by simp, hbefore⟩

/-- What is added are the members not known yet, each where it comes first. -/
theorem addNew_eq_eraseDups (known xs : List α) :
    addNew known xs = known ++ (xs.filter fun x => decide (x ∉ known)).eraseDups := by
  induction xs generalizing known with
  | nil => simp
  | cons x xs ih =>
    rw [addNew_cons, ih]
    by_cases hx : x ∈ known
    · simp [hx]
    · have hrest : (xs.filter fun y => decide (y ∉ known ++ [x])) =
          (xs.filter fun y => decide (y ∉ known)).filter fun y => !y == x := by
        rw [List.filter_filter]
        congr 1
        funext y
        by_cases hy : y = x <;> simp [hy]
      rw [if_neg hx, List.filter_cons_of_pos (by simpa using hx), List.eraseDups_cons, ← hrest, List.append_assoc]
      rfl

/-- To keep what is not there yet, item by item, is to erase all occurrences but the first. -/
theorem distinct_eq_eraseDups (xs : List α) : distinct xs = xs.eraseDups := by
  have hall : xs.filter (fun x => decide (x ∉ ([] : List α))) = xs := List.filter_eq_self.mpr (by simp)
  rw [distinct_eq_addNew, addNew_eq_eraseDups, hall, List.nil_append]

theorem count_eraseDups (xs : List α) (x : α) : xs.eraseDups.count x = if x ∈ xs then 1 else 0 := by
  rw [← distinct_eq_eraseDups, (nodup_distinct xs).count]
  simp only [mem_distinct]

end EntityViews
