import EntityViews.Text.Split

/-!
Trails: paths of relations as lists of keys, the last key first. A trail whose keys are names without dots is known by
its dotted path.
-/

namespace EntityViews

namespace Text

/-- Characters are split at every separator. -/
theorem splitChars_append (sep : Char) (xs ys : List Char) :
    splitChars sep (xs ++ sep :: ys) = splitChars sep xs ++ splitChars sep ys := by
  induction xs with
  | nil =>
    rw [List.nil_append, splitChars]
    cases hy : splitChars sep ys with
    | nil => exact absurd hy (splitChars_ne_nil sep ys)
    | cons piece pieces => simp [splitChars, hy]
  | cons x xs ih =>
    rw [List.cons_append, splitChars, ih, splitChars]
    cases hx : splitChars sep xs with
    | nil => exact absurd hx (splitChars_ne_nil sep xs)
    | cons piece pieces => by_cases hs : x = sep <;> simp [hs]

theorem splitChars_of_notMem {sep : Char} {cs : List Char} (h : sep ∉ cs) : splitChars sep cs = [cs] := by
  induction cs with
  | nil => rfl
  | cons c cs ih =>
    rw [List.mem_cons, not_or] at h
    rw [splitChars, ih h.2]
    exact if_neg (Ne.symm h.1)

theorem segments_of_notMem {name : String} (h : '.' ∉ name.toList) : segments name = [name] := by
  rw [segments, splitAt, splitChars_of_notMem h, List.map_singleton, String.ofList_toList]

theorem segments_append (p q : String) : segments (p ++ "." ++ q) = segments p ++ segments q := by
  have hchars : (p ++ "." ++ q).toList = p.toList ++ '.' :: q.toList := by
    simp [String.toList_append]
  rw [segments, splitAt, hchars, splitChars_append, List.map_append]
  rfl

theorem segments_dotted (path : String) {name : String} (h : '.' ∉ name.toList) :
    segments (path ++ "." ++ name) = segments path ++ [name] := by
  rw [segments_append, segments_of_notMem h]

theorem bne_of_mem_reverse {cs : List Char} {sep : Char} (h : sep ∉ cs) : ∀ c ∈ cs.reverse, (c != sep) = true := by
  intro c hc
  rw [List.mem_reverse] at hc
  rw [bne_iff_ne]
  rintro rfl
  exact h hc

theorem splitLast_of_notMem {name : String} (h : '.' ∉ name.toList) : splitLast '.' name = ("", name) := by
  have hall := bne_of_mem_reverse h
  have hnil : name.toList.reverse = name.toList.reverse ++ [] := (List.append_nil _).symm
  rw [splitLast, hnil, List.takeWhile_append_of_pos hall, List.dropWhile_append_of_pos hall]
  simp

theorem splitLast_dotted (path : String) {name : String} (h : '.' ∉ name.toList) :
    splitLast '.' (path ++ "." ++ name) = (path, name) := by
  have hall := bne_of_mem_reverse h
  have hchars : (path ++ "." ++ name).toList.reverse = name.toList.reverse ++ '.' :: path.toList.reverse := by
    simp [String.toList_append]
  rw [splitLast, hchars, List.takeWhile_append_of_pos hall, List.dropWhile_append_of_pos hall]
  simp

theorem count_of_notMem {name : String} (h : '.' ∉ name.toList) : count '.' name = 0 := List.count_eq_zero.mpr h

theorem count_dotted (path : String) {name : String} (h : '.' ∉ name.toList) :
    count '.' (path ++ "." ++ name) = count '.' path + 1 := by
  have hname : List.count '.' name.toList = 0 := List.count_eq_zero.mpr h
  simp [count, String.toList_append, List.count_append, hname]

end Text

/-- Keys of relations that lead to some records, the last one first. -/
abbrev Trail := List String

namespace Trail

def path : Trail → String
  | [] => ""
  | key :: above => Text.qualify (path above) key

def Proper (t : Trail) : Prop := ∀ key ∈ t, key ≠ "" ∧ '.' ∉ key.toList

theorem Proper.above {key : String} {above : Trail} (h : Proper (key :: above)) : Proper above :=
  fun k hk => h k (List.mem_cons_of_mem _ hk)

theorem Proper.notMem {key : String} {above : Trail} (h : Proper (key :: above)) : '.' ∉ key.toList :=
  (h key List.mem_cons_self).2

/-- Only the empty trail has the empty path. -/
theorem path_ne_empty {key : String} {above : Trail} (h : Proper (key :: above)) : path (key :: above) ≠ "" := by
  rw [path, Text.qualify]
  split
  · exact (h key List.mem_cons_self).1
  · intro he
    have hl := congrArg String.toList he
    simp [String.toList_append] at hl

theorem path_eq_empty_iff {t : Trail} (h : Proper t) : path t = "" ↔ t = [] := by
  cases t with
  | nil => exact ⟨fun _ => rfl, fun _ => rfl⟩
  | cons key above => exact ⟨fun he => absurd he (path_ne_empty h), nofun⟩

theorem path_singleton (key : String) : path [key] = key := by
  rw [path, path, Text.qualify, if_pos rfl]

theorem path_cons {key : String} {above : Trail} (h : Proper above) (hne : above ≠ []) :
    path (key :: above) = path above ++ "." ++ key :=
  if_neg fun he => hne ((path_eq_empty_iff h).mp he)

/-- The segments of a path are the keys of its trail, from the root on. -/
theorem segments_path {t : Trail} (h : Proper t) (hne : t ≠ []) : Text.segments (path t) = t.reverse := by
  induction t with
  | nil => exact absurd rfl hne
  | cons key above ih =>
    cases above with
    | nil => rw [path_singleton, Text.segments_of_notMem h.notMem, List.reverse_singleton]
    | cons key' above' =>
      rw [path_cons h.above (List.cons_ne_nil _ _), Text.segments_dotted _ h.notMem,
        ih h.above (List.cons_ne_nil _ _), ← List.reverse_cons]

/-- The path of a trail is taken apart into the keys that it was put together from. -/
theorem keys_path {t : Trail} (h : Proper t) : (if path t = "" then [] else Text.segments (path t)) = t.reverse := by
  by_cases hne : t = []
  · subst hne
    rfl
  · rw [if_neg fun he => hne ((path_eq_empty_iff h).mp he), segments_path h hne]

theorem splitLast_path {key : String} {above : Trail} (h : Proper (key :: above)) :
    Text.splitLast '.' (path (key :: above)) = (path above, key) := by
  cases above with
  | nil => rw [path_singleton, Text.splitLast_of_notMem h.notMem, path]
  | cons key' above' => rw [path_cons h.above (List.cons_ne_nil _ _), Text.splitLast_dotted _ h.notMem]

theorem count_path {key : String} {above : Trail} (h : Proper (key :: above)) :
    Text.count '.' (path (key :: above)) = above.length := by
  induction above generalizing key with
  | nil => rw [path_singleton, Text.count_of_notMem h.notMem, List.length_nil]
  | cons key' above' ih =>
    rw [path_cons h.above (List.cons_ne_nil _ _), Text.count_dotted _ h.notMem, ih h.above, List.length_cons]

/-- Different trails have different paths. -/
theorem path_injective {t u : Trail} (ht : Proper t) (hu : Proper u) (h : path t = path u) : t = u := by
  induction t generalizing u with
  | nil => exact ((path_eq_empty_iff hu).mp h.symm).symm
  | cons key above ih =>
    cases u with
    | nil => exact absurd h (path_ne_empty ht)
    | cons key' above' =>
      have hsplit := congrArg (Text.splitLast '.') h
      rw [splitLast_path ht, splitLast_path hu, Prod.mk.injEq] at hsplit
      rw [ih ht.above hu.above hsplit.1, hsplit.2]

end Trail

end EntityViews
