import EntityViews.Proofs.Fetching
import EntityViews.Proofs.Integers
import EntityViews.Proofs.Linking

/-!
The rows that keys are linked to. Main statement: whatever keys are asked for at once, the rows that the answer of a steady
database has for one of them are the rows linked to this key, in the order of their table.
-/

namespace EntityViews

open Sql

namespace Contents

/-- The rows of the target of a link in the order of their table, each with a key of a source that it is linked to; a row
stands there once for each row of a joining table that links it. -/
def links (db : Contents) (target : String) : Link → List (Value × Row)
  | .manyToOne _ | .oneToOne _ => (db.rows target).map fun t => (t "id", t)
  | .oneToOneInverse key | .oneToMany key => (db.rows target).map fun t => (t key, t)
  | .manyToMany table sourceKey targetKey => (db.rows target).flatMap fun t =>
    ((db.rows table).filter fun j => db.compare .eq (j targetKey) (t "id") = .holds).map fun j => (j sourceKey, t)

def rowsFor (db : Contents) (s : Schema) (target : String) (link : Link) (filter v : Value) : List Row :=
  ((db.links target link).filter fun p =>
    db.compare .eq p.1 v = .holds && Filter.truth db s target p.2 filter = .holds).map (·.2)

def asked (db : Contents) (s : Schema) (target : String) (filter : Value) (ids : List Value) (p : Value × Row) : Bool :=
  db.member p.1 ids = .holds && Filter.truth db s target p.2 filter = .holds

/-- Whether rows are referred to by their ids: each has a whole number of its own, which is compared as a number, and the
keys that a link compares refer to rows or to none. -/
structure Referable (db : Contents) (target : String) (link : Link) : Prop where
  compares : db.ComparesIntegers
  ids : ∀ t ∈ db.rows target, ∃ n, t "id" = .int n
  unique : (db.rows target).Pairwise fun t u => t "id" ≠ u "id"
  keys : ∀ p ∈ db.links target link, p.1.isReference = true

variable {db : Contents} {s : Schema} {target : String} {link : Link} {filter : Value}

def referable (db : Contents) (target : String) (link : Link) : Bool :=
  (db.rows target).all (fun t => (t "id").isReference && !(t "id").isNull) &&
    decide ((db.rows target).Pairwise fun t u => (t "id").same (u "id") = false) &&
    (db.links target link).all (·.1.isReference)

/-- Contents that pass the check have references that integers answer. -/
theorem referable_of_check (hcompares : db.ComparesIntegers) (h : db.referable target link = true) :
    db.Referable target link := by
  rw [referable, Bool.and_eq_true, Bool.and_eq_true, List.all_eq_true, decide_eq_true_eq, List.all_eq_true] at h
  obtain ⟨⟨hids, hunique⟩, hkeys⟩ := h
  have hint : ∀ t ∈ db.rows target, ∃ n, t "id" = .int n := by
    intro t ht
    have hid := hids t ht
    rw [Bool.and_eq_true] at hid
    obtain hnull | hn := Value.reference_cases hid.1
    · rw [hnull] at hid
      cases hid.2
    · exact hn
  refine ⟨hcompares, hint, ?_, hkeys⟩
  refine hunique.imp_of_mem ?_
  intro t u ht _ hne he
  obtain ⟨n, hn⟩ := hint t ht
  rw [← he, hn, Bool.eq_false_iff] at hne
  exact hne (Value.same_ints.mpr rfl)

theorem mem_rows_of_links {p : Value × Row} (h : p ∈ db.links target link) : p.2 ∈ db.rows target := by
  cases link with
  | manyToOne key | oneToOne key | oneToMany key | oneToOneInverse key =>
    obtain ⟨t, ht, rfl⟩ := List.mem_map.mp h
    exact ht
  | manyToMany table sourceKey targetKey =>
    obtain ⟨t, ht, hp⟩ := List.mem_flatMap.mp h
    obtain ⟨j, _, rfl⟩ := List.mem_map.mp hp
    exact ht

/-- Nothing is related by a key that is null. -/
theorem rowsFor_null : db.rowsFor s target link filter .null = [] := by
  rw [rowsFor, List.map_eq_nil_iff, List.filter_eq_nil_iff]
  intro p _
  have hunknown : db.compare .eq p.1 .null = .unknown := by
    have hnull : (p.1.isNull || Value.null.isNull) = true := Bool.or_true _
    rw [compare, if_pos hnull]
  simp [hunknown]

/-- Of all rows that are found for some keys, those with one of the keys are the rows that it is linked to. -/
theorem Referable.filter_asked (h : db.Referable target link) {ids : List Value} {v : Value}
    (hids : ∀ k ∈ ids, k.isReference = true) (hv : v.isReference = true) (hmem : v ≠ .null → v ∈ ids) :
    (((db.links target link).filter (db.asked s target filter ids)).filter (·.1.same v)).map (·.2) =
      db.rowsFor s target link filter v := by
  rw [List.filter_filter, rowsFor]
  congr 1
  apply List.filter_congr
  intro p hp
  have hp₁ := h.keys p hp
  -- The key has to be among those asked for, and one with which nothing is compared as unknown.
  have hiff : (p.1.same v = true ∧ db.member p.1 ids = .holds) ↔ db.Joins p.1 v := by
    rw [Value.same_iff_eq hp₁ hv, joins_iff h.compares hp₁ hv, member_eq_holds]
    constructor
    · rintro ⟨rfl, k, hk, hjoins⟩
      obtain ⟨rfl, hne⟩ := (joins_iff h.compares hp₁ (hids k hk)).mp hjoins
      exact ⟨rfl, hne⟩
    · rintro ⟨rfl, hne⟩
      exact ⟨rfl, p.1, hmem hne, (joins_iff h.compares hp₁ hp₁).mpr ⟨rfl, hne⟩⟩
  rw [Bool.eq_iff_iff, asked, Bool.and_eq_true, Bool.and_eq_true, Bool.and_eq_true, decide_eq_true_eq, decide_eq_true_eq,
    decide_eq_true_eq, ← and_assoc, hiff]
  exact Iff.rfl

/-! The order of a table. -/

def place (rows : List Row) (t : Row) : Nat := rows.findIdx fun u => (u "id").same (t "id")

/-- A row stands at its own place, since no two rows have the same id. -/
theorem Referable.place_eq (h : db.Referable target link) {i : Nat} (hi : i < (db.rows target).length) :
    place (db.rows target) (db.rows target)[i] = i := by
  rw [place, List.findIdx_eq hi]
  constructor
  · obtain ⟨n, hn⟩ := h.ids _ (List.getElem_mem hi)
    rw [hn]
    exact Value.same_ints.mpr rfl
  · intro j hj
    have hne := List.pairwise_iff_getElem.mp h.unique j i (by omega) hi hj
    obtain ⟨m, hm⟩ := h.ids _ (List.getElem_mem (show j < (db.rows target).length by omega))
    obtain ⟨n, hn⟩ := h.ids _ (List.getElem_mem hi)
    rw [hm, hn] at hne
    rw [hm, hn, Bool.eq_false_iff]
    intro hsame
    exact hne (congrArg Value.int (Value.same_ints.mp hsame))

theorem Referable.place_injective (h : db.Referable target link) {t u : Row} (ht : t ∈ db.rows target)
    (hu : u ∈ db.rows target) (he : place (db.rows target) t = place (db.rows target) u) : t = u := by
  obtain ⟨i, hi, rfl⟩ := List.getElem_of_mem ht
  obtain ⟨j, hj, rfl⟩ := List.getElem_of_mem hu
  rw [h.place_eq hi, h.place_eq hj] at he
  subst he
  rfl

/-- A row is known by its id. -/
theorem Referable.eq_of_same (h : db.Referable target link) {t u : Row} (ht : t ∈ db.rows target)
    (hu : u ∈ db.rows target) (hs : (t "id").same (u "id") = true) : t = u := by
  refine h.place_injective ht hu ?_
  have hsame : ∀ v : Row, (v "id").same (t "id") = (v "id").same (u "id") := by
    intro v
    rw [Value.same_comm, Value.same_congr hs, Value.same_comm]
  rw [place, place]
  simp only [hsame]

theorem Referable.rows_ordered (h : db.Referable target link) :
    (db.rows target).Pairwise fun t u => place (db.rows target) t ≤ place (db.rows target) u := by
  rw [List.pairwise_iff_getElem]
  intro i j hi hj hij
  rw [h.place_eq hi, h.place_eq hj]
  omega

/-- Through a table the links lead to the targets in the order of their rows. -/
theorem Referable.links_ordered (h : db.Referable target link) :
    ((db.links target link).map (·.2)).Pairwise fun t u => place (db.rows target) t ≤ place (db.rows target) u := by
  cases link with
  | manyToOne key | oneToOne key | oneToMany key | oneToOneInverse key =>
    rw [links, List.map_map]
    exact (List.map_id _).symm ▸ h.rows_ordered
  | manyToMany table sourceKey targetKey =>
    rw [links, List.map_flatMap, List.pairwise_flatMap]
    have hrow : ∀ t u : Row, u ∈ (((db.rows table).filter fun j => db.compare .eq (j targetKey) (t "id") = .holds).map
        fun j => (j sourceKey, t)).map (·.2) → u = t := by
      intro t u hu
      obtain ⟨p, hp, rfl⟩ := List.mem_map.mp hu
      obtain ⟨j, _, rfl⟩ := List.mem_map.mp hp
      rfl
    constructor
    · intro t _
      apply List.pairwise_of_forall_mem_list
      intro u hu v hv
      exact Nat.le_of_eq (congrArg _ ((hrow t u hu).trans (hrow t v hv).symm))
    · refine h.rows_ordered.imp ?_
      intro t u hle x hx y hy
      rwa [hrow t x hx, hrow u y hy]

/-- Rows in the order of their table that are the same but for those that stand together have the same parts. -/
theorem Referable.filter_eq_of_perm (h : db.Referable target link) {found given : List (Value × Row)}
    (hperm : given.Perm found) (horder : given.map (·.2) = found.map (·.2))
    (hfound : found.Sublist (db.links target link)) (p : Value × Row → Bool) :
    (given.filter p).map (·.2) = (found.filter p).map (·.2) := by
  have hsorted : (found.map (·.2)).Pairwise fun t u => place (db.rows target) t ≤ place (db.rows target) u :=
    h.links_ordered.sublist (hfound.map _)
  have hmem : ∀ t ∈ found.map (·.2), t ∈ db.rows target := by
    intro t ht
    obtain ⟨q, hq, rfl⟩ := List.mem_map.mp ht
    exact mem_rows_of_links (hfound.subset hq)
  have hgiven : ((given.filter p).map (·.2)).Sublist (found.map (·.2)) := by
    rw [← horder]
    exact List.filter_sublist.map _
  have hpart : ((found.filter p).map (·.2)).Sublist (found.map (·.2)) := List.filter_sublist.map _
  refine List.Perm.eq_of_pairwise ?_ (hsorted.sublist hgiven) (hsorted.sublist hpart) ((hperm.filter p).map _)
  intro t u ht hu htu hut
  exact h.place_injective (hmem t (hgiven.subset ht)) (hmem u (hpart.subset hu)) (Nat.le_antisymm htu hut)

/-! What the statements find. -/

/-- To filter and to project commute with a renaming that keeps what both look at. -/
theorem map_filter_map {α β γ : Type} {xs : List α} {f : α → β} {g : α → γ} {k : β → γ} {p : β → Bool} {q : γ → Bool}
    (hg : ∀ x ∈ xs, k (f x) = g x) (hpq : ∀ x ∈ xs, p (f x) = q (g x)) :
    ((xs.map f).filter p).map k = (xs.map g).filter q := by
  induction xs with
  | nil => rfl
  | cons x xs ih =>
    have hrest := ih (fun y hy => hg y (List.mem_cons_of_mem _ hy)) fun y hy => hpq y (List.mem_cons_of_mem _ hy)
    rw [List.map_cons, List.map_cons, List.filter_cons, List.filter_cons, hpq x List.mem_cons_self]
    split
    · rw [List.map_cons, hg x List.mem_cons_self, hrest]
    · exact hrest

/-- Clauses for a filter with one for keys are true where the filter is and the key is asked for. -/
theorem Restricts.all_eq {clauses : List Clause} (hr : db.Restricts s target filter clauses) (row : Alias) (column : Name)
    (ids : List Value) (env : Env) : (clauses ++ [Loader.among row column ids]).all (db.clauseHolds env) =
      db.asked s target filter ids (env row.text column.text, env Loader.mainRow) := by
  rw [Bool.eq_iff_iff, List.all_append, Bool.and_eq_true, List.all_cons, List.all_nil, Bool.and_true,
    Loader.clauseHolds_among, asked, Bool.and_eq_true, decide_eq_true_eq, decide_eq_true_eq]
  constructor
  · rintro ⟨hclauses, hmember⟩
    exact ⟨hmember, (hr.meets env hclauses).truth⟩
  · rintro ⟨hmember, htruth⟩
    exact ⟨hr.holds env htruth, hmember⟩

/-- A statement without joins finds of its table the rows whose keys are asked for. -/
theorem found_plain {q : Select} {clauses : List Clause} {row : Alias} {column : Name} {ids : List Value}
    (hr : db.Restricts s target filter clauses) (htable : q.table.text = target) (hmain : q.row.text = Loader.mainRow)
    (hjoins : q.joins = []) (hclauses : q.clauses = clauses ++ [Loader.among row column ids])
    (hrow : row.text = Loader.mainRow) :
    (db.found q).map (fun env => (env Loader.mainRow column.text, env Loader.mainRow)) =
      ((db.rows target).map fun t => (t column.text, t)).filter (db.asked s target filter ids) := by
  rw [found, hjoins, htable, List.foldl_nil]
  refine map_filter_map ?_ ?_
  · intro t _
    rw [Loader.bind_eq_rowEnv hmain, Loader.rowEnv_main]
  · intro t _
    rw [hclauses, hr.all_eq, Loader.bind_eq_rowEnv hmain, hrow, Loader.rowEnv_main]

/-- The rows that a statement without joins finds stand in the order of their table, each once. -/
theorem sublist_of_found_plain {q : Select} {column : Name} {p : Value × Row → Bool}
    (h : (db.found q).map (fun env => (env Loader.mainRow column.text, env Loader.mainRow)) =
      ((db.rows target).map fun t => (t column.text, t)).filter p) :
    ((db.found q).map (· Loader.mainRow)).Sublist (db.rows target) := by
  have hfound : ((db.found q).map fun env => (env Loader.mainRow column.text, env Loader.mainRow)).map (·.2) =
      (db.found q).map (· Loader.mainRow) := List.map_map
  have hrows : ((db.rows target).map fun t => (t column.text, t)).map (·.2) = db.rows target := by
    rw [List.map_map]
    exact List.map_id _
  rw [← hfound, h]
  nth_rewrite 2 [← hrows]
  exact List.filter_sublist.map _

/-- A statement with one join finds the rows of its table that are linked to keys which are asked for. -/
theorem found_joined {q : Select} {clauses : List Clause} {main : Alias} {table source column : Name} {ids : List Value}
    (hr : db.Restricts s target filter clauses) (htable : q.table.text = target) (hrow : q.row.text = Loader.mainRow)
    (hmain : main.text = Loader.mainRow) (hjoins : q.joins = [.keyed table Loader.joinRow column main .id])
    (hclauses : q.clauses = clauses ++ [Loader.among Loader.joinRow source ids]) :
    (db.found q).map (fun env => (env Loader.joinRow.text source.text, env Loader.mainRow)) =
      (db.links target (.manyToMany table.text source.text column.text)).filter (db.asked s target filter ids) := by
  -- Both sides come from the pairs of a row of the table and a row that is joined with it.
  let pairs : List (Row × Row) := (db.rows target).flatMap fun t =>
    ((db.rows table.text).filter fun j => db.compare .eq (j column.text) (t "id") = .holds).map fun j => (t, j)
  have hfound : db.found q = (pairs.map fun p => (Loader.rowEnv p.1).bind Loader.joinRow p.2).filter
      fun env => q.clauses.all (db.clauseHolds env) := by
    rw [found, hjoins, htable, List.foldl_cons, List.foldl_nil, joined, List.flatMap_map, List.map_flatMap]
    congr 2
    funext t
    rw [Loader.bind_eq_rowEnv hrow, List.filter_map, List.map_map]
    congr 2
    funext j
    rw [Function.comp, Env.bind_self, hmain, Loader.rowEnv_joined_main]
    rfl
  have hlinks : db.links target (.manyToMany table.text source.text column.text) =
      pairs.map fun p => (p.2 source.text, p.1) := by
    rw [links, List.map_flatMap]
    congr 1
    funext t
    rw [List.map_map]
    rfl
  rw [hfound, hlinks]
  refine map_filter_map ?_ ?_
  · intro p _
    rw [Env.bind_self, Loader.rowEnv_joined_main]
  · intro p _
    rw [hclauses, hr.all_eq, Env.bind_self, Loader.rowEnv_joined_main]

end Contents

end EntityViews
