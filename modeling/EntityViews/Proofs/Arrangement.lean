import EntityViews.Proofs.Effects
import EntityViews.Proofs.Trail

/-!
The paths of relations in the order in which they are loaded, by their trails. A trail is clear if all trails on the way to
its end are asked for too. As they go by their depth, one that is next is clear just if the trail above it has been loaded.
-/

namespace EntityViews

namespace Trail

def ofPath (path : String) : Trail := (Text.segments path).reverse

/-- A path without empty segments is put together from keys without dots. -/
theorem exists_path {path : String} (h : ∀ segment ∈ Text.segments path, segment ≠ "") :
    ∃ t : Trail, t.Proper ∧ t ≠ [] ∧ t.path = path := by
  induction hlength : path.toList.length using Nat.strongRecOn generalizing path with
  | ind length ih =>
    by_cases hdot : '.' ∈ path.toList
    · -- The last key is what follows the last dot.
      obtain ⟨after, before, hsplit, hafter⟩ := List.eq_append_cons_of_mem (List.mem_reverse.mpr hdot)
      have hpath : path = String.ofList before.reverse ++ "." ++ String.ofList after.reverse := by
        apply String.toList_inj.mp
        rw [← List.reverse_reverse path.toList, hsplit]
        simp [String.toList_append]
      have hlast : '.' ∉ (String.ofList after.reverse).toList := by simpa using hafter
      have hsegments := Text.segments_dotted (String.ofList before.reverse) hlast
      rw [← hpath] at hsegments
      rw [hsegments] at h
      have hshorter : (String.ofList before.reverse).toList.length < length := by
        have hl := congrArg List.length hsplit
        simp only [List.length_reverse, List.length_append, List.length_cons] at hl
        simp only [String.toList_ofList, List.length_reverse]
        omega
      obtain ⟨above, hproper, hne, habove⟩ := ih _ hshorter
        (fun segment hs => h segment (List.mem_append_left _ hs)) rfl
      refine ⟨String.ofList after.reverse :: above, ?_, List.cons_ne_nil _ _, ?_⟩
      · intro key hkey
        rcases List.mem_cons.mp hkey with rfl | hkey
        · exact ⟨h _ (List.mem_append_right _ (List.mem_singleton_self _)), hlast⟩
        · exact hproper key hkey
      · rw [path_cons hproper hne, habove, ← hpath]
    · rw [Text.segments_of_notMem hdot] at h
      refine ⟨[path], ?_, List.cons_ne_nil _ _, path_singleton path⟩
      intro key hkey
      rw [List.mem_singleton.mp hkey]
      exact ⟨h path (List.mem_singleton_self path), hdot⟩

theorem ofPath_spec {path : String} (h : ∀ segment ∈ Text.segments path, segment ≠ "") :
    (ofPath path).path = path ∧ (ofPath path).Proper ∧ ofPath path ≠ [] := by
  obtain ⟨t, hproper, hne, rfl⟩ := exists_path h
  rw [ofPath, segments_path hproper hne, List.reverse_reverse]
  exact ⟨rfl, hproper, hne⟩

def Clear (all : List Trail) (t : Trail) : Prop := ∀ u, u <:+ t → u ≠ [] → u ∈ all

variable {all others : List Trail} {t : Trail} {name : String}

theorem clear_nil (all : List Trail) : Clear all [] := fun _ hu hne => absurd (List.suffix_nil.mp hu) hne

/-- A trail is clear if it is listed and the trail above it is. -/
theorem clear_cons : Clear all (name :: t) ↔ name :: t ∈ all ∧ Clear all t := by
  constructor
  · intro h
    exact ⟨h _ List.suffix_rfl (List.cons_ne_nil _ _), fun u hu => h u (hu.trans (List.suffix_cons name t))⟩
  · rintro ⟨hmem, h⟩ u hu hne
    rcases List.suffix_cons_iff.mp hu with rfl | hu
    · exact hmem
    · exact h u hu hne

theorem clear_congr (h : ∀ u, u ∈ all ↔ u ∈ others) (t : Trail) : Clear all t ↔ Clear others t := by
  simp only [Clear, h]

/-- Whether the rest of some trails are still to come, in the order of their depth, when those that are done are clear and all
others that are clear are among the rest. -/
structure Pending (all done rest : List Trail) : Prop where
  member : ∀ t ∈ rest, t ∈ all
  sorted : rest.Pairwise fun t u => t.length ≤ u.length
  nodup : rest.Nodup
  fresh : ∀ t ∈ rest, t ∉ done
  cleared : ∀ t ∈ done, Clear all t
  covered : ∀ t, Clear all t → t ∈ done ∨ t ∈ rest

namespace Pending

variable {done rest : List Trail} {above : Trail}

/-- The next trail is clear just if the one above it is done. -/
theorem clear_iff (h : Pending all done ((name :: above) :: rest)) : Clear all (name :: above) ↔ above ∈ done := by
  rw [clear_cons]
  constructor
  · rintro ⟨_, habove⟩
    refine (h.covered above habove).resolve_right fun hrest => ?_
    rcases List.mem_cons.mp hrest with he | hrest
    · exact List.cons_ne_self _ _ he.symm
    · -- The trail above is shorter, so that it does not come later.
      have hle := (List.pairwise_cons.mp h.sorted).1 above hrest
      exact absurd hle (Nat.not_succ_le_self _)
  · exact fun habove => ⟨h.member _ List.mem_cons_self, h.cleared above habove⟩

/-- A trail below one that is done is clear, and what is pending after it is the rest. -/
theorem load (h : Pending all done ((name :: above) :: rest)) (habove : above ∈ done) :
    Pending all ((name :: above) :: done) rest := by
  obtain ⟨hnot, hnodup⟩ := List.nodup_cons.mp h.nodup
  refine ⟨fun t ht => h.member t (List.mem_cons_of_mem _ ht), (List.pairwise_cons.mp h.sorted).2, hnodup, ?_, ?_, ?_⟩
  · intro t ht hdone
    rcases List.mem_cons.mp hdone with rfl | hdone
    · exact hnot ht
    · exact h.fresh t (List.mem_cons_of_mem _ ht) hdone
  · intro t ht
    rcases List.mem_cons.mp ht with rfl | ht
    · exact h.clear_iff.mpr habove
    · exact h.cleared t ht
  · intro t ht
    rcases h.covered t ht with hdone | hrest
    · exact .inl (List.mem_cons_of_mem _ hdone)
    · rcases List.mem_cons.mp hrest with rfl | hrest
      · exact .inl List.mem_cons_self
      · exact .inr hrest

/-- A trail below one that is not done is not clear, so it is passed over. -/
theorem skip (h : Pending all done ((name :: above) :: rest)) (habove : above ∉ done) : Pending all done rest := by
  refine ⟨fun t ht => h.member t (List.mem_cons_of_mem _ ht), (List.pairwise_cons.mp h.sorted).2,
    (List.nodup_cons.mp h.nodup).2, fun t ht => h.fresh t (List.mem_cons_of_mem _ ht), h.cleared, ?_⟩
  intro t ht
  refine (h.covered t ht).imp_right fun hrest => ?_
  rcases List.mem_cons.mp hrest with rfl | hrest
  · exact absurd (h.clear_iff.mp ht) habove
  · exact hrest

end Pending

end Trail

namespace Repository

def trails (paths : List String) : List Trail := (parentsFirst paths).map Trail.ofPath

variable {paths others : List String}

theorem mem_trails {t : Trail} : t ∈ trails paths ↔ ∃ path ∈ paths, Trail.ofPath path = t := by
  simp only [trails, List.mem_map, mem_parentsFirst]

theorem mem_trails_congr (h : ∀ path, path ∈ paths ↔ path ∈ others) (t : Trail) : t ∈ trails paths ↔ t ∈ trails others := by
  simp only [mem_trails, h]

variable (hpaths : ∀ path ∈ paths, ∀ segment ∈ Text.segments path, segment ≠ "")
include hpaths

theorem proper_of_mem_trails {t : Trail} (h : t ∈ trails paths) : t.Proper ∧ t ≠ [] := by
  obtain ⟨path, hpath, rfl⟩ := mem_trails.mp h
  exact (Trail.ofPath_spec (hpaths path hpath)).2

theorem map_path_trails : (trails paths).map Trail.path = parentsFirst paths := by
  rw [trails, List.map_map]
  refine (List.map_congr_left fun path hpath => ?_).trans (List.map_id _)
  exact (Trail.ofPath_spec (hpaths path (mem_parentsFirst.mp hpath))).1

/-- Trails are taken in the order of their depth. -/
theorem sorted_trails : (trails paths).Pairwise fun t u => t.length ≤ u.length := by
  have hsorted : (parentsFirst paths).Pairwise fun a b => decide (Text.count '.' a ≤ Text.count '.' b) = true := by
    apply List.pairwise_mergeSort
    · intro a b c hab hbc
      rw [decide_eq_true_eq] at hab hbc ⊢
      exact Nat.le_trans hab hbc
    · intro a b
      rw [Bool.or_eq_true, decide_eq_true_eq, decide_eq_true_eq]
      exact Nat.le_total _ _
  rw [← map_path_trails hpaths, List.pairwise_map] at hsorted
  refine hsorted.imp_of_mem ?_
  intro t u ht hu hle
  obtain ⟨hpt, hnt⟩ := proper_of_mem_trails hpaths ht
  obtain ⟨hpu, hnu⟩ := proper_of_mem_trails hpaths hu
  obtain ⟨k, t, rfl⟩ := List.exists_cons_of_ne_nil hnt
  obtain ⟨l, u, rfl⟩ := List.exists_cons_of_ne_nil hnu
  rw [decide_eq_true_eq, Trail.count_path hpt, Trail.count_path hpu] at hle
  simpa using hle

/-- Before any relation is loaded those at all paths are still to come. -/
theorem pending_trails : Trail.Pending (trails paths) [[]] (trails paths) := by
  have hnodup : ((trails paths).map Trail.path).Nodup := by
    rw [map_path_trails hpaths]
    exact (List.mergeSort_perm _ _).nodup_iff.mpr (nodup_distinct paths)
  refine ⟨fun _ h => h, sorted_trails hpaths, 
    List.Pairwise.of_map Trail.path (fun _ _ hne he => hne (congrArg _ he)) hnodup, ?_, ?_, ?_⟩
  · intro t ht hnil
    exact (proper_of_mem_trails hpaths ht).2 (List.mem_singleton.mp hnil)
  · intro t ht
    rw [List.mem_singleton.mp ht]
    exact Trail.clear_nil _
  · intro t ht
    cases t with
    | nil => exact .inl (List.mem_singleton_self _)
    | cons name t => exact .inr (Trail.clear_cons.mp ht).1

end Repository

end EntityViews
