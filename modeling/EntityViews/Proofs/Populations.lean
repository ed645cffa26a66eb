import Mathlib
import EntityViews.Learning.Sources
import EntityViews.Proofs.Keyed
import EntityViews.Proofs.Traversal

/-!
How often a plan populates a path. Every visit of a path is loaded with the root or with a filtered relation; a path is
populated once for each of these that some visit of it is loaded with.
-/

namespace EntityViews

/-- How often a plan populates a path, over all its instructions. -/
def Plan.populations (p : Plan) (path : String) : Nat :=
  p.populate.count path + (p.filtered.map fun l => l.populate.count path).sum

namespace Stop

def visit? : Stop → Option (String × Address)
  -- A filtered relation is loaded at its own address.
  | asked _ _ => none
  | relation under here leg => some (leg.path, leg.cover under here)

def here? : Stop → Option Address
  | asked _ _ => none
  | relation _ here _ => some here

def filtered : Stop → Bool
  | asked _ _ => false
  | relation _ _ leg => leg.filter.isSome

def visits (stops : List Stop) : List (String × Address) := stops.filterMap visit?

theorem mem_pathsAt {stops : List Stop} {path : String} {a : Address} :
    path ∈ pathsAt a stops ↔ ∃ here leg, .relation a here leg ∈ stops ∧ leg.path = path ∧ leg.filter = none := by
  rw [pathsAt, List.mem_filterMap]
  constructor
  · rintro ⟨s, hs, h⟩
    cases s with
    | asked => cases h
    | relation under here leg =>
      rw [path?, Option.ite_none_right_eq_some] at h
      obtain ⟨⟨rfl, hf⟩, hp⟩ := h
      exact ⟨here, leg, hs, Option.some.inj hp, hf⟩
  · rintro ⟨here, leg, hs, rfl, hf⟩
    exact ⟨_, hs, if_pos ⟨rfl, hf⟩⟩

theorem heres_relation (under here : Address) (leg : Leg) (rest : List Stop) :
    (.relation under here leg :: rest).filterMap here? = here :: rest.filterMap here? := rfl

/-- A relation is loaded at an address with the one above it, or it is the filtered relation there. -/
theorem mem_visits {stops : List Stop} {path : String} {a : Address} : (path, a) ∈ visits stops ↔
    path ∈ pathsAt a stops ∨
      ∃ under leg, .relation under a leg ∈ stops ∧ leg.filter.isSome = true ∧ leg.path = path := by
  rw [visits, List.mem_filterMap, mem_pathsAt]
  constructor
  · rintro ⟨s, hs, h⟩
    cases s with
    | asked => cases h
    | relation under here leg =>
      rw [visit?, Option.some.injEq, Prod.mk.injEq, Leg.cover] at h
      obtain ⟨hp, ha⟩ := h
      cases hf : leg.filter with
      | none =>
        rw [hf] at ha
        exact Or.inl ⟨here, leg, ha ▸ hs, hp, hf⟩
      | some f =>
        rw [hf] at ha
        exact Or.inr ⟨under, leg, ha ▸ hs, hf ▸ rfl, hp⟩
  · rintro (⟨here, leg, hs, hp, hf⟩ | ⟨under, leg, hs, hf, hp⟩)
    · exact ⟨_, hs, by simp [visit?, Leg.cover, hp, hf]⟩
    · exact ⟨_, hs, by simp [visit?, Leg.cover, hp, hf]⟩

/-- Whether relations have addresses of their own, and every stop is under the root or under a filtered relation. -/
structure Addressed (stops : List Stop) : Prop where
  nodup : (stops.filterMap here?).Nodup
  ne_root : ∀ under here leg, .relation under here leg ∈ stops → here ≠ []
  covered : ∀ s ∈ stops, s.under = [] ∨ ∃ under leg, .relation under s.under leg ∈ stops ∧ leg.filter.isSome

def heads (stops : List Stop) : List Address := [] :: (stops.filter filtered).filterMap here?

namespace Addressed

variable {stops : List Stop}

/-- At one place of a traversal there is one relation. -/
theorem relation_unique (h : Addressed stops) {under under' here : Address} {leg leg' : Leg}
    (hs : .relation under here leg ∈ stops) (hs' : .relation under' here leg' ∈ stops) : leg = leg' := by
  have hsymm : Std.Symm fun s t : Stop => ∀ a, s.here? = some a → ∀ b, t.here? = some b → a ≠ b :=
    ⟨fun s t hst a ha b hb he => hst b hb a ha he.symm⟩
  have hpairs := List.pairwise_filterMap.mp h.nodup
  by_contra hne
  have hstops : Stop.relation under here leg ≠ .relation under' here leg' := by
    intro he
    cases he
    exact hne rfl
  exact hpairs.forall hs hs' hstops here rfl here rfl rfl

/-- No place heads two loads. -/
theorem nodup_heads (h : Addressed stops) : (heads stops).Nodup := by
  rw [heads, List.nodup_cons]
  constructor
  · intro hm
    obtain ⟨s, hs, hhere⟩ := List.mem_filterMap.mp hm
    cases s with
    | asked => cases hhere
    | relation under here leg =>
      cases hhere
      exact h.ne_root _ _ _ (List.mem_filter.mp hs).1 rfl
  · exact (List.filter_sublist.filterMap here?).nodup h.nodup

/-- Loads are headed by the root and by each filtered relation. -/
theorem mem_heads {a : Address} : a ∈ heads stops ↔
    a = [] ∨ ∃ under leg, .relation under a leg ∈ stops ∧ leg.filter.isSome = true := by
  rw [heads, List.mem_cons, List.mem_filterMap]
  apply or_congr_right
  constructor
  · rintro ⟨s, hs, ha⟩
    obtain ⟨hs, hf⟩ := List.mem_filter.mp hs
    cases s with
    | asked => cases ha
    | relation under here leg =>
      cases ha
      exact ⟨under, leg, hs, hf⟩
  · rintro ⟨under, leg, hs, hf⟩
    exact ⟨_, List.mem_filter.mpr ⟨hs, hf⟩, rfl⟩

theorem mem_heads_of_visit (h : Addressed stops) {path : String} {a : Address} (hv : (path, a) ∈ visits stops) :
    a ∈ heads stops := by
  rw [mem_heads]
  rcases mem_visits.mp hv with hp | ⟨under, leg, hs, hf, _⟩
  · obtain ⟨here, leg, hs, _⟩ := mem_pathsAt.mp hp
    exact h.covered _ hs
  · exact Or.inr ⟨under, leg, hs, hf⟩

theorem mem_root_iff (h : Addressed stops) (path : String) : path ∈ pathsAt [] stops ↔ (path, []) ∈ visits stops := by
  rw [mem_visits, iff_self_or]
  rintro ⟨under, leg, hs, _⟩
  exact absurd rfl (h.ne_root _ _ _ hs)

/-- The load of a filtered relation has the paths that are loaded at its address. -/
theorem mem_load_iff (h : Addressed stops) {under here : Address} {leg : Leg} {l : FilteredPopulate}
    (hs : .relation under here leg ∈ stops) (hl : Plan.loadAt? stops (.relation under here leg) = some l)
    (path : String) : path ∈ l.populate ↔ (path, here) ∈ visits stops := by
  obtain ⟨f, hf, rfl⟩ := Option.map_eq_some_iff.mp hl
  rw [List.mem_eraseDups, List.mem_cons, mem_visits, or_comm]
  apply or_congr_right
  constructor
  · rintro rfl
    exact ⟨under, leg, hs, hf ▸ rfl, rfl⟩
  · rintro ⟨under', leg', hs', _, rfl⟩
    rw [h.relation_unique hs hs']

/-- The loads of filtered relations populate a path once for each of these at whose address it is loaded. -/
theorem sum_loads (h : Addressed stops) (path : String) (some' : List Stop) (hsub : ∀ s ∈ some', s ∈ stops) :
    ((some'.filterMap (Plan.loadAt? stops)).map fun l => l.populate.count path).sum =
      ((some'.filter filtered).filterMap here?).countP fun a => (path, a) ∈ visits stops := by
  induction some' with
  | nil => rfl
  | cons s rest ih =>
    have hrest := ih fun s hs => hsub s (List.mem_cons_of_mem _ hs)
    cases s with
    | asked => exact hrest
    | relation under here leg =>
      cases hf : leg.filter with
      | none => simpa [Plan.loadAt?, filtered, hf] using hrest
      | some f =>
        have hs := hsub _ List.mem_cons_self
        obtain ⟨l, hl⟩ : ∃ l, Plan.loadAt? stops (.relation under here leg) = some l := by
          rw [Plan.loadAt?, hf]
          exact ⟨_, rfl⟩
        -- A load has a path once at most, and only if it is visited at the address of the load.
        have hcount : l.populate.count path = if (path, here) ∈ visits stops then 1 else 0 := by
          have hmem := h.mem_load_iff hs hl path
          obtain ⟨f, _, rfl⟩ := Option.map_eq_some_iff.mp hl
          rw [List.mem_eraseDups] at hmem
          simp only [count_eraseDups, hmem]
        have hhead : (List.filter filtered (.relation under here leg :: rest)).filterMap here? =
            here :: (rest.filter filtered).filterMap here? := by
          simp [filtered, hf, here?]
        rw [List.filterMap_cons_some hl, List.map_cons, List.sum_cons, hrest, hcount, hhead, List.countP_cons, Nat.add_comm]
        simp

/-- A path is populated once for each of the addresses at which visits of it are loaded. -/
theorem populations_ofStops (h : Addressed stops) (path : String) :
    (Plan.ofStops stops).populations path = (heads stops).countP fun a => (path, a) ∈ visits stops := by
  have hroot := h.mem_root_iff path
  rw [Plan.populations, Plan.ofStops, count_eraseDups, h.sum_loads path stops fun _ hs => hs, heads, List.countP_cons,
    Nat.add_comm]
  simp [hroot]

/-- A path is populated once if the traversal visits it under one load. -/
theorem populations_eq_one_iff (h : Addressed stops) (path : String) :
    (Plan.ofStops stops).populations path = 1 ↔ ∃! a, (path, a) ∈ visits stops := by
  have hnodup := h.nodup_heads.filter fun a => decide ((path, a) ∈ visits stops)
  have hmem (a : Address) :
      a ∈ ((heads stops).filter fun a => decide ((path, a) ∈ visits stops)).toFinset ↔ (path, a) ∈ visits stops := by
    rw [List.mem_toFinset, List.mem_filter, decide_eq_true_eq]
    constructor
    · exact fun ha => ha.2
    · exact fun ha => ⟨h.mem_heads_of_visit ha, ha⟩
  rw [h.populations_ofStops, List.countP_eq_length_filter, ← List.toFinset_card_of_nodup hnodup,
    Finset.card_eq_one_iff_existsUnique]
  simp only [hmem]

/-- A path is never populated if the traversal never visits it. -/
theorem populations_eq_zero_iff (h : Addressed stops) (path : String) :
    (Plan.ofStops stops).populations path = 0 ↔ ∀ a, (path, a) ∉ visits stops := by
  rw [h.populations_ofStops, List.countP_eq_zero]
  constructor
  · intro hall a ha
    exact hall a (h.mem_heads_of_visit ha) (decide_eq_true ha)
  · intro hall a _ ha
    exact hall a (of_decide_eq_true ha)

end Addressed

end Stop

namespace Tour

mutual

/-- The relations of a tour have addresses below that of the tour. -/
theorem here_of_mem_stops (under here : Address) {u a : Address} {leg : Leg} : (t : Tour) →
    .relation u a leg ∈ t.stops under here → ∃ i, here ++ [i] <+: a
  | mk asked legs => by
    intro h
    rw [stops, List.mem_append] at h
    rcases h with h | h
    · obtain ⟨_, _, he⟩ := List.mem_map.mp h
      cases he
    · obtain ⟨i, _, hi⟩ := here_of_mem_legStops under here 0 legs h
      exact ⟨i, hi⟩

theorem here_of_mem_legStops (under here : Address) {u a : Address} {leg : Leg} (i : Nat) :
    (legs : List (Leg × Tour)) → .relation u a leg ∈ legStops under here i legs → ∃ j, i ≤ j ∧ here ++ [j] <+: a
  | [] => nofun
  | (first, tour) :: rest => by
    intro h
    rw [legStops, List.mem_cons, List.mem_append] at h
    rcases h with he | h | h
    · cases he
      exact ⟨i, Nat.le_refl i, List.prefix_rfl⟩
    · obtain ⟨k, hk⟩ := here_of_mem_stops _ _ tour h
      exact ⟨i, Nat.le_refl i, (List.prefix_append _ _).trans hk⟩
    · obtain ⟨j, hj, hp⟩ := here_of_mem_legStops under here (i + 1) rest h
      exact ⟨j, by omega, hp⟩

end

theorem mem_here {stops : List Stop} {a : Address} (h : a ∈ stops.filterMap Stop.here?) :
    ∃ under leg, .relation under a leg ∈ stops := by
  obtain ⟨s, hs, ha⟩ := List.mem_filterMap.mp h
  cases s with
  | asked => cases ha
  | relation under here leg =>
    cases ha
    exact ⟨under, leg, hs⟩

mutual

/-- A traversal has its places in different positions. -/
theorem nodup_here_stops (under here : Address) : (t : Tour) → ((t.stops under here).filterMap Stop.here?).Nodup
  | mk asked legs => by
    have hnone : (asked.map (Stop.asked under)).filterMap Stop.here? = [] := by
      rw [Stop.filterMap_asked]
      exact List.filterMap_eq_nil_iff.mpr fun _ _ => rfl
    rw [stops, List.filterMap_append, hnone, List.nil_append]
    exact nodup_here_legStops under here 0 legs

theorem nodup_here_legStops (under here : Address) (i : Nat) : (legs : List (Leg × Tour)) →
    ((legStops under here i legs).filterMap Stop.here?).Nodup
  | [] => List.nodup_nil
  | (leg, tour) :: rest => by
    rw [legStops, Stop.heres_relation, List.filterMap_append, List.nodup_cons, List.mem_append, List.nodup_append]
    -- Below this relation addresses go on from its own, beside it from a later index.
    have hbelow {a : Address} (h : a ∈ (tour.stops (leg.cover under (here ++ [i])) (here ++ [i])).filterMap Stop.here?) :
        ∃ k, here ++ [i] ++ [k] <+: a := by
      obtain ⟨u, l, hs⟩ := mem_here h
      exact here_of_mem_stops _ _ tour hs
    have hbeside {a : Address} (h : a ∈ (legStops under here (i + 1) rest).filterMap Stop.here?) :
        ¬here ++ [i] <+: a := by
      obtain ⟨u, l, hs⟩ := mem_here h
      obtain ⟨j, hj, hp⟩ := here_of_mem_legStops under here (i + 1) rest hs
      intro hi
      have := prefix_index hi hp
      omega
    refine ⟨?_, nodup_here_stops _ _ tour, nodup_here_legStops under here (i + 1) rest, ?_⟩
    · rintro (h | h)
      · obtain ⟨k, hk⟩ := hbelow h
        exact prefix_ne (Nat.le_refl _) hk rfl
      · exact hbeside h List.prefix_rfl
    · rintro a ha b hb rfl
      obtain ⟨k, hk⟩ := hbelow ha
      exact hbeside hb ((List.prefix_append _ _).trans hk)

end

mutual

/-- What a stop of a tour is under is what the tour is under, or a filtered relation of the tour. -/
theorem covered_stops (under here : Address) : (t : Tour) → ∀ s ∈ t.stops under here, s.under = under ∨
    ∃ u leg, .relation u s.under leg ∈ t.stops under here ∧ leg.filter.isSome = true
  | mk asked legs => by
    intro s hs
    rw [stops, List.mem_append] at hs
    rcases hs with hs | hs
    · obtain ⟨what, _, rfl⟩ := List.mem_map.mp hs
      exact Or.inl rfl
    · rcases covered_legStops under here 0 legs s hs with h | ⟨u, leg, hr, hf⟩
      · exact Or.inl h
      · exact Or.inr ⟨u, leg, by rw [stops]; exact List.mem_append_right _ hr, hf⟩

/-- Every stop belongs to the load that was going on, or to a filtered relation passed on the way. -/
theorem covered_legStops (under here : Address) (i : Nat) : (legs : List (Leg × Tour)) →
    ∀ s ∈ legStops under here i legs, s.under = under ∨
      ∃ u leg, .relation u s.under leg ∈ legStops under here i legs ∧ leg.filter.isSome = true
  | [] => nofun
  | (leg, tour) :: rest => by
    intro s hs
    rw [legStops] at hs ⊢
    rcases List.mem_cons.mp hs with rfl | hs
    · exact Or.inl rfl
    rcases List.mem_append.mp hs with hs | hs
    · rcases covered_stops _ _ tour s hs with h | ⟨u, l, hr, hf⟩
      · rw [Leg.cover] at h
        by_cases hf : leg.filter.isSome = true
        · rw [if_pos hf] at h
          exact Or.inr ⟨under, leg, h ▸ List.mem_cons_self, hf⟩
        · rw [if_neg hf] at h
          exact Or.inl h
      · exact Or.inr ⟨u, l, List.mem_cons_of_mem _ (List.mem_append_left _ hr), hf⟩
    · rcases covered_legStops under here (i + 1) rest s hs with h | ⟨u, l, hr, hf⟩
      · exact Or.inl h
      · exact Or.inr ⟨u, l, List.mem_cons_of_mem _ (List.mem_append_right _ hr), hf⟩

end

theorem addressed_stops (t : Tour) : Stop.Addressed (t.stops [] []) := by
  refine ⟨nodup_here_stops [] [] t, ?_, covered_stops [] [] t⟩
  rintro under here leg hs rfl
  obtain ⟨i, hi⟩ := here_of_mem_stops [] [] t hs
  cases List.prefix_nil.mp hi

/-- The relations that a tour visits, by their paths and the addresses at which they are loaded. -/
def visits (t : Tour) : List (String × Address) := Stop.visits (t.stops [] [])

end Tour

namespace Plan

/-- A plan populates a path exactly once if and only if all visits of the path are loaded at one address; what it populates
are the paths that are visited. -/
theorem populated_once_iff {graph : Graph} {context : Context} {overrides : Value} {sources : EntityFields}
    {path : String} {view : View} {plan : Plan} (h : compile graph context overrides sources path view = .ok plan) :
    ∃ tour, Tour.of? graph context overrides sources path view.normal = some tour ∧ ∀ here,
      (plan.populations here = 1 ↔ ∃! a, (here, a) ∈ tour.visits) ∧
      (plan.populations here = 0 ↔ ∀ a, (here, a) ∉ tour.visits) := by
  have htour := Tour.toOption_compile graph context overrides sources path view
  rw [h] at htour
  obtain ⟨tour, hof, rfl⟩ := Option.map_eq_some_iff.mp htour.symm
  refine ⟨tour, hof, ?_⟩
  intro here
  rw [← Tour.ofStops_stops]
  have haddressed := tour.addressed_stops
  exact ⟨haddressed.populations_eq_one_iff here, haddressed.populations_eq_zero_iff here⟩

def textsTwoNames : EntityFields :=
  ⟨"Text", [Learning.one "collection" "Collection", ("parentCollection", (Learning.one "collection" "Collection").2)]⟩

def titlesTwice : View := .full [] [("collection", .names ["title"]), ("parentCollection", .names ["title"])]

/-- Without a filter both visits of the collection are loaded with the root, so that it is populated once. -/
theorem populated_once_titlesTwice :
    ∃ plan, compile Learning.registry.graph ⟨.anonymous, false, []⟩ .null textsTwoNames "" titlesTwice = .ok plan ∧
      plan.populations "collection" = 1 := by
  obtain ⟨plan, hplan⟩ : ∃ plan,
      compile Learning.registry.graph ⟨.anonymous, false, []⟩ .null textsTwoNames "" titlesTwice = .ok plan := ⟨_, rfl⟩
  obtain ⟨tour, hof, h⟩ := populated_once_iff hplan
  have hvisits : tour.visits = [("collection", []), ("collection", [])] := by
    cases hof
    rfl
  refine ⟨plan, hplan, (h "collection").1.mpr ⟨[], ?_, ?_⟩⟩
  · rw [hvisits]
    exact List.mem_cons_self
  · intro a ha
    rw [hvisits] at ha
    simpa using ha

/-- Under a filter each visit of the collection is a load of its own, and the path is populated twice. -/
theorem populated_twice_publicTitles :
    (∀ name r, textsTwoNames.source? name = some (.relation r) → r.populate = "collection") ∧
    ∃ plan, compile Learning.registry.graph ⟨.anonymous, false, []⟩
      (.map [(.text "collection", .map [(.text "isPublic", .bool true)])]) textsTwoNames "" titlesTwice = .ok plan ∧
      "collection" ∉ plan.populate ∧
      plan.filtered.map (·.populate) = [["collection"], ["collection"]] ∧ plan.populations "collection" = 2 := by
  constructor
  · intro name r hr
    obtain ⟨p, hp, hsource⟩ := Option.map_eq_some_iff.mp hr
    rcases List.mem_cons.mp (List.mem_of_find?_eq_some hp) with rfl | hp
    · cases hsource
      rfl
    · cases List.mem_singleton.mp hp
      cases hsource
      rfl
  · exact ⟨_, rfl, by decide, rfl, rfl⟩

end Plan

end EntityViews
