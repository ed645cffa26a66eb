import EntityViews.Proofs.Tour
import EntityViews.Proofs.Trail
import EntityViews.Storage.Repository

/-!
The loads of a plan in order. Main statements: the plan of a tour loads every relation of the tour exactly once, each
after the records that it is loaded onto, and a filtered relation under its own filter.
-/

namespace EntityViews

/-- A list of trails in which each comes after the trail above it; some trails are known beforehand. -/
def Ordered (known : List Trail) : List Trail → Prop
  | [] => True
  | t :: rest => t.tail ∈ known ∧ Ordered (t :: known) rest

/-- What is ordered after known trails is ordered after more of them. -/
theorem Ordered.mono {known known' : List Trail} {ts : List Trail} (h : Ordered known ts)
    (hk : ∀ t ∈ known, t ∈ known') : Ordered known' ts := by
  induction ts generalizing known known' with
  | nil => trivial
  | cons t rest ih =>
    refine ⟨hk _ h.1, ih h.2 ?_⟩
    intro u hu
    rcases List.mem_cons.mp hu with rfl | hu
    · exact List.mem_cons_self
    · exact List.mem_cons_of_mem _ (hk u hu)

/-- Two lists are ordered one after the other if the second may count on the first. -/
theorem Ordered.append {known ts us : List Trail} (ht : Ordered known ts) (hu : Ordered (ts ++ known) us) :
    Ordered known (ts ++ us) := by
  induction ts generalizing known with
  | nil => exact hu
  | cons t rest ih =>
    refine ⟨ht.1, ih ht.2 (hu.mono ?_)⟩
    intro v hv
    simp only [List.cons_append, List.mem_cons, List.mem_append] at hv ⊢
    rcases hv with h | h | h
    · exact Or.inr (Or.inl h)
    · exact Or.inl h
    · exact Or.inr (Or.inr h)

/-- Both parts of an ordered list are ordered, the second after the first. -/
theorem Ordered.split {known ts us : List Trail} (h : Ordered known (ts ++ us)) :
    Ordered known ts ∧ Ordered (ts ++ known) us := by
  induction ts generalizing known with
  | nil => exact ⟨trivial, h⟩
  | cons t rest ih =>
    obtain ⟨hrest, hus⟩ := ih h.2
    refine ⟨⟨h.1, hrest⟩, hus.mono ?_⟩
    intro v hv
    simp only [List.cons_append, List.mem_cons, List.mem_append] at hv ⊢
    rcases hv with hv | hv | hv
    · exact Or.inr (Or.inl hv)
    · exact Or.inl hv
    · exact Or.inr (Or.inr hv)

theorem Ordered.tail_mem {known before after : List Trail} {t : Trail} (h : Ordered known (before ++ t :: after)) :
    t.tail ∈ known ∨ t.tail ∈ before := (List.mem_append.mp h.split.2.1).symm

theorem Ordered.closed {known ts : List Trail} (h : Ordered known ts) {t : Trail} (ht : t ∈ ts) :
    t.tail ∈ known ∨ t.tail ∈ ts := by
  obtain ⟨before, after, rfl⟩ := List.append_of_mem ht
  exact h.tail_mem.imp_right fun hb => List.mem_append_left _ hb

/-- Sorting by length puts every trail after the one above it. -/
theorem Ordered.of_pairwise {known ts : List Trail} (hs : ts.Pairwise fun t u => t.length ≤ u.length)
    (hne : ∀ t ∈ ts, t ≠ []) (hc : ∀ t ∈ ts, t.tail ∈ known ∨ t.tail ∈ ts) : Ordered known ts := by
  induction ts generalizing known with
  | nil => trivial
  | cons t rest ih =>
    obtain ⟨hfirst, hrest⟩ := List.pairwise_cons.mp hs
    have hlt : t.tail.length < t.length := by
      have hpos := List.length_pos_iff.mpr (hne t List.mem_cons_self)
      rw [List.length_tail]
      omega
    -- The trail above the shortest one is shorter still, so it is none of those to come.
    have htail : t.tail ∈ known := by
      rcases hc t List.mem_cons_self with h | h
      · exact h
      rcases List.mem_cons.mp h with h | h
      · rw [h] at hlt
        omega
      · have := hfirst _ h
        omega
    refine ⟨htail, ih hrest (fun u hu => hne u (List.mem_cons_of_mem _ hu)) ?_⟩
    intro u hu
    rcases hc u (List.mem_cons_of_mem _ hu) with h | h
    · exact Or.inl (List.mem_cons_of_mem _ h)
    rcases List.mem_cons.mp h with h | h
    · exact Or.inl (h ▸ List.mem_cons_self)
    · exact Or.inr h

def byDepth (ts : List Trail) : List Trail := ts.mergeSort fun t u => decide (t.length ≤ u.length)

theorem byDepth_perm (ts : List Trail) : (byDepth ts).Perm ts := List.mergeSort_perm ..

theorem mem_byDepth {ts : List Trail} {t : Trail} : t ∈ byDepth ts ↔ t ∈ ts := (byDepth_perm ts).mem_iff

/-- Sorted by depth, trails come after the trails above them. -/
theorem ordered_byDepth {known ts : List Trail} (hne : ∀ t ∈ ts, t ≠ [])
    (hc : ∀ t ∈ ts, t.tail ∈ known ∨ t.tail ∈ ts) : Ordered known (byDepth ts) := by
  have hs : (byDepth ts).Pairwise fun t u => t.length ≤ u.length := by
    have h : (byDepth ts).Pairwise fun t u => decide (t.length ≤ u.length) = true := by
      apply List.pairwise_mergeSort
      · intro t u v htu huv
        rw [decide_eq_true_eq] at htu huv ⊢
        omega
      · intro t u
        rw [Bool.or_eq_true, decide_eq_true_eq, decide_eq_true_eq]
        omega
    exact h.imp fun hle => of_decide_eq_true hle
  refine .of_pairwise hs ?_ ?_
  · intro t ht
    exact hne t (mem_byDepth.mp ht)
  · intro t ht
    rw [mem_byDepth]
    exact hc t (mem_byDepth.mp ht)

/-- Portions that are in order stay so when each of them is sorted. -/
theorem Ordered.flatMap_byDepth {known : List Trail} {portions : List (List Trail)}
    (hne : ∀ ts ∈ portions, ∀ t ∈ ts, t ≠ []) (h : Ordered known portions.flatten) :
    Ordered known (portions.flatMap byDepth) := by
  induction portions generalizing known with
  | nil => trivial
  | cons ts rest ih =>
    obtain ⟨hfirst, hrest⟩ := Ordered.split h
    rw [List.flatMap_cons]
    apply Ordered.append
    · exact ordered_byDepth (hne ts List.mem_cons_self) fun t ht => hfirst.closed ht
    · refine ih (fun us hus => hne us (List.mem_cons_of_mem _ hus)) (hrest.mono ?_)
      intro t ht
      rwa [List.mem_append, mem_byDepth, ← List.mem_append]

namespace Tour

mutual

/-- Whether the relations of a tour that starts at a trail have the paths of their keys, and no key twice. -/
def Laid (t : Trail) : Tour → Prop
  | mk _ legs => LegsLaid t legs

def LegsLaid (t : Trail) : List (Leg × Tour) → Prop
  | [] => True
  | (leg, tour) :: rest =>
    leg.path = Trail.path (leg.source.populate :: t) ∧ Trail.Proper (leg.source.populate :: t) ∧
      tour.Laid (leg.source.populate :: t) ∧ (∀ l ∈ rest, l.1.source.populate ≠ leg.source.populate) ∧ LegsLaid t rest

end

mutual

def legsFrom (t : Trail) : Tour → List (Trail × Leg)
  | mk _ legs => legsOf t legs

def legsOf (t : Trail) : List (Leg × Tour) → List (Trail × Leg)
  | [] => []
  | (leg, tour) :: rest =>
    (leg.source.populate :: t, leg) :: (tour.legsFrom (leg.source.populate :: t) ++ legsOf t rest)

end

mutual

def near (t : Trail) : Tour → List Trail
  | mk _ legs => nearOf t legs

def nearOf (t : Trail) : List (Leg × Tour) → List Trail
  | [] => []
  | (leg, tour) :: rest =>
    match leg.filter with
    | some _ => nearOf t rest
    | none => (leg.source.populate :: t) :: (tour.near (leg.source.populate :: t) ++ nearOf t rest)

end

def loadsOf (t : Trail) (filter : Value) (below : List Trail) : List (Trail × Value) :=
  (byDepth (t :: below)).map fun u => (u, if u = t then filter else .null)

mutual

def far (t : Trail) : Tour → List (Trail × Value)
  | mk _ legs => farOf t legs

def farOf (t : Trail) : List (Leg × Tour) → List (Trail × Value)
  | [] => []
  | (leg, tour) :: rest =>
    match leg.filter with
    | some f =>
      let here := leg.source.populate :: t
      loadsOf here f (tour.near here) ++ (tour.far here ++ farOf t rest)
    | none => tour.far (leg.source.populate :: t) ++ farOf t rest

end

mutual

def stages (t : Trail) : Tour → List (List Trail)
  | mk _ legs => stagesOf t legs

def stagesOf (t : Trail) : List (Leg × Tour) → List (List Trail)
  | [] => []
  | (leg, tour) :: rest =>
    let here := leg.source.populate :: t
    match leg.filter with
    | some _ => (here :: tour.near here) :: (tour.stages here ++ stagesOf t rest)
    | none => tour.stages here ++ stagesOf t rest

end

/-- All loads of a tour that starts at a trail, with the filters under which they are done. -/
def loads (t : Trail) (tour : Tour) : List (Trail × Value) :=
  (byDepth (tour.near t)).map (fun u => (u, .null)) ++ tour.far t

theorem map_loadsOf (t : Trail) (filter : Value) (below : List Trail) :
    (loadsOf t filter below).map (·.1) = byDepth (t :: below) := by
  rw [loadsOf, List.map_map]
  exact List.map_id _

theorem map_loads (t : Trail) (tour : Tour) :
    (tour.loads t).map (·.1) = byDepth (tour.near t) ++ (tour.far t).map (·.1) := by
  rw [loads, List.map_append, List.map_map]
  exact congrArg (· ++ _) (List.map_id _)

mutual

theorem map_far (t : Trail) : (tour : Tour) → (tour.far t).map (·.1) = (tour.stages t).flatMap byDepth
  | mk _ legs => map_farOf t legs

/-- The trails that are loaded apart are those of the filtered loads, each load by depth. -/
theorem map_farOf (t : Trail) : (legs : List (Leg × Tour)) → (farOf t legs).map (·.1) = (stagesOf t legs).flatMap byDepth
  | [] => rfl
  | (leg, tour) :: rest => by
    have hnested := map_far (leg.source.populate :: t) tour
    have hrest := map_farOf t rest
    rw [farOf, stagesOf]
    cases leg.filter with
    | some f => simp only [List.map_append, map_loadsOf, List.flatMap_cons, List.flatMap_append, hnested, hrest]
    | none => simp only [List.map_append, List.flatMap_append, hnested, hrest]

end

mutual

theorem near_far_perm (t : Trail) : (tour : Tour) →
    (tour.near t ++ (tour.far t).map (·.1)).Perm ((tour.legsFrom t).map (·.1))
  | mk _ legs => near_far_permOf t legs

/-- Every leg is loaded once, with the roots or apart. -/
theorem near_far_permOf (t : Trail) : (legs : List (Leg × Tour)) →
    (nearOf t legs ++ (farOf t legs).map (·.1)).Perm ((legsOf t legs).map (·.1))
  | [] => .refl _
  | (leg, tour) :: rest => by
    have hnested := near_far_perm (leg.source.populate :: t) tour
    have hrest := near_far_permOf t rest
    -- Both sides list the same trails in different orders; each is counted as often on one as on the other.
    rw [List.perm_iff_count] at hnested hrest ⊢
    intro u
    have hn := hnested u
    have hr := hrest u
    rw [List.count_append] at hn hr
    cases hf : leg.filter with
    | some f =>
      simp only [nearOf, farOf, legsOf, hf, List.map_append, List.map_cons, map_loadsOf, List.count_append,
        (byDepth_perm _).count_eq, List.count_cons]
      omega
    | none =>
      simp only [nearOf, farOf, legsOf, hf, List.map_append, List.map_cons, List.cons_append, List.count_append,
        List.count_cons]
      omega

end

theorem loads_perm (t : Trail) (tour : Tour) : ((tour.loads t).map (·.1)).Perm ((tour.legsFrom t).map (·.1)) := by
  rw [map_loads]
  exact ((byDepth_perm _).append_right _).trans (near_far_perm t tour)

mutual

theorem suffix_of_mem_legsFrom {t u : Trail} {leg : Leg} : (tour : Tour) → (u, leg) ∈ tour.legsFrom t →
    ∃ key, key :: t <:+ u
  | mk _ legs => by
    intro h
    obtain ⟨l, _, hl⟩ := suffix_of_mem_legsOf legs h
    exact ⟨_, hl⟩

/-- What lies below a leg has its trail above it. -/
theorem suffix_of_mem_legsOf {t u : Trail} {leg : Leg} : (legs : List (Leg × Tour)) → (u, leg) ∈ legsOf t legs →
    ∃ l ∈ legs, l.1.source.populate :: t <:+ u
  | [] => nofun
  | (first, tour) :: rest => by
    intro h
    rw [legsOf, List.mem_cons, List.mem_append] at h
    rcases h with h | h | h
    · cases h
      exact ⟨(leg, tour), List.mem_cons_self, List.suffix_rfl⟩
    · obtain ⟨key, hk⟩ := suffix_of_mem_legsFrom tour h
      exact ⟨(first, tour), List.mem_cons_self, (List.suffix_cons _ _).trans hk⟩
    · obtain ⟨l, hl, hs⟩ := suffix_of_mem_legsOf rest h
      exact ⟨l, List.mem_cons_of_mem _ hl, hs⟩

end

theorem suffix_key_eq {t u : Trail} {a b : String} (ha : a :: t <:+ u) (hb : b :: t <:+ u) : a = b := by
  have h := List.suffix_of_suffix_length_le ha hb (by simp)
  have := h.eq_of_length (by simp)
  exact (List.cons.inj this).1

mutual

theorem nodup_legsFrom {t : Trail} : (tour : Tour) → tour.Laid t → ((tour.legsFrom t).map (·.1)).Nodup
  | mk _ legs => nodup_legsOf legs

/-- No two legs of a laid tour have one trail. -/
theorem nodup_legsOf {t : Trail} : (legs : List (Leg × Tour)) → LegsLaid t legs → ((legsOf t legs).map (·.1)).Nodup
  | [] => fun _ => List.nodup_nil
  | (leg, tour) :: rest => by
    rintro ⟨_, _, hnested, hother, hrest⟩
    rw [legsOf, List.map_cons, List.map_append, List.nodup_cons, List.nodup_append]
    -- Trails below this relation end in its key, trails beside it do not.
    have hbelow : ∀ u ∈ (tour.legsFrom (leg.source.populate :: t)).map (·.1),
        ∃ key, key :: leg.source.populate :: t <:+ u := by
      intro u hu
      obtain ⟨⟨_, l⟩, hl, rfl⟩ := List.mem_map.mp hu
      exact suffix_of_mem_legsFrom tour hl
    have hbeside : ∀ u ∈ (legsOf t rest).map (·.1), ¬leg.source.populate :: t <:+ u := by
      intro u hu hs
      obtain ⟨⟨_, l⟩, hl, rfl⟩ := List.mem_map.mp hu
      obtain ⟨other, ho, hos⟩ := suffix_of_mem_legsOf rest hl
      exact hother other ho (suffix_key_eq hos hs)
    refine ⟨?_, nodup_legsFrom tour hnested, nodup_legsOf rest hrest, ?_⟩
    · rw [List.mem_append]
      rintro (h | h)
      · obtain ⟨key, hk⟩ := hbelow _ h
        have := hk.length_le
        simp only [List.length_cons] at this
        omega
      · exact hbeside _ h List.suffix_rfl
    · rintro u hu v hv rfl
      obtain ⟨key, hk⟩ := hbelow u hu
      exact hbeside u hv ((List.suffix_cons _ _).trans hk)

end

theorem mem_trails_of_near {t u : Trail} {tour : Tour} (h : u ∈ tour.near t) : ∃ leg, (u, leg) ∈ tour.legsFrom t := by
  have hu := (near_far_perm t tour).mem_iff.mp (List.mem_append_left _ h)
  obtain ⟨⟨_, leg⟩, hl, rfl⟩ := List.mem_map.mp hu
  exact ⟨leg, hl⟩

theorem suffix_of_near {t u : Trail} {tour : Tour} (h : u ∈ tour.near t) : ∃ key, key :: t <:+ u := by
  obtain ⟨leg, hl⟩ := mem_trails_of_near h
  exact suffix_of_mem_legsFrom tour hl

theorem ne_nil_of_near {t u : Trail} {tour : Tour} (h : u ∈ tour.near t) : u ≠ [] := by
  rintro rfl
  obtain ⟨key, hk⟩ := suffix_of_near h
  exact List.cons_ne_nil _ _ (List.suffix_nil.mp hk)

mutual

theorem ordered_near {t : Trail} : (tour : Tour) → ∀ known : List Trail, t ∈ known → Ordered known (tour.near t)
  | mk _ legs => ordered_nearOf legs

/-- Near legs come after the trails above them. -/
theorem ordered_nearOf {t : Trail} : (legs : List (Leg × Tour)) → ∀ known : List Trail, t ∈ known →
    Ordered known (nearOf t legs)
  | [] => fun _ _ => trivial
  | (leg, tour) :: rest => by
    intro known ht
    rw [nearOf]
    cases leg.filter with
    | some f => exact ordered_nearOf rest known ht
    | none =>
      refine ⟨ht, Ordered.append ?_ ?_⟩
      · exact ordered_near tour _ List.mem_cons_self
      · exact ordered_nearOf rest _ (List.mem_append_right _ (List.mem_cons_of_mem _ ht))

end

mutual

/-- Once the records at a trail and those near it are known, filtered relations come after what they are loaded onto. -/
theorem ordered_stages {t : Trail} : (tour : Tour) → ∀ known : List Trail, t ∈ known →
    (∀ u ∈ tour.near t, u ∈ known) → Ordered known (tour.stages t).flatten
  | mk _ legs => ordered_stagesOf legs

/-- Filtered loads come after the trails above them. -/
theorem ordered_stagesOf {t : Trail} : (legs : List (Leg × Tour)) → ∀ known : List Trail, t ∈ known →
    (∀ u ∈ nearOf t legs, u ∈ known) → Ordered known (stagesOf t legs).flatten
  | [] => fun _ _ _ => trivial
  | (leg, tour) :: rest => by
    intro known ht hn
    rw [nearOf] at hn
    rw [stagesOf]
    cases hf : leg.filter with
    | some f =>
      rw [hf] at hn
      rw [List.flatten_cons, List.flatten_append]
      -- First the filtered relation with those reached from it without a filter, then what lies beyond, then the rest.
      apply Ordered.append
      · exact ⟨ht, ordered_near tour _ List.mem_cons_self⟩
      apply Ordered.append
      · apply ordered_stages tour
        · exact List.mem_append_left _ List.mem_cons_self
        · intro u hu
          exact List.mem_append_left _ (List.mem_cons_of_mem _ hu)
      · apply ordered_stagesOf rest
        · simp only [List.mem_append, ht, or_true]
        · intro u hu
          simp only [List.mem_append, hn u hu, or_true]
    | none =>
      rw [hf] at hn
      rw [List.flatten_append]
      apply Ordered.append
      · apply ordered_stages tour
        · exact hn _ List.mem_cons_self
        · intro u hu
          exact hn u (List.mem_cons_of_mem _ (List.mem_append_left _ hu))
      · apply ordered_stagesOf rest
        · exact List.mem_append_right _ ht
        · intro u hu
          exact List.mem_append_right _ (hn u (List.mem_cons_of_mem _ (List.mem_append_right _ hu)))

end

mutual

/-- A portion that is loaded with a filtered relation consists of that relation and those near it. -/
theorem mem_stages {t : Trail} {ts : List Trail} : (tour : Tour) → ts ∈ tour.stages t →
    ∃ here below, ts = here :: near here below ∧ (∃ leg, (here, leg) ∈ tour.legsFrom t) ∧
      ∀ l ∈ below.legsFrom here, l ∈ tour.legsFrom t
  | mk _ legs => mem_stagesOf legs

/-- A stage is headed by a leg, and goes on with the legs near the end of it. -/
theorem mem_stagesOf {t : Trail} {ts : List Trail} : (legs : List (Leg × Tour)) → ts ∈ stagesOf t legs →
    ∃ here below, ts = here :: near here below ∧ (∃ leg, (here, leg) ∈ legsOf t legs) ∧
      ∀ l ∈ below.legsFrom here, l ∈ legsOf t legs
  | [] => nofun
  | (leg, tour) :: rest => by
    intro h
    -- Whether the relation is filtered or not, a later portion is one beyond it or one of the rest.
    have hlater (h : ts ∈ tour.stages (leg.source.populate :: t) ++ stagesOf t rest) :
        ∃ here below, ts = here :: near here below ∧ (∃ l, (here, l) ∈ legsOf t ((leg, tour) :: rest)) ∧
          ∀ l ∈ below.legsFrom here, l ∈ legsOf t ((leg, tour) :: rest) := by
      rcases List.mem_append.mp h with h | h
      · obtain ⟨here, below, hts, ⟨l, hl⟩, hbelow⟩ := mem_stages tour h
        exact ⟨here, below, hts, ⟨l, List.mem_cons_of_mem _ (List.mem_append_left _ hl)⟩,
          fun l hl => List.mem_cons_of_mem _ (List.mem_append_left _ (hbelow l hl))⟩
      · obtain ⟨here, below, hts, ⟨l, hl⟩, hbelow⟩ := mem_stagesOf rest h
        exact ⟨here, below, hts, ⟨l, List.mem_cons_of_mem _ (List.mem_append_right _ hl)⟩,
          fun l hl => List.mem_cons_of_mem _ (List.mem_append_right _ (hbelow l hl))⟩
    rw [stagesOf] at h
    cases hf : leg.filter with
    | none =>
      rw [hf] at h
      exact hlater h
    | some f =>
      rw [hf] at h
      rcases List.mem_cons.mp h with rfl | h
      · exact ⟨_, tour, rfl, ⟨leg, List.mem_cons_self⟩,
          fun l hl => List.mem_cons_of_mem _ (List.mem_append_left _ hl)⟩
      · exact hlater h

end

/-- The loads of a tour come after the trails above them, from the roots on. -/
theorem ordered_loads (t : Trail) (tour : Tour) : Ordered [t] ((tour.loads t).map (·.1)) := by
  rw [map_loads, map_far]
  have hnear : Ordered [t] (tour.near t) := ordered_near tour _ (List.mem_singleton_self t)
  apply Ordered.append
  · exact ordered_byDepth (fun u hu => ne_nil_of_near hu) fun u hu => hnear.closed hu
  · apply Ordered.flatMap_byDepth
    · intro ts hts u hu
      obtain ⟨here, below, rfl, ⟨leg, hl⟩, _⟩ := mem_stages tour hts
      rcases List.mem_cons.mp hu with rfl | hu
      · obtain ⟨key, hk⟩ := suffix_of_mem_legsFrom tour hl
        exact fun he => List.cons_ne_nil _ _ (List.suffix_nil.mp (he ▸ hk))
      · exact ne_nil_of_near hu
    · apply ordered_stages tour
      · exact List.mem_append_right _ (List.mem_singleton_self t)
      · intro u hu
        exact List.mem_append_left _ (mem_byDepth.mpr hu)

theorem mem_loadsOf (t : Trail) (filter : Value) (below : List Trail) : (t, filter) ∈ loadsOf t filter below := by
  rw [loadsOf, List.mem_map]
  refine ⟨t, mem_byDepth.mpr List.mem_cons_self, ?_⟩
  rw [if_pos rfl]

theorem mem_loadsOf_of_mem {t u : Trail} {filter : Value} {below : List Trail} (h : u ∈ below) (hne : u ≠ t) :
    (u, .null) ∈ loadsOf t filter below := by
  rw [loadsOf, List.mem_map]
  refine ⟨u, mem_byDepth.mpr (List.mem_cons_of_mem _ h), ?_⟩
  rw [if_neg hne]

mutual

theorem mem_near_or_far {t u : Trail} {leg : Leg} : (tour : Tour) → (u, leg) ∈ tour.legsFrom t →
    (leg.filter = none ∧ u ∈ tour.near t) ∨ (u, leg.loaded) ∈ tour.far t
  | mk _ legs => mem_near_or_farOf legs

/-- A leg is near and unfiltered, or it is loaded apart with its filter. -/
theorem mem_near_or_farOf {t u : Trail} {leg : Leg} : (legs : List (Leg × Tour)) → (u, leg) ∈ legsOf t legs →
    (leg.filter = none ∧ u ∈ nearOf t legs) ∨ (u, leg.loaded) ∈ farOf t legs
  | [] => nofun
  | (first, tour) :: rest => by
    intro h
    rw [legsOf, List.mem_cons, List.mem_append] at h
    rw [nearOf, farOf]
    rcases h with h | h | h
    · cases h
      cases hf : leg.filter with
      | some f =>
        rw [Leg.loaded, hf]
        exact Or.inr (List.mem_append_left _ (mem_loadsOf _ _ _))
      | none => exact Or.inl ⟨rfl, List.mem_cons_self⟩
    · -- What is reached from a filtered relation without a filter of its own is loaded along with it.
      obtain ⟨key, hbelow⟩ := suffix_of_mem_legsFrom tour h
      have hne : u ≠ first.source.populate :: t := by
        rintro rfl
        have hlen := hbelow.length_le
        rw [List.length_cons] at hlen
        omega
      rcases mem_near_or_far tour h with ⟨hnone, hnear⟩ | hfar
      · cases first.filter with
        | some f =>
          rw [Leg.loaded, hnone]
          exact Or.inr (List.mem_append_left _ (mem_loadsOf_of_mem hnear hne))
        | none => exact Or.inl ⟨hnone, List.mem_cons_of_mem _ (List.mem_append_left _ hnear)⟩
      · cases first.filter with
        | some f => exact Or.inr (List.mem_append_right _ (List.mem_append_left _ hfar))
        | none => exact Or.inr (List.mem_append_left _ hfar)
    · rcases mem_near_or_farOf rest h with ⟨hnone, hnear⟩ | hfar
      · cases first.filter with
        | some f => exact Or.inl ⟨hnone, hnear⟩
        | none => exact Or.inl ⟨hnone, List.mem_cons_of_mem _ (List.mem_append_right _ hnear)⟩
      · cases first.filter with
        | some f => exact Or.inr (List.mem_append_right _ (List.mem_append_right _ hfar))
        | none => exact Or.inr (List.mem_append_right _ hfar)

end

theorem mem_loads {t u : Trail} {leg : Leg} {tour : Tour} (h : (u, leg) ∈ tour.legsFrom t) :
    (u, leg.loaded) ∈ tour.loads t := by
  rw [loads, List.mem_append]
  rcases mem_near_or_far tour h with ⟨hnone, hnear⟩ | hfar
  · refine Or.inl (List.mem_map.mpr ⟨u, mem_byDepth.mpr hnear, ?_⟩)
    rw [Leg.loaded, hnone, Option.getD_none]
  · exact Or.inr hfar

mutual

theorem laid_of_mem {t u : Trail} {leg : Leg} : (tour : Tour) → tour.Laid t → (u, leg) ∈ tour.legsFrom t →
    Trail.Proper u ∧ u ≠ [] ∧ leg.path = u.path
  | mk _ legs => laid_of_memOf legs

/-- A leg of a laid tour has a proper trail, and this is its path. -/
theorem laid_of_memOf {t u : Trail} {leg : Leg} : (legs : List (Leg × Tour)) → LegsLaid t legs →
    (u, leg) ∈ legsOf t legs → Trail.Proper u ∧ u ≠ [] ∧ leg.path = u.path
  | [] => nofun
  | (first, tour) :: rest => by
    rintro ⟨hpath, hproper, hnested, _, hrest⟩ h
    rw [legsOf, List.mem_cons, List.mem_append] at h
    rcases h with h | h | h
    · cases h
      exact ⟨hproper, List.cons_ne_nil _ _, hpath⟩
    · exact laid_of_mem tour hnested h
    · exact laid_of_memOf rest hrest h

end

theorem laid_of_near {t u : Trail} {tour : Tour} (h : tour.Laid t) (hu : u ∈ tour.near t) : Trail.Proper u ∧ u ≠ [] := by
  obtain ⟨leg, hl⟩ := mem_trails_of_near hu
  obtain ⟨hp, hne, _⟩ := laid_of_mem tour h hl
  exact ⟨hp, hne⟩

theorem nodup_near {t : Trail} {tour : Tour} (h : tour.Laid t) : (tour.near t).Nodup :=
  (List.nodup_append.mp ((near_far_perm t tour).nodup_iff.mpr (nodup_legsFrom tour h))).1

end Tour

theorem Trail.nodup_map_path {ts : List Trail} (h : ts.Nodup) (hp : ∀ t ∈ ts, Trail.Proper t) :
    (ts.map Trail.path).Nodup := by
  rw [List.Nodup, List.pairwise_map]
  refine List.Pairwise.imp_of_mem ?_ h
  intro t u ht hu hne he
  exact hne (Trail.path_injective (hp t ht) (hp u hu) he)

/-- Whether trails can be loaded one after the other once some others are: each is told by its path and comes after the one
above it, is there once and is none of the others. -/
structure Upcoming (done ts : List Trail) : Prop where
  proper : ∀ t ∈ ts, Trail.Proper t ∧ t ≠ []
  ordered : Ordered done ts
  nodup : ts.Nodup
  fresh : ∀ t ∈ ts, t ∉ done

namespace Upcoming

variable {done ts : List Trail} {t : Trail}

/-- After the first one the others are still to come. -/
theorem rest (h : Upcoming done (t :: ts)) : Upcoming (t :: done) ts := by
  obtain ⟨hnot, hnodup⟩ := List.nodup_cons.mp h.nodup
  refine ⟨fun u hu => h.proper u (List.mem_cons_of_mem _ hu), h.ordered.2, hnodup, ?_⟩
  intro u hu hmem
  rcases List.mem_cons.mp hmem with rfl | hmem
  · exact hnot hu
  · exact h.fresh u (List.mem_cons_of_mem _ hu) hmem

end Upcoming

/-- The trails of the loads of a tour can be loaded from the root records on. -/
theorem Tour.upcoming_loads {tour : Tour} (hlaid : tour.Laid []) : Upcoming [[]] ((tour.loads []).map (·.1)) := by
  have hperm := loads_perm [] tour
  have hproper : ∀ t ∈ (tour.loads []).map (·.1), Trail.Proper t ∧ t ≠ [] := by
    intro t ht
    obtain ⟨⟨_, leg⟩, hl, rfl⟩ := List.mem_map.mp (hperm.mem_iff.mp ht)
    obtain ⟨hp, hne, _⟩ := laid_of_mem tour hlaid hl
    exact ⟨hp, hne⟩
  refine ⟨hproper, ordered_loads [] tour, hperm.nodup_iff.mpr (nodup_legsFrom tour hlaid), ?_⟩
  intro t ht hnil
  exact (hproper t ht).2 (List.mem_singleton.mp hnil)

/-- To sort paths by their number of segments is to sort their trails by depth. -/
theorem parentsFirst_map_path {ts : List Trail} (h : ts.Nodup) (hp : ∀ t ∈ ts, Trail.Proper t ∧ t ≠ []) :
    Repository.parentsFirst (ts.map Trail.path) = (byDepth ts).map Trail.path := by
  have hnodup := Trail.nodup_map_path h fun t ht => (hp t ht).1
  rw [Repository.parentsFirst, distinct_of_nodup hnodup, byDepth]
  refine (List.map_mergeSort ?_).symm
  intro t ht u hu
  obtain ⟨hpt, hnt⟩ := hp t ht
  obtain ⟨hpu, hnu⟩ := hp u hu
  cases t with
  | nil => exact absurd rfl hnt
  | cons k t =>
    cases u with
    | nil => exact absurd rfl hnu
    | cons l u =>
      rw [Trail.count_path hpt, Trail.count_path hpu, List.length_cons, List.length_cons]
      simp

namespace Filter

/-- To descend along the names that a filter is nested under leads back to the filter. -/
theorem descend_nested (names : List String) (filter : Value) :
    descend names (names.foldr (fun name inner => .map [(.text name, inner)]) filter) = some filter := by
  induction names with
  | nil => rfl
  | cons name rest ih =>
    have hfield (v : Value) : (Value.map [(.text name, v)]).field? name = some v := by
      simp [Value.field?, lookup?, Value.same, Scalar.same, Scalar.magnitude?]
    rw [List.foldr_cons, descend, hfield, Option.bind_some, ih]

theorem atPath_nest (path : String) (entries : List (Value × Value)) :
    atPath (nest path (.map entries)) path = some (.map entries) := by
  rw [atPath, nest, descend_nested]

end Filter

/-- A load of the relation at a path. -/
structure Load where
  path : String
  filter : Value
  fields : List String

def FilteredPopulate.loads (f : FilteredPopulate) : List Load :=
  (Repository.parentsFirst f.populate).map fun path =>
    ⟨path, if f.populate.head? = some path then (Filter.atPath f.filter path).getD .null else .null, f.fields⟩

def Plan.loads (p : Plan) : List Load :=
  (Repository.parentsFirst p.populate).map (fun path => ⟨path, .null, p.fields⟩) ++
    p.filtered.flatMap FilteredPopulate.loads

namespace Tour

def Mapped (t : Trail) (tour : Tour) : Prop := ∀ l ∈ tour.legsFrom t, ∀ f, l.2.filter = some f → ∃ entries, f = .map entries

mutual

theorem gather_populate {t : Trail} : (tour : Tour) → (∀ l ∈ tour.legsFrom t, l.2.path = l.1.path) →
    tour.gather.populate = (tour.near t).map Trail.path
  | mk asked legs => by
    intro h
    rw [gather, Plan.append, near, ← gather_populateOf legs h]
    rfl

/-- The paths that are populated with the roots are those of the near legs. -/
theorem gather_populateOf {t : Trail} : (legs : List (Leg × Tour)) → (∀ l ∈ legsOf t legs, l.2.path = l.1.path) →
    (gatherLegs legs).populate = (nearOf t legs).map Trail.path
  | [] => fun _ => rfl
  | (leg, tour) :: rest => by
    intro h
    have hpath : leg.path = Trail.path (leg.source.populate :: t) := h _ List.mem_cons_self
    have hn := gather_populate tour fun l hl => h l (List.mem_cons_of_mem _ (List.mem_append_left _ hl))
    have hr := gather_populateOf rest fun l hl => h l (List.mem_cons_of_mem _ (List.mem_append_right _ hl))
    rw [gatherLegs, Plan.append, Plan.ofLeg, nearOf]
    cases leg.filter with
    | some f => exact hr
    | none =>
      simp only [List.map_cons, List.map_append, ← hn, ← hr, ← hpath]
      rfl

end

theorem Laid.gather_populate {t : Trail} {tour : Tour} (h : tour.Laid t) :
    tour.gather.populate = (tour.near t).map Trail.path :=
  Tour.gather_populate tour fun _ hl => (laid_of_mem tour h hl).2.2

def Recovers {β : Type} (g : Value → β) (l : Trail × Leg) : Prop :=
  ∀ f, l.2.filter = some f → g ((Filter.atPath (Filter.nest l.2.path f) l.2.path).getD .null) = g f

/-- A filtered populate loads its head with the filter and everything near below it without one. -/
theorem loads_entry {β : Type} {g : Value → β} {t : Trail} {key : String} {f : Value} {tour : Tour} (fields : List String)
    (hproper : Trail.Proper (key :: t)) (h : tour.Laid (key :: t))
    (hg : g ((Filter.atPath (Filter.nest (Trail.path (key :: t)) f) (Trail.path (key :: t))).getD .null) = g f) :
    (FilteredPopulate.loads ⟨distinct (Trail.path (key :: t) :: tour.gather.populate),
      Filter.nest (Trail.path (key :: t)) f, fields⟩).map (fun l => (l.path, g l.filter)) =
      (loadsOf (key :: t) f (tour.near (key :: t))).map fun l => (l.1.path, g l.2) := by
  have hall : ∀ u ∈ (key :: t) :: tour.near (key :: t), Trail.Proper u ∧ u ≠ [] := by
    intro u hu
    rcases List.mem_cons.mp hu with rfl | hu
    · exact ⟨hproper, List.cons_ne_nil _ _⟩
    · exact laid_of_near h hu
  -- The paths come without repetitions, so that their order alone is left to be compared.
  have hnodup : ((key :: t) :: tour.near (key :: t)).Nodup := by
    rw [List.nodup_cons]
    refine ⟨?_, nodup_near h⟩
    intro hmem
    obtain ⟨k, hk⟩ := suffix_of_near hmem
    have := hk.length_le
    simp only [List.length_cons] at this
    omega
  have hpopulate : distinct (Trail.path (key :: t) :: tour.gather.populate) =
      ((key :: t) :: tour.near (key :: t)).map Trail.path := by
    rw [h.gather_populate, ← List.map_cons]
    exact distinct_of_nodup (Trail.nodup_map_path hnodup fun u hu => (hall u hu).1)
  rw [FilteredPopulate.loads, hpopulate, parentsFirst_map_path hnodup hall, loadsOf]
  simp only [List.map_map]
  apply List.map_congr_left
  intro u hu
  have hmem := mem_byDepth.mp hu
  simp only [Function.comp, List.map_cons, List.head?_cons, Option.some.injEq]
  by_cases he : u = key :: t
  · rw [if_pos he, if_pos (by rw [he]), he, hg]
  · rw [if_neg he, if_neg fun hp => he (Trail.path_injective (hall u hmem).1 hproper hp.symm)]

mutual

theorem gather_loads {β : Type} {g : Value → β} {t : Trail} : (tour : Tour) → tour.Laid t →
    (∀ l ∈ tour.legsFrom t, Recovers g l) →
    (tour.gather.filtered.flatMap FilteredPopulate.loads).map (fun l => (l.path, g l.filter)) =
      (tour.far t).map fun l => (l.1.path, g l.2)
  | mk asked legs => by
    intro h hg
    rw [gather, Plan.append, far, ← gather_loadsOf legs h hg]
    rfl

/-- The filtered loads of a plan are the legs that are loaded apart, in their order. -/
theorem gather_loadsOf {β : Type} {g : Value → β} {t : Trail} : (legs : List (Leg × Tour)) → LegsLaid t legs →
    (∀ l ∈ legsOf t legs, Recovers g l) →
    ((gatherLegs legs).filtered.flatMap FilteredPopulate.loads).map (fun l => (l.path, g l.filter)) =
      (farOf t legs).map fun l => (l.1.path, g l.2)
  | [] => fun _ _ => rfl
  | (leg, tour) :: rest => by
    rintro ⟨hpath, hproper, hnested, _, hrest⟩ hg
    have hn := gather_loads tour hnested fun l hl =>
      hg l (List.mem_cons_of_mem _ (List.mem_append_left _ hl))
    have hr := gather_loadsOf rest hrest fun l hl =>
      hg l (List.mem_cons_of_mem _ (List.mem_append_right _ hl))
    rw [gatherLegs, Plan.append, Plan.ofLeg, farOf]
    cases hf : leg.filter with
    | some f =>
      have hown := hg (leg.source.populate :: t, leg) List.mem_cons_self f hf
      rw [hpath] at hown
      have hentry := loads_entry (distinct tour.gather.fields) hproper hnested hown
      simp only [List.cons_append, List.flatMap_cons, List.flatMap_append, List.map_append, hn, hr, hpath, hentry]
    | none =>
      simp only [List.flatMap_append, List.map_append, hn, hr]

end

/-- The loads of a plan are those of its tour, path by path and filter by filter. -/
theorem plan_loads_of {β : Type} {g : Value → β} {tour : Tour} (h : tour.Laid [])
    (hg : ∀ l ∈ tour.legsFrom [], Recovers g l) :
    tour.plan.loads.map (fun l => (l.path, g l.filter)) = (tour.loads []).map fun l => (l.1.path, g l.2) := by
  have hnear : ∀ u ∈ tour.near [], Trail.Proper u ∧ u ≠ [] := fun u => laid_of_near h
  have hnodup := Trail.nodup_map_path (nodup_near h) fun u hu => (hnear u hu).1
  have hpopulate : tour.plan.populate = (tour.near []).map Trail.path := by
    rw [← h.gather_populate]
    exact distinct_of_nodup (h.gather_populate ▸ hnodup)
  have hfiltered : tour.plan.filtered = tour.gather.filtered := rfl
  rw [Plan.loads, hpopulate, parentsFirst_map_path (nodup_near h) hnear, hfiltered, List.map_append,
    gather_loads tour h hg, loads, List.map_append]
  simp only [List.map_map]
  rfl

/-- The loads of the plan of a tour are the loads of the tour. -/
theorem plan_loads {tour : Tour} (h : tour.Laid []) (hm : tour.Mapped []) :
    tour.plan.loads.map (fun l => (l.path, l.filter)) = (tour.loads []).map fun l => (l.1.path, l.2) := by
  apply plan_loads_of (g := id) h
  intro l hl f hf
  obtain ⟨entries, rfl⟩ := hm l hl f hf
  rw [Filter.atPath_nest, Option.getD_some]

/-- Whatever the filters are, the trails of a tour are loaded in their order. -/
theorem plan_paths {tour : Tour} (h : tour.Laid []) :
    tour.plan.loads.map (·.path) = (tour.loads []).map fun l => l.1.path := by
  have hloads := plan_loads_of (g := fun _ => ()) h fun _ _ _ _ => rfl
  have hfirst := congrArg (List.map Prod.fst) hloads
  simpa only [List.map_map, Function.comp_def] using hfirst

end Tour

end EntityViews
