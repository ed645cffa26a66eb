import EntityViews.Learning.Sources
import EntityViews.Proofs.Keyed

/-!
The order in which a plan names paths. Main statement: a plan may be carried out from front to back, since whatever
records are attached to is named before.
-/

namespace EntityViews

/-- The path of the records that those at a path are attached to; for the root records it is empty. -/
def parentPath (path : String) : String := (Text.splitLast '.' path).1

def EntityFields.Named (f : EntityFields) : Prop :=
  ∀ name r, f.source? name = some (.relation r) → r.populate ≠ "" ∧ '.' ∉ r.populate.toList

/-- Whether whatever a plan attaches records to is the root or is named before them. -/
structure Plan.ParentsFirst (p : Plan) : Prop where
  /-- Of the paths that are loaded with the root each comes after its parent. -/
  near : ∀ before path after, p.populate = before ++ path :: after → 1 < (Text.segments path).length →
    parentPath path ∈ before
  /-- A filtered relation comes after its parent, and below it each path after its own. -/
  filtered : ∀ before f after, p.filtered = before ++ f :: after → ∃ head rest, f.populate = head :: rest ∧
    (parentPath head = "" ∨ parentPath head ∈ p.populate ∨ ∃ g ∈ before, parentPath head ∈ g.populate) ∧
    ∀ earlier path later, rest = earlier ++ path :: later →
      (∃ more, path = head ++ "." ++ more) ∧ parentPath path ∈ head :: earlier

namespace Trail

theorem parentPath_path {t : Trail} (h : Proper t) : parentPath t.path = path t.tail := by
  cases t with
  | nil => rfl
  | cons key above => exact congrArg Prod.fst (splitLast_path h)

/-- The path of what lies below a trail extends the one of the trail. -/
theorem path_of_suffix {t u : Trail} (hne : t ≠ []) (hu : Proper u) (h : t <:+ u) (hother : t ≠ u) :
    ∃ more, u.path = t.path ++ "." ++ more := by
  induction u with
  | nil => exact absurd (List.suffix_nil.mp h) hne
  | cons key above ih =>
    have habove : t <:+ above := (List.suffix_cons_iff.mp h).resolve_left hother
    have hcons : path (key :: above) = path above ++ "." ++ key := by
      apply path_cons hu.above
      rintro rfl
      exact hne (List.suffix_nil.mp habove)
    by_cases he : t = above
    · subst he
      exact ⟨key, hcons⟩
    · obtain ⟨more, hmore⟩ := ih hu.above habove he
      refine ⟨more ++ "." ++ key, ?_⟩
      rw [hcons, hmore]
      simp only [String.append_assoc]

end Trail

/-- In the paths of trails in order, kept without repetitions, each path comes after the one of the trail above. -/
theorem Ordered.parent_mem {known ts : List Trail} (h : Ordered known ts) {before after : List String} {path : String}
    (he : distinct (ts.map Trail.path) = before ++ path :: after) :
    ∃ t ∈ ts, path = t.path ∧ (t.tail ∈ known ∨ Trail.path t.tail ∈ before) := by
  obtain ⟨ys, zs, hmap, rfl⟩ := exists_of_distinct_eq he
  obtain ⟨front, back, rfl, rfl, hback⟩ := List.map_eq_append_iff.mp hmap
  obtain ⟨t, rest, rfl, rfl, _⟩ := List.map_eq_cons_iff.mp hback
  refine ⟨t, List.mem_append_right _ List.mem_cons_self, rfl, ?_⟩
  rcases h.tail_mem with hknown | hfront
  · exact Or.inl hknown
  · exact Or.inr (mem_distinct.mpr (List.mem_map_of_mem hfront))

/-- From the roots on, every path of more than one segment comes after its parent. -/
theorem Ordered.parentPath_mem {ts : List Trail} (h : Ordered [[]] ts) (hproper : ∀ t ∈ ts, Trail.Proper t)
    {before after : List String} {path : String} (he : distinct (ts.map Trail.path) = before ++ path :: after)
    (hlong : 1 < (Text.segments path).length) : parentPath path ∈ before := by
  obtain ⟨t, ht, rfl, hparent⟩ := h.parent_mem he
  rw [Trail.parentPath_path (hproper t ht)]
  rcases hparent with hroot | hbefore
  · -- A trail right below the root has a single segment.
    have htail : t.tail.length = 0 := by rw [List.mem_singleton.mp hroot, List.length_nil]
    have hlength : 1 < t.length := by
      by_cases hne : t = []
      · subst hne
        exact absurd hlong (by decide)
      · rwa [Trail.segments_path (hproper t ht) hne, List.length_reverse] at hlong
    rw [List.length_tail] at htail
    omega
  · exact hbefore

namespace Tour

/-- Whether the relations of a tour that starts at a trail have the paths of their trails, which can be told from them. -/
def Rooted (t : Trail) (tour : Tour) : Prop := ∀ l ∈ tour.legsFrom t, Trail.Proper l.1 ∧ l.2.path = l.1.path

section Rooted

variable {graph : Graph} {context : Context} {overrides : Value}

mutual

theorem rooted_of? (hg : ∀ entity f, graph entity = .ok f → f.Named) : (view : NormalView) →
    ∀ (sources : EntityFields) (t : Trail) (tour : Tour), sources.Named → Trail.Proper t →
    of? graph context overrides sources t.path view = some tour → tour.Rooted t
  | .mk fields relations => by
    intro sources t tour hs hp h
    simp only [of?, bind, Option.bind_eq_some_iff, pure, Option.some.injEq] at h
    obtain ⟨asked, _, legs, hlegs, rfl⟩ := h
    exact rooted_legs? hg relations sources t legs hs hp hlegs

/-- Where related records are attached under names without dots, the legs of a view have proper trails and the paths of
these. -/
theorem rooted_legs? (hg : ∀ entity f, graph entity = .ok f → f.Named) : (relations : List (String × NormalView)) →
    ∀ (sources : EntityFields) (t : Trail) (legs : List (Leg × Tour)), sources.Named → Trail.Proper t →
    legs? graph context overrides sources t.path relations = some legs →
    ∀ l ∈ legsOf t legs, Trail.Proper l.1 ∧ l.2.path = l.1.path
  | [] => by
    intro sources t legs hs hp h
    rw [legs?, Option.some.injEq] at h
    subst h
    exact nofun
  | (name, view) :: rest => by
    intro sources t legs hs hp h
    rcases legs?_cons h with ⟨_, h⟩ | ⟨r, target, tour, own, given, legs', hr, htarget, htour, _, _, hlegs, rfl⟩
    · exact rooted_legs? hg rest sources t legs hs hp h
    · have hproper : Trail.Proper (r.populate :: t) := by
        intro k hk
        rcases List.mem_cons.mp hk with rfl | hk
        · exact hs name r hr
        · exact hp k hk
      intro l hl
      rw [legsOf, List.mem_cons, List.mem_append] at hl
      rcases hl with rfl | hl | hl
      · exact ⟨hproper, rfl⟩
      · exact rooted_of? hg view target (r.populate :: t) tour (hg _ _ htarget) hproper htour l hl
      · exact rooted_legs? hg rest sources t legs' hs hp hlegs l hl

end

end Rooted

mutual

/-- Filtered relations are gathered with the paths of their portions. -/
theorem gather_stages {t : Trail} : (tour : Tour) → (∀ l ∈ tour.legsFrom t, l.2.path = l.1.path) →
    tour.gather.filtered.map (·.populate) = (tour.stages t).map fun ts => distinct (ts.map Trail.path)
  | mk asked legs => by
    intro h
    rw [gather, Plan.append, stages, ← gather_stagesOf legs h]
    rfl

/-- Filtered loads stand in the plan in the order in which their legs are met. -/
theorem gather_stagesOf {t : Trail} : (legs : List (Leg × Tour)) → (∀ l ∈ legsOf t legs, l.2.path = l.1.path) →
    (gatherLegs legs).filtered.map (·.populate) = (stagesOf t legs).map fun ts => distinct (ts.map Trail.path)
  | [] => fun _ => rfl
  | (leg, tour) :: rest => by
    intro h
    have hpath : leg.path = Trail.path (leg.source.populate :: t) := h _ List.mem_cons_self
    have hbelow : ∀ l ∈ tour.legsFrom (leg.source.populate :: t), l.2.path = l.1.path :=
      fun l hl => h l (List.mem_cons_of_mem _ (List.mem_append_left _ hl))
    have hn := gather_stages tour hbelow
    have hr := gather_stagesOf rest fun l hl => h l (List.mem_cons_of_mem _ (List.mem_append_right _ hl))
    rw [gatherLegs, Plan.append, Plan.ofLeg, stagesOf]
    cases leg.filter with
    | some f =>
      simp only [List.cons_append, List.map_cons, List.map_append, hn, hr, hpath, gather_populate tour hbelow]
    | none => simp only [List.map_append, hn, hr]

end

variable {tour : Tour}

/-- Among the paths of the roots each long path has its parent before it. -/
theorem near_parents (h : tour.Rooted []) {before after : List String} {path : String}
    (he : tour.plan.populate = before ++ path :: after) (hlong : 1 < (Text.segments path).length) :
    parentPath path ∈ before := by
  have hpopulate : tour.plan.populate = distinct ((tour.near []).map Trail.path) :=
    congrArg distinct (gather_populate tour fun l hl => (h l hl).2)
  have hordered : Ordered [[]] (tour.near []) := ordered_near tour [[]] (List.mem_singleton_self _)
  refine hordered.parentPath_mem ?_ (hpopulate ▸ he) hlong
  intro t ht
  obtain ⟨leg, hl⟩ := mem_trails_of_near ht
  exact (h _ hl).1

/-- Below a filtered relation every path extends the one of the relation and comes after its parent. -/
theorem below_parents {here : Trail} (hne : here ≠ [])
    (hbelow : ∀ l ∈ tour.legsFrom here, Trail.Proper l.1) {earlier later : List String} {path : String}
    (he : distinct ((here :: tour.near here).map Trail.path) = here.path :: (earlier ++ path :: later)) :
    (∃ more, path = here.path ++ "." ++ more) ∧ parentPath path ∈ here.path :: earlier := by
  have hordered : Ordered [here.tail] (here :: tour.near here) :=
    ⟨List.mem_singleton_self _, ordered_near tour _ List.mem_cons_self⟩
  have hnodup : (here.path :: (earlier ++ path :: later)).Nodup := he ▸ nodup_distinct _
  have hsplit : distinct ((here :: tour.near here).map Trail.path) = (here.path :: earlier) ++ path :: later := he
  obtain ⟨t, ht, rfl, hparent⟩ := hordered.parent_mem hsplit
  -- No other path is that of the relation itself.
  have hother : here ≠ t := by
    rintro rfl
    exact (List.nodup_cons.mp hnodup).1 (List.mem_append_right _ List.mem_cons_self)
  have hnear : t ∈ tour.near here := (List.mem_cons.mp ht).resolve_left (Ne.symm hother)
  obtain ⟨key, hsuffix⟩ := suffix_of_near hnear
  have ht : Trail.Proper t := by
    obtain ⟨leg, hl⟩ := mem_trails_of_near hnear
    exact hbelow _ hl
  refine ⟨Trail.path_of_suffix hne ht ((List.suffix_cons _ _).trans hsuffix) hother, ?_⟩
  rw [Trail.parentPath_path ht]
  refine hparent.resolve_left ?_
  -- What lies below the relation is not attached to what the relation itself is attached to.
  intro hroot
  have htail : t.tail.length = here.tail.length := by rw [List.mem_singleton.mp hroot]
  have hlength := hsuffix.length_le
  have hpos := List.length_pos_iff.mpr hne
  rw [List.length_cons] at hlength
  rw [List.length_tail, List.length_tail] at htail
  omega

/-- A filtered load starts below a path that is populated before it, and goes on from there. -/
theorem filtered_parents (h : tour.Rooted []) {before after : List FilteredPopulate} {f : FilteredPopulate}
    (he : tour.plan.filtered = before ++ f :: after) : ∃ head rest, f.populate = head :: rest ∧
      (parentPath head = "" ∨ parentPath head ∈ tour.plan.populate ∨ ∃ g ∈ before, parentPath head ∈ g.populate) ∧
      ∀ earlier path later, rest = earlier ++ path :: later →
        (∃ more, path = head ++ "." ++ more) ∧ parentPath path ∈ head :: earlier := by
  have hpaths : ∀ l ∈ tour.legsFrom [], l.2.path = l.1.path := fun l hl => (h l hl).2
  -- The instructions are those of the portions, one for one.
  have hstages : (tour.stages []).map (fun ts => distinct (ts.map Trail.path)) = (before ++ f :: after).map (·.populate) := by
    rw [← he]
    exact (gather_stages tour hpaths).symm
  rw [List.map_append, List.map_cons] at hstages
  obtain ⟨front, back, hsplit, hfront, hback⟩ := List.map_eq_append_iff.mp hstages
  obtain ⟨ts, more, rfl, hf, _⟩ := List.map_eq_cons_iff.mp hback
  have hmem : ts ∈ tour.stages [] := hsplit ▸ List.mem_append_right _ List.mem_cons_self
  obtain ⟨here, below, rfl, ⟨leg, hleg⟩, hwithin⟩ := mem_stages tour hmem
  have hproper : Trail.Proper here := (h _ hleg).1
  have hne : here ≠ [] := by
    obtain ⟨key, hk⟩ := suffix_of_mem_legsFrom tour hleg
    exact fun hnil => List.cons_ne_nil _ _ (List.suffix_nil.mp (hnil ▸ hk))
  have hhead : f.populate.head? = some here.path := hf ▸ head?_distinct_cons _ _
  obtain ⟨rest, hrest⟩ := List.head?_eq_some_iff.mp hhead
  refine ⟨here.path, rest, hrest, ?_, ?_⟩
  · have hordered : Ordered ([] :: tour.near []) (front.flatten ++ here :: (below.near here ++ more.flatten)) := by
      have hall := ordered_stages tour ([] :: tour.near []) List.mem_cons_self fun u hu => List.mem_cons_of_mem _ hu
      rwa [hsplit, List.flatten_append, List.flatten_cons, List.cons_append] at hall
    rw [Trail.parentPath_path hproper]
    rcases hordered.tail_mem with hknown | hearlier
    · rcases List.mem_cons.mp hknown with hroot | hnear
      · exact Or.inl (congrArg Trail.path hroot)
      · refine Or.inr (Or.inl ?_)
        have hpopulate : tour.plan.populate = distinct ((tour.near []).map Trail.path) :=
          congrArg distinct (gather_populate tour hpaths)
        rw [hpopulate, mem_distinct]
        exact List.mem_map_of_mem hnear
    · obtain ⟨us, hus, htail⟩ := List.mem_flatten.mp hearlier
      have hentry : distinct (us.map Trail.path) ∈ before.map (·.populate) := hfront ▸ List.mem_map_of_mem hus
      obtain ⟨g, hg, hgp⟩ := List.mem_map.mp hentry
      refine Or.inr (Or.inr ⟨g, hg, ?_⟩)
      rw [hgp, mem_distinct]
      exact List.mem_map_of_mem htail
  · rintro earlier path later rfl
    exact below_parents hne (fun l hl => (h l (hwithin l hl)).1) (hf.trans hrest)

end Tour

namespace Plan

/-- A plan is compiled in an order in which it may be carried out, whatever relations share names or have filters. -/
theorem compile_parentsFirst {graph : Graph} {context : Context} {overrides : Value} {sources : EntityFields}
    {view : View} {plan : Plan} (hgraph : ∀ entity f, graph entity = .ok f → f.Named) (hsources : sources.Named)
    (h : compile graph context overrides sources "" view = .ok plan) : plan.ParentsFirst := by
  have htour := Tour.toOption_compile graph context overrides sources "" view
  rw [h] at htour
  obtain ⟨tour, hof, rfl⟩ := Option.map_eq_some_iff.mp htour.symm
  have hrooted : tour.Rooted [] := Tour.rooted_of? hgraph view.normal sources [] tour hsources nofun hof
  exact ⟨fun _ _ _ he hlong => Tour.near_parents hrooted he hlong, fun _ _ _ he => Tour.filtered_parents hrooted he⟩

def nestedTexts : View := .full [] [("texts", .full ["id"] [("collection", .full [] [("texts", .names ["id"])])])]

/-- The texts of the collection of a text are a filtered relation of their own, after the one that the collection is
loaded with. -/
theorem compile_parentsFirst_nestedTexts :
    ∃ (sources : EntityFields) (plan : Plan), Learning.registry.graph "Collection" = .ok sources ∧
      compile Learning.registry.graph ⟨.anonymous, false, []⟩ .null sources "" nestedTexts = .ok plan ∧
      plan.filtered.map (·.populate) = [["texts", "texts.collection"], ["texts.collection.texts"]] ∧
      plan.ParentsFirst := by
  have hnamed : ∀ entity f, Learning.registry.graph entity = .ok f → f.Named := by
    intro entity f hf
    have hkeyed : f.Keyed ∧ f.Mapping ⟨.anonymous, false, []⟩ := Registry.keyed_of_declared (by decide +kernel) hf
    exact hkeyed.1.unshared.1
  obtain ⟨sources, hs⟩ : ∃ sources, Learning.registry.graph "Collection" = .ok sources := ⟨_, rfl⟩
  obtain ⟨plan, hplan, hpopulates⟩ : ∃ plan,
      compile Learning.registry.graph ⟨.anonymous, false, []⟩ .null sources "" nestedTexts = .ok plan ∧
        plan.filtered.map (·.populate) = [["texts", "texts.collection"], ["texts.collection.texts"]] := by
    cases hs
    exact ⟨_, rfl, rfl⟩
  exact ⟨sources, plan, hs, hplan, hpopulates, compile_parentsFirst hnamed (hnamed _ _ hs) hplan⟩

end Plan

end EntityViews
