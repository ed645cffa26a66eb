import EntityViews.Learning.Sources
import EntityViews.Proofs.Places
import EntityViews.Proofs.Precedence

/-!
Plans folded into one load, where filters are left out of account. Main statement: what a plan names, with the root or with
any of its filtered relations, is just what the plan has that is compiled after the relations have lost their filters, and
it is named in an order in which it may be loaded.
-/

namespace EntityViews

/-! Relations without filters. -/

def RelationSource.unscoped (r : RelationSource) : RelationSource := { r with filter := none }

def Source.unscoped : Source → Source
  | .relation r => .relation r.unscoped
  | s => s

def EntityFields.unscoped (f : EntityFields) : EntityFields :=
  { f with sources := f.sources.map fun s => (s.1, s.2.unscoped) }

/-- The fields of entities, with no filter on any relation. -/
def Graph.unscoped (graph : Graph) : Graph := fun entity => (graph entity).map EntityFields.unscoped

theorem EntityFields.source?_unscoped (f : EntityFields) (name : String) :
    f.unscoped.source? name = (f.source? name).map Source.unscoped := by
  have hfind : ∀ sources : List (String × Source), (sources.map fun s => (s.1, s.2.unscoped)).find? (·.1 == name) =
      (sources.find? (·.1 == name)).map fun s => (s.1, s.2.unscoped) := by
    intro sources
    rw [List.find?_map]
    rfl
  rw [source?, source?, unscoped, hfind, Option.map_map, Option.map_map]
  rfl

theorem Graph.unscoped_ok {graph : Graph} {entity : String} {f : EntityFields} (h : graph entity = .ok f) :
    Graph.unscoped graph entity = .ok f.unscoped := by
  rw [unscoped, h]
  rfl

/-! Tours without filters. -/

def Leg.bare (leg : Leg) : Leg := ⟨leg.source.unscoped, leg.path, .null, .null⟩

theorem Leg.filter_bare (leg : Leg) : leg.bare.filter = none := rfl

namespace Tour

mutual

def bare : Tour → Tour
  | mk asked legs => mk asked (bareLegs legs)

def bareLegs : List (Leg × Tour) → List (Leg × Tour)
  | [] => []
  | (leg, tour) :: rest => (leg.bare, tour.bare) :: bareLegs rest

end

variable {graph : Graph} {context : Context} {overrides : Value}

/-- Without filters a level asks for the same. -/
theorem asked?_unscoped (sources : EntityFields) (path : String) (names : List String) :
    asked? sources.unscoped path names = asked? sources path names := by
  induction names with
  | nil => rfl
  | cons name rest ih =>
    rw [asked?, asked?, ih, EntityFields.source?_unscoped]
    cases sources.source? name with
    | none => rfl
    | some source => cases source <;> rfl

mutual

/-- Without filters a traversal goes the same way. -/
theorem of?_unscoped : (view : NormalView) → ∀ (sources : EntityFields) (path : String) (tour : Tour),
    of? graph context overrides sources path view = some tour →
    of? (Graph.unscoped graph) context .null sources.unscoped path view = some tour.bare
  | .mk fields relations => by
    intro sources path tour h
    simp only [of?, bind, Option.bind_eq_some_iff, pure, Option.some.injEq] at h
    obtain ⟨asked, hasked, legs, hlegs, rfl⟩ := h
    rw [of?, asked?_unscoped, hasked, legs?_unscoped relations sources path legs hlegs]
    rfl

/-- Without filters the legs of a view are the same, with no filter on any. -/
theorem legs?_unscoped : (relations : List (String × NormalView)) → ∀ (sources : EntityFields) (path : String)
    (legs : List (Leg × Tour)), legs? graph context overrides sources path relations = some legs →
    legs? (Graph.unscoped graph) context .null sources.unscoped path relations = some (bareLegs legs)
  | [] => by
    intro sources path legs h
    rw [legs?, Option.some.injEq] at h
    subst h
    rfl
  | (name, view) :: rest => by
    intro sources path legs h
    rcases legs?_cons h with ⟨hno, h⟩ | ⟨r, target, tour, own, given, legs', hr, htarget, htour, _, _, hlegs, rfl⟩
    · -- What is no relation is none without its filter.
      have hskip : ∀ r, sources.unscoped.source? name ≠ some (.relation r) := by
        intro r hr
        rw [EntityFields.source?_unscoped] at hr
        obtain ⟨source, hsource, he⟩ := Option.map_eq_some_iff.mp hr
        cases source with
        | relation r' => exact hno r' hsource
        | column | formula | annotated | «foreign» => cases he
      rw [legs?]
      split
      · exact absurd ‹_› (hskip _)
      · exact legs?_unscoped rest sources path legs h
    · have hsource : sources.unscoped.source? name = some (.relation r.unscoped) := by
        rw [EntityFields.source?_unscoped, hr]
        rfl
      have hnested := of?_unscoped view target (Text.qualify path r.populate) tour htour
      have hrest := legs?_unscoped rest sources path legs' hlegs
      have htarget' : Graph.unscoped graph r.unscoped.target = .ok target.unscoped := Graph.unscoped_ok htarget
      have hhere : Text.qualify path r.unscoped.populate = Text.qualify path r.populate := rfl
      rw [legs?, hsource]
      dsimp only
      rw [htarget', hhere]
      simp only [Except.toOption, bind, Option.bind_some, hnested, hrest]
      rfl

end

end Tour

/-! What a plan names, whichever of its loads it belongs to. -/

namespace Plan

def AsksFor (p : Plan) (field : String) : Prop := field ∈ p.fields ∨ ∃ l ∈ p.filtered, field ∈ l.fields

def Populates (p : Plan) (path : String) : Prop := path ∈ p.populate ∨ ∃ l ∈ p.filtered, path ∈ l.populate

theorem asksFor_append {p q : Plan} {field : String} : (p.append q).AsksFor field ↔ p.AsksFor field ∨ q.AsksFor field := by
  simp only [AsksFor, append, List.mem_append, or_and_right, exists_or]
  exact or_or_or_comm

theorem populates_append {p q : Plan} {path : String} : (p.append q).Populates path ↔ p.Populates path ∨ q.Populates path := by
  simp only [Populates, append, List.mem_append, or_and_right, exists_or]
  exact or_or_or_comm

/-- Whether a relation is filtered or not makes no difference to what is asked for beyond it. -/
theorem asksFor_ofLeg {leg : Leg} {nested : Plan} {field : String} :
    (ofLeg leg nested).AsksFor field ↔ nested.AsksFor field := by
  cases hf : leg.filter <;> simp [AsksFor, ofLeg, hf]

theorem populates_ofLeg {leg : Leg} {nested : Plan} {path : String} :
    (ofLeg leg nested).Populates path ↔ path = leg.path ∨ nested.Populates path := by
  cases hf : leg.filter <;> simp [Populates, ofLeg, hf, or_assoc]

end Plan

namespace Tour

mutual

/-- A tour without filters gathers all that the tour names, for a single load. -/
theorem gather_bare : (tour : Tour) → tour.bare.gather.filtered = [] ∧
    (∀ f, f ∈ tour.bare.gather.fields ↔ tour.gather.AsksFor f) ∧
    ∀ path, path ∈ tour.bare.gather.populate ↔ tour.gather.Populates path
  | mk asked legs => by
    obtain ⟨hfiltered, hfields, hpopulate⟩ := gather_bareLegs legs
    rw [bare, gather, gather]
    refine ⟨hfiltered, ?_, ?_⟩
    · intro f
      rw [Plan.asksFor_append, ← hfields]
      simp [Plan.append, Plan.ofAsked, Plan.AsksFor]
    · intro path
      rw [Plan.populates_append, ← hpopulate]
      simp [Plan.append, Plan.ofAsked, Plan.Populates]

/-- Without filters nothing is loaded apart, and every field and path is with the roots. -/
theorem gather_bareLegs : (legs : List (Leg × Tour)) → (gatherLegs (bareLegs legs)).filtered = [] ∧
    (∀ f, f ∈ (gatherLegs (bareLegs legs)).fields ↔ (gatherLegs legs).AsksFor f) ∧
    ∀ path, path ∈ (gatherLegs (bareLegs legs)).populate ↔ (gatherLegs legs).Populates path
  | [] => by simp [bareLegs, gatherLegs, Plan.empty, Plan.AsksFor, Plan.Populates]
  | (leg, tour) :: rest => by
    obtain ⟨hfiltered, hfields, hpopulate⟩ := gather_bare tour
    obtain ⟨hfiltered', hfields', hpopulate'⟩ := gather_bareLegs rest
    have hpath : leg.bare.path = leg.path := rfl
    rw [bareLegs, gatherLegs, gatherLegs]
    refine ⟨?_, ?_, ?_⟩
    · simp [Plan.append, Plan.ofLeg, Leg.filter_bare, hfiltered, hfiltered']
    · intro f
      rw [Plan.asksFor_append, Plan.asksFor_ofLeg, ← hfields, ← hfields']
      simp [Plan.append, Plan.ofLeg, Leg.filter_bare]
    · intro path
      rw [Plan.populates_append, Plan.populates_ofLeg, ← hpopulate, ← hpopulate']
      simp [Plan.append, Plan.ofLeg, Leg.filter_bare, hpath, or_assoc]

end

end Tour

/-! Plans folded into one load. -/

theorem addNew_flatMap_distinct {α β : Type} [DecidableEq α] (f : β → List α) (known : List α) (xs : List β) :
    addNew known (xs.flatMap fun x => distinct (f x)) = addNew known (xs.flatMap f) := by
  induction xs generalizing known with
  | nil => rfl
  | cons x xs ih => rw [List.flatMap_cons, List.flatMap_cons, addNew_append, addNew_append, addNew_distinct, ih]

namespace Plan

/-- The unfiltered part of a plan is what is fetched with the roots, then what the filtered loads fetch. -/
theorem unfiltered_eq (p : Plan) :
    p.unfiltered = (addNew p.fields (p.filtered.flatMap (·.fields)), addNew p.populate (p.filtered.flatMap (·.populate))) := by
  have hrun : ∀ (loads : List FilteredPopulate) (u : List String × List String),
      loads.foldl (fun u f => (addNew u.1 f.fields, addNew u.2 f.populate)) u =
        (addNew u.1 (loads.flatMap (·.fields)), addNew u.2 (loads.flatMap (·.populate))) := by
    intro loads
    induction loads with
    | nil => exact fun _ => rfl
    | cons l rest ih =>
      intro u
      rw [List.foldl_cons, ih, List.flatMap_cons, List.flatMap_cons, addNew_append, addNew_append]
  exact hrun p.filtered _

end Plan

namespace Tour

variable {tour : Tour}

/-- The plan of a tour, folded: what is gathered for the root, then what is gathered for filtered relations. -/
theorem unfiltered_plan (tour : Tour) : tour.plan.unfiltered =
    (distinct (tour.gather.fields ++ tour.gather.filtered.flatMap (·.fields)),
      distinct (tour.gather.populate ++ tour.gather.filtered.flatMap (·.populate))) := by
  rw [Plan.unfiltered_eq, distinct_eq_addNew, distinct_eq_addNew, addNew_append, addNew_append]
  rfl

theorem mem_unfiltered_fields {f : String} : f ∈ tour.plan.unfiltered.1 ↔ tour.gather.AsksFor f := by
  rw [unfiltered_plan, mem_distinct, List.mem_append, List.mem_flatMap]
  rfl

theorem mem_unfiltered_populate {path : String} : path ∈ tour.plan.unfiltered.2 ↔ tour.gather.Populates path := by
  rw [unfiltered_plan, mem_distinct, List.mem_append, List.mem_flatMap]
  rfl

/-- Among the unfiltered paths each long one has its parent before it. -/
theorem unfiltered_parents (h : tour.Rooted []) {before after : List String} {path : String}
    (he : tour.plan.unfiltered.2 = before ++ path :: after) (hlong : 1 < (Text.segments path).length) :
    parentPath path ∈ before := by
  have hpaths : ∀ l ∈ tour.legsFrom [], l.2.path = l.1.path := fun l hl => (h l hl).2
  have hfiltered : tour.gather.filtered.flatMap (·.populate) =
      (tour.stages []).flatMap fun ts => distinct (ts.map Trail.path) := by
    rw [List.flatMap_def, gather_stages tour hpaths, List.flatMap_def]
  -- The folded paths are those of the trails near the root, then of each filtered relation with those near it.
  have hfolded : tour.plan.unfiltered.2 = distinct ((tour.near [] ++ (tour.stages []).flatten).map Trail.path) := by
    calc tour.plan.unfiltered.2
        = distinct (tour.gather.populate ++ tour.gather.filtered.flatMap (·.populate)) := by rw [unfiltered_plan]
      _ = addNew (addNew [] ((tour.near []).map Trail.path))
            ((tour.stages []).flatMap fun ts => distinct (ts.map Trail.path)) := by
        rw [gather_populate tour hpaths, hfiltered, distinct_eq_addNew, addNew_append]
      _ = distinct ((tour.near []).map Trail.path ++ (tour.stages []).flatMap (·.map Trail.path)) := by
        rw [addNew_flatMap_distinct, ← addNew_append, ← distinct_eq_addNew]
      _ = _ := by rw [List.map_append, List.map_flatten, ← List.flatMap_def]
  have hordered : Ordered [[]] (tour.near [] ++ (tour.stages []).flatten) := by
    have hnear : Ordered [[]] (tour.near []) := ordered_near tour [[]] (List.mem_singleton_self _)
    refine hnear.append (ordered_stages tour _ ?_ fun u hu => List.mem_append_left _ hu)
    exact List.mem_append_right _ (List.mem_singleton_self _)
  refine hordered.parentPath_mem ?_ (hfolded ▸ he) hlong
  -- Each of these trails is that of some relation of the tour.
  intro t ht
  have hleg : ∃ leg, (t, leg) ∈ tour.legsFrom [] := by
    rcases List.mem_append.mp ht with hnear | hstage
    · exact mem_trails_of_near hnear
    · obtain ⟨ts, hts, hin⟩ := List.mem_flatten.mp hstage
      obtain ⟨here, below, rfl, hhere, hwithin⟩ := mem_stages tour hts
      rcases List.mem_cons.mp hin with rfl | hbelow
      · exact hhere
      · obtain ⟨leg, hl⟩ := mem_trails_of_near hbelow
        exact ⟨leg, hwithin _ hl⟩
  obtain ⟨leg, hl⟩ := hleg
  exact (h _ hl).1

end Tour

namespace Plan

/-- A plan folded into one load has no repetitions, and lists the fields and paths that the view has if its relations lose
the filters that the context asks for. Where the keys of relations can be told from paths, each path comes after the one of
the records that it is attached to. -/
theorem unfiltered_iff {graph : Graph} {context : Context} {sources : EntityFields} {view : View} {plan : Plan}
    (h : compile graph context .null sources "" view = .ok plan) :
    plan.unfiltered.1.Nodup ∧ plan.unfiltered.2.Nodup ∧
    (∃ bare, compile (Graph.unscoped graph) context .null sources.unscoped "" view = .ok bare ∧
      (∀ field, field ∈ plan.unfiltered.1 ↔ field ∈ bare.fields) ∧
      ∀ path, path ∈ plan.unfiltered.2 ↔ path ∈ bare.populate) ∧
    ((∀ entity f, graph entity = .ok f → f.Named) → sources.Named → ∀ before path after,
      plan.unfiltered.2 = before ++ path :: after → 1 < (Text.segments path).length → parentPath path ∈ before) := by
  -- Both plans come from one tour: the plan itself, and the bare one from the tour without its filters.
  have htour := Tour.toOption_compile graph context .null sources "" view
  rw [h] at htour
  obtain ⟨tour, hof, rfl⟩ := Option.map_eq_some_iff.mp htour.symm
  obtain ⟨_, hfields, hpopulate⟩ := tour.gather_bare
  have hbare : (compile (Graph.unscoped graph) context .null sources.unscoped "" view).toOption = some tour.bare.plan := by
    rw [Tour.toOption_compile, Tour.of?_unscoped view.normal sources "" tour hof]
    rfl
  refine ⟨?_, ?_, ⟨tour.bare.plan, Except.toOption_eq_some_iff.mp hbare, ?_, ?_⟩, ?_⟩
  · rw [Tour.unfiltered_plan]
    exact nodup_distinct _
  · rw [Tour.unfiltered_plan]
    exact nodup_distinct _
  · intro field
    rw [Tour.mem_unfiltered_fields, Tour.mem_plan_fields, hfields]
  · intro path
    rw [Tour.mem_unfiltered_populate, Tour.mem_plan_populate, hpopulate]
  · intro hgraph hsources before path after he hlong
    exact Tour.unfiltered_parents (Tour.rooted_of? hgraph view.normal sources [] tour hsources nofun hof) he hlong

def scattered : View :=
  .full ["id"] [("texts", .full ["id"] [("collection", .names [])]), ("language", .names ["id"])]

/-- The texts of collections are loaded with a filter, the languages of collections without: folded, the languages come
first and nothing is lost. -/
theorem unfiltered_iff_collections :
    ∃ (sources : EntityFields) (plan bare : Plan), Learning.registry.graph "Collection" = .ok sources ∧
      compile Learning.registry.graph ⟨.anonymous, false, []⟩ .null sources "" scattered = .ok plan ∧
      compile (Graph.unscoped Learning.registry.graph) ⟨.anonymous, false, []⟩ .null sources.unscoped "" scattered =
        .ok bare ∧
      plan.unfiltered = (["id", "language.id", "texts.id"], ["language", "texts", "texts.collection"]) ∧
      bare.fields = ["id", "texts.id", "language.id"] ∧ bare.populate = ["texts", "texts.collection", "language"] ∧
      (∀ field, field ∈ plan.unfiltered.1 ↔ field ∈ bare.fields) ∧
      (∀ path, path ∈ plan.unfiltered.2 ↔ path ∈ bare.populate) ∧
      ∀ before path after, plan.unfiltered.2 = before ++ path :: after → 1 < (Text.segments path).length →
        parentPath path ∈ before := by
  have hnamed : ∀ entity f, Learning.registry.graph entity = .ok f → f.Named := by
    intro entity f hf
    have hkeyed : f.Keyed ∧ f.Mapping ⟨.anonymous, false, []⟩ := Registry.keyed_of_declared (by decide +kernel) hf
    exact hkeyed.1.unshared.1
  obtain ⟨sources, hs⟩ : ∃ sources, Learning.registry.graph "Collection" = .ok sources := ⟨_, rfl⟩
  obtain ⟨plan, hplan, hfolded⟩ : ∃ plan,
      compile Learning.registry.graph ⟨.anonymous, false, []⟩ .null sources "" scattered = .ok plan ∧
        plan.unfiltered = (["id", "language.id", "texts.id"], ["language", "texts", "texts.collection"]) := by
    cases hs
    exact ⟨_, rfl, rfl⟩
  obtain ⟨_, _, ⟨bare, hbare, hfields, hpopulate⟩, hparents⟩ := unfiltered_iff hplan
  have hlists : bare.fields = ["id", "texts.id", "language.id"] ∧
      bare.populate = ["texts", "texts.collection", "language"] := by
    cases hs
    cases hbare
    exact ⟨rfl, rfl⟩
  exact ⟨sources, plan, bare, hs, hplan, hbare, hfolded, hlists.1, hlists.2, hfields, hpopulate,
    hparents hnamed (hnamed _ _ hs)⟩

end Plan

end EntityViews
