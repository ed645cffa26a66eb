import EntityViews.Proofs.Annotation
import EntityViews.Proofs.Narrowing
import EntityViews.Learning.Entities
import EntityViews.Learning.Sources

/-!
The scope of what a view shows. Main statement: whenever the execution of a view succeeds, every record that is attached at
the path of a relation stands for a row that meets both the filter that the context asks for and the one that is given, and
without the latter nothing less would be attached below the same parents.
-/

namespace EntityViews

open Sql

/-- Whether all records at the path of a relation stand for rows of the entity there that meet both filters on it. -/
def Leg.Holds (db : Contents) (s : Schema) (entity : String) (store : Store) (roots : List Node) (leg : Leg) : Prop :=
  ∃ found, store.recordsAt roots leg.path = .ok found ∧ ∀ n ∈ found, ∃ id target t, n = .record id ∧
    Repository.entityAt s leg.path entity (Text.segments leg.path) = .ok target ∧ t ∈ db.rows target ∧
    store.Shows id t ∧ db.Meets s target t leg.own ∧ db.Meets s target t leg.given

/-- Under keys that are not repeated there is one value for each. -/
theorem eq_of_nodup_keys {α β : Type} {l : List (α × β)} (h : (l.map (·.1)).Nodup) {a : α} {b c : β} (hb : (a, b) ∈ l)
    (hc : (a, c) ∈ l) : b = c := by
  induction l with
  | nil => cases hb
  | cons p rest ih =>
    rw [List.map_cons, List.nodup_cons] at h
    rcases List.mem_cons.mp hb with rfl | hb'
    · rcases List.mem_cons.mp hc with he | hc'
      · exact (Prod.mk.inj he).2.symm
      · exact absurd (List.mem_map.mpr ⟨_, hc', rfl⟩) h.1
    · rcases List.mem_cons.mp hc with rfl | hc'
      · exact absurd (List.mem_map.mpr ⟨_, hb', rfl⟩) h.1
      · exact ih h.2 hb' hc'

theorem Store.recordsAt_nil (store : Store) (path : String) : store.recordsAt [] path = .ok [] := by
  have hreach : ∀ keys, store.reachAll [] keys = .ok [] := by
    intro keys
    induction keys with
    | nil => rfl
    | cons key rest ih => exact ih
  rw [Store.recordsAt]
  split
  · rfl
  · rw [hreach]
    rfl

def Store.hasAt (store : Store) (roots : List Node) (path : String) (count : Nat) : Bool :=
  match store.recordsAt roots path with
  | .ok found => found.length == count
  | .error _ => false

namespace Tour

variable {db : Contents} {s : Schema} {entity : String} {store : Store} {roots : List Node}

mutual

theorem key_of_mem {t u : Trail} {leg : Leg} : (tour : Tour) → (u, leg) ∈ tour.legsFrom t →
    ∃ above, u = leg.source.populate :: above
  | mk _ legs => key_of_memOf legs

/-- Every leg ends with the key of its source. -/
theorem key_of_memOf {t u : Trail} {leg : Leg} : (legs : List (Leg × Tour)) → (u, leg) ∈ legsOf t legs →
    ∃ above, u = leg.source.populate :: above
  | [] => nofun
  | (first, tour) :: rest => by
    intro h
    rw [legsOf, List.mem_cons, List.mem_append] at h
    rcases h with h | h | h
    · cases h
      exact ⟨t, rfl⟩
    · exact key_of_mem tour h
    · exact key_of_memOf rest h

end

/-- Along every leg of a settled tour the records that are reached are linked and meet the filter of the leg. -/
theorem holds_of_settled {tour : Tour} {done : List Trail} (hlaid : tour.Laid [])
    (hdone : ∀ l ∈ tour.legsFrom [], l.1 ∈ done)
    (hs : store.Settled roots (Repository.Scoped db s entity (tour.loads []) store) done) :
    ∀ l ∈ tour.legsFrom [], l.2.Holds db s entity store roots := by
  rintro ⟨u, leg⟩ hl
  obtain ⟨hproper, hne, hpath⟩ := laid_of_mem tour hlaid hl
  obtain ⟨key, rfl⟩ := key_of_mem tour hl
  obtain ⟨found, hfound, hrecords, hmem⟩ := hs.recordsAt_ok (hdone _ hl) hproper
  refine ⟨found, hpath ▸ hfound, ?_⟩
  intro n hn
  obtain ⟨id, rfl⟩ := hrecords n hn
  obtain ⟨_, target, filter, htarget, hload, t, ht, hshows, hmeets⟩ := hs.good (hdone _ hl) ((hmem id).mp hn)
  -- No trail is loaded twice, so the filter that the records were loaded under is the one of this relation.
  obtain rfl := eq_of_nodup_keys (upcoming_loads hlaid).nodup (mem_loads hl) hload
  refine ⟨id, target, t, rfl, ?_, ht, hshows, Leg.meets hmeets⟩
  rw [hpath, Trail.segments_path hproper hne]
  exact htarget _

/-- Whether work may touch a name without touching ids or relations of a tour. -/
def Elsewhere (tour : Tour) (name : String) : Prop := name ≠ "id" ∧ ∀ l ∈ tour.legsFrom [], name ≠ l.2.source.populate

/-- Whether a store shows the relations of a tour within their filters, each as it was loaded at once for all parents. -/
def Shown (δ : Type) [Engine δ] (db : Contents) (s : Schema) (entity : String) (tour : Tour) (store : Store)
    (roots : List Node) : Prop :=
  ∀ l ∈ tour.legsFrom [], l.2.Holds db s entity store roots ∧
    Repository.Attached δ s entity roots l.2.source.populate l.1.tail l.2.loaded store

theorem shown_nil {δ : Type} [Engine δ] {tour : Tour} : tour.Shown δ db s entity store [] := by
  intro l _
  exact ⟨⟨[], store.recordsAt_nil _, nofun⟩, [], store.recordsAt_nil _, Or.inl rfl⟩

end Tour

namespace Repository

variable {δ : Type} [Engine δ] {db : Contents} {s : Schema} {entity : String} {roots : List Node} {w w' : World δ}

/-- The roots are settled before anything is loaded. -/
theorem settled_start {store : Store} {Good : Trail → Nat → Prop}
    (h : ∀ n ∈ roots, ∃ id, n = .record id ∧ id < store.records.size) : store.Settled roots Good [[]] := by
  have hempty : ∀ t ∈ ([[]] : List Trail), t = [] := fun t => List.mem_singleton.mp
  refine ⟨?_, List.mem_cons_self, ?_, ?_, ?_, ?_⟩
  · intro n hn
    obtain ⟨id, he, _⟩ := h n hn
    exact ⟨id, he⟩
  · intro t ht
    rw [hempty t ht]
    exact List.mem_cons_self
  · intro t ht id hid
    rw [hempty t ht, Store.reached_nil] at hid
    obtain ⟨i, he, hlt⟩ := h _ hid
    exact Node.record.inj he ▸ hlt
  · intro t ht u hu _ _ _
    rw [hempty t ht, hempty u hu]
  · intro key t ht
    cases hempty _ ht

/-- What the loads of a tour attached is within their filters, also after work that touches none of its relations. -/
theorem Loaded.shown (ideal : Ideal δ db) (ids : s.IntegerIds) {tour : Tour} (hlaid : tour.Laid []) {ls : List Load}
    (hls : ls.map (fun l => (l.path, l.filter)) = (tour.loads []).map fun l => (l.1.path, l.2))
    (hroots : ∀ n ∈ roots, ∃ id, n = .record id ∧ id < w.store.records.size)
    (h : Loaded s entity roots ls w w') {store : Store}
    (hk : w'.store.Keeps (fun _ name => tour.Elsewhere name) store) : tour.Shown δ db s entity store roots := by
  have hleg : ∀ u, u ∈ (tour.loads []).map (·.1) → ∃ leg, (u, leg) ∈ tour.legsFrom [] := by
    intro u hu
    obtain ⟨⟨_, leg⟩, hl, rfl⟩ := List.mem_map.mp ((Tour.loads_perm [] tour).mem_iff.mp hu)
    exact ⟨leg, hl⟩
  obtain ⟨hsettled, _, hattached⟩ := h.settled ideal ids (tour.loads []) hls (Tour.upcoming_loads hlaid) (fun _ hl => hl)
    (settled_start hroots)
  have hid : ∀ i : Nat, ¬tour.Elsewhere "id" := fun _ he => he.1 rfl
  -- Work that comes after the loads leaves the keys of all relations alone.
  have hkeys : ∀ k u, k :: u ∈ ((tour.loads []).map (·.1)).reverse ++ [[]] → ∀ i : Nat, ¬tour.Elsewhere k := by
    intro k u hu _ he
    rcases List.mem_append.mp hu with hu | hu
    · obtain ⟨leg, hl⟩ := hleg _ (List.mem_reverse.mp hu)
      obtain ⟨above, hkey⟩ := Tour.key_of_mem tour hl
      exact he.2 _ hl (List.cons.inj hkey).1
    · cases List.mem_singleton.mp hu
  have hstays := hsettled.stays_of_keeps hk hid hkeys
  have hdone : ∀ l ∈ tour.legsFrom [], l.1 ∈ ((tour.loads []).map (·.1)).reverse ++ [[]] := by
    intro l hl
    exact List.mem_append_left _ (List.mem_reverse.mpr (List.mem_map_of_mem (Tour.mem_loads hl)))
  have hholds := Tour.holds_of_settled hlaid hdone
    (hsettled.of_stays hstays fun u id hgood => hgood.keeps hk (hid id))
  rintro ⟨u, leg⟩ hl
  obtain ⟨above, rfl⟩ := Tour.key_of_mem tour hl
  obtain ⟨hp, _, _⟩ := Tour.laid_of_mem tour hlaid hl
  exact ⟨hholds _ hl, (hattached _ above leg.loaded (Tour.mem_loads hl)).stays hsettled hstays hp.above (hdone _ hl)⟩

end Repository

/-- In the language-learning domain the rows of every entity are known by integers. -/
theorem Learning.schema_integerIds : Learning.schema.IntegerIds := by
  have hcheck : Learning.schema.entities.all Entity.integerId = true := by decide +kernel
  exact fun e he => Entity.integerId_of_check (List.all_eq_true.mp hcheck e he)

namespace Execution

variable {δ : Type} {sources : EntityFields} {view overrides filter : Value} {context : Context} {w w' : World δ}

theorem plan_gives {path : String} {p : Plan} (h : Gives (plan sources view context overrides path) w p w') :
    ∃ v, View.ofValue view = .ok v ∧ Plan.compile w.registry.graph context overrides sources path v = .ok p := by
  simp only [plan, Gives.bind_iff, Gives.lift_iff, Gives.get_iff, Gives.set_iff] at h
  obtain ⟨v, _, ⟨hv, rfl⟩, _, _, ⟨rfl, rfl⟩, _, _, rfl, hp, rfl⟩ := h
  exact ⟨v, hv, hp⟩

theorem gives_plan {path : String} {v : View} {p : Plan} (hv : View.ofValue view = .ok v)
    (hp : Plan.compile w.registry.graph context overrides sources path v = .ok p) :
    ∃ m, Gives (plan sources view context overrides path) w p m := by
  simp only [plan, Gives.bind_iff, Gives.lift_iff, Gives.get_iff, Gives.set_iff]
  exact ⟨_, v, w, ⟨hv, rfl⟩, w, w, ⟨rfl, rfl⟩, ⟨⟩, _, rfl, hp, rfl⟩

/-- The plan of an execution is that of the tour of its view. -/
theorem tour_of_plan {p : Plan} (view : GivenView) (hsources : sources.Unshared)
    (hgraph : ∀ entity f, w.registry.graph entity = .ok f → f.Unshared)
    (h : Gives (plan sources view.value context overrides "") w p w') :
    ∃ v tour, View.ofValue view.value = .ok v ∧
      Tour.of? w.registry.graph context overrides sources "" v.normal = some tour ∧ tour.Laid [] ∧ p = tour.plan := by
  obtain ⟨v, hv, hcompile⟩ := plan_gives h
  have htour := Tour.toOption_compile w.registry.graph context overrides sources "" v
  rw [hcompile] at htour
  obtain ⟨tour, hof, rfl⟩ := Option.map_eq_some_iff.mp htour.symm
  exact ⟨v, tour, hv, hof, Tour.laid_of? hgraph v.normal sources [] tour hsources (view.distinct v hv) nofun hof, rfl⟩

variable [Engine δ] {s : Schema} {e : Entity} {roots : List Node} {paging : Paging}

/-- Compiles a view and runs its plan without the annotators. -/
def executeUnannotated (source : RecordSource δ) (filter overrides view : Value) (sources : EntityFields)
    (context : Context) (paging : Paging) : Run δ (List Node) := do
  let plan ← plan sources view context overrides ""
  run source { plan with annotations := [] } filter sources context paging

theorem filtered_gives {filtered : List FilteredPopulate} {u : PUnit} (hne : roots ≠ [])
    (h : Gives (filtered.forM fun f => (Repository.source s e).populate roots f.populate f.filter f.fields) w u w') :
    Repository.Loaded s e.name roots (filtered.flatMap FilteredPopulate.loads) w w' := by
  induction filtered generalizing w with
  | nil => exact .done (congrArg World.store (Gives.forM_nil_iff.mp h))
  | cons f rest ih =>
    obtain ⟨m, hf, hrest⟩ := Gives.forM_cons_iff.mp h
    exact (Repository.populate_gives hne hf).append (ih hrest)

/-- The steps of a run: the statement for the root records, the loads of the plan, the annotators. -/
theorem run_parts {p : Plan} (h : Gives (run (Repository.source s e) p filter sources context paging) w roots w') :
    ∃ (w₂ loaded : World δ),
      Gives (Repository.find s e filter (some p.fields) p.populate paging.orderBy paging.limit paging.offset) w roots w₂ ∧
      Gives (p.filtered.forM fun f => (Repository.source s e).populate roots f.populate f.filter f.fields) w₂ ⟨⟩ loaded ∧
      Gives (p.annotations.forM fun a => recordsAt sources a.path roots >>= fun targets => annotate a.annotator targets
        context) loaded ⟨⟩ w' := by
  obtain ⟨found, w₂, hfind, hrest⟩ := Gives.bind_iff.mp h
  obtain ⟨_, loaded, hfiltered, hannotate⟩ := Gives.bind_iff.mp hrest
  obtain ⟨_, w₃, hloop, hpure⟩ := Gives.bind_iff.mp hannotate
  obtain ⟨rfl, rfl⟩ := Gives.pure_iff.mp hpure
  exact ⟨w₂, loaded, hfind, hfiltered, hloop⟩

/-- A run of a plan lists its root records and then makes the loads of the plan. -/
theorem run_gives {p : Plan}
    (h : Gives (run (Repository.source s e) { p with annotations := [] } filter sources context paging) w roots w') :
    ∃ w₁ : World δ, (∀ n ∈ roots, ∃ id, n = .record id ∧ id < w₁.store.records.size) ∧
      (roots ≠ [] → Repository.Loaded s e.name roots p.loads w₁ w') := by
  obtain ⟨w₂, loaded, hfind, hfiltered, hloop⟩ := run_parts h
  obtain rfl := Gives.forM_nil_iff.mp hloop
  obtain ⟨_, _, w₁, _, hfetch, hloaded⟩ := Repository.find_parts hfind
  refine ⟨w₁, fetchRecords_new hfetch, ?_⟩
  intro hne
  exact (hloaded hne).append (filtered_gives hne hfiltered)

/-- An execution does what it does without annotators; then these touch their own fields. -/
theorem unannotated_of_execute
    (h : Gives (execute (Repository.source s e) filter overrides view sources context paging) w roots w') :
    ∃ v p, View.ofValue view = .ok v ∧ Plan.compile w.registry.graph context overrides sources "" v = .ok p ∧
      ∃ loaded, Gives (executeUnannotated (Repository.source s e) filter overrides view sources context paging) w roots
        loaded ∧ loaded.store.Keeps (fun _ name => ∃ a ∈ p.annotations, a.annotator.field = name) w'.store := by
  obtain ⟨p, m, hplan, hrun⟩ := Gives.bind_iff.mp h
  obtain ⟨v, hv, hcompile⟩ := plan_gives hplan
  obtain ⟨w₂, loaded, hfind, hfiltered, hloop⟩ := run_parts hrun
  refine ⟨v, p, hv, hcompile, loaded, ?_, ?_⟩
  · exact Gives.bind_iff.mpr ⟨p, m, hplan, Gives.bind_iff.mpr ⟨roots, w₂, hfind, Gives.bind_iff.mpr ⟨⟨⟩, loaded, hfiltered,
      Gives.bind_iff.mpr ⟨⟨⟩, loaded, Gives.forM_nil_iff.mpr rfl, Gives.pure_iff.mpr ⟨rfl, rfl⟩⟩⟩⟩⟩
  · refine Gives.forM_keeps (P := fun m => loaded.store.Keeps _ m.store) hloop ?_ (.refl _)
    intro a ha m m' hm hstep
    have G := Run.guarantee_keeps (δ := δ) fun _ name => ∃ a ∈ p.annotations, a.annotator.field = name
    have hown : Run.Within _ (recordsAt sources a.path roots >>= fun targets => annotate a.annotator targets context) :=
      G.bind (within_recordsAt G) fun _ _ => within_annotate G fun _ _ => ⟨a, ha, rfl⟩
    exact hm.trans (hown.of_gives hstep)

/-- Whether the fields of an execution are as they are declared: relations are keyed by the names of their fields, and what
the context asks for are maps. -/
def Declared (graph : Graph) (context : Context) (sources : EntityFields) : Prop :=
  (sources.Keyed ∧ sources.Mapping context) ∧ ∀ entity f, graph entity = .ok f → f.Keyed ∧ f.Mapping context

/-- An execution without annotators goes along the tour of its view, and shows its relations. -/
theorem shown_of_unannotated {db : Contents} (view : GivenView) (ideal : Ideal δ db) (ids : s.IntegerIds)
    (hdeclared : Declared w.registry.graph context sources) (hoverrides : Plan.Mapping overrides)
    (h : Gives (executeUnannotated (Repository.source s e) filter overrides view.value sources context paging) w roots w') :
    ∃ v tour, View.ofValue view.value = .ok v ∧
      Tour.of? w.registry.graph context overrides sources "" v.normal = some tour ∧ tour.Laid [] ∧
      ∀ store, w'.store.Keeps (fun _ name => tour.Elsewhere name) store → tour.Shown δ db s e.name store roots := by
  obtain ⟨⟨hkeyed, hmapping⟩, hgraph⟩ := hdeclared
  obtain ⟨p, m, hplan, hrun⟩ := Gives.bind_iff.mp h
  obtain ⟨v, tour, hv, hof, hlaid, rfl⟩ :=
    tour_of_plan view hkeyed.unshared (fun entity f hf => (hgraph entity f hf).1.unshared) hplan
  have hmapped : tour.Mapped [] :=
    Tour.mapped_of? (fun entity f hf => (hgraph entity f hf).2) hoverrides hmapping hof
  refine ⟨v, tour, hv, hof, hlaid, ?_⟩
  intro store hk
  obtain ⟨w₁, hroots, hloaded⟩ := run_gives hrun
  by_cases hne : roots = []
  · rw [hne]
    exact Tour.shown_nil
  · exact (hloaded hne).shown ideal ids hlaid (Tour.plan_loads hlaid hmapped) hroots hk

/-- Whether a store has below some parents at most what any execution has there in which nothing is given for a relation,
all else being as it may. -/
def NarrowedBy (δ : Type) [Engine δ] (s : Schema) (e : Entity) (graph : Graph) (view : Value) (sources : EntityFields)
    (context : Context) (store : Store) (roots : List Node) (trail : Trail) (leg : Leg) : Prop :=
  ∀ (filter overrides : Value) (paging : Paging) (w w' : World δ) (roots' : List Node), w.registry.graph = graph →
    Plan.Mapping overrides → (∀ g, Plan.override overrides leg.path = .ok g → g.isPresent = false) →
    Gives (executeUnannotated (Repository.source s e) filter overrides view sources context paging) w roots' w' →
    store.Narrower w'.store roots roots' (Trail.path trail.tail) leg.source.populate

/-- Whatever the execution of a view attaches at the path of a relation meets both filters on it. To give a filter for a
relation to many never attaches a record that would not be attached without it. -/
theorem execute_scoped {db : Contents} (view : GivenView) (ideal : Ideal δ db) (ids : s.IntegerIds)
    (hdeclared : Declared w.registry.graph context sources) (hoverrides : Plan.Mapping overrides)
    (h : Gives (execute (Repository.source s e) filter overrides view.value sources context paging) w roots w') :
    ∃ v tour loaded, View.ofValue view.value = .ok v ∧
      Tour.of? w.registry.graph context overrides sources "" v.normal = some tour ∧
      Gives (executeUnannotated (Repository.source s e) filter overrides view.value sources context paging) w roots loaded ∧
      loaded.store.Keeps (fun _ name => ∃ a ∈ tour.plan.annotations, a.annotator.field = name) w'.store ∧
      ∀ store, store = loaded.store ∨
          (store = w'.store ∧ ∀ a ∈ tour.plan.annotations, tour.Elsewhere a.annotator.field) →
        ∀ l ∈ tour.legsFrom [], Plan.contextFilter context l.2.source = .ok l.2.own ∧
          Plan.override overrides l.2.path = .ok l.2.given ∧ l.2.Holds db s e.name store roots ∧
          (s.ToMany e.name l.2.source.populate l.1.tail →
            NarrowedBy δ s e w.registry.graph view.value sources context store roots l.1 l.2) := by
  obtain ⟨v, p, hv, hcompile, loaded, hloaded, hkeeps⟩ := unannotated_of_execute h
  obtain ⟨v', tour, hv', hof, hlaid, hshown⟩ := shown_of_unannotated view ideal ids hdeclared hoverrides hloaded
  obtain rfl := Except.ok.inj (hv.symm.trans hv')
  have hplan : p = tour.plan := by
    have htour := Tour.toOption_compile w.registry.graph context overrides sources "" v
    rw [hcompile, hof] at htour
    exact Option.some.inj htour
  subst hplan
  refine ⟨v, tour, loaded, hv, hof, hloaded, hkeeps, ?_⟩
  intro store hstore l hl
  -- Either the annotators have not run yet, or their fields have the names of no relation.
  have hk : loaded.store.Keeps (fun _ name => tour.Elsewhere name) store := by
    rcases hstore with rfl | ⟨rfl, hfields⟩
    · exact .refl _
    · refine hkeeps.mono ?_
      rintro _ name ⟨a, ha, rfl⟩
      exact hfields a ha
  obtain ⟨u, leg⟩ := l
  obtain ⟨_, hown, hgiven⟩ := Tour.filters_of? v.normal sources "" tour hof hl
  obtain ⟨hholds, hattached⟩ := hshown store hk _ hl
  refine ⟨hown, hgiven, hholds, ?_⟩
  -- The other execution goes along the same relation, loaded there under the filter of the context alone.
  intro hmany filter' overrides' paging' w₁ w₁' roots' hgraph hoverrides' habsent h'
  rw [← hgraph] at hdeclared
  obtain ⟨v', tour', hv', hof', _, hshown'⟩ := shown_of_unannotated view ideal ids hdeclared hoverrides' h'
  obtain rfl := Except.ok.inj (hv.symm.trans hv')
  rw [hgraph] at hof'
  obtain ⟨given', hl'⟩ := Tour.mem_legsFrom_of_overrides v.normal sources "" tour tour' hof hof' hl
  obtain ⟨_, _, hgiven'⟩ := Tour.filters_of? v.normal sources "" tour' hof' hl'
  obtain ⟨_, hattached'⟩ := hshown' w₁'.store (.refl _) _ hl'
  exact hattached.narrower ideal ids hattached' rfl (habsent given' hgiven') hmany

def threeTexts : Contents := .ofTables [
  ("Collection", [.ofCells [("id", .int 1), ("isPublic", .int 1)]]),
  ("Text", [.ofCells [("id", .int 10), ("languageId", .int 3), ("collectionId", .int 1)],
    .ofCells [("id", .int 11), ("languageId", .int 4), ("collectionId", .int 1)],
    .ofCells [("id", .int 12), ("languageId", .int 3)]])]

def withTexts : Value := .map [(.text "relations", .map [(.text "texts", .list [])])]

def inThirdLanguage : Value :=
  .map [(.text "$or", .list [.map [(.text "$not", .map [(.text "language", .map [(.text "$ne", .int 3)])])]])]

def collectionSources : EntityFields := (Learning.registry.graph "Collection").toOption.getD ⟨"", []⟩

def publicly : Context := ⟨.anonymous, false, []⟩

/-- Of the two texts in the collection the one in the third language is attached if this is asked for; both meet the filter
for the viewer, and without the other filter it is attached as well. -/
theorem execute_scoped_inThirdLanguage :
    ∃ (roots found : List Node) (w' : World (Snapshot threeTexts)),
      Gives (execute (Repository.source Learning.schema Learning.collection) .null
        (.map [(.text "texts", inThirdLanguage)]) withTexts collectionSources publicly ⟨.null, none, none⟩)
        (.start ⟨⟩ Learning.registry) roots w' ∧
      w'.store.recordsAt roots "texts" = .ok found ∧ found.length = 1 ∧
      (∀ n ∈ found, ∃ id t, n = .record id ∧ t ∈ threeTexts.rows "Text" ∧ w'.store.Shows id t ∧
        threeTexts.Meets Learning.schema "Text" t (Learning.textVisibility .anonymous) ∧
        threeTexts.Meets Learning.schema "Text" t inThirdLanguage) ∧
      ∃ (roots' : List Node) (w'' : World (Snapshot threeTexts)),
        Gives (executeUnannotated (Repository.source Learning.schema Learning.collection) .null .null withTexts
          collectionSources publicly ⟨.null, none, none⟩) (.start ⟨⟩ Learning.registry) roots' w'' ∧
        w'.store.Narrower w''.store roots roots' "" "texts" := by
  have hview : View.ofValue withTexts = .ok (.full [] [("texts", .names [])]) := by
    with_unfolding_all rfl
  have htour : Tour.of? Learning.registry.graph publicly (.map [(.text "texts", inThirdLanguage)]) collectionSources ""
      (View.normal (.full [] [("texts", .names [])])) = some (.mk [] [(⟨⟨"texts", "Text", .toMany,
        some Learning.visibleInContext⟩, "texts", Learning.textVisibility .anonymous, inThirdLanguage⟩, .mk [] [])]) := rfl
  have hdeclared : Declared Learning.registry.graph publicly collectionSources := by
    refine ⟨EntityFields.keyed_of_declared (by decide +kernel), ?_⟩
    intro entity f hf
    exact Registry.keyed_of_declared (r := Learning.registry) (by decide +kernel) hf
  have hmapping : Plan.Mapping (.map [(.text "texts", inThirdLanguage)]) := by
    refine Plan.mapping_of_entries ?_
    intro e he _
    rw [List.mem_singleton.mp he]
    exact ⟨_, rfl⟩
  have hdistinct : ∀ v, View.ofValue withTexts = .ok v → v.normal.Distinct := by
    intro v hv
    obtain rfl := Except.ok.inj (hv.symm.trans hview)
    exact ⟨trivial, fun r hr => absurd hr List.not_mem_nil, trivial⟩
  obtain ⟨roots, w', h, hcheck⟩ : ∃ (roots : List Node) (w' : World (Snapshot threeTexts)),
      Gives (execute (Repository.source Learning.schema Learning.collection) .null
        (.map [(.text "texts", inThirdLanguage)]) withTexts collectionSources publicly ⟨.null, none, none⟩)
        (.start ⟨⟩ Learning.registry) roots w' ∧
      w'.store.hasAt roots "texts" 1 = true :=
    Gives.of_check (by decide +kernel)
  obtain ⟨roots', w'', h', _⟩ : ∃ (roots' : List Node) (w'' : World (Snapshot threeTexts)),
      Gives (executeUnannotated (Repository.source Learning.schema Learning.collection) .null .null withTexts
        collectionSources publicly ⟨.null, none, none⟩) (.start ⟨⟩ Learning.registry) roots' w'' ∧
      (fun (_ : List Node) (_ : World (Snapshot threeTexts)) => true) roots' w'' = true :=
    Gives.of_check (by decide +kernel)
  obtain ⟨v, tour, loaded, hv, hof, _, _, hall⟩ :=
    execute_scoped ⟨withTexts, hdistinct⟩ (ideal_snapshot threeTexts) Learning.schema_integerIds hdeclared hmapping h
  obtain rfl := Except.ok.inj (hv.symm.trans hview)
  obtain rfl := Option.some.inj (hof.symm.trans htour)
  obtain ⟨_, _, ⟨found, hfound, hrecords⟩, hnarrow⟩ :=
    hall w'.store (Or.inr ⟨rfl, fun a ha => absurd ha List.not_mem_nil⟩) _ List.mem_cons_self
  refine ⟨roots, found, w', h, hfound, ?_, ?_, roots', w'', h', ?_⟩
  · rw [Store.hasAt, hfound] at hcheck
    exact beq_iff_eq.mp hcheck
  · intro n hn
    obtain ⟨id, target, t, hn, htarget, ht, hshows, hown, hgiven⟩ := hrecords n hn
    obtain rfl : target = "Text" := Except.ok.inj (htarget.symm.trans rfl)
    exact ⟨id, t, hn, ht, hshows, hown, hgiven⟩
  · have hmany : Learning.schema.ToMany "Collection" "texts" [] := ⟨"Collection", _, rfl, rfl, rfl⟩
    refine hnarrow hmany .null .null ⟨.null, none, none⟩ _ w'' roots' rfl ?_ ?_ h'
    · intro path v hv hpresent
      cases hv
      cases hpresent
    · intro g hg
      cases hg
      rfl

end Execution

end EntityViews
