import EntityViews.Proofs.Paging
import EntityViews.Proofs.Resolution
import EntityViews.Proofs.Scope

/-!
What the execution of a view exposes. Main statement: whenever it succeeds, the records along every trail of the view have
just the keys that the view has there, and the statements that were asked on the way select nothing else.
-/

namespace EntityViews

open Sql

def RelationSource.Holds (r : RelationSource) (n : Node) : Prop :=
  match r.cardinality with
  | .toOne => n.IsOne
  | .toMany => n.IsMany
  | .other _ => False

/-- Whether the records at a trail have just the keys of a level, and its relations what they lead to. -/
def Level.Shown (l : Level) (store : Store) (roots : List Node) (t : Trail) : Prop :=
  ∃ found, store.recordsAt roots t.path = .ok found ∧ ∀ n ∈ found, ∃ id, n = .record id ∧ store.HasKeys id l.HasKey ∧
    ∀ key r, l.Relates key → l.sources.source? key = some (.relation r) →
      ∃ value, store.get? id (.text key) = some value ∧ r.Holds value

namespace Store

variable {s : Store} {sch : Schema} {graph : Graph} {root l : Level} {roots : List Node} {done known : List Trail}

/-- Before anything is loaded onto the root records, these have what their level gets. -/
theorem shaped_start (h : ∀ n ∈ roots, ∃ id, n = .record id ∧ id < s.records.size ∧ s.HasKeys id root.Gets) :
    s.Shaped roots (Level.at? sch graph root) [[]] [[]] := by
  refine ⟨Repository.settled_start fun n hn => ?_, ?_, ?_⟩
  · obtain ⟨id, he, hlt, _⟩ := h n hn
    exact ⟨id, he, hlt⟩
  · intro t ht l hl id hid
    obtain rfl := List.mem_singleton.mp ht
    cases hl
    obtain ⟨i, he, _, hkeys⟩ := h _ (reached_nil.mp hid)
    cases he
    exact HasNames.congr hkeys fun name => by simp
  · intro key t ht
    cases List.mem_singleton.mp ht

/-- Where every trail of a view has the shape of its level, each level is shown. -/
theorem Shaped.shown (h : s.Shaped roots (Level.at? sch graph root) done known) (fits : root.Fits sch)
    (covers : sch.Covers graph) (hdone : ∀ u, u ∈ done ↔ ∃ l, Level.at? sch graph root u = some l) {t : Trail}
    (hl : Level.at? sch graph root t = some l)
    (hbelow : ∀ name, l.Relates name → ∃ below, Level.at? sch graph root (name :: t) = some below)
    (hknown : ∀ name, name :: t ∈ known ↔ l.Relates name ∨ l.Annotates name) : l.Shown s roots t := by
  obtain ⟨hfits, hproper⟩ := fits.at? covers hl
  obtain ⟨found, hfound, hrecords, hmem⟩ := h.settled.recordsAt_ok ((hdone t).mpr ⟨l, hl⟩) hproper
  refine ⟨found, hfound, ?_⟩
  intro n hn
  obtain ⟨id, rfl⟩ := hrecords n hn
  have hid := (hmem id).mp hn
  refine ⟨id, rfl, HasNames.congr (h.keys t ((hdone t).mpr ⟨l, hl⟩) l hl id hid) fun name => or_congr_right (hknown name), ?_⟩
  intro key r hkey hr
  -- The level below was come to by the relation of the schema, which says to how many records it leads.
  obtain ⟨below, hat⟩ := hbelow key hkey
  obtain ⟨parent, hparent, hstep⟩ := Level.at?_cons.mp hat
  obtain rfl := Option.some.inj (hl.symm.trans hparent)
  obtain ⟨_, _, _, relation, _, _, _, _, hrelation, _, rfl⟩ := Level.below?_eq_some_iff.mp hstep
  obtain ⟨value, hvalue, hholds⟩ := h.values key t ((hdone _).mpr ⟨_, hat⟩) _ relation.link hat rfl id hid
  refine ⟨value, hvalue, ?_⟩
  obtain ⟨_, relation', hrelation', _, hkind⟩ := hfits.relations key r hr
  obtain rfl := Option.some.inj (hrelation.symm.trans hrelation')
  unfold Link.Holds at hholds
  rw [RelationSource.Holds, hkind]
  by_cases hone : relation.link.isToOne
  · rw [if_pos hone] at hholds ⊢
    exact hholds
  · rw [if_neg hone] at hholds ⊢
    exact hholds

end Store

/-- The fields that views of the domain may ask for are those of its schema. -/
theorem Learning.schema_covers : Learning.schema.Covers Learning.registry.graph :=
  Registry.covers_of_fitted (by decide +kernel)

namespace Execution

variable {δ : Type} [Engine δ] {s : Schema} {graph : Graph} {root l : Level} {roots : List Node}
  {done known : List Trail} {context : Context} {w w' : World δ}

/-! Annotators. -/

section Annotate

variable (fits : root.Fits s) (covers : s.Covers graph)
include fits covers

/-- An annotation gives the records at its path the field of its annotator. -/
theorem annotate_shaped {a : Annotation} {t : Trail} {u : PUnit} (hl : Level.at? s graph root t = some l)
    (hpath : a.path = t.path) (ht : t ∈ done) (hfield : a.annotator.field :: t ∉ done)
    (hgraph : ∀ name f, graph name = .ok f → w.registry.graph name = .ok f)
    (hs : w.store.Shaped roots (Level.at? s graph root) done known)
    (h : Gives (recordsAt root.sources a.path roots >>= fun targets => annotate a.annotator targets context) w u w') :
    w'.store.Shaped roots (Level.at? s graph root) done ((a.annotator.field :: t) :: known) := by
  obtain ⟨found, m, hat, hannotate⟩ := Gives.bind_iff.mp h
  simp only [recordsAt, Gives.bind_iff, Gives.get_iff, Gives.set_iff, Gives.lift_iff] at hat
  obtain ⟨_, _, ⟨rfl, rfl⟩, _, _, rfl, hfound, rfl⟩ := hat
  rw [hpath] at hfound
  obtain ⟨_, hmem⟩ := hs.resolve_ok fits covers hgraph hl ht hfound
  -- The annotator touches its own field of these records only, and sets it on all of them.
  let touched : Nat → String → Prop := fun i name => name = a.annotator.field ∧ .record i ∈ found
  have hown : ∀ id, Node.record id ∈ found → touched id a.annotator.field := fun _ hid => ⟨rfl, hid⟩
  have hkeeps := (within_annotate (Run.guarantee_keeps touched) hown).of_gives hannotate
  have hextends := (within_annotate (Store.guarantee_extends touched) hown).of_gives hannotate
  have hset := sets_annotate a.annotator _ _ hannotate
  exact hs.annotate ht hfield hmem hkeeps hextends hset

/-- All annotations give the records at their paths the fields of their annotators. -/
theorem annotations_shaped {u : PUnit} (as : List Annotation)
    (hown : ∀ a ∈ as, ∃ t l, Level.at? s graph root t = some l ∧ a.path = t.path ∧ t ∈ done ∧ a.annotator.field :: t ∉ done)
    (hgraph : ∀ name f, graph name = .ok f → w.registry.graph name = .ok f)
    (hs : w.store.Shaped roots (Level.at? s graph root) done known)
    (h : Gives (as.forM fun a => recordsAt root.sources a.path roots >>= fun targets => annotate a.annotator targets
      context) w u w') :
    ∃ filled, w'.store.Shaped roots (Level.at? s graph root) done (filled ++ known) ∧ ∀ name t, Trail.Proper t →
      (name :: t ∈ filled ↔ ∃ a ∈ as, a.path = t.path ∧ a.annotator.field = name) := by
  induction as generalizing w known with
  | nil =>
    obtain rfl := Gives.forM_nil_iff.mp h
    exact ⟨[], hs, by simp⟩
  | cons a rest ih =>
    obtain ⟨m, hfirst, hrest⟩ := Gives.forM_cons_iff.mp h
    obtain ⟨t, l, hl, hpath, ht, hfield⟩ := hown a List.mem_cons_self
    have hstep := annotate_shaped fits covers hl hpath ht hfield hgraph hs hfirst
    have G := Run.guarantee_built (δ := δ)
    have hbuilt := (G.bind (within_recordsAt G) fun targets _ => within_annotate G fun _ _ => trivial).of_gives hfirst
    obtain ⟨filled, hshaped, hfilled⟩ := ih (fun b hb => hown b (List.mem_cons_of_mem _ hb))
      (fun name f hf => hbuilt name f (hgraph name f hf)) hstep hrest
    refine ⟨filled ++ [a.annotator.field :: t], ?_, ?_⟩
    · rwa [List.append_assoc]
    · intro name v hv
      -- Proper trails are told apart by their paths.
      have hsame : name :: v = a.annotator.field :: t ↔ a.path = Trail.path v ∧ a.annotator.field = name := by
        rw [List.cons.injEq, hpath, and_comm, eq_comm (a := name)]
        exact and_congr_left' ⟨fun he => he ▸ rfl, fun he => (Trail.path_injective (fits.at? covers hl).2 hv he).symm⟩
      rw [List.mem_append, List.mem_singleton, hfilled name v hv, hsame]
      simp only [List.mem_cons, exists_eq_or_imp]
      exact or_comm

end Annotate

/-! Executions. -/

section Run

variable {tour : Tour} {overrides filter : Value} {paging : Paging} (fits : root.Fits s) (covers : s.Covers graph)
  (hof : Tour.of? graph context overrides root.sources "" root.view = some tour) (hview : root.view.Distinct)
  (hlaid : tour.Laid [])
include fits covers hof hview hlaid

omit hlaid in
/-- The statement of a plan for the root records gives these what the root gets. -/
theorem find_shaped (labelled : Labelled δ) (hlink : root.link = none) {sel : Select}
    (hsel : Run.Yields (Repository.rootStatement s root.entity filter (some tour.plan.fields) paging.orderBy paging.limit
      paging.offset : Run δ Select) sel) (h : Gives (fetchRecords root.entity sel) w roots w') :
    w'.store.Shaped roots (Level.at? s graph root) [[]] [[]] := by
  obtain ⟨hlists, _⟩ := Repository.rootStatement_yields hsel
  obtain ⟨_, hgets⟩ := Level.asks_root hlink (Level.mem_ownFields_iff fits covers hof hview fun f => Tour.mem_plan_fields) hlists
  refine Store.shaped_start fun n hn => ?_
  obtain ⟨id, he, hnew, hkeys⟩ := (fetchRecords_fresh labelled h).1 n hn
  refine ⟨id, he, hnew.2, HasNames.congr hkeys fun name => ?_⟩
  rw [hlists.labels, ← hgets]
  simp

/-- The loads of a plan give the records along the trails of the view what its levels get. -/
theorem loads_shaped (labelled : Labelled δ) (hs : w.store.Shaped roots (Level.at? s graph root) [[]] [[]])
    (h : Repository.Loaded s root.entity.name roots tour.plan.loads w w') :
    ∃ done, w'.store.Shaped roots (Level.at? s graph root) done done ∧
      ∀ t, t ∈ done ↔ ∃ l, Level.at? s graph root t = some l := by
  have hloads : ∀ t, t ∈ (tour.loads []).map (·.1) ↔ t ≠ [] ∧ ∃ l, Level.at? s graph root t = some l :=
    fun t => Level.mem_loads_iff fits covers hof hview hlaid
  have hpaths : tour.plan.loads.map (·.path) = ((tour.loads []).map (·.1)).map Trail.path := by
    rw [Tour.plan_paths hlaid, List.map_map]
    rfl
  refine ⟨((tour.loads []).map (·.1)).reverse ++ [[]], ?_, ?_⟩
  · refine h.shaped labelled _ hpaths (Tour.upcoming_loads hlaid) ?_ hs
    intro load hload
    obtain ⟨key, above, l, hl, hpath, hwants⟩ := Level.level_of_load fits covers hof hview hlaid hload
    exact ⟨key :: above, (fits.at? covers hl).2, hpath, l, hl, hwants⟩
  · intro t
    rw [List.mem_append, List.mem_reverse, hloads, List.mem_singleton]
    by_cases ht : t = []
    · subst ht
      simp [Level.at?]
    · simp [ht]

/-- A run of the plan of a view shows the records at each of its levels. -/
theorem run_shown (labelled : Labelled δ) (hlink : root.link = none)
    (hgraph : ∀ name f, graph name = .ok f → w.registry.graph name = .ok f)
    (h : Gives (run (Repository.source s root.entity) tour.plan filter root.sources context paging) w roots w') {t : Trail}
    (hl : Level.at? s graph root t = some l) : l.Shown w'.store roots t := by
  by_cases hne : roots = []
  · rw [hne]
    exact ⟨[], w'.store.recordsAt_nil _, nofun⟩
  obtain ⟨w₂, loaded, hfind, hfiltered, hloop⟩ := run_parts h
  -- What is built of the fields on the way stays as it was when the plan was made.
  have G := Run.guarantee_built (δ := δ)
  have hfound := (Repository.within_find G (fun _ _ _ => trivial) (fun _ _ => trivial) fun _ _ _ _ => trivial).of_gives hfind
  have hpopulated := (G.forM tour.plan.filtered fun f _ =>
    Repository.within_populate G (fun _ _ _ => trivial) fun _ _ _ _ => trivial).of_gives hfiltered
  obtain ⟨sel, m, w₁, hsel, hfetch, hfirst⟩ := Repository.find_parts hfind
  have hstart := find_shaped fits covers hof hview labelled hlink hsel hfetch
  obtain ⟨done, hshaped, hdone⟩ :=
    loads_shaped fits covers hof hview hlaid labelled hstart ((hfirst hne).append (filtered_gives hne hfiltered))
  have hrelates : ∀ u l', Level.at? s graph root u = some l' → ∀ name, name :: u ∈ done ↔ l'.Relates name :=
    fun u l' hu name => (hdone _).trans (Level.below_iff_relates fits covers hof hu name)
  -- What an annotator fills in is no relation.
  have hown : ∀ a ∈ tour.plan.annotations, ∃ u l', Level.at? s graph root u = some l' ∧ a.path = u.path ∧ u ∈ done ∧
      a.annotator.field :: u ∉ done := by
    intro a ha
    obtain ⟨u, l', hu, hpath, hannotates⟩ := Level.level_of_annotation fits covers hof hview ha
    exact ⟨u, l', hu, hpath, (hdone u).mpr ⟨l', hu⟩, fun hm => hannotates.not_relates ((hrelates u l' hu _).mp hm)⟩
  obtain ⟨filled, hfinal, hfilled⟩ := annotations_shaped fits covers tour.plan.annotations hown
    (fun name f hf => hpopulated name f (hfound name f (hgraph name f hf))) hshaped hloop
  refine hfinal.shown fits covers hdone hl (fun name hname => (hdone _).mp ((hrelates t l hl name).mpr hname)) ?_
  intro name
  rw [List.mem_append, hfilled name t (fits.at? covers hl).2, Level.annotates_iff fits covers hof hview hl,
    hrelates t l hl, or_comm]

omit [Engine δ] in
/-- The statement of a load asks for the fields of some level. -/
theorem asks_of_load {load : Load} (hload : load ∈ tour.plan.loads) {sel : Select}
    (hsel : Repository.Asks s root.entity.name (some load.fields) load.path sel) :
    ∃ t l, Level.at? s graph root t = some l ∧ l.Asks sel := by
  obtain ⟨key, above, l, hl, hpath, hwants⟩ := Level.level_of_load fits covers hof hview hlaid hload
  have hproper := (fits.at? covers hl).2
  obtain ⟨parent, relation, target, hparent, hrelation, htarget, hasks⟩ := hsel
  rw [hpath] at hparent hrelation hasks hwants
  rw [Trail.splitLast_path hproper] at hparent hrelation
  rw [Trail.keys_path hproper.above] at hparent
  obtain ⟨sources, view, rfl⟩ := Level.eq_of_relation hl hparent hrelation htarget
  exact ⟨key :: above, _, hl, Level.asks_of_load hwants hasks⟩

/-- A run of the plan of a view asks only for what its levels select. -/
theorem run_asks (hlink : root.link = none) : Run.Within
    (fun w w' => ∃ asked, w'.selects = w.selects ++ asked ∧ ∀ q ∈ asked, ∃ t l, Level.at? s graph root t = some l ∧ l.Asks q)
    (run (Repository.source s root.entity) tour.plan filter root.sources context paging : Run δ (List Node)) := by
  have G := Run.guarantee_asksOnly (δ := δ) fun q => ∃ t l, Level.at? s graph root t = some l ∧ l.Asks q
  refine within_run G (fun _ _ _ => trivial) ?_ ?_ ?_
  · intro sel hsel
    have hroot := Level.asks_root hlink (Level.mem_ownFields_iff fits covers hof hview fun f => Tour.mem_plan_fields) hsel
    exact ⟨[], root, rfl, hroot.1⟩
  · intro path hpath sel hsel
    have hload : ⟨path, .null, tour.plan.fields⟩ ∈ tour.plan.loads :=
      List.mem_append_left _ (List.mem_map.mpr ⟨path, Repository.mem_parentsFirst.mpr hpath, rfl⟩)
    exact asks_of_load fits covers hof hview hlaid hload hsel
  · intro f hf path hpath sel hsel
    obtain ⟨load, hload, rfl, hown⟩ : ∃ load ∈ f.loads, load.path = path ∧ load.fields = f.fields :=
      ⟨_, List.mem_map.mpr ⟨path, Repository.mem_parentsFirst.mpr hpath, rfl⟩, rfl, rfl⟩
    rw [← hown] at hsel
    exact asks_of_load fits covers hof hview hlaid (List.mem_append_right _ (List.mem_flatMap.mpr ⟨f, hf, hload⟩)) hsel

end Run

variable {e : Entity} {sources : EntityFields} {overrides filter : Value} {paging : Paging}

/-- Whenever the execution of a view succeeds, the records along every trail of the view have just the keys of its level,
and every statement for records selects just the fields of some level. -/
theorem execute_exposes (view : GivenView) (labelled : Labelled δ) (fits : sources.Fits s e)
    (covers : s.Covers w.registry.graph)
    (h : Gives (execute (Repository.source s e) filter overrides view.value sources context paging) w roots w') :
    ∃ v, View.ofValue view.value = .ok v ∧
      (∀ t level, Level.at? s w.registry.graph ⟨e, none, sources, v.normal⟩ t = some level →
        (∀ key, level.Relates key → ∃ below, Level.at? s w.registry.graph ⟨e, none, sources, v.normal⟩ (key :: t) = some below) ∧
        level.Shown w'.store roots t) ∧
      ∃ asked, w'.selects = w.selects ++ asked ∧ ∀ q ∈ asked, ∃ t level,
        Level.at? s w.registry.graph ⟨e, none, sources, v.normal⟩ t = some level ∧ level.Asks q := by
  obtain ⟨p, m, hplan, hrun⟩ := Gives.bind_iff.mp h
  obtain ⟨v, tour, hv, hof, hlaid, rfl⟩ :=
    tour_of_plan view fits.keyed.unshared (fun entity f hf => (covers entity f hf).elim fun _ h => h.2.keyed.unshared) hplan
  have hdistinct := view.distinct v hv
  have hroot : (Level.mk e none sources v.normal).Fits s := fits
  have G := Run.guarantee_asksOnly (δ := δ) fun q => ∃ t level,
    Level.at? s w.registry.graph ⟨e, none, sources, v.normal⟩ t = some level ∧ level.Asks q
  refine ⟨v, hv, ?_, ?_⟩
  · intro t level hl
    refine ⟨fun key => (Level.below_iff_relates hroot covers hof hl key).mpr, ?_⟩
    have hbuilt := (within_plan Run.guarantee_built).of_gives hplan
    exact run_shown hroot covers hof hdistinct hlaid labelled rfl hbuilt hrun hl
  · have hasked := (run_asks hroot covers hof hdistinct hlaid rfl).of_gives hrun
    exact G.trans none ((within_plan G).of_gives hplan) hasked

def withLevels : Value := .map [(.text "relations", .map [
  (.text "texts", .list [.text "level", .text "isBookmarked"]), (.text "language", .list [])])]

def textLevel : Level :=
  ⟨Learning.text, some (.oneToMany "collectionId"), (Learning.registry.graph "Text").toOption.getD ⟨"", []⟩,
    .mk ["level", "isBookmarked"] []⟩

/-- The keys of texts at this level, in full. -/
theorem textLevel_hasKey_iff (name : String) : textLevel.HasKey name ↔
    name ∈ ["id", "languageId", "addedById", "collectionId", "level", "isBookmarked"] := by
  let names := ["id", "languageId", "addedById", "collectionId", "level", "isBookmarked"]
  have hkeys : ∀ r ∈ Learning.text.relations, ∀ key ∈ r.link.sourceKey?, key ∈ names := by decide
  have hfields : ∀ field ∈ textLevel.view.fields, field ∈ names := by decide
  have hdrops : ¬textLevel.Drops name := by simp [textLevel, Level.Drops, Link.isThrough]
  constructor
  · rintro (⟨rfl | ⟨r, hr, hkey⟩ | ⟨hname, _⟩ | ⟨link, hlink, hkey⟩, _⟩ | ⟨⟨view, hview⟩, _⟩ | ⟨hname, _⟩)
    · exact .head _
    · exact hkeys r hr name hkey
    · exact hfields name hname
    · cases hlink
      cases hkey
      decide
    · cases hview
    · exact hfields name hname
  · intro hname
    simp only [List.mem_cons, List.not_mem_nil, or_false] at hname
    rcases hname with rfl | rfl | rfl | rfl | rfl | rfl
    · exact Or.inl ⟨Or.inl rfl, hdrops⟩
    · exact Or.inl ⟨Or.inr (Or.inl ⟨_, .head _, rfl⟩), hdrops⟩
    · exact Or.inl ⟨Or.inr (Or.inl ⟨_, .tail _ (.head _), rfl⟩), hdrops⟩
    · exact Or.inl ⟨Or.inr (Or.inr (Or.inr ⟨_, rfl, rfl⟩)), hdrops⟩
    · exact Or.inl ⟨Or.inr (Or.inr (Or.inl ⟨.head _, Or.inl rfl⟩)), hdrops⟩
    · exact Or.inr (Or.inr ⟨.tail _ (.head _), _, rfl⟩)

theorem execute_exposes_textLevels :
    ∃ (roots found : List Node) (w' : World (Snapshot threeTexts)),
      Gives (execute (Repository.source Learning.schema Learning.collection) .null .null withLevels collectionSources publicly
        ⟨.null, none, none⟩) (.start ⟨⟩ Learning.registry) roots w' ∧
      w'.store.recordsAt roots "texts" = .ok found ∧ found.length = 2 ∧ ∀ n ∈ found, ∃ id, n = .record id ∧
        w'.store.HasKeys id (· ∈ ["id", "languageId", "addedById", "collectionId", "level", "isBookmarked"]) := by
  have hview : View.ofValue withLevels =
      .ok (.full [] [("texts", .names ["level", "isBookmarked"]), ("language", .names [])]) := by
    with_unfolding_all rfl
  have hfits : collectionSources.Fits Learning.schema Learning.collection :=
    EntityFields.fits_of_fitted (by decide +kernel)
  have hdistinct : ∀ v, View.ofValue withLevels = .ok v → v.normal.Distinct := by
    intro v hv
    obtain rfl := Except.ok.inj (hv.symm.trans hview)
    refine ⟨trivial, ?_, trivial, fun r hr => absurd hr List.not_mem_nil, trivial⟩
    intro r hr
    rw [List.mem_singleton.mp hr]
    decide
  obtain ⟨roots, w', h, hcheck⟩ : ∃ (roots : List Node) (w' : World (Snapshot threeTexts)),
      Gives (execute (Repository.source Learning.schema Learning.collection) .null .null withLevels collectionSources publicly
        ⟨.null, none, none⟩) (.start ⟨⟩ Learning.registry) roots w' ∧
      w'.store.hasAt roots "texts" 2 = true :=
    Gives.of_check (by decide +kernel)
  obtain ⟨v, hv, hlevels, _⟩ := execute_exposes ⟨withLevels, hdistinct⟩ (labelled_snapshot threeTexts) hfits Learning.schema_covers h
  obtain rfl := Except.ok.inj (hv.symm.trans hview)
  obtain ⟨_, found, hfound, hrecords⟩ := hlevels ["texts"] textLevel rfl
  have hpath : Trail.path ["texts"] = "texts" := rfl
  rw [hpath] at hfound
  rw [Store.hasAt, hfound] at hcheck
  refine ⟨roots, found, w', h, hfound, beq_iff_eq.mp hcheck, ?_⟩
  intro n hn
  obtain ⟨id, hid, hkeys, _⟩ := hrecords n hn
  exact ⟨id, hid, HasNames.congr hkeys textLevel_hasKey_iff⟩

/-! A book has a column under the very name that its shelf has in the joined statement. -/

def shelf : Entity where
  name := "Shelf"
  columns := []
  relations := [Learning.through "books" "Book" "ShelfBook" "shelfId" "bookId"]
  formulas := []

def book : Entity where
  name := "Book"
  columns := [Learning.column "__source_id" .str]
  relations := []
  formulas := []

def library : Schema := .ofEntities [shelf, book]

def libraryRegistry : Registry :=
  [("Shelf", [Learning.many "books" "Book"]), ("Book", Learning.columns ["__source_id"])].foldl
    (fun r s => r.register s.1 ⟨fun _ => EntityFields.ofPairs s.1 s.2, [], false⟩) .empty

def shelfSources : EntityFields := (libraryRegistry.graph "Shelf").toOption.getD ⟨"", []⟩

def oneShelf : Contents := .ofTables [
  ("Shelf", [.ofCells [("id", .int 1)]]),
  ("Book", [.ofCells [("id", .int 5), ("__source_id", .text "S7")]]),
  ("ShelfBook", [.ofCells [("shelfId", .int 1), ("bookId", .int 5)]])]

def withBooks : Value := .map [(.text "relations", .map [(.text "books", .list [.text "__source_id"])])]

def oneWithoutLabel (store : Store) (roots : List Node) : Bool :=
  match store.recordsAt roots "books" with
  | .ok [.record id] => (store.get? id (.text "__source_id")).isNone
  | _ => false

/-- What was asked for of the book is not there. -/
theorem execute_loses_sourceLabel :
    shelfSources.Fits library shelf ∧ library.Covers libraryRegistry.graph ∧
    ∃ (roots : List Node) (w' : World (Snapshot oneShelf)) (v : View) (level : Level) (id : Nat),
      Gives (execute (Repository.source library shelf) .null .null withBooks shelfSources publicly ⟨.null, none, none⟩)
        (.start ⟨⟩ libraryRegistry) roots w' ∧
      View.ofValue withBooks = .ok v ∧
      Level.at? library libraryRegistry.graph ⟨shelf, none, shelfSources, v.normal⟩ ["books"] = some level ∧
      level.Wants "__source_id" ∧ w'.store.recordsAt roots "books" = .ok [.record id] ∧
      w'.store.get? id (.text "__source_id") = none := by
  refine ⟨EntityFields.fits_of_fitted (by decide +kernel), Registry.covers_of_fitted (by decide +kernel), ?_⟩
  obtain ⟨roots, w', h, hcheck⟩ : ∃ (roots : List Node) (w' : World (Snapshot oneShelf)),
      Gives (execute (Repository.source library shelf) .null .null withBooks shelfSources publicly ⟨.null, none, none⟩)
        (.start ⟨⟩ libraryRegistry) roots w' ∧ oneWithoutLabel w'.store roots = true :=
    Gives.of_check (by decide +kernel)
  unfold oneWithoutLabel at hcheck
  split at hcheck
  · rename_i id hfound
    have hview : View.ofValue withBooks = .ok (.full [] [("books", .names ["__source_id"])]) := by
      with_unfolding_all rfl
    exact ⟨roots, w', _, _, id, h, hview, rfl, ⟨.head _, Or.inl rfl⟩, hfound, Option.isNone_iff_eq_none.mp hcheck⟩
  · cases hcheck

end Execution

end EntityViews
