import EntityViews.Proofs.Provision
import EntityViews.Proofs.Registrations

/-!
Walking a path strictly, relation by relation, as it is done for the records that an annotator gets. Main statement: a walk
that succeeds along a loaded trail gives the records that are reached along it.
-/

namespace EntityViews

/-! Once the fields of an entity are built, they stay. -/

namespace Registry

/-- To look up a graph takes no graph away. -/
theorem graph_get {r : Registry} {entity name : String} {f : EntityFields} (h : r.graph name = .ok f) :
    (r.get entity).2.graph name = .ok f := by
  obtain ⟨slot, hslot, hbuilt⟩ := graph_ok_iff.mp h
  rw [graph_ok_iff]
  unfold get
  cases hs : r.slot? entity with
  | none => exact ⟨slot, hslot, hbuilt⟩
  | some first =>
    dsimp only
    cases hb : first.built with
    | some fields => exact ⟨slot, hslot, hbuilt⟩
    | none =>
      have hname : first.entity = entity := by simpa using List.find?_some hs
      simp only [slot?, find?_putSlot, hname]
      by_cases he : entity = name
      · -- What is built is kept in the slot.
        subst he
        obtain rfl := Option.some.inj (hs.symm.trans hslot)
        rw [hb] at hbuilt
        obtain ⟨_, hbuild⟩ := hbuilt.resolve_left (Option.some_ne_none _).symm
        refine ⟨_, if_pos rfl, Or.inl ?_⟩
        rw [hbuild]
        rfl
      · rw [if_neg he]
        exact ⟨slot, hslot, hbuilt⟩

end Registry

/-- No step of a run takes a field graph away. -/
theorem Run.guarantee_built {δ : Type} [Engine δ] : Run.Guarantee (fun _ => True) (fun _ _ => True) fun w w' : World δ =>
    ∀ name f, w.registry.graph name = .ok f → w'.registry.graph name = .ok f where
  refl := fun _ _ _ _ h => h
  trans := fun _ h h' name f hf => h' name f (h name f hf)
  issue := fun _ _ _ _ _ h => h
  count := fun _ _ _ _ _ h => h
  turn := fun _ _ _ _ _ h => h
  tell := fun _ _ _ _ h => h
  grow := fun _ _ _ _ _ h => h
  set := fun _ _ _ _ _ _ _ h => h
  build := fun _ _ _ _ h => Registry.graph_get h
  use := fun _ _ _ _ h => h

namespace Store

variable {s : Store} {roots : List Node} {sch : Schema} {graph graph' : Graph} {root l : Level} {done known : List Trail}
  {path : String}

/-- What a record leads to along a relation that was loaded. -/
theorem follow_ok {here : String} {r : RelationSource} {link : Link} {id : Nat} {v : Node} {found : List Node}
    (hget : s.get? id (.text r.populate) = some v) (hholds : link.Holds v)
    (hkind : r.cardinality = if link.isToOne then .toOne else .toMany)
    (h : s.follow path here r (.record id) = .ok found) :
    (∀ n ∈ found, ∃ i, n = .record i) ∧ ∀ i, Node.record i ∈ found ↔ s.LeadsTo id r.populate i := by
  have hask : s.ask (.record id) r.populate = .ok (some v) := congrArg Except.ok hget
  have hleads : ∀ i, s.LeadsTo id r.populate i ↔ v = .record i ∨ ∃ items, v = .list items ∧ Node.record i ∈ items := by
    intro i
    constructor
    · rintro ⟨n, hn, hi⟩
      cases hget.symm.trans hn
      exact hi
    · exact fun hi => ⟨v, hget, hi⟩
  rw [follow, hask] at h
  unfold Link.Holds at hholds
  by_cases hone : link.isToOne
  · rw [if_pos hone] at hholds hkind
    rcases hholds with rfl | ⟨i, rfl⟩
    · -- Nothing counts as not loaded, so that the walk fails.
      rw [hkind] at h
      cases h
    · by_cases hp : s.isPresent (.record i)
      · rw [hkind] at h
        simp only [bind, Except.bind, hp, if_true] at h
        obtain rfl := (Except.ok.inj h).symm
        constructor
        · intro n hn
          exact ⟨i, List.mem_singleton.mp hn⟩
        · intro j
          rw [hleads, List.mem_singleton]
          simp [eq_comm]
      · rw [hkind] at h
        simp only [bind, Except.bind, hp] at h
        cases h
  -- A list is taken as it is; unlike nothing, an empty one counts as loaded.
  · rw [if_neg hone] at hholds hkind
    obtain ⟨ids, rfl⟩ := hholds
    rw [hkind] at h
    obtain rfl := (Except.ok.inj h).symm
    constructor
    · intro n hn
      obtain ⟨i, _, rfl⟩ := List.mem_map.mp hn
      exact ⟨i, rfl⟩
    · intro j
      rw [hleads]
      simp

/-- What some records lead to along a relation that was loaded for all of them. -/
theorem followAll_ok {here : String} {r : RelationSource} {link : Link} {nodes found : List Node}
    (hnodes : ∀ n ∈ nodes, ∃ id v, n = .record id ∧ s.get? id (.text r.populate) = some v ∧ link.Holds v)
    (hkind : r.cardinality = if link.isToOne then .toOne else .toMany) (hfound : s.followAll path here r nodes = .ok found) :
    (∀ n ∈ found, ∃ id, n = .record id) ∧
      ∀ i, Node.record i ∈ found ↔ ∃ id, Node.record id ∈ nodes ∧ s.LeadsTo id r.populate i := by
  obtain ⟨lists, hlists, hflat⟩ := Except.bind_ok hfound
  obtain rfl := (Except.ok.inj hflat).symm
  obtain ⟨hfrom, hto⟩ := Except.mem_of_mapM_ok hlists
  -- Every record on the way leads to what was loaded there.
  have hstep : ∀ n ∈ nodes, ∃ id, n = .record id ∧ ∀ ms, s.follow path here r n = .ok ms →
      (∀ m ∈ ms, ∃ i, m = .record i) ∧ ∀ i, Node.record i ∈ ms ↔ s.LeadsTo id r.populate i := by
    intro n hn
    obtain ⟨id, v, rfl, hv, hholds⟩ := hnodes n hn
    exact ⟨id, rfl, fun ms hms => follow_ok hv hholds hkind hms⟩
  constructor
  · intro n hn
    obtain ⟨ms, hms, hin⟩ := List.mem_flatten.mp hn
    obtain ⟨m, hm, hfollow⟩ := hfrom ms hms
    obtain ⟨id, _, hall⟩ := hstep m hm
    exact (hall ms hfollow).1 n hin
  · intro i
    rw [List.mem_flatten]
    constructor
    · rintro ⟨ms, hms, hin⟩
      obtain ⟨m, hm, hfollow⟩ := hfrom ms hms
      obtain ⟨id, rfl, hall⟩ := hstep m hm
      exact ⟨id, hm, ((hall ms hfollow).2 i).mp hin⟩
    · rintro ⟨id, hm, hleads⟩
      obtain ⟨ms, hms, hfollow⟩ := hto _ hm
      obtain ⟨id', he, hall⟩ := hstep _ hm
      cases he
      exact ⟨ms, hms, ((hall ms hfollow).2 i).mpr hleads⟩

/-- From records that have the shape of their level, a relation leads to exactly the records that are reached. -/
theorem Shaped.followAll_ok (h : s.Shaped roots (Level.at? sch graph root) done known) {t : Trail} {here key : String}
    {below : Level} {r : RelationSource} {nodes found : List Node} (hl : Level.at? sch graph root t = some l)
    (hfits : l.Fits sch) (hbelow : l.below? sch graph key = some below) (hr : l.sources.source? key = some (.relation r))
    (hdone : key :: t ∈ done) (hrecords : ∀ n ∈ nodes, ∃ id, n = .record id)
    (hmem : ∀ id, Node.record id ∈ nodes ↔ s.Reached roots t id) (hfound : s.followAll path here r nodes = .ok found) :
    (∀ n ∈ found, ∃ id, n = .record id) ∧ ∀ id, Node.record id ∈ found ↔ s.Reached roots (key :: t) id := by
  obtain ⟨rfl, relation, hrelation, _, hkind⟩ := hfits.relations key r hr
  have hat : Level.at? sch graph root (r.populate :: t) = some below := Level.at?_cons.mpr ⟨l, hl, hbelow⟩
  obtain ⟨r', view, sources, relation', entity, _, _, _, hrelation', _, rfl⟩ := Level.below?_eq_some_iff.mp hbelow
  obtain rfl := Option.some.inj (hrelation.symm.trans hrelation')
  have hnodes : ∀ n ∈ nodes, ∃ id v, n = .record id ∧ s.get? id (.text r.populate) = some v ∧ relation.link.Holds v := by
    intro n hn
    obtain ⟨id, rfl⟩ := hrecords n hn
    obtain ⟨v, hv, hholds⟩ := h.values r.populate t hdone _ relation.link hat rfl id ((hmem id).mp hn)
    exact ⟨id, v, rfl, hv, hholds⟩
  obtain ⟨hall, hto⟩ := Store.followAll_ok hnodes hkind hfound
  refine ⟨hall, ?_⟩
  intro id
  rw [hto, reached_cons]
  simp only [hmem]

/-- A walk from a level on, relation by relation, along the trail of a further level. -/
theorem Shaped.walk_ok (h : s.Shaped roots (Level.at? sch graph root) done known) (fits : root.Fits sch)
    (covers : sch.Covers graph) (hgraph : ∀ name f, graph name = .ok f → graph' name = .ok f) (keys : List String)
    {t : Trail} {last : Level} {walked : List String} {nodes found : List Node} (hl : Level.at? sch graph root t = some l)
    (hlast : Level.at? sch graph root (keys.reverse ++ t) = some last) (hdone : keys.reverse ++ t ∈ done)
    (hrecords : ∀ n ∈ nodes, ∃ id, n = .record id) (hmem : ∀ id, Node.record id ∈ nodes ↔ s.Reached roots t id)
    (hwalk : s.walk graph' path l.sources walked nodes keys = .ok found) :
    (∀ n ∈ found, ∃ id, n = .record id) ∧
      ∀ id, Node.record id ∈ found ↔ s.Reached roots (keys.reverse ++ t) id := by
  induction keys generalizing t l walked nodes with
  | nil =>
    obtain rfl := Except.ok.inj hwalk
    exact ⟨hrecords, hmem⟩
  | cons key rest ih =>
    have htrail : (key :: rest).reverse ++ t = rest.reverse ++ (key :: t) := by simp
    rw [htrail] at hlast hdone ⊢
    obtain ⟨below, hat⟩ := Level.above_of_at? rest.reverse hlast
    obtain ⟨parent, hparent, hbelow⟩ := Level.at?_cons.mp hat
    obtain rfl := Option.some.inj (hl.symm.trans hparent)
    obtain ⟨r, view, sources, relation, entity, hr, _, hsources, _, _, rfl⟩ := Level.below?_eq_some_iff.mp hbelow
    have hsegment : l.sources.forSegment? key = some (.relation r) := by rw [EntityFields.forSegment?, hr]
    rw [walk, hsegment] at hwalk
    obtain ⟨next, hnext, hrest⟩ := Except.bind_ok hwalk
    have hstep := h.followAll_ok hl (fits.at? covers hl).1 hbelow hr (Trail.mem_of_append h.settled.closed _ hdone) hrecords hmem hnext
    cases rest with
    | nil =>
      obtain rfl := Except.ok.inj hrest
      exact hstep
    | cons key' rest' =>
      obtain ⟨target, htarget, hmore⟩ := Except.bind_ok hrest
      obtain rfl := Except.ok.inj ((hgraph _ _ hsources).symm.trans htarget)
      exact ih hat hlast hdone hstep.1 hstep.2 hmore

/-- In a store of the right shape a trail that was loaded resolves to exactly the records that are reached by it. -/
theorem Shaped.resolve_ok (h : s.Shaped roots (Level.at? sch graph root) done known) (fits : root.Fits sch)
    (covers : sch.Covers graph) (hgraph : ∀ name f, graph name = .ok f → graph' name = .ok f) {t : Trail} {found : List Node}
    (hl : Level.at? sch graph root t = some l) (hdone : t ∈ done)
    (hresolve : s.resolve graph' root.sources t.path roots = .ok found) :
    (∀ n ∈ found, ∃ id, n = .record id) ∧ ∀ id, Node.record id ∈ found ↔ s.Reached roots t id := by
  obtain ⟨_, hproper⟩ := fits.at? covers hl
  rw [resolve] at hresolve
  by_cases hne : t = []
  · subst hne
    obtain rfl := Except.ok.inj hresolve
    exact ⟨h.settled.records, fun id => reached_nil.symm⟩
  · rw [if_neg fun he => hne ((Trail.path_eq_empty_iff hproper).mp he), Trail.segments_path hproper hne] at hresolve
    have hwhole : t.reverse.reverse ++ [] = t := by simp
    have hwalk := h.walk_ok fits covers hgraph t.reverse (t := []) rfl (hwhole.symm ▸ hl) (hwhole.symm ▸ hdone)
      h.settled.records (fun id => reached_nil.symm) hresolve
    rwa [hwhole] at hwalk

end Store

end EntityViews
