import EntityViews.Proofs.Keysets
import EntityViews.Proofs.Places
import EntityViews.Proofs.Population

/-!
Levels: what a view asks for at the end of a trail. The levels of a view and the tours along it belong together, so that
what a plan asks for at a path can be told from the level there. Main statement: the fields of a load that are at its own
path are the columns and formulas that the level wants.
-/

namespace EntityViews

open Sql

namespace Text

/-- A start is dropped exactly from what begins with it. -/
theorem dropStart?_eq_some_iff {start s rest : String} : dropStart? start s = some rest ↔ s = start ++ rest := by
  rw [dropStart?]
  constructor
  · intro h
    split at h
    · rename_i hp
      obtain ⟨more, hmore⟩ := List.isPrefixOf_iff_prefix.mp hp
      have hrest : String.ofList (s.toList.drop start.length) = rest := Option.some.inj h
      have hdrop : s.toList.drop start.length = more := by
        rw [← hmore, ← String.length_toList, List.drop_left]
      apply String.toList_injective
      rw [← hrest, hdrop, String.toList_append, String.toList_ofList, hmore]
    · cases h
  · intro h
    have hp : start.toList.isPrefixOf s.toList = true := by
      rw [h, String.toList_append]
      exact List.isPrefixOf_iff_prefix.mpr (List.prefix_append _ _)
    rw [if_pos hp, h, String.toList_append, ← String.length_toList, List.drop_left, String.ofList_toList]

end Text

namespace Repository

theorem mem_ownFields {fields : List String} {name : String} :
    name ∈ ownFields fields ↔ name ∈ fields ∧ '.' ∉ name.toList := by
  simp [ownFields, List.mem_filter]

theorem mem_fieldsUnder {fields : List String} {path name : String} :
    name ∈ fieldsUnder fields path ↔ path ++ "." ++ name ∈ fields ∧ '.' ∉ name.toList := by
  rw [fieldsUnder, mem_ownFields, List.mem_filterMap]
  simp only [Text.dropStart?_eq_some_iff, exists_eq_right]

end Repository

namespace NormalView

def fields : NormalView → List String
  | mk fields _ => fields

def relations : NormalView → List (String × NormalView)
  | mk _ relations => relations

def relation? (view : NormalView) (key : String) : Option NormalView :=
  (view.relations.find? (·.1 == key)).map (·.2)

theorem mem_of_relation? {view below : NormalView} {key : String} (h : view.relation? key = some below) :
    (key, below) ∈ view.relations := mem_of_find?_key h

/-- Each view below a view without repeated keys has none either, and is found by its key. -/
theorem distinct_of_mem {relations : List (String × NormalView)} (h : DistinctIn relations) {key : String}
    {view : NormalView} (hm : (key, view) ∈ relations) : view.Distinct ∧ relations.find? (·.1 == key) = some (key, view) := by
  induction relations with
  | nil => cases hm
  | cons r rest ih =>
    obtain ⟨name, first⟩ := r
    obtain ⟨hview, hother, hrest⟩ := h
    rcases List.mem_cons.mp hm with he | hm
    · cases he
      exact ⟨hview, by simp⟩
    · obtain ⟨hd, hfind⟩ := ih hrest hm
      have hne : name ≠ key := fun he => hother _ hm he.symm
      exact ⟨hd, by rw [List.find?_cons_of_neg (by simpa using hne), hfind]⟩

theorem Distinct.relation? {view below : NormalView} {key : String} (h : view.Distinct)
    (hm : (key, below) ∈ view.relations) : below.Distinct ∧ view.relation? key = some below := by
  cases view with
  | mk fields relations =>
    obtain ⟨hview, hfind⟩ := distinct_of_mem h hm
    refine ⟨hview, ?_⟩
    rw [NormalView.relation?, NormalView.relations, hfind, Option.map_some]

end NormalView

/-- A place of a view: the entity there, the relation by which it was come to, the sources of its fields, and what the view
asks for from there on. -/
structure Level where
  entity : Entity
  link : Option Link
  sources : EntityFields
  view : NormalView

namespace Level

def below? (s : Schema) (graph : Graph) (key : String) (l : Level) : Option Level :=
  match l.sources.source? key with
  | some (.relation r) => do
    let view ← l.view.relation? key
    let sources ← (graph r.target).toOption
    let relation ← s.relation? l.entity.name key
    let entity ← s.entity? relation.target
    return ⟨entity, some relation.link, sources, view⟩
  | _ => none

def at? (s : Schema) (graph : Graph) (root : Level) : Trail → Option Level
  | [] => some root
  | key :: above => (at? s graph root above).bind (below? s graph key)

def Wants (l : Level) (name : String) : Prop :=
  name ∈ l.view.fields ∧ (l.sources.source? name = some .column ∨ l.sources.source? name = some .formula)

def Relates (l : Level) (name : String) : Prop :=
  (∃ view, l.view.relation? name = some view) ∧ ∃ r, l.sources.source? name = some (.relation r)

def Annotates (l : Level) (name : String) : Prop :=
  name ∈ l.view.fields ∧ ∃ a, l.sources.source? name = some (.annotated a)

def Selects (l : Level) (name : String) : Prop :=
  name = "id" ∨ (∃ r ∈ l.entity.relations, r.link.sourceKey? = some name) ∨ l.Wants name ∨
    ∃ link, l.link = some link ∧ link.targetKey? = some name

/-- The statements that records are selected with: just these fields, and the id of the source where a table of its own has
that. -/
def Asks (l : Level) (q : Select) : Prop :=
  match l.link with
  | some (.manyToMany _ sourceKey _) => ∃ source, Name.text source = sourceKey ∧
    q.Lists l.entity l.Selects [.labelled (.column Loader.joinRow source) Loader.sourceLabel]
  | _ => q.Lists l.entity l.Selects []

def Drops (l : Level) (name : String) : Prop :=
  -- In a joined statement this is what the source has there; it is taken away from the records.
  (∃ link, l.link = some link ∧ link.isThrough = true) ∧ name = Loader.sourceLabel.text

/-- The keys that records get when they are loaded. -/
def Gets (l : Level) (name : String) : Prop := l.Selects name ∧ ¬l.Drops name

def HasKey (l : Level) (name : String) : Prop := l.Gets name ∨ l.Relates name ∨ l.Annotates name

variable {s : Schema} {graph : Graph} {key : String} {l root : Level}

/-- A level below another is made of a relation of its sources, the view below under the same key, the graph of the target
and the link of the schema. -/
theorem below?_eq_some_iff {below : Level} : l.below? s graph key = some below ↔
    ∃ r view sources relation entity, l.sources.source? key = some (.relation r) ∧ l.view.relation? key = some view ∧
      graph r.target = .ok sources ∧ s.relation? l.entity.name key = some relation ∧
      s.entity? relation.target = some entity ∧ below = ⟨entity, some relation.link, sources, view⟩ := by
  rw [below?]
  split
  · rename_i r hr
    simp only [bind, Option.bind_eq_some_iff, pure, Option.some.injEq, Except.toOption_eq_some_iff]
    constructor
    · rintro ⟨view, hview, sources, hsources, relation, hrelation, entity, hentity, rfl⟩
      exact ⟨r, view, sources, relation, entity, hr, hview, hsources, hrelation, hentity, rfl⟩
    · rintro ⟨r', view, sources, relation, entity, hr', hview, hsources, hrelation, hentity, rfl⟩
      obtain rfl := Source.relation.inj (Option.some.inj (hr.symm.trans hr'))
      exact ⟨view, hview, sources, hsources, relation, hrelation, entity, hentity, rfl⟩
  · rename_i hno
    constructor
    · intro h
      cases h
    · rintro ⟨r, _, _, _, _, hr, _⟩
      exact absurd hr (hno r)

theorem at?_cons {above : Trail} : at? s graph root (key :: above) = some l ↔
    ∃ parent, at? s graph root above = some parent ∧ parent.below? s graph key = some l :=
  Option.bind_eq_some_iff

theorem above_of_at? (keys : Trail) {t : Trail} (h : at? s graph root (keys ++ t) = some l) :
    ∃ parent, at? s graph root t = some parent := by
  induction keys generalizing l with
  | nil => exact ⟨l, h⟩
  | cons key keys ih =>
    obtain ⟨parent, hparent, _⟩ := at?_cons.mp h
    exact ih hparent

/-- The entity of a level is the one that the schema has at the end of the trail. -/
theorem entityAt_of_at? {t : Trail} (h : at? s graph root t = some l) (path : String) :
    Repository.entityAt s path root.entity.name t.reverse = .ok l.entity.name := by
  induction t generalizing l with
  | nil =>
    cases h
    rfl
  | cons key above ih =>
    obtain ⟨parent, hparent, hbelow⟩ := at?_cons.mp h
    obtain ⟨r, view, sources, relation, entity, _, _, _, hrelation, hentity, rfl⟩ := below?_eq_some_iff.mp hbelow
    rw [List.reverse_cons, Repository.entityAt_concat (ih hparent) hrelation]
    rw [Schema.name_of_entity? hentity]

/-- The relation by which a level is come to is the one that the schema has at the end of the trail. -/
theorem eq_of_relation {above : Trail} {path parent : String} {relation : Relation} {target : Entity}
    (h : at? s graph root (key :: above) = some l)
    (hparent : Repository.entityAt s path root.entity.name above.reverse = .ok parent)
    (hrelation : s.relation? parent key = some relation) (htarget : s.entity? relation.target = some target) :
    ∃ sources view, l = ⟨target, some relation.link, sources, view⟩ := by
  obtain ⟨level, hlevel, hbelow⟩ := at?_cons.mp h
  obtain ⟨r, view, sources, relation', entity, _, _, _, hrelation', hentity', rfl⟩ := below?_eq_some_iff.mp hbelow
  obtain rfl := Except.ok.inj (hparent.symm.trans (entityAt_of_at? hlevel path))
  obtain rfl := Option.some.inj (hrelation.symm.trans hrelation')
  obtain rfl := Option.some.inj (htarget.symm.trans hentity')
  exact ⟨sources, view, rfl⟩

end Level

/-- Whether the fields of an entity are as the schema has them: names without dots, relations under their own names to the
targets that the schema has, and annotators that fill in their own fields. -/
structure EntityFields.Fits (s : Schema) (e : Entity) (f : EntityFields) : Prop where
  names : ∀ name source, f.source? name = some source → name ≠ "" ∧ '.' ∉ name.toList
  relations : ∀ name r, f.source? name = some (.relation r) → r.populate = name ∧
    ∃ relation, s.relation? e.name name = some relation ∧ relation.target = r.target ∧
      r.cardinality = if relation.link.isToOne then .toOne else .toMany
  annotated : ∀ name a, f.source? name = some (.annotated a) → a.field = name

def Schema.Covers (s : Schema) (graph : Graph) : Prop :=
  ∀ entity f, graph entity = .ok f → ∃ e, s.entity? entity = some e ∧ f.Fits s e

def EntityFields.fitted (s : Schema) (e : Entity) (f : EntityFields) : Bool :=
  f.sources.all fun p => p.1 != "" && !p.1.toList.contains '.' &&
    match p.2 with
    | .relation r => r.populate == p.1 && (s.relation? e.name p.1).any fun relation =>
      relation.target == r.target && r.cardinality == if relation.link.isToOne then .toOne else .toMany
    | .annotated a => a.field == p.1
    | _ => true

/-- Fields that pass the check against an entity fit it. -/
theorem EntityFields.fits_of_fitted {s : Schema} {e : Entity} {f : EntityFields} (h : f.fitted s e = true) : f.Fits s e := by
  have hcheck := fun name source (hs : f.source? name = some source) => List.all_eq_true.mp h _ (mem_of_find?_key hs)
  simp only [Bool.and_eq_true, bne_iff_ne, Bool.not_eq_true', List.contains_eq_mem, decide_eq_false_iff_not] at hcheck
  refine ⟨fun name source hs => (hcheck name source hs).1, ?_, ?_⟩
  · intro name r hr
    have hrelation := (hcheck name _ hr).2
    simp only [Bool.and_eq_true, beq_iff_eq, Option.any_eq_true] at hrelation
    obtain ⟨hpopulate, relation, hfound, htarget, hkind⟩ := hrelation
    exact ⟨hpopulate, relation, hfound, htarget, hkind⟩
  · intro name a ha
    exact beq_iff_eq.mp (hcheck name _ ha).2

theorem Registry.covers_of_fitted {s : Schema} {r : Registry}
    (h : r.every (fun entity f => (s.entity? entity).any fun e => f.fitted s e) = true) : s.Covers r.graph := by
  intro entity f hf
  obtain ⟨e, he, hfitted⟩ := (Option.any_eq_true ..).mp (of_every h hf)
  exact ⟨e, he, EntityFields.fits_of_fitted hfitted⟩

theorem EntityFields.Fits.keyed {s : Schema} {e : Entity} {f : EntityFields} (h : f.Fits s e) : f.Keyed :=
  fun name r hr => ⟨(h.relations name r hr).1, h.names name _ hr⟩

namespace Level

variable {s : Schema} {graph : Graph} {key : String} {l root : Level}

def Fits (s : Schema) (l : Level) : Prop := l.sources.Fits s l.entity

/-- Below a level that fits the schema every level fits it. -/
theorem Fits.below {below : Level} (hl : l.Fits s) (covers : s.Covers graph)
    (h : l.below? s graph key = some below) : below.Fits s := by
  obtain ⟨r, view, sources, relation, entity, hr, _, hsources, hrelation, hentity, rfl⟩ := below?_eq_some_iff.mp h
  obtain ⟨_, relation', hrelation', htarget, _⟩ := hl.relations key r hr
  obtain rfl := Option.some.inj (hrelation.symm.trans hrelation')
  obtain ⟨e, he, hfits⟩ := covers r.target sources hsources
  rw [htarget] at hentity
  obtain rfl := Option.some.inj (hentity.symm.trans he)
  exact hfits

/-- Every level below a root that fits the schema fits it, and its trail is proper. -/
theorem Fits.at? (hroot : root.Fits s) (covers : s.Covers graph) {t : Trail} (h : at? s graph root t = some l) :
    l.Fits s ∧ t.Proper := by
  induction t generalizing l with
  | nil =>
    cases h
    exact ⟨hroot, nofun⟩
  | cons key above ih =>
    obtain ⟨parent, hparent, hbelow⟩ := at?_cons.mp h
    obtain ⟨hfits, hproper⟩ := ih hparent
    refine ⟨hfits.below covers hbelow, ?_⟩
    obtain ⟨r, _, _, _, _, hr, _⟩ := below?_eq_some_iff.mp hbelow
    intro k hk
    rcases List.mem_cons.mp hk with rfl | hk
    · exact hfits.names k _ hr
    · exact hproper k hk

end Level

namespace Tour

variable {graph : Graph} {context : Context} {overrides : Value} {sources : EntityFields} {path : String}

theorem of?_parts {view : NormalView} {tour : Tour} (h : of? graph context overrides sources path view = some tour) :
    ∃ asked legs, tour = mk asked legs ∧ asked? sources path view.fields = some asked ∧
      legs? graph context overrides sources path view.relations = some legs := by
  cases view with
  | mk fields relations =>
    simp only [of?, bind, Option.bind_eq_some_iff, pure, Option.some.injEq] at h
    obtain ⟨asked, hasked, legs, hlegs, rfl⟩ := h
    exact ⟨asked, legs, rfl, hasked, hlegs⟩

/-- A load of a plan is for a place, with the fields that are asked for from some place above it on without a filter. -/
theorem place_of_load {tour : Tour} (h : tour.Laid []) {load : Load} (hl : load ∈ tour.plan.loads) :
    ∃ start base t sub, tour.Place [] start base ∧ base.Near start t sub ∧ t ≠ [] ∧ load.path = t.path ∧
      ∀ f, f ∈ load.fields ↔ f ∈ base.gather.fields := by
  -- What is loaded along with a tour lies behind some relation without a filter.
  have hnear : ∀ (start : Trail) (base : Tour), base.Laid start → ∀ path ∈ base.gather.populate,
      ∃ t sub, base.Near start t sub ∧ t ≠ [] ∧ path = t.path := by
    intro start base hbase path hpath
    obtain ⟨t, asked, legs, hplace, l, hleg, hfilter, rfl⟩ := (mem_gather_populate base start).mp hpath
    exact ⟨_, l.2, hplace.step hleg hfilter, List.cons_ne_nil _ _, (laid_leg (hplace.laid hbase) hleg).1⟩
  rw [Plan.loads, List.mem_append, List.mem_map, List.mem_flatMap] at hl
  rcases hl with ⟨path, hpath, rfl⟩ | ⟨entry, hentry, hload⟩
  · have hmem := mem_plan_populate.mp (Repository.mem_parentsFirst.mp hpath)
    obtain ⟨t, sub, hsub, hne, hp⟩ := hnear [] tour h path hmem
    exact ⟨[], tour, t, sub, .here, hsub, hne, hp, fun f => mem_plan_fields⟩
  · obtain ⟨t, asked, legs, hplace, l, hleg, f, _, rfl⟩ := (mem_gather_filtered tour []).mp hentry
    obtain ⟨path, hpath, rfl⟩ := List.mem_map.mp hload
    have hbase : tour.Place [] (l.1.source.populate :: t) l.2 := hplace.step hleg trivial
    have hmem : path = l.1.path ∨ path ∈ l.2.gather.populate := by
      simpa using Repository.mem_parentsFirst.mp hpath
    rcases hmem with rfl | hmem
    · exact ⟨_, l.2, _, l.2, hbase, .here, List.cons_ne_nil _ _, (laid_leg (hplace.laid h) hleg).1, fun f => mem_distinct⟩
    · obtain ⟨u, sub, hsub, hne, hp⟩ := hnear _ l.2 (hbase.laid h) path hmem
      exact ⟨_, l.2, u, sub, hbase, hsub, hne, hp, fun f => mem_distinct⟩

/-- A tour has a place at the end of every trail that is loaded along it. -/
theorem place_of_mem_loads {tour : Tour} (hlaid : tour.Laid []) {t : Trail} (ht : t ∈ (tour.loads []).map (·.1)) :
    ∃ sub, tour.Place [] t sub := by
  obtain ⟨⟨_, leg⟩, hl, rfl⟩ := List.mem_map.mp ((loads_perm [] tour).mem_iff.mp ht)
  obtain ⟨hproper, _, _⟩ := laid_of_mem tour hlaid hl
  obtain ⟨load, hload, hpath⟩ : ∃ load ∈ tour.plan.loads, load.path = Trail.path _ := by
    rw [← List.mem_map, plan_paths hlaid]
    obtain ⟨x, hx, he⟩ := List.mem_map.mp ht
    exact List.mem_map.mpr ⟨x, hx, congrArg Trail.path he⟩
  obtain ⟨start, base, u, sub, hbase, hnear, _, hpath', _⟩ := place_of_load hlaid hload
  have hplace : tour.Place [] u sub := hbase.trans hnear.place
  -- Both trails are proper and have the path of the load.
  have hproper' : Trail.Proper u := hplace.proper hlaid nofun
  obtain rfl := Trail.path_injective hproper' hproper (hpath'.symm.trans hpath)
  exact ⟨sub, hplace⟩

theorem mem_loads_of_place {tour sub : Tour} {t : Trail} (h : tour.Place [] t sub) :
    t = [] ∨ t ∈ (tour.loads []).map (·.1) := by
  cases h with
  | here => exact Or.inl rfl
  | step hbefore hl _ =>
    refine Or.inr ((loads_perm [] tour).mem_iff.mpr ?_)
    exact List.mem_map_of_mem (hbefore.legsFrom _ (legsOf_of_mem hl).1)

end Tour

namespace Level

/-! The places of a tour and the levels of the view that it is the tour of. -/

section Tour

variable {s : Schema} {graph : Graph} {root l : Level} {context : Context} {overrides : Value} {tour : Tour}
  {asked : List Asked} {legs : List (Leg × Tour)} {path : String}

/-- A level asks for a field exactly if its view wants it. -/
theorem field_mem_iff (h : Tour.of? graph context overrides l.sources path l.view = some (.mk asked legs)) (f : String) :
    .field f ∈ asked ↔ ∃ name, l.Wants name ∧ f = Text.qualify path name := by
  obtain ⟨asked', legs', he, hasked, _⟩ := Tour.of?_parts h
  cases he
  rw [Tour.mem_asked? hasked]
  constructor
  · rintro ⟨name, hname, hsource⟩
    split at hsource
    · rename_i hs
      exact ⟨name, ⟨hname, Or.inl hs⟩, Asked.field.inj hsource⟩
    · rename_i hs
      exact ⟨name, ⟨hname, Or.inr hs⟩, Asked.field.inj hsource⟩
    · cases hsource
    · exact hsource.elim
  · rintro ⟨name, ⟨hname, hs | hs⟩, rfl⟩
    · exact ⟨name, hname, by rw [hs]⟩
    · exact ⟨name, hname, by rw [hs]⟩

/-- A level asks for an annotator exactly if its view has a field that the annotator fills. -/
theorem annotated_mem_iff (h : Tour.of? graph context overrides l.sources path l.view = some (.mk asked legs))
    (a : Annotation) : .annotated a ∈ asked ↔
      ∃ name ∈ l.view.fields, l.sources.source? name = some (.annotated a.annotator) ∧ a.path = path := by
  obtain ⟨asked', legs', he, hasked, _⟩ := Tour.of?_parts h
  cases he
  rw [Tour.mem_asked? hasked]
  constructor
  · rintro ⟨name, hname, hsource⟩
    split at hsource
    · cases hsource
    · cases hsource
    · rename_i annotator hs
      cases hsource
      exact ⟨name, hname, hs, rfl⟩
    · exact hsource.elim
  · rintro ⟨name, hname, hs, rfl⟩
    exact ⟨name, hname, by rw [hs]⟩

theorem Annotates.not_relates {name : String} (h : l.Annotates name) : ¬l.Relates name := by
  rintro ⟨_, r, hr⟩
  obtain ⟨_, a, ha⟩ := h
  cases ha.symm.trans hr

theorem Wants.name_ok {name : String} (h : l.Wants name) (hl : l.Fits s) : name ≠ "" ∧ '.' ∉ name.toList := by
  rcases h.2 with hs | hs
  · exact hl.names name _ hs
  · exact hl.names name _ hs

variable (fits : root.Fits s) (covers : s.Covers graph)
  (hof : Tour.of? graph context overrides root.sources "" root.view = some tour)
include fits covers hof

/-- To every level of a view its tour has a place. -/
theorem place_of_at? {t : Trail} (h : at? s graph root t = some l) :
    ∃ sub, tour.Place [] t sub ∧ Tour.of? graph context overrides l.sources t.path l.view = some sub := by
  induction t generalizing l with
  | nil =>
    cases h
    exact ⟨tour, .here, hof⟩
  | cons key above ih =>
    obtain ⟨parent, hparent, hbelow⟩ := at?_cons.mp h
    obtain ⟨sub, hplace, hsub⟩ := ih hparent
    obtain ⟨asked, legs, rfl, _, hlegs⟩ := Tour.of?_parts hsub
    obtain ⟨r, view, sources, relation, entity, hr, hview, hsources, _, _, rfl⟩ := below?_eq_some_iff.mp hbelow
    obtain ⟨l, hl, target, rfl, htarget, htour⟩ :=
      (Tour.mem_legs? hlegs).2 key view r (NormalView.mem_of_relation? hview) hr
    obtain ⟨hfits, _⟩ := fits.at? covers hparent
    obtain rfl := Except.ok.inj (hsources.symm.trans htarget)
    have hkey : l.1.source.populate = key := (hfits.relations key _ hr).1
    refine ⟨l.2, ?_, ?_⟩
    · rw [← hkey]
      exact hplace.step hl trivial
    · rw [Trail.path, ← hkey]
      exact htour

/-- Every place of a tour is that of a level. -/
theorem at?_of_place (hview : root.view.Distinct) {t : Trail} {sub : Tour} (h : tour.Place [] t sub) :
    ∃ l, at? s graph root t = some l ∧ l.view.Distinct ∧
      Tour.of? graph context overrides l.sources t.path l.view = some sub := by
  induction h with
  | here => exact ⟨root, rfl, hview, hof⟩
  | @step t asked legs leg tour _ hl _ ih =>
    obtain ⟨parent, hparent, hdistinct, hsub⟩ := ih
    obtain ⟨asked, legs, he, _, hlegs⟩ := Tour.of?_parts hsub
    cases he
    obtain ⟨name, view, target, hm, hr, htarget, htour⟩ := (Tour.mem_legs? hlegs).1 _ hl
    obtain ⟨hfits, _⟩ := fits.at? covers hparent
    obtain ⟨hkey, relation, hrelation, hentity, _⟩ := hfits.relations name _ hr
    obtain ⟨e, he, _⟩ := covers _ _ htarget
    obtain ⟨hbelow, hfind⟩ := hdistinct.relation? hm
    refine ⟨⟨e, some relation.link, target, view⟩, ?_, hbelow, htour⟩
    rw [hkey, at?_cons]
    exact ⟨parent, hparent, below?_eq_some_iff.mpr
      ⟨_, view, target, relation, e, hr, hfind, htarget, hrelation, hentity.symm ▸ he, rfl⟩⟩

/-- What is asked for from a place on without a filter: what the levels want that are come to in this way. -/
theorem mem_gather_fields_iff (hview : root.view.Distinct) {start : Trail} {base : Tour} (hbase : tour.Place [] start base)
    (f : String) : f ∈ base.gather.fields ↔
      ∃ t sub l name, base.Near start t sub ∧ at? s graph root t = some l ∧ l.Wants name ∧ f = Text.qualify t.path name := by
  rw [Tour.mem_gather_fields base start]
  constructor
  · rintro ⟨t, asked, legs, hnear, hf⟩
    obtain ⟨l, hl, _, hsub⟩ := at?_of_place fits covers hof hview (hbase.trans hnear.place)
    obtain ⟨name, hwants, he⟩ := (field_mem_iff hsub f).mp hf
    exact ⟨t, _, l, name, hnear, hl, hwants, he⟩
  · rintro ⟨t, sub, l, name, hnear, hl, hwants, he⟩
    obtain ⟨l', hl', _, hsub⟩ := at?_of_place fits covers hof hview (hbase.trans hnear.place)
    obtain rfl := Option.some.inj (hl.symm.trans hl')
    obtain ⟨asked, legs, rfl, _, _⟩ := Tour.of?_parts hsub
    exact ⟨t, asked, legs, hnear, (field_mem_iff hsub f).mpr ⟨name, hwants, he⟩⟩

/-- Of the fields that are asked for from a place on, those at the path of a level are what the level wants. -/
theorem mem_fieldsUnder_iff (hview : root.view.Distinct) {start t : Trail} {base sub : Tour}
    (hbase : tour.Place [] start base) (hnear : base.Near start t sub) (hne : t ≠ []) {fields : List String}
    (hfields : ∀ f, f ∈ fields ↔ f ∈ base.gather.fields) (hl : at? s graph root t = some l) (name : String) :
    name ∈ Repository.fieldsUnder fields t.path ↔ l.Wants name := by
  obtain ⟨hfits, hproper⟩ := fits.at? covers hl
  have hpath : Text.qualify t.path name = t.path ++ "." ++ name :=
    if_neg fun he => hne ((Trail.path_eq_empty_iff hproper).mp he)
  rw [Repository.mem_fieldsUnder, ← hpath, hfields, mem_gather_fields_iff fits covers hof hview hbase]
  constructor
  · rintro ⟨⟨u, sub', l', name', _, hl', hwants, he⟩, hdot⟩
    obtain ⟨hfits', hproper'⟩ := fits.at? covers hl'
    have hname' := hwants.name_ok hfits'
    have hlong : Trail.Proper (name' :: u) := List.forall_mem_cons.mpr ⟨hname', hproper'⟩
    -- The last dot parts a qualified name into its path and the name.
    have hsplit : (Trail.path t, name) = (Trail.path u, name') := by
      rw [← Trail.splitLast_path hlong, Trail.path, ← he, hpath, Text.splitLast_dotted _ hdot]
    obtain ⟨hpaths, rfl⟩ := Prod.mk.inj hsplit
    obtain rfl := Trail.path_injective hproper hproper' hpaths
    obtain rfl := Option.some.inj (hl.symm.trans hl')
    exact hwants
  · intro hwants
    exact ⟨⟨t, sub, l, name, hnear, hl, hwants, rfl⟩, (hwants.name_ok hfits).2⟩

/-- Of the fields that are asked for with the root, its own are those that it wants. -/
theorem mem_ownFields_iff (hview : root.view.Distinct) {fields : List String}
    (hfields : ∀ f, f ∈ fields ↔ f ∈ tour.gather.fields) (name : String) :
    name ∈ Repository.ownFields fields ↔ root.Wants name := by
  rw [Repository.mem_ownFields, hfields, mem_gather_fields_iff fits covers hof hview .here]
  constructor
  · rintro ⟨⟨u, sub, l, name', _, hl, hwants, he⟩, hdot⟩
    obtain ⟨hfits, hproper⟩ := fits.at? covers hl
    cases u with
    | nil =>
      cases hl
      rwa [he]
    | cons key above =>
      have hpath : Text.qualify (Trail.path (key :: above)) name' = Trail.path (key :: above) ++ "." ++ name' :=
        if_neg (Trail.path_ne_empty hproper)
      rw [he, hpath] at hdot
      simp [String.toList_append] at hdot
  · intro hwants
    exact ⟨⟨[], tour, root, name, .here, rfl, hwants, rfl⟩, (hwants.name_ok fits).2⟩

/-- Every load of a plan is for a level of the view, with the fields that the level wants. -/
theorem level_of_load (hview : root.view.Distinct) (hlaid : tour.Laid []) {load : Load} (h : load ∈ tour.plan.loads) :
    ∃ key above l, at? s graph root (key :: above) = some l ∧ load.path = Trail.path (key :: above) ∧
      ∀ name, name ∈ Repository.fieldsUnder load.fields load.path ↔ l.Wants name := by
  obtain ⟨start, base, t, sub, hbase, hnear, hne, hpath, hfields⟩ := Tour.place_of_load hlaid h
  obtain ⟨l, hl, _, _⟩ := at?_of_place fits covers hof hview (hbase.trans hnear.place)
  have hwants := mem_fieldsUnder_iff fits covers hof hview hbase hnear hne hfields hl
  cases t with
  | nil => exact absurd rfl hne
  | cons key above => exact ⟨key, above, l, hl, hpath, fun name => hpath ▸ hwants name⟩

/-- A view has a level below each relation that it asks for. -/
theorem below_iff_relates {t : Trail} (h : at? s graph root t = some l) (name : String) :
    (∃ below, at? s graph root (name :: t) = some below) ↔ l.Relates name := by
  constructor
  · rintro ⟨below, hbelow⟩
    obtain ⟨parent, hparent, hstep⟩ := at?_cons.mp hbelow
    obtain rfl := Option.some.inj (h.symm.trans hparent)
    obtain ⟨r, view, _, _, _, hr, hview, _⟩ := below?_eq_some_iff.mp hstep
    exact ⟨⟨view, hview⟩, r, hr⟩
  · rintro ⟨⟨view, hview⟩, r, hr⟩
    obtain ⟨sub, _, hsub⟩ := place_of_at? fits covers hof h
    obtain ⟨_, legs, _, _, hlegs⟩ := Tour.of?_parts hsub
    obtain ⟨_, _, target, _, htarget, _⟩ := (Tour.mem_legs? hlegs).2 name view r (NormalView.mem_of_relation? hview) hr
    obtain ⟨_, relation, hrelation, hentity, _⟩ := (fits.at? covers h).1.relations name r hr
    obtain ⟨e, he, _⟩ := covers _ _ htarget
    exact ⟨⟨e, some relation.link, target, view⟩, at?_cons.mpr
      ⟨l, h, below?_eq_some_iff.mpr ⟨r, view, target, relation, e, hr, hview, htarget, hrelation, hentity.symm ▸ he, rfl⟩⟩⟩

/-- The trails that are loaded along a tour are those at whose end the view has a level. -/
theorem mem_loads_iff (hview : root.view.Distinct) {t : Trail} (hlaid : tour.Laid []) :
    t ∈ (tour.loads []).map (·.1) ↔ t ≠ [] ∧ ∃ l, at? s graph root t = some l := by
  constructor
  · intro ht
    obtain ⟨⟨_, leg⟩, hl, rfl⟩ := List.mem_map.mp ((Tour.loads_perm [] tour).mem_iff.mp ht)
    obtain ⟨_, hne, _⟩ := Tour.laid_of_mem tour hlaid hl
    obtain ⟨sub, hplace⟩ := Tour.place_of_mem_loads hlaid ht
    obtain ⟨l, hl, _, _⟩ := at?_of_place fits covers hof hview hplace
    exact ⟨hne, l, hl⟩
  · rintro ⟨hne, l, hl⟩
    obtain ⟨sub, hplace, _⟩ := place_of_at? fits covers hof hl
    exact (Tour.mem_loads_of_place hplace).resolve_left hne

/-- Every annotation of a plan is for a level that asks for it. -/
theorem level_of_annotation (hview : root.view.Distinct) {a : Annotation} (h : a ∈ tour.plan.annotations) :
    ∃ t l, at? s graph root t = some l ∧ a.path = t.path ∧ l.Annotates a.annotator.field := by
  obtain ⟨t, asked, legs, hplace, hasked⟩ :=
    (Tour.mem_gather_annotations tour []).mp (Tour.mem_plan_annotations.mp h)
  obtain ⟨l, hl, _, hsub⟩ := at?_of_place fits covers hof hview hplace
  obtain ⟨name, hname, hsource, hpath⟩ := (annotated_mem_iff hsub a).mp hasked
  have hfield : a.annotator.field = name := (fits.at? covers hl).1.annotated name _ hsource
  exact ⟨t, l, hl, hpath, hfield.symm ▸ hname, _, hfield.symm ▸ hsource⟩

/-- The annotations of a plan at the path of a level are those that the level asks for. -/
theorem annotates_iff (hview : root.view.Distinct) {t : Trail} (h : at? s graph root t = some l) (name : String) :
    (∃ a ∈ tour.plan.annotations, a.path = t.path ∧ a.annotator.field = name) ↔ l.Annotates name := by
  obtain ⟨hfits, hproper⟩ := fits.at? covers h
  constructor
  · rintro ⟨a, ha, hpath, rfl⟩
    obtain ⟨u, l', hl', hpath', hannotates⟩ := level_of_annotation fits covers hof hview ha
    obtain rfl := Trail.path_injective (fits.at? covers hl').2 hproper (hpath'.symm.trans hpath)
    obtain rfl := Option.some.inj (h.symm.trans hl')
    exact hannotates
  · rintro ⟨hname, annotator, hsource⟩
    obtain ⟨sub, hplace, hsub⟩ := place_of_at? fits covers hof h
    obtain ⟨asked, legs, rfl, _, _⟩ := Tour.of?_parts hsub
    have hasked := (annotated_mem_iff hsub ⟨t.path, annotator⟩).mpr ⟨name, hname, hsource, rfl⟩
    have hmem := (Tour.mem_gather_annotations tour []).mpr ⟨t, asked, legs, hplace, hasked⟩
    exact ⟨⟨t.path, annotator⟩, Tour.mem_plan_annotations.mpr hmem, rfl, hfits.annotated name annotator hsource⟩

end Tour

end Level

theorem Entity.mem_selection {e : Entity} {fields : List String} {name : String} :
    name ∈ e.selection (some fields) ↔
      name = "id" ∨ name ∈ fields ∨ ∃ r ∈ e.relations, r.link.sourceKey? = some name := by
  simp [Entity.selection]

namespace Level

section Load

variable {entity : Entity} {link : Link} {sources : EntityFields} {view : NormalView} {fields : List String}
  (h : ∀ name, name ∈ fields ↔ Wants ⟨entity, some link, sources, view⟩ name)
include h

/-- A relation is loaded with the fields that the level selects to which it leads. -/
theorem selects_iff (name : String) : (name = "id" ∨ name ∈ entity.selection (Loader.fetched link (some fields))) ↔
    Selects ⟨entity, some link, sources, view⟩ name := by
  rw [Selects]
  cases link <;>
    simp only [Loader.fetched, Option.map_some, Entity.mem_selection, List.mem_append, List.mem_singleton, h, Link.targetKey?,
      Option.some.injEq, exists_eq_left', reduceCtorEq, or_false] <;>
    grind

theorem gets_iff (name : String) :
    Loader.Gets link entity (some fields) name ↔ Gets ⟨entity, some link, sources, view⟩ name := by
  rw [Loader.Gets, Gets, selects_iff h]
  simp [Drops]

theorem asks_of_load {sel : Select} (hsel : Loader.Asks link entity (some fields) sel) :
    Asks ⟨entity, some link, sources, view⟩ sel := by
  cases link with
  | manyToMany table sourceKey targetKey =>
    obtain ⟨source, hsource, hlists⟩ := hsel
    exact ⟨source, hsource, hlists.congr (selects_iff h)⟩
  | manyToOne | oneToOne | oneToMany | oneToOneInverse => exact hsel.congr (selects_iff h)

end Load

/-- The root statement asks for what the root of the view wants. -/
theorem asks_root {root : Level} (hlink : root.link = none) {fields : List String}
    (h : ∀ name, name ∈ fields ↔ root.Wants name) {sel : Select}
    (hsel : sel.Lists root.entity (fun name => name = "id" ∨ name ∈ root.entity.selection (some fields)) []) :
    root.Asks sel ∧ ∀ name, (name = "id" ∨ name ∈ root.entity.selection (some fields)) ↔ root.Gets name := by
  have hselects : ∀ name, (name = "id" ∨ name ∈ root.entity.selection (some fields)) ↔ root.Selects name := by
    intro name
    simp only [Entity.mem_selection, h, Selects, hlink, reduceCtorEq, false_and, exists_false, or_false]
    grind
  constructor
  · rw [Asks, hlink]
    exact hsel.congr hselects
  · intro name
    rw [hselects, Gets, Drops, hlink]
    simp

end Level

end EntityViews
