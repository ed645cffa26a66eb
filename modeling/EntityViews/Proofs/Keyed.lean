import EntityViews.Proofs.Schedule

/-!
Sources whose relations are keyed by the names of their fields, and views that name no relation twice. The tour of such a
view has the trails of its keys.
-/

namespace EntityViews

/-- What is found under a key is there with the key. -/
theorem mem_of_find?_key {α : Type} {entries : List (String × α)} {key : String} {v : α}
    (h : (entries.find? (·.1 == key)).map (·.2) = some v) : (key, v) ∈ entries := by
  obtain ⟨⟨name, found⟩, hfind, rfl⟩ := Option.map_eq_some_iff.mp h
  have hname : name = key := by simpa using List.find?_some hfind
  subst hname
  exact List.mem_of_find?_eq_some hfind

/-- Under distinct keys, what is there with a key is found under it. -/
theorem find?_key_of_mem {α : Type} {entries : List (String × α)} (h : (entries.map (·.1)).Nodup) {key : String} {v : α}
    (hmem : (key, v) ∈ entries) : (entries.find? (·.1 == key)).map (·.2) = some v := by
  induction entries with
  | nil => cases hmem
  | cons entry rest ih =>
    rw [List.map_cons, List.nodup_cons] at h
    rcases List.mem_cons.mp hmem with rfl | hmem
    · rw [List.find?_cons, beq_self_eq_true]
      rfl
    · -- The key is that of a later entry, so it is not the first one's.
      have hne : entry.1 ≠ key := by
        intro he
        apply h.1
        rw [he]
        exact List.mem_map.mpr ⟨_, hmem, rfl⟩
      rw [List.find?_cons, beq_false_of_ne hne]
      exact ih h.2 hmem

def EntityFields.Keyed (f : EntityFields) : Prop :=
  ∀ name r, f.source? name = some (.relation r) → r.populate = name ∧ name ≠ "" ∧ '.' ∉ name.toList

/-- Whether related records are attached under names without dots, and those of different fields under different ones. -/
def EntityFields.Unshared (f : EntityFields) : Prop :=
  (∀ name r, f.source? name = some (.relation r) → r.populate ≠ "" ∧ '.' ∉ r.populate.toList) ∧
    ∀ name name' r r', f.source? name = some (.relation r) → f.source? name' = some (.relation r') →
      r.populate = r'.populate → name = name'

/-- Where relations are named by their keys no two of them share one. -/
theorem EntityFields.Keyed.unshared {f : EntityFields} (h : f.Keyed) : f.Unshared := by
  constructor
  · intro name r hr
    obtain ⟨hkey, hname⟩ := h name r hr
    rwa [hkey]
  · intro name name' r r' hr hr' he
    rw [← (h name r hr).1, he, (h name' r' hr').1]

def Value.Mapping (v : Value) : Prop := v.isPresent = true → ∃ entries, v = .map entries

def EntityFields.Mapping (context : Context) (f : EntityFields) : Prop :=
  ∀ name r v, f.source? name = some (.relation r) → Plan.contextFilter context r = .ok v → v.Mapping

def Plan.Mapping (overrides : Value) : Prop := ∀ path v, Plan.override overrides path = .ok v → v.Mapping

theorem Plan.mapping_of_entries {entries : List (Value × Value)} (h : ∀ e ∈ entries, e.2.Mapping) :
    Plan.Mapping (.map entries) := by
  intro path v hv
  have hlookup : (lookup? (.text path) entries).getD .null = v := Except.ok.inj hv
  subst hlookup
  cases hl : lookup? (.text path) entries with
  | none => exact nofun
  | some v =>
    obtain ⟨e, he, rfl⟩ := Option.map_eq_some_iff.mp hl
    exact h e (List.mem_of_find?_eq_some he)

def EntityFields.declared (context : Context) (f : EntityFields) : Bool :=
  f.sources.all fun p =>
    match p.2 with
    | .relation r => r.populate == p.1 && p.1 != "" && !p.1.toList.contains '.' &&
      (match Plan.contextFilter context r with
      | .ok (.map _) | .error _ => true
      | .ok v => !v.isPresent)
    | _ => true

/-- The fields that a declaration passes are named by their keys and filtered by mappings. -/
theorem EntityFields.keyed_of_declared {context : Context} {f : EntityFields} (h : f.declared context = true) :
    f.Keyed ∧ f.Mapping context := by
  have hrelation : ∀ name r, f.source? name = some (.relation r) →
      (r.populate = name ∧ name ≠ "" ∧ '.' ∉ name.toList) ∧
        ∀ v, Plan.contextFilter context r = .ok v → v.Mapping := by
    intro name r hr
    have hcheck := List.all_eq_true.mp h _ (mem_of_find?_key hr)
    simp only [Bool.and_eq_true, beq_iff_eq, bne_iff_ne, Bool.not_eq_true', List.contains_eq_mem, decide_eq_false_iff_not]
      at hcheck
    obtain ⟨⟨⟨hpopulate, hne⟩, hdot⟩, hfilter⟩ := hcheck
    refine ⟨⟨hpopulate, hne, hdot⟩, ?_⟩
    intro v hv hpresent
    rw [hv] at hfilter
    split at hfilter
    · exact ⟨_, Except.ok.inj ‹_›⟩
    · cases ‹Except.ok v = .error _›
    · cases ‹Except.ok v = .ok _›
      rw [hpresent] at hfilter
      cases hfilter
  exact ⟨fun name r hr => (hrelation name r hr).1, fun name r v hr hv => (hrelation name r hr).2 v hv⟩

namespace Registry

/-- A field graph is the one that was built, or the one that its blueprint builds now. -/
theorem graph_ok_iff {r : Registry} {name : String} {f : EntityFields} : r.graph name = .ok f ↔
    ∃ slot, r.slot? name = some slot ∧ (slot.built = some f ∨ slot.built = none ∧ slot.blueprint.build slot.runs = .ok f) := by
  unfold graph get
  cases r.slot? name with
  | none => simp
  | some slot =>
    cases hb : slot.built with
    | none => simp [hb]
    | some fields => simp [hb]

def every (check : String → EntityFields → Bool) (r : Registry) : Bool :=
  r.slots.all fun slot =>
    match slot.built, slot.blueprint.build slot.runs with
    | some f, _ | none, .ok f => check slot.entity f
    | none, .error _ => true

/-- What is checked of all graphs of a registry holds of each that it gives. -/
theorem of_every {check : String → EntityFields → Bool} {r : Registry} (h : r.every check = true) {entity : String}
    {f : EntityFields} (hf : r.graph entity = .ok f) : check entity f = true := by
  obtain ⟨slot, hslot, hbuilt⟩ := graph_ok_iff.mp hf
  have hname : slot.entity = entity := by simpa using List.find?_some hslot
  have hcheck := List.all_eq_true.mp h _ (List.mem_of_find?_eq_some hslot)
  rw [← hname]
  rcases hbuilt with hb | ⟨hb, hbuild⟩
  · simpa only [hb] using hcheck
  · simpa only [hb, hbuild] using hcheck

def declared (context : Context) (r : Registry) : Bool := r.every fun _ f => f.declared context

theorem keyed_of_declared {context : Context} {r : Registry} (h : r.declared context = true) {entity : String}
    {f : EntityFields} (hf : r.graph entity = .ok f) : f.Keyed ∧ f.Mapping context :=
  EntityFields.keyed_of_declared (of_every h hf)

end Registry

mutual

def NormalView.Distinct : NormalView → Prop
  | mk _ relations => NormalView.DistinctIn relations

def NormalView.DistinctIn : List (String × NormalView) → Prop
  | [] => True
  | (name, view) :: rest => view.Distinct ∧ (∀ r ∈ rest, r.1 ≠ name) ∧ NormalView.DistinctIn rest

end

/-- A view that names no relation twice on any level, as no view does that is read from maps with one value for each key. -/
structure DistinctView where
  view : View
  distinct : view.normal.Distinct

/-- What is given as a view: a value, and it spells a view that names no relation twice on any level if it spells one. -/
structure GivenView where
  value : Value
  distinct : ∀ v, View.ofValue value = .ok v → v.normal.Distinct

/-- Filters merged from mappings are mappings. -/
theorem Leg.filter_map (leg : Leg) {f : Value} (hown : leg.own.Mapping) (hgiven : leg.given.Mapping)
    (h : leg.filter = some f) : ∃ entries, f = .map entries := by
  rcases leg.filter_cases with ⟨_, _, hf⟩ | ⟨ho, _, hf⟩ | ⟨_, hg, hf⟩ | ⟨_, _, hf⟩
  · exact ⟨_, Option.some.inj (h.symm.trans hf)⟩
  · obtain rfl := Option.some.inj (h.symm.trans hf)
    exact hown ho
  · obtain rfl := Option.some.inj (h.symm.trans hf)
    exact hgiven hg
  · cases h.symm.trans hf

namespace Tour

variable {graph : Graph} {context : Context} {overrides : Value}

/-- The first view below leads to no relation and is left out, or it leads to one and adds a leg. -/
theorem legs?_cons {sources : EntityFields} {path name : String} {view : NormalView}
    {rest : List (String × NormalView)} {legs : List (Leg × Tour)}
    (h : legs? graph context overrides sources path ((name, view) :: rest) = some legs) :
    ((∀ r, sources.source? name ≠ some (.relation r)) ∧ legs? graph context overrides sources path rest = some legs) ∨
    ∃ r target tour own given legs', sources.source? name = some (.relation r) ∧ graph r.target = .ok target ∧
      of? graph context overrides target (Text.qualify path r.populate) view = some tour ∧
      Plan.contextFilter context r = .ok own ∧ Plan.override overrides (Text.qualify path r.populate) = .ok given ∧
      legs? graph context overrides sources path rest = some legs' ∧
      legs = (⟨r, Text.qualify path r.populate, own, given⟩, tour) :: legs' := by
  rw [legs?] at h
  split at h
  · rename_i r hr
    simp only [bind, Option.bind_eq_some_iff, pure, Option.some.injEq, Except.toOption_eq_some_iff] at h
    obtain ⟨target, ht, tour, htour, own, hown, given, hgiven, legs', hlegs, rfl⟩ := h
    exact Or.inr ⟨r, target, tour, own, given, legs', hr, ht, htour, hown, hgiven, hlegs, rfl⟩
  · exact Or.inl ⟨‹_›, h⟩

mutual

theorem laid_of? (hg : ∀ entity f, graph entity = .ok f → f.Unshared) : (view : NormalView) →
    ∀ (sources : EntityFields) (t : Trail) (tour : Tour), sources.Unshared → view.Distinct → Trail.Proper t →
    of? graph context overrides sources t.path view = some tour → tour.Laid t
  | .mk fields relations => by
    intro sources t tour hs hv hp h
    simp only [of?, bind, Option.bind_eq_some_iff, pure, Option.some.injEq] at h
    obtain ⟨asked, _, legs, hlegs, rfl⟩ := h
    exact (laid_legs? hg relations sources t legs hs hv hp hlegs).1

/-- The legs of a view are laid along the trails of its keys, whatever the graphs behind them. -/
theorem laid_legs? (hg : ∀ entity f, graph entity = .ok f → f.Unshared) : (relations : List (String × NormalView)) →
    ∀ (sources : EntityFields) (t : Trail) (legs : List (Leg × Tour)), sources.Unshared →
    NormalView.DistinctIn relations → Trail.Proper t →
    legs? graph context overrides sources t.path relations = some legs →
    LegsLaid t legs ∧ ∀ l ∈ legs, ∃ k ∈ relations, sources.source? k.1 = some (.relation l.1.source)
  | [] => by
    intro sources t legs hs hv hp h
    rw [legs?, Option.some.injEq] at h
    subst h
    exact ⟨trivial, nofun⟩
  | (name, view) :: rest => by
    rintro sources t legs hs ⟨hview, hname, hrest⟩ hp h
    rcases legs?_cons h with ⟨_, h⟩ | ⟨r, target, tour, own, given, legs', hr, htarget, htour, _, _, hlegs, rfl⟩
    · obtain ⟨hlaid, hkeys⟩ := laid_legs? hg rest sources t legs hs hrest hp h
      refine ⟨hlaid, ?_⟩
      intro l hl
      obtain ⟨k, hk, he⟩ := hkeys l hl
      exact ⟨k, List.mem_cons_of_mem _ hk, he⟩
    · obtain ⟨hlaid, hkeys⟩ := laid_legs? hg rest sources t legs' hs hrest hp hlegs
      have hproper : Trail.Proper (r.populate :: t) := by
        intro k hk
        rcases List.mem_cons.mp hk with rfl | hk
        · exact hs.1 name r hr
        · exact hp k hk
      have hnested := laid_of? hg view target (r.populate :: t) tour (hg _ _ htarget) hview hproper htour
      refine ⟨⟨rfl, hproper, hnested, ?_, hlaid⟩, ?_⟩
      -- Another relation with the same key would be under the same name in the view.
      · intro l hl he
        obtain ⟨k, hk, hkl⟩ := hkeys l hl
        exact hname k hk (hs.2 _ _ _ _ hkl hr he)
      · intro l hl
        rcases List.mem_cons.mp hl with rfl | hl
        · exact ⟨(name, view), List.mem_cons_self, hr⟩
        · obtain ⟨k, hk, he⟩ := hkeys l hl
          exact ⟨k, List.mem_cons_of_mem _ hk, he⟩

end

mutual

/-- A relation on a tour is one of an entity on the way, and its filters are the one of the context and the one that is
given for its path. -/
theorem filters_of? {t u : Trail} {leg : Leg} : (view : NormalView) → ∀ (sources : EntityFields) (path : String)
    (tour : Tour), of? graph context overrides sources path view = some tour → (u, leg) ∈ tour.legsFrom t →
    (∃ f name, (f = sources ∨ ∃ entity, graph entity = .ok f) ∧ f.source? name = some (.relation leg.source)) ∧
      Plan.contextFilter context leg.source = .ok leg.own ∧ Plan.override overrides leg.path = .ok leg.given
  | .mk fields relations => by
    intro sources path tour h
    simp only [of?, bind, Option.bind_eq_some_iff, pure, Option.some.injEq] at h
    obtain ⟨asked, _, legs, hlegs, rfl⟩ := h
    exact filters_legs? relations sources path legs hlegs

/-- Each leg has the filter of its source and the override that is given for its path. -/
theorem filters_legs? {t u : Trail} {leg : Leg} : (relations : List (String × NormalView)) → ∀ (sources : EntityFields)
    (path : String) (legs : List (Leg × Tour)), legs? graph context overrides sources path relations = some legs →
    (u, leg) ∈ legsOf t legs →
    (∃ f name, (f = sources ∨ ∃ entity, graph entity = .ok f) ∧ f.source? name = some (.relation leg.source)) ∧
      Plan.contextFilter context leg.source = .ok leg.own ∧ Plan.override overrides leg.path = .ok leg.given
  | [] => by
    intro sources path legs h
    rw [legs?, Option.some.injEq] at h
    subst h
    exact nofun
  | (name, view) :: rest => by
    intro sources path legs h hl
    rcases legs?_cons h with ⟨_, h⟩ | ⟨r, target, tour, own, given, legs', hr, ht, htour, hown, hgiven, hlegs, rfl⟩
    · exact filters_legs? rest sources path legs h hl
    · rw [legsOf, List.mem_cons, List.mem_append] at hl
      rcases hl with he | hl | hl
      · cases he
        exact ⟨⟨sources, name, Or.inl rfl, hr⟩, hown, hgiven⟩
      · obtain ⟨⟨f, name, hf, hrelation⟩, hfilters⟩ := filters_of? view target _ tour htour hl
        refine ⟨⟨f, name, Or.inr ?_, hrelation⟩, hfilters⟩
        rcases hf with rfl | hf
        · exact ⟨r.target, ht⟩
        · exact hf
      · exact filters_legs? rest sources path legs' hlegs hl

end

/-- Where all sources filter by mappings, so does the whole tour. -/
theorem mapped_of? (hg : ∀ entity f, graph entity = .ok f → f.Mapping context) (ho : Plan.Mapping overrides) {t : Trail}
    {view : NormalView} {sources : EntityFields} {path : String} {tour : Tour} (hs : sources.Mapping context)
    (h : of? graph context overrides sources path view = some tour) : tour.Mapped t := by
  rintro ⟨u, leg⟩ hl
  obtain ⟨⟨f, name, hf, hrelation⟩, hown, hgiven⟩ := filters_of? view sources path tour h hl
  have hmapping : f.Mapping context := by
    rcases hf with rfl | ⟨entity, hf⟩
    · exact hs
    · exact hg entity f hf
  intro v hv
  exact leg.filter_map (hmapping name leg.source leg.own hrelation hown) (ho leg.path leg.given hgiven) hv

mutual

/-- Other filters that are given make no difference to where a tour goes. -/
theorem mem_legsFrom_of_overrides {overrides' : Value} {t u : Trail} {leg : Leg} : (view : NormalView) →
    ∀ (sources : EntityFields) (path : String) (tour tour' : Tour),
    of? graph context overrides sources path view = some tour →
    of? graph context overrides' sources path view = some tour' → (u, leg) ∈ tour.legsFrom t →
    ∃ given', (u, { leg with given := given' }) ∈ tour'.legsFrom t
  | .mk fields relations => by
    intro sources path tour tour' h h'
    simp only [of?, bind, Option.bind_eq_some_iff, pure, Option.some.injEq] at h h'
    obtain ⟨asked, _, legs, hlegs, rfl⟩ := h
    obtain ⟨asked', _, legs', hlegs', rfl⟩ := h'
    exact mem_legsOf_of_overrides relations sources path legs legs' hlegs hlegs'

/-- Overrides change the filters of legs but neither their trails nor what they fetch. -/
theorem mem_legsOf_of_overrides {overrides' : Value} {t u : Trail} {leg : Leg} :
    (relations : List (String × NormalView)) → ∀ (sources : EntityFields) (path : String) (legs legs' : List (Leg × Tour)),
    legs? graph context overrides sources path relations = some legs →
    legs? graph context overrides' sources path relations = some legs' → (u, leg) ∈ legsOf t legs →
    ∃ given', (u, { leg with given := given' }) ∈ legsOf t legs'
  | [] => by
    intro sources path legs legs' h _
    rw [legs?, Option.some.injEq] at h
    subst h
    exact nofun
  | (name, view) :: rest => by
    intro sources path legs legs' h h' hl
    rcases legs?_cons h with ⟨hno, h⟩ | ⟨r, target, tour, own, given, more, hr, ht, htour, hown, _, hlegs, rfl⟩
    · rcases legs?_cons h' with ⟨_, h'⟩ | ⟨r, _, _, _, _, _, hr, _⟩
      · exact mem_legsOf_of_overrides rest sources path legs legs' h h' hl
      · exact absurd hr (hno r)
    · rcases legs?_cons h' with ⟨hno, _⟩ | ⟨r', target', tour', own', given', more', hr', ht', htour', hown', _, hlegs', rfl⟩
      · exact absurd hr (hno r)
      · -- Source, target and own filter do not depend on what is given, so the two tours agree in them.
        obtain rfl : r = r' := Source.relation.inj (Option.some.inj (hr.symm.trans hr'))
        obtain rfl := Except.ok.inj (ht.symm.trans ht')
        obtain rfl := Except.ok.inj (hown.symm.trans hown')
        rw [legsOf, List.mem_cons, List.mem_append] at hl
        rcases hl with he | hl | hl
        · cases he
          exact ⟨given', List.mem_cons_self⟩
        · obtain ⟨g, hg⟩ := mem_legsFrom_of_overrides view target _ tour tour' htour htour' hl
          exact ⟨g, List.mem_cons_of_mem _ (List.mem_append_left _ hg)⟩
        · obtain ⟨g, hg⟩ := mem_legsOf_of_overrides rest sources path more more' hlegs hlegs' hl
          exact ⟨g, List.mem_cons_of_mem _ (List.mem_append_right _ hg)⟩

end

end Tour

end EntityViews
