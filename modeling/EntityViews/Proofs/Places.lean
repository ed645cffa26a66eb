import EntityViews.Proofs.Keyed

/-!
The places of a tour: the tours that are come to along its relations. Main statements: whatever is in the plan of a tour
comes from one of its places, and the fields of a load come from the places that are reached without a filter.
-/

namespace EntityViews

namespace Tour

variable {ok : Leg → Prop} {base tour : Tour} {start t : Trail} {asked : List Asked} {legs : List (Leg × Tour)} {leg : Leg}

inductive Along (ok : Leg → Prop) (base : Tour) (start : Trail) : Trail → Tour → Prop
  | here : Along ok base start start base
  | step {t : Trail} {asked : List Asked} {legs : List (Leg × Tour)} {leg : Leg} {tour : Tour} :
    Along ok base start t (mk asked legs) → (leg, tour) ∈ legs → ok leg →
    Along ok base start (leg.source.populate :: t) tour

abbrev Place (base : Tour) (start : Trail) : Trail → Tour → Prop := Along (fun _ => True) base start

abbrev Near (base : Tour) (start : Trail) : Trail → Tour → Prop := Along (fun leg => leg.filter = none) base start

theorem Along.place (h : Along ok base start t tour) : base.Place start t tour := by
  induction h with
  | here => exact .here
  | step _ hl _ ih => exact ih.step hl trivial

theorem Along.trans {mid : Tour} {between : Trail} (h : Along ok base start between mid) (h' : Along ok mid between t tour) :
    Along ok base start t tour := by
  induction h' with
  | here => exact h
  | step _ hl hok ih => exact ih.step hl hok

/-- A leg that is laid has the path of its trail, and its tour goes on from there. -/
theorem laid_leg (h : LegsLaid t legs) (hl : (leg, tour) ∈ legs) :
    leg.path = Trail.path (leg.source.populate :: t) ∧ Trail.Proper (leg.source.populate :: t) ∧
      tour.Laid (leg.source.populate :: t) := by
  induction legs with
  | nil => cases hl
  | cons first rest ih =>
    obtain ⟨hpath, hproper, hnested, _, hrest⟩ := h
    rcases List.mem_cons.mp hl with he | hl
    · cases he
      exact ⟨hpath, hproper, hnested⟩
    · exact ih hrest hl

theorem Along.laid (h : Along ok base start t tour) (hbase : base.Laid start) : tour.Laid t := by
  induction h with
  | here => exact hbase
  | step _ hl _ ih => exact (laid_leg ih hl).2.2

theorem Along.proper (h : Along ok base start t tour) (hbase : base.Laid start) (hstart : Trail.Proper start) : Trail.Proper t := by
  cases h with
  | here => exact hstart
  | step hbefore hl _ => exact (laid_leg (hbefore.laid hbase) hl).2.1

/-- A leg and all that follow it are among the legs of the tour. -/
theorem legsOf_of_mem (h : (leg, tour) ∈ legs) : (leg.source.populate :: t, leg) ∈ legsOf t legs ∧
    ∀ l ∈ tour.legsFrom (leg.source.populate :: t), l ∈ legsOf t legs := by
  induction legs with
  | nil => cases h
  | cons first rest ih =>
    rw [legsOf]
    rcases List.mem_cons.mp h with rfl | h
    · exact ⟨List.mem_cons_self, fun l hl => List.mem_cons_of_mem _ (List.mem_append_left _ hl)⟩
    · obtain ⟨hown, hbelow⟩ := ih h
      exact ⟨List.mem_cons_of_mem _ (List.mem_append_right _ hown),
        fun l hl => List.mem_cons_of_mem _ (List.mem_append_right _ (hbelow l hl))⟩

/-- The relations from a place on are among those of the tour. -/
theorem Along.legsFrom (h : Along ok base start t tour) : ∀ l ∈ tour.legsFrom t, l ∈ base.legsFrom start := by
  induction h with
  | here => exact fun l hl => hl
  | step _ hl _ ih => exact fun l hl' => ih l ((legsOf_of_mem hl).2 l hl')

/-- Something that a plan may have: what has it is what a tour asks for, a relation itself, or what the plan takes over from
beyond a relation of a kind. -/
structure Part (has : Plan → Prop) (asks : List Asked → Prop) (brings : Leg → Plan → Prop) (ok : Leg → Prop) : Prop where
  empty : ¬has Plan.empty
  append : ∀ p q, has (p.append q) ↔ has p ∨ has q
  asked : ∀ asked, has (Plan.ofAsked asked) ↔ asks asked
  leg : ∀ leg nested, has (Plan.ofLeg leg nested) ↔ brings leg nested ∨ (ok leg ∧ has nested)

section Part

variable {has : Plan → Prop} {asks : List Asked → Prop} {brings : Leg → Plan → Prop}

/-- What the plan of several legs holds is brought by one of them, or held by the plan below it. -/
theorem has_gatherLegs (h : Part has asks brings ok) (legs : List (Leg × Tour)) :
    has (gatherLegs legs) ↔ ∃ l ∈ legs, brings l.1 l.2.gather ∨ (ok l.1 ∧ has l.2.gather) := by
  induction legs with
  | nil => simp [gatherLegs, h.empty]
  | cons l rest ih =>
    obtain ⟨leg, tour⟩ := l
    rw [gatherLegs, h.append, h.leg, ih]
    simp

theorem has_gather (h : Part has asks brings ok) : has (mk asked legs).gather ↔
    asks asked ∨ ∃ l ∈ legs, brings l.1 l.2.gather ∨ (ok l.1 ∧ has l.2.gather) := by
  rw [gather, h.append, h.asked, has_gatherLegs h]

mutual

theorem place_of_has (h : Part has asks brings ok) {t : Trail} : (tour : Tour) → Along ok base start t tour →
    has tour.gather → ∃ t asked legs, Along ok base start t (mk asked legs) ∧
      (asks asked ∨ ∃ l ∈ legs, brings l.1 l.2.gather)
  | mk asked legs => by
    intro ht hhas
    rcases (has_gather h).mp hhas with hasks | hlegs
    · exact ⟨t, asked, legs, ht, Or.inl hasks⟩
    · exact place_of_hasLegs h legs (fun l hl => hl) ht hlegs

theorem place_of_hasLegs (h : Part has asks brings ok) {t : Trail} {asked : List Asked} {legs : List (Leg × Tour)} :
    (rest : List (Leg × Tour)) → (∀ l ∈ rest, l ∈ legs) → Along ok base start t (mk asked legs) →
    (∃ l ∈ rest, brings l.1 l.2.gather ∨ (ok l.1 ∧ has l.2.gather)) →
    ∃ t asked legs, Along ok base start t (mk asked legs) ∧ (asks asked ∨ ∃ l ∈ legs, brings l.1 l.2.gather)
  | [] => by
    rintro _ _ ⟨l, hl, _⟩
    cases hl
  | (leg, tour) :: rest => by
    rintro hmem ht ⟨l, hl, hor⟩
    rcases List.mem_cons.mp hl with rfl | hl
    · have hleg : (leg, tour) ∈ legs := hmem _ List.mem_cons_self
      rcases hor with hbrings | ⟨hok, hhas⟩
      · exact ⟨t, asked, legs, ht, Or.inr ⟨_, hleg, hbrings⟩⟩
      · exact place_of_has h tour (ht.step hleg hok) hhas
    · exact place_of_hasLegs h rest (fun m hm => hmem m (List.mem_cons_of_mem _ hm)) ht ⟨l, hl, hor⟩

end

/-- A part of the plan of a tour comes from a place of the tour. -/
theorem has_iff_place (h : Part has asks brings ok) (base : Tour) (start : Trail) : has base.gather ↔
    ∃ t asked legs, Along ok base start t (mk asked legs) ∧ (asks asked ∨ ∃ l ∈ legs, brings l.1 l.2.gather) := by
  constructor
  · exact place_of_has h base .here
  · rintro ⟨t, asked, legs, ht, hat⟩
    -- What a place has is taken over relation by relation, up to the start.
    have hup : ∀ u tour, Along ok base start u tour → has tour.gather → has base.gather := by
      intro u tour hu
      induction hu with
      | here => exact id
      | step _ hl hok ih =>
        intro hhas
        exact ih ((has_gather h).mpr (Or.inr ⟨_, hl, Or.inr ⟨hok, hhas⟩⟩))
    refine hup t _ ht ((has_gather h).mpr ?_)
    rcases hat with hasks | ⟨l, hl, hbrings⟩
    · exact Or.inl hasks
    · exact Or.inr ⟨l, hl, Or.inl hbrings⟩

end Part

/-- A field is fetched with the roots if some level that is near them asks for it. -/
theorem mem_gather_fields {f : String} (base : Tour) (start : Trail) : f ∈ base.gather.fields ↔
    ∃ t asked legs, base.Near start t (mk asked legs) ∧ .field f ∈ asked := by
  have hpart : Part (fun p => f ∈ p.fields) (fun asked => .field f ∈ asked) (fun _ _ => False)
      fun leg => leg.filter = none := by
    refine ⟨by simp [Plan.empty], fun p q => by simp [Plan.append], ?_, ?_⟩
    · intro asked
      rw [Plan.ofAsked, List.mem_filterMap]
      constructor
      · rintro ⟨a, ha, he⟩
        cases a with
        | field name => exact Option.some.inj he ▸ ha
        | annotated a => cases he
      · intro ha
        exact ⟨_, ha, rfl⟩
    · intro leg nested
      cases hf : leg.filter <;> simp [Plan.ofLeg, hf]
  simpa using has_iff_place hpart base start

/-- An annotator runs if some level asks for it. -/
theorem mem_gather_annotations {a : Annotation} (base : Tour) (start : Trail) : a ∈ base.gather.annotations ↔
    ∃ t asked legs, base.Place start t (mk asked legs) ∧ .annotated a ∈ asked := by
  have hpart : Part (fun p => a ∈ p.annotations) (fun asked => .annotated a ∈ asked) (fun _ _ => False)
      fun _ => True := by
    refine ⟨by simp [Plan.empty], fun p q => by simp [Plan.append], ?_, ?_⟩
    · intro asked
      rw [Plan.ofAsked, List.mem_filterMap]
      constructor
      · rintro ⟨b, hb, he⟩
        cases b with
        | field name => cases he
        | annotated b => exact Option.some.inj he ▸ hb
      · intro ha
        exact ⟨_, ha, rfl⟩
    · intro leg nested
      cases hf : leg.filter <;> simp [Plan.ofLeg, hf]
  simpa using has_iff_place hpart base start

/-- A path is populated with the roots if some level near them has an unfiltered leg to it. -/
theorem mem_gather_populate {path : String} (base : Tour) (start : Trail) : path ∈ base.gather.populate ↔
    ∃ t asked legs, base.Near start t (mk asked legs) ∧ ∃ l ∈ legs, l.1.filter = none ∧ path = l.1.path := by
  have hpart : Part (fun p => path ∈ p.populate) (fun _ => False) (fun leg _ => leg.filter = none ∧ path = leg.path)
      fun leg => leg.filter = none := by
    refine ⟨by simp [Plan.empty], fun p q => by simp [Plan.append], fun asked => by simp [Plan.ofAsked], ?_⟩
    intro leg nested
    cases hf : leg.filter <;> simp [Plan.ofLeg, hf]
  simpa using has_iff_place hpart base start

/-- A load of its own stands for each filtered leg, with what is near its end. -/
theorem mem_gather_filtered {entry : FilteredPopulate} (base : Tour) (start : Trail) : entry ∈ base.gather.filtered ↔
    ∃ t asked legs, base.Place start t (mk asked legs) ∧ ∃ l ∈ legs, ∃ f, l.1.filter = some f ∧ entry =
      ⟨distinct (l.1.path :: l.2.gather.populate), Filter.nest l.1.path f, distinct l.2.gather.fields⟩ := by
  have hpart : Part (fun p => entry ∈ p.filtered) (fun _ => False) (fun leg nested => ∃ f, leg.filter = some f ∧ entry =
      ⟨distinct (leg.path :: nested.populate), Filter.nest leg.path f, distinct nested.fields⟩) fun _ => True := by
    refine ⟨by simp [Plan.empty], fun p q => by simp [Plan.append], fun asked => by simp [Plan.ofAsked], ?_⟩
    intro leg nested
    cases hf : leg.filter <;> simp [Plan.ofLeg, hf]
  simpa using has_iff_place hpart base start

/-! What is gathered is what is in the plan, there without repetitions. -/

theorem mem_plan_fields {f : String} : f ∈ tour.plan.fields ↔ f ∈ tour.gather.fields := by
  simp [plan, Plan.join, Plan.empty]

theorem mem_plan_populate {path : String} : path ∈ tour.plan.populate ↔ path ∈ tour.gather.populate := by
  simp [plan, Plan.join, Plan.empty]

theorem mem_plan_annotations {a : Annotation} : a ∈ tour.plan.annotations ↔ a ∈ tour.gather.annotations := by
  simp [plan, Plan.join, Plan.empty]

/-! What a view asks for. -/

variable {graph : Graph} {context : Context} {overrides : Value} {sources : EntityFields} {path : String}

/-- What a level asks for are its columns, its formulas and the annotators of its annotated fields. -/
theorem mem_asked? {names : List String} (h : asked? sources path names = some asked) (a : Asked) : a ∈ asked ↔
    ∃ name ∈ names, match sources.source? name with
      | some .column | some .formula => a = .field (Text.qualify path name)
      | some (.annotated annotator) => a = .annotated ⟨path, annotator⟩
      | _ => False := by
  induction names generalizing asked with
  | nil =>
    rw [asked?, Option.some.injEq] at h
    subst h
    simp
  | cons name rest ih =>
    rw [asked?] at h
    simp only [bind, Option.bind_eq_some_iff] at h
    obtain ⟨source, hs, more, hmore, hasked⟩ := h
    have hrest := ih hmore
    simp only [List.mem_cons, exists_eq_or_imp, ← hrest, hs]
    cases source with
    | column | formula | annotated =>
      cases hasked
      simp
    | relation =>
      cases hasked
      simp
    | «foreign» => cases hasked

/-- Legs are made of the relations that the sources know, each with the tour of the view below it. -/
theorem mem_legs? {relations : List (String × NormalView)} (h : legs? graph context overrides sources path relations = some legs) :
    (∀ l ∈ legs, ∃ name view target, (name, view) ∈ relations ∧ sources.source? name = some (.relation l.1.source) ∧
      graph l.1.source.target = .ok target ∧
      of? graph context overrides target (Text.qualify path l.1.source.populate) view = some l.2) ∧
    ∀ name view r, (name, view) ∈ relations → sources.source? name = some (.relation r) → ∃ l ∈ legs, ∃ target,
      l.1.source = r ∧ graph r.target = .ok target ∧
      of? graph context overrides target (Text.qualify path r.populate) view = some l.2 := by
  induction relations generalizing legs with
  | nil =>
    rw [legs?, Option.some.injEq] at h
    subst h
    exact ⟨fun l hl => absurd hl List.not_mem_nil, fun name view r hm => absurd hm List.not_mem_nil⟩
  | cons entry rest ih =>
    obtain ⟨name, view⟩ := entry
    -- A view that leads nowhere adds no leg, and each other one adds its own.
    rcases legs?_cons h with ⟨hno, h⟩ | ⟨r, target, tour, own, given, legs', hr, ht, htour, _, _, hlegs, rfl⟩
    · obtain ⟨hfrom, hto⟩ := ih h
      constructor
      · intro l hl
        obtain ⟨name', view', target, hm, hrest⟩ := hfrom l hl
        exact ⟨name', view', target, List.mem_cons_of_mem _ hm, hrest⟩
      · intro name' view' r hm hr
        rcases List.mem_cons.mp hm with he | hm
        · cases he
          exact absurd hr (hno r)
        · exact hto name' view' r hm hr
    · obtain ⟨hfrom, hto⟩ := ih hlegs
      constructor
      · intro l hl
        rcases List.mem_cons.mp hl with rfl | hl
        · exact ⟨name, view, target, List.mem_cons_self, hr, ht, htour⟩
        · obtain ⟨name', view', target', hm, hrest⟩ := hfrom l hl
          exact ⟨name', view', target', List.mem_cons_of_mem _ hm, hrest⟩
      · intro name' view' r' hm hr'
        rcases List.mem_cons.mp hm with he | hm
        · cases he
          obtain rfl := Source.relation.inj (Option.some.inj (hr.symm.trans hr'))
          exact ⟨_, List.mem_cons_self, target, rfl, ht, htour⟩
        · obtain ⟨l, hl, hrest⟩ := hto name' view' r' hm hr'
          exact ⟨l, List.mem_cons_of_mem _ hl, hrest⟩

end Tour

end EntityViews
