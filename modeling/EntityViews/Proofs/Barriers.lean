import EntityViews.Proofs.Course
import EntityViews.Proofs.Origins
import EntityViews.Proofs.Vacancy

/-!
When the execution of a view ends at a path that cannot be walked. Main statement: it does exactly if on the way to some
annotator a relation to one leads a record to nothing, and what a record has there is as its key and the rows have it.
-/

namespace EntityViews

def Plan.trails (p : Plan) : List Trail := p.loads.map fun load => (Text.steps load.path).reverse

namespace Tour

/-- The trails of a plan are those of its loads. -/
theorem plan_trails {tour : Tour} (hlaid : tour.Laid []) : tour.plan.trails = (tour.loads []).map (·.1) := by
  -- The plan has the paths of the trails, and a proper trail is read off its path.
  have hpaths := congrArg (List.map fun path => (Text.steps path).reverse) (plan_paths hlaid)
  rw [List.map_map, List.map_map] at hpaths
  refine hpaths.trans (List.map_congr_left ?_)
  intro l hl
  obtain ⟨⟨_, leg⟩, hleg, he⟩ := List.mem_map.mp ((loads_perm [] tour).mem_iff.mp (List.mem_map_of_mem hl))
  obtain ⟨hproper, _, _⟩ := laid_of_mem tour hlaid hleg
  change (Text.steps (Trail.path l.1)).reverse = l.1
  rw [← he, Text.steps, Trail.keys_path hproper, List.reverse_reverse]

/-- Every trail that is loaded is one that the schema has. -/
theorem chart_of_loads {s : Schema} {e : Entity} {graph : Graph} {context : Context} {overrides : Value} {f : EntityFields}
    {view : NormalView} {tour : Tour} (hmatches : f.Matches s e) (backs : s.Backs graph)
    (hof : Tour.of? graph context overrides f "" view = some tour) (hlaid : tour.Laid []) {key : String} {above : Trail}
    (ht : key :: above ∈ (tour.loads []).map (·.1)) :
    ∃ parent relation, s.Leads e.name above parent ∧ s.relation? parent key = some relation := by
  obtain ⟨sub, hplace⟩ := place_of_mem_loads hlaid ht
  obtain ⟨cs, last, below, hdescends, htrail, _⟩ := Descends.of_place hof hplace
  have hcharted := hdescends.charted hmatches backs fun _ _ hg => hg
  -- The last of the crossings is along the relation with the key.
  have hkeys : cs.map Crossing.key = above.reverse ++ [key] := by
    rw [← List.reverse_reverse (cs.map Crossing.key), ← htrail, List.reverse_cons]
  obtain ⟨before, last', rfl, hbefore, hlast⟩ := List.map_eq_append_iff.mp hkeys
  obtain ⟨c, rest, rfl, rfl, hrest⟩ := List.map_eq_cons_iff.mp hlast
  obtain rfl := List.map_eq_nil_iff.mp hrest
  obtain ⟨target, relation, hleads, hr⟩ := hcharted.relation Schema.leads_nil rfl
  rw [hbefore, List.reverse_reverse, List.append_nil] at hleads
  exact ⟨target, relation, hleads, hr⟩

end Tour

def Annotation.Along (graph : Graph) (f : EntityFields) (view : NormalView) (trails : List Trail) (a : Annotation) : Prop :=
  ∃ cs last below, Descends graph f view cs last below ∧ a.path = Crossing.path cs ∧
    Trail.Proper (cs.map Crossing.key).reverse ∧ (cs.map Crossing.key).reverse ∈ trails.reverse ++ [[]]

/-- The annotators of a plan stand at ends of trails that the plan loads. -/
theorem Tour.annotation_along {graph : Graph} {context : Context} {overrides : Value} {f : EntityFields} {view : NormalView}
    {tour : Tour} (hof : Tour.of? graph context overrides f "" view = some tour) (hlaid : tour.Laid []) {a : Annotation}
    (ha : a ∈ tour.plan.annotations) : a.Along graph f view tour.plan.trails := by
  obtain ⟨cs, last, below, sub, hdescends, hpath, hplace, _⟩ := Descends.of_annotation hof ha
  refine ⟨cs, last, below, hdescends, hpath, hplace.proper hlaid nofun, ?_⟩
  rw [plan_trails hlaid]
  rcases mem_loads_of_place hplace with hroot | hmem
  · rw [hroot]
    exact List.mem_append_right _ (List.mem_singleton_self _)
  · exact List.mem_append_left _ (List.mem_reverse.mpr hmem)

/-- Each segment of such a path has a load. -/
theorem Annotation.Along.exists_load {graph : Graph} {f : EntityFields} {view : NormalView} {p : Plan} {a : Annotation}
    (h : a.Along graph f view p.trails) (hclosed : ∀ t ∈ p.trails.reverse ++ [[]], t.tail ∈ p.trails.reverse ++ [[]])
    {before after : List String} {key : String} (hsteps : Text.steps a.path = before ++ key :: after) :
    ∃ load ∈ p.loads, Text.steps load.path = before ++ [key] := by
  obtain ⟨cs, _, _, _, hpath, hproper, hdone⟩ := h
  rw [hpath, Crossing.steps_path hproper] at hsteps
  rw [hsteps, List.reverse_append, List.reverse_cons, List.append_assoc] at hdone
  have hknown : key :: before.reverse ∈ p.trails.reverse ++ [[]] := Trail.mem_of_append hclosed after.reverse hdone
  rcases List.mem_append.mp hknown with hmem | hroot
  · obtain ⟨load, hload, htrail⟩ := List.mem_map.mp (List.mem_reverse.mp hmem)
    refine ⟨load, hload, ?_⟩
    rw [← List.reverse_reverse (Text.steps load.path), htrail, List.reverse_cons, List.reverse_reverse]
  · cases List.mem_singleton.mp hroot

section Loads

variable {δ : Type} [Engine δ] {s : Schema} {e : Entity} {graph : Graph} {context : Context} {overrides : Value}
  {f : EntityFields} {view : NormalView} {tour : Tour} {roots : List Node} {w w' : World δ}
  (hmatches : f.Matches s e) (backs : s.Backs graph) (hof : Tour.of? graph context overrides f "" view = some tour)
  (hlaid : tour.Laid [])
include hmatches backs hof hlaid

/-- The trails of a plan stand once it is loaded, and what is there under relations to one is accounted for. -/
theorem Plan.standing_of_loads (labelled : Labelled δ)
    (hroots : ∀ n ∈ roots, ∃ id, n = .record id ∧ id < w.store.records.size)
    (h : roots ≠ [] → Repository.Loaded s e.name roots tour.plan.loads w w') :
    w'.store.Standing s e.name roots (tour.plan.trails.reverse ++ [[]]) ∧
      ∀ db, Ideal δ db → s.IntegerIds → ∀ load ∈ tour.plan.loads, ∀ key above,
        (Text.steps load.path).reverse = key :: above →
          Repository.Accounted db s e.name roots tour.plan.trails key above load.filter w'.store := by
  have htrails := Tour.plan_trails hlaid
  have hts : Upcoming [[]] tour.plan.trails := htrails ▸ Tour.upcoming_loads hlaid
  have hchart : ∀ key above, key :: above ∈ tour.plan.trails → ∃ parent relation, s.Leads e.name above parent ∧
      s.relation? parent key = some relation := by
    rw [htrails]
    exact fun key above ht => Tour.chart_of_loads hmatches backs hof hlaid ht
  by_cases hne : roots = []
  · -- Nothing is loaded then, and nothing is reached.
    subst hne
    constructor
    · exact Store.standing_nil _ hts.ordered (Store.standing_start nofun) hchart fun t ht => (hts.proper t ht).2
    · intro _ _ _ _ _ _ above _ _ _ _ _ _ _
      exact ⟨[], w'.store.recordsAt_nil _, fun id hid => absurd hid (w'.store.not_reached_nil above id)⟩
  · have hpaths : tour.plan.loads.map (·.path) = tour.plan.trails.map Trail.path := by
      rw [htrails, Tour.plan_paths hlaid, List.map_map]
      rfl
    have hstart : w.store.Standing s e.name roots [[]] := Store.standing_start hroots
    constructor
    · exact (h hne).standing labelled _ hpaths hts hchart hstart
    · intro db ideal ids load hload key above hkeys
      have hmem : key :: above ∈ tour.plan.trails := hkeys ▸ List.mem_map_of_mem hload
      have hlisted : load.path ∈ tour.plan.trails.map Trail.path := hpaths ▸ List.mem_map_of_mem hload
      obtain ⟨t, ht, hpath⟩ := List.mem_map.mp hlisted
      have hsame : t = key :: above := by
        rw [← hkeys, ← hpath, Text.steps, Trail.keys_path (hts.proper t ht).1, List.reverse_reverse]
      exact (h hne).accounted labelled ideal ids hpaths hts hchart hstart load hload key above hmem
        (hsame ▸ hpath.symm)

end Loads

variable {δ : Type}

/-- The loads of an execution lose none of the fields that were built before it. -/
theorem Execution.built_of_unannotated [Engine δ] {s : Schema} {e : Entity} {filter overrides view : Value}
    {sources : EntityFields} {context : Context} {paging : Paging} {roots : List Node} {w loaded : World δ}
    (h : Gives (executeUnannotated (Repository.source s e) filter overrides view sources context paging) w roots loaded) :
    ∀ name f, w.registry.graph name = .ok f → loaded.registry.graph name = .ok f := by
  obtain ⟨p, m, hplan, hrun⟩ := Gives.bind_iff.mp h
  have G := Run.guarantee_built (δ := δ)
  have hplanned := (within_plan G).of_gives hplan
  have hdone := (within_run G (fun _ _ _ => trivial) (fun _ _ => trivial) (fun _ _ _ _ => trivial)
    fun _ _ _ _ _ _ => trivial).of_gives hrun
  exact fun name f hf => hdone name f (hplanned name f hf)

/-- Whether work keeps the fields that were built and what the relations at some trails lead to, and empties no record. -/
structure World.Undisturbed (trails : List Trail) (roots : List Node) (w w' : World δ) : Prop where
  built : ∀ name f, w.registry.graph name = .ok f → w'.registry.graph name = .ok f
  size : w.store.records.size ≤ w'.store.records.size
  named : ∀ id, w.store.Named id → w'.store.Named id
  relations : ∀ key above, key :: above ∈ trails → ∀ id, w.store.Reached roots above id → id < w.store.records.size →
    w'.store.get? id (.text key) = w.store.get? id (.text key)

namespace World.Undisturbed

variable {trails : List Trail} {roots : List Node} {s : Schema} {entity : String} {w w' : World δ}
  (h : w.Undisturbed trails roots w') (hs : w.store.Standing s entity roots (trails.reverse ++ [[]]))
include h hs

theorem same : ∀ k u, k :: u ∈ trails.reverse ++ [[]] → ∀ id, w.store.Reached roots u id →
    w'.store.get? id (.text k) = w.store.get? id (.text k) := by
  intro k u hu id hid
  have hlt := hs.settled.bounded u (hs.settled.closed _ hu) id hid
  rcases List.mem_append.mp hu with hu | hu
  · exact h.relations k u (List.mem_reverse.mp hu) id hid hlt
  · cases List.mem_singleton.mp hu

theorem standing : w'.store.Standing s entity roots (trails.reverse ++ [[]]) := hs.of_same h.size h.named (h.same hs)

theorem blocked_iff {cs : List Crossing} (hproper : Trail.Proper (cs.map Crossing.key).reverse)
    (hdone : (cs.map Crossing.key).reverse ∈ trails.reverse ++ [[]]) :
    w'.store.Blocked s entity roots [] (Text.steps (Crossing.path cs)) ↔
      w.store.Blocked s entity roots [] (Text.steps (Crossing.path cs)) := by
  rw [Crossing.steps_path hproper]
  refine Store.blocked_congr hs.settled.closed (h.same hs) ?_
  rwa [List.append_nil]

end World.Undisturbed

/-- An annotator disturbs nothing if no relation that is loaded goes by the name of its field. -/
theorem Execution.annotate_undisturbed [Engine δ] {a : Annotator} {targets roots : List Node} {context : Context}
    {trails : List Trail} {w w' : World δ} (hfield : ∀ t ∈ trails, t.head? ≠ some a.field)
    (h : Gives (annotate a targets context) w ⟨⟩ w') : w.Undisturbed trails roots w' := by
  have hkeeps : w.store.Keeps (fun _ name => name = a.field) w'.store :=
    (within_annotate (Run.guarantee_keeps fun _ name => name = a.field) fun _ _ => rfl).of_gives h
  have hretains : w.store.Retains w'.store := (within_annotate Run.guarantee_retains fun _ _ => trivial).of_gives h
  refine ⟨(within_annotate Run.guarantee_built fun _ _ => trivial).of_gives h, hkeeps.1, ?_, ?_⟩
  · rintro id ⟨hlt, name, hname⟩
    exact ⟨Nat.lt_of_lt_of_le hlt hretains.1, name, hretains.2 id hlt name hname⟩
  · intro key above ht id _ hlt
    refine hkeeps.2 id hlt key ?_
    rintro rfl
    exact hfield _ ht rfl

namespace Setting

/-- Whether no annotator that a plan comes to fails, and none changes what its loads led to. -/
def Harmless (x : Setting δ) (p : Plan) (roots : List Node) (loaded : World δ) : Prop :=
  ∀ before a after, p.annotations = before ++ a :: after → ∀ (m : World δ) (targets : List Node),
    x.turns p roots (before.map .annotate) loaded = (.ok (), m) →
    m.store.resolve m.registry.graph x.sources a.path roots = .ok targets →
    ∃ m', Gives (x.annotate a.annotator targets x.context) (x.enter roots m (.annotate a)) ⟨⟩ m' ∧
      (x.enter roots m (.annotate a)).Undisturbed p.trails roots m'

variable (x : Setting δ) {p : Plan} {roots : List Node} {s : Schema} {entity : String} {loaded m : World δ}

theorem turn_annotate_ok {a : Annotation} {targets : List Node} {m' : World δ}
    (hresolve : m.store.resolve m.registry.graph x.sources a.path roots = .ok targets)
    (h : Gives (x.annotate a.annotator targets x.context) (x.enter roots m (.annotate a)) ⟨⟩ m') :
    x.turn p roots (.annotate a) m = (.ok [], m') := by
  have hcall : x.call p roots m (.annotate a) = .ok (.annotate a.annotator targets x.context) := by
    rw [call, hresolve]
    rfl
  rw [turn, hcall]
  exact Gives.bind_iff.mpr ⟨⟨⟩, m', h, Gives.pure_iff.mpr ⟨rfl, rfl⟩⟩

theorem turn_annotate_error {a : Annotation} {fault : Fault}
    (hresolve : m.store.resolve m.registry.graph x.sources a.path roots = .error fault) :
    x.turn p roots (.annotate a) m = (.error fault, x.enter roots m (.annotate a)) := by
  have hcall : x.call p roots m (.annotate a) = .error fault := by
    rw [call, hresolve]
    rfl
  rw [turn, hcall]

/-- To walk a path builds fields, and loses none that were built. -/
theorem enter_built [Engine δ] (roots : List Node) (m : World δ) (step : Step) :
    ∀ name f, m.registry.graph name = .ok f → (x.enter roots m step).registry.graph name = .ok f := by
  cases step with
  | find | populate => exact fun _ _ hf => hf
  | annotate a => exact Run.guarantee_built.visit m _

/-- The annotators from some point of a plan on: they all run and none is blocked, or the first one that is blocked ends it. -/
theorem annotations_outcome [Engine δ] {e : Entity} {graph : Graph} {view : NormalView} (hmatches : x.sources.Matches s e)
    (backs : s.Backs graph) (hpaths : ∀ a ∈ p.annotations, a.Along graph x.sources view p.trails)
    (harmless : x.Harmless p roots loaded) {before after : List Annotation} (hp : p.annotations = before ++ after)
    (hbefore : x.turns p roots (before.map .annotate) loaded = (.ok (), m))
    (hs : m.store.Standing s e.name roots (p.trails.reverse ++ [[]]))
    (hbuilt : ∀ name f, graph name = .ok f → m.registry.graph name = .ok f) :
    ((∃ m', x.turns p roots (after.map .annotate) m = (.ok (), m')) ∧
        ∀ a ∈ after, ¬m.store.Blocked s e.name roots [] (Text.steps a.path)) ∨
      ((∃ reason path m', x.turns p roots (after.map .annotate) m = (.error (.path reason path), m')) ∧
        ∃ a ∈ after, m.store.Blocked s e.name roots [] (Text.steps a.path)) := by
  induction after generalizing before m with
  | nil => exact Or.inl ⟨⟨m, rfl⟩, nofun⟩
  | cons a rest ih =>
    have ha : a ∈ p.annotations := hp ▸ List.mem_append_right _ List.mem_cons_self
    obtain ⟨cs, last, below, hdescends, hpath, hproper, hdone⟩ := hpaths a ha
    have houtcome := hs.resolve_outcome (hdescends.charted hmatches backs hbuilt) hproper hdone
    rw [← hpath] at houtcome
    rw [List.map_cons, turns]
    rcases houtcome with ⟨⟨targets, hresolve⟩, hfree⟩ | ⟨⟨here, hresolve⟩, hblocked⟩
    · -- The annotator is called, and the ones after it find what it found.
      obtain ⟨m', hgives, hundisturbed⟩ := harmless before a rest hp m targets hbefore hresolve
      have hturn : x.turn p roots (.annotate a) m = (.ok [], m') := x.turn_annotate_ok hresolve hgives
      have hturns : x.turns p roots ((before ++ [a]).map .annotate) loaded = (.ok (), m') := by
        rw [List.map_append, turns_append, hbefore]
        dsimp only
        rw [List.map_cons, turns, hturn]
        rfl
      have hrest : p.annotations = (before ++ [a]) ++ rest := by
        rw [hp, List.append_assoc]
        rfl
      have hkept : ∀ name f, graph name = .ok f → m'.registry.graph name = .ok f :=
        fun name f hf => hundisturbed.built name f (x.enter_built roots m _ name f (hbuilt name f hf))
      -- It changed nothing that a walk of a later one goes along.
      have hblocks : ∀ b ∈ rest, m'.store.Blocked s e.name roots [] (Text.steps b.path) ↔
          m.store.Blocked s e.name roots [] (Text.steps b.path) := by
        intro b hb
        obtain ⟨cs', _, _, _, hpath', hproper', hdone'⟩ := hpaths b (by rw [hrest]; exact List.mem_append_right _ hb)
        rw [hpath']
        exact hundisturbed.blocked_iff hs hproper' hdone'
      rw [hturn]
      rcases ih hrest hturns (hundisturbed.standing hs) hkept with ⟨hruns, hall⟩ | ⟨hfails, b, hb, hblocked⟩
      · refine Or.inl ⟨hruns, List.forall_mem_cons.mpr ⟨hfree, ?_⟩⟩
        exact fun b hb hblocked => hall b hb ((hblocks b hb).mpr hblocked)
      · exact Or.inr ⟨hfails, b, List.mem_cons_of_mem _ hb, (hblocks b hb).mp hblocked⟩
    · -- There is nothing to call the annotator with.
      rw [x.turn_annotate_error hresolve]
      exact Or.inr ⟨⟨_, _, _, rfl⟩, a, List.mem_cons_self, hblocked⟩

def calm (p : Plan) (roots : List Node) : List Annotation → World δ → Bool
  | [], _ => true
  | a :: rest, m =>
    match x.call p roots m (.annotate a) with
    | .error _ => true
    | .ok c =>
      match (x.make c).run.run (x.enter roots m (.annotate a)) with
      | (.error _, _) => false
      | (.ok _, m') => calm p roots rest m'

/-- Where all annotators are calm, any one of them succeeds when its turn comes. -/
theorem gives_of_calm {before after : List Annotation} {a : Annotation} {targets : List Node} {w : World δ}
    (h : x.calm p roots (before ++ a :: after) w = true)
    (hbefore : x.turns p roots (before.map .annotate) w = (.ok (), m))
    (hresolve : m.store.resolve m.registry.graph x.sources a.path roots = .ok targets) :
    ∃ m', Gives (x.annotate a.annotator targets x.context) (x.enter roots m (.annotate a)) ⟨⟩ m' := by
  -- By induction on the annotators before it, each of which was called and succeeded.
  induction before generalizing w with
  | nil =>
    obtain rfl := (Prod.mk.inj hbefore).2
    have hcall : x.call p roots w (.annotate a) = .ok (.annotate a.annotator targets x.context) := by
      rw [call, hresolve]
      rfl
    rw [List.nil_append, calm, hcall] at h
    dsimp only at h
    cases hmake : (x.make (.annotate a.annotator targets x.context)).run.run (x.enter roots w (.annotate a)) with
    | mk outcome m' =>
      rw [hmake] at h
      cases outcome with
      | error fault => cases h
      | ok out =>
        obtain ⟨_, m'', hgives, _⟩ := Gives.bind_iff.mp (show Gives _ _ out m' from hmake)
        exact ⟨m'', hgives⟩
  | cons b before ih =>
    rw [List.map_cons, turns, turn] at hbefore
    rw [List.cons_append, calm] at h
    cases hcall : x.call p roots w (.annotate b) with
    | error fault =>
      rw [hcall] at hbefore
      cases hbefore
    | ok c =>
      rw [hcall] at hbefore h
      dsimp only at hbefore h
      cases hmake : (x.make c).run.run (x.enter roots w (.annotate b)) with
      | mk outcome m' =>
        rw [hmake] at hbefore h
        cases outcome with
        | error fault => cases h
        | ok out => exact ih h hbefore

/-- Annotators do no harm if none fails and no relation that is loaded goes by the name of the field of one. -/
theorem harmless_of_calm [Engine δ] (hannotate : x.annotate = Execution.annotate)
    (hfields : ∀ a ∈ p.annotations, ∀ t ∈ p.trails, t.head? ≠ some a.annotator.field)
    (h : x.calm p roots p.annotations loaded = true) : x.Harmless p roots loaded := by
  intro before a after hp m targets hbefore hresolve
  rw [hp] at h
  obtain ⟨m', hgives⟩ := x.gives_of_calm h hbefore hresolve
  refine ⟨m', hgives, ?_⟩
  rw [hannotate] at hgives
  exact Execution.annotate_undisturbed (hfields a (hp ▸ List.mem_append_right _ List.mem_cons_self)) hgives

variable [Engine δ] {overrides view : Value} {w : World δ}

/-- An execution does what it does without annotators, and then calls these. -/
theorem execute_eq (h : Gives (Execution.executeUnannotated x.source x.filter overrides view x.sources x.context x.paging)
    w roots loaded) : ∃ p m, Gives (Execution.plan x.sources view x.context overrides "") w p m ∧
      Gives (Execution.run x.source { p with annotations := [] } x.filter x.sources x.context x.paging) m roots loaded ∧
      (x.execute overrides view).run.run w = giving roots (x.turns p roots (p.annotations.map .annotate) loaded) := by
  obtain ⟨p, m, hplan, hrun⟩ := Gives.bind_iff.mp h
  refine ⟨p, m, hplan, hrun, ?_⟩
  -- Without annotators a run is the look-up and the loads under filters.
  obtain ⟨found, w₂, hfind, hrest⟩ := Gives.bind_iff.mp hrun
  obtain ⟨_, w₃, hfiltered, hloop⟩ := Gives.bind_iff.mp hrest
  obtain ⟨_, w₄, hnone, hpure⟩ := Gives.bind_iff.mp hloop
  obtain rfl := Gives.forM_nil_iff.mp hnone
  obtain ⟨rfl, rfl⟩ := Gives.pure_iff.mp hpure
  have hturn : x.turn p [] .find m = (.ok roots, w₂) := hfind
  have hpopulates : x.turns p roots (p.filtered.map .populate) w₂ = (.ok (), loaded) := by
    rw [← x.forM_run p roots Step.populate _ (fun f w => x.turn_populate p roots f w)]
    exact hfiltered
  have hexecute : (x.execute overrides view).run.run w = (x.run p).run.run m := by
    rw [execute, Execution.executeWith, Gives.run_bind, show (Execution.plan x.sources view x.context overrides "").run.run w =
      (.ok p, m) from hplan]
    rfl
  rw [hexecute, run_eq, hturn]
  dsimp only
  rw [turns_append, hpopulates]

section Outcome

variable {e : Entity} {v : View} (view : GivenView) (hsource : x.source = Repository.source s e) (labelled : Labelled δ)
  (hmatches : x.sources.Matches s e) (backs : s.Backs w.registry.graph) (hv : View.ofValue view.value = .ok v)
  (hp : Plan.compile w.registry.graph x.context overrides x.sources "" v = .ok p)
include hsource labelled hmatches backs hv hp

/-- After the loads of an execution the trails of its plan stand, the paths of its annotators go along them, and what is there
under relations to one is accounted for. -/
theorem survey
    (h : Gives (Execution.executeUnannotated x.source x.filter overrides view.value x.sources x.context x.paging) w roots loaded) :
    (∀ a ∈ p.annotations, a.Along w.registry.graph x.sources v.normal p.trails) ∧
      loaded.store.Standing s e.name roots (p.trails.reverse ++ [[]]) ∧
      ∀ db, Ideal δ db → s.IntegerIds → ∀ load ∈ p.loads, ∀ key above, (Text.steps load.path).reverse = key :: above →
        Repository.Accounted db s e.name roots p.trails key above load.filter loaded.store := by
  obtain ⟨p', m, hplan, hrun, _⟩ := x.execute_eq h
  -- The plan that is run is that of the view, and it goes along a tour.
  obtain ⟨v', hv', hp'⟩ := Execution.plan_gives hplan
  obtain rfl := Except.ok.inj (hv.symm.trans hv')
  obtain rfl := Except.ok.inj (hp.symm.trans hp')
  have hunshared : ∀ entity f, w.registry.graph entity = .ok f → f.Unshared := by
    intro entity f hf
    obtain ⟨_, _, hmatches⟩ := backs entity f hf
    exact hmatches.keyed.unshared
  obtain ⟨u, tour, hu, hof, hlaid, rfl⟩ := Execution.tour_of_plan view hmatches.keyed.unshared hunshared hplan
  obtain rfl := Except.ok.inj (hv.symm.trans hu)
  rw [hsource] at hrun
  obtain ⟨w₁, hroots, hloaded⟩ := Execution.run_gives hrun
  exact ⟨fun _ ha => Tour.annotation_along hof hlaid ha,
    Plan.standing_of_loads hmatches backs hof hlaid labelled hroots hloaded⟩

/-- An execution whose loads are done gives the root records, or it ends at a path since some annotator is blocked. -/
theorem execute_outcome
    (h : Gives (Execution.executeUnannotated x.source x.filter overrides view.value x.sources x.context x.paging) w roots loaded)
    (harmless : x.Harmless p roots loaded) :
    ((∃ m, (x.execute overrides view.value).run.run w = (.ok roots, m)) ∧
        ∀ a ∈ p.annotations, ¬loaded.store.Blocked s e.name roots [] (Text.steps a.path)) ∨
      ((∃ reason path m, (x.execute overrides view.value).run.run w = (.error (.path reason path), m)) ∧
        ∃ a ∈ p.annotations, loaded.store.Blocked s e.name roots [] (Text.steps a.path)) := by
  obtain ⟨hpaths, hstanding, _⟩ := x.survey view hsource labelled hmatches backs hv hp h
  obtain ⟨p', m, hplan, _, hexecute⟩ := x.execute_eq h
  obtain ⟨v', hv', hp'⟩ := Execution.plan_gives hplan
  obtain rfl := Except.ok.inj (hv.symm.trans hv')
  obtain rfl := Except.ok.inj (hp.symm.trans hp')
  -- What was built of the fields before the loads is there as it was.
  have hbuilt : ∀ name f, w.registry.graph name = .ok f → loaded.registry.graph name = .ok f := by
    rw [hsource] at h
    exact Execution.built_of_unannotated h
  rw [hexecute]
  rcases x.annotations_outcome hmatches backs hpaths harmless (List.nil_append _).symm rfl hstanding hbuilt with
    ⟨⟨m', hturns⟩, hfree⟩ | ⟨⟨reason, path, m', hturns⟩, hblocked⟩
  · rw [hturns]
    exact Or.inl ⟨⟨m', rfl⟩, hfree⟩
  · rw [hturns]
    exact Or.inr ⟨⟨reason, path, m', rfl⟩, hblocked⟩

/-- An execution with annotators that do no harm ends at a path that cannot be walked exactly if its root records are found, its
loads are done, and some annotator is blocked: on the way to it a relation to one leads a record to nothing. If the loads are
done and none is blocked, it gives the root records. Each relation on the way was loaded, and if it is to one, a record has
nothing there exactly if its key leads to no row that the filter of the load is true of. -/
theorem execute_blocked_iff (engine : Engine.Pathless δ)
    (harmless : ∀ roots loaded, Gives (Execution.executeUnannotated x.source x.filter overrides view.value x.sources x.context
      x.paging) w roots loaded → x.Harmless p roots loaded) :
    ((∃ reason path m, (x.execute overrides view.value).run.run w = (.error (.path reason path), m)) ↔
        ∃ roots loaded, Gives (Execution.executeUnannotated x.source x.filter overrides view.value x.sources x.context x.paging) w
            roots loaded ∧
          ∃ a ∈ p.annotations, loaded.store.Blocked s e.name roots [] (Text.steps a.path)) ∧
      ∀ roots loaded, Gives (Execution.executeUnannotated x.source x.filter overrides view.value x.sources x.context x.paging) w
          roots loaded →
        ((∃ m, (x.execute overrides view.value).run.run w = (.ok roots, m)) ↔
          ¬∃ a ∈ p.annotations, loaded.store.Blocked s e.name roots [] (Text.steps a.path)) ∧
        ∀ a ∈ p.annotations, ∀ before key after, Text.steps a.path = before ++ key :: after → ∃ load ∈ p.loads,
          Text.steps load.path = before ++ [key] ∧ ∀ db, Ideal δ db → s.IntegerIds →
            Repository.Accounted db s e.name roots p.trails key before.reverse load.filter loaded.store := by
  have houtcome := fun roots loaded h =>
    x.execute_outcome view hsource labelled hmatches backs hv hp h (harmless roots loaded h)
  refine ⟨⟨?_, ?_⟩, ?_⟩
  · rintro ⟨reason, path, m, hends⟩
    -- Only walks fail by a fault of a path, and there are none before the annotators.
    obtain ⟨roots, loaded, h⟩ := x.gives_of_path engine hsource hv hp hends
    refine ⟨roots, loaded, h, ?_⟩
    rcases houtcome roots loaded h with ⟨⟨m', hruns⟩, _⟩ | ⟨_, hblocked⟩
    · cases hruns.symm.trans hends
    · exact hblocked
  · rintro ⟨roots, loaded, h, a, ha, hblocked⟩
    rcases houtcome roots loaded h with ⟨_, hfree⟩ | ⟨hends, _⟩
    · exact absurd hblocked (hfree a ha)
    · exact hends
  · intro roots loaded h
    constructor
    · rcases houtcome roots loaded h with ⟨hruns, hfree⟩ | ⟨⟨reason, path, m, hends⟩, hblocked⟩
      · refine iff_of_true hruns ?_
        rintro ⟨a, ha, hblocked⟩
        exact hfree a ha hblocked
      · refine iff_of_false ?_ (not_not_intro hblocked)
        rintro ⟨m', hruns⟩
        cases hruns.symm.trans hends
    · obtain ⟨hpaths, hstanding, haccounted⟩ := x.survey view hsource labelled hmatches backs hv hp h
      intro a ha before key after hsteps
      obtain ⟨load, hload, hat⟩ := (hpaths a ha).exists_load hstanding.settled.closed hsteps
      refine ⟨load, hload, hat, ?_⟩
      intro db ideal ids
      refine haccounted db ideal ids load hload key before.reverse ?_
      rw [hat, List.reverse_append]
      rfl

end Outcome

def bookmarksOfTexts : Value := .map [
  (.text "fields", .list [.text "isBookmarked"]),
  (.text "relations", .map [(.text "collection", .list [.text "isBookmarked"])])]

def textsInPublic (db : Contents) : Setting (Snapshot db) where
  source := Repository.source Learning.schema Learning.text
  annotate := Execution.annotate
  filter := .null
  sources := (Learning.registry.graph "Text").toOption.getD ⟨"", []⟩
  context := Execution.publicly
  paging := ⟨.null, none, none⟩

def holdsNothing (store : Store) (key : String) : Node → Bool
  | .record id =>
    match store.get? id (.text key) with
    | some (.scalar .null) => true
    | _ => false
  | _ => false

theorem get?_of_holdsNothing {store : Store} {key : String} {n : Node} (h : holdsNothing store key n = true) :
    ∃ id, n = .record id ∧ store.get? id (.text key) = some .null := by
  cases n with
  | record id =>
    refine ⟨id, rfl, ?_⟩
    rw [holdsNothing] at h
    split at h
    · assumption
    · cases h
  | scalar | list | tuple | set => cases h

/-- One of the texts is in no collection, so that the bookmarks of collections cannot be marked: the texts without a collection
are those whose key leads to none. -/
theorem execute_blocked_iff_threeTexts : ∃ roots loaded texts reason path m,
    ((textsInPublic Execution.threeTexts).execute .null bookmarksOfTexts).run.run (.start ⟨⟩ Learning.registry) =
      (.error (.path reason path), m) ∧
    Gives (Execution.executeUnannotated (Repository.source Learning.schema Learning.text) .null .null bookmarksOfTexts
      (textsInPublic Execution.threeTexts).sources Execution.publicly ⟨.null, none, none⟩)
      (.start (⟨⟩ : Snapshot Execution.threeTexts) Learning.registry) roots loaded ∧
    roots.length = 3 ∧ loaded.store.recordsAt roots "" = .ok texts ∧ ∀ id, .record id ∈ roots →
      ∃ v, loaded.store.keyAt id "collectionId" = .ok v ∧ (loaded.store.get? id (.text "collection") = some .null ↔
        Execution.threeTexts.Vacant Learning.schema Learning.collection (.manyToOne "collectionId") .null
          (Loader.keysAsked loaded.store "collectionId" texts) v) := by
  have hview : View.ofValue bookmarksOfTexts = .ok (.full ["isBookmarked"] [("collection", .names ["isBookmarked"])]) := by
    with_unfolding_all rfl
  let marks : List Annotation := [⟨"", .isBookmarked .texts⟩, ⟨"collection", .isBookmarked .collections⟩]
  -- The relation has no filter, so that collections come with the texts.
  have hplan : Plan.compile Learning.registry.graph Execution.publicly .null (textsInPublic Execution.threeTexts).sources ""
      (.full ["isBookmarked"] [("collection", .names ["isBookmarked"])]) = .ok ⟨[], ["collection"], [], marks⟩ := rfl
  have hmatches : (textsInPublic Execution.threeTexts).sources.Matches Learning.schema Learning.text :=
    (EntityFields.fits_of_fitted (by decide +kernel)).matches
  have hdistinct : ∀ v, View.ofValue bookmarksOfTexts = .ok v → v.normal.Distinct := by
    intro v hv
    obtain rfl := Except.ok.inj (hv.symm.trans hview)
    exact ⟨trivial, fun r hr => absurd hr List.not_mem_nil, trivial⟩
  let x := textsInPublic Execution.threeTexts
  obtain ⟨roots, loaded, hload, hcheck⟩ : ∃ (roots : List Node) (loaded : World (Snapshot Execution.threeTexts)),
      Gives (Execution.executeUnannotated x.source x.filter .null bookmarksOfTexts x.sources x.context x.paging)
        (.start ⟨⟩ Learning.registry) roots loaded ∧
      (x.calm ⟨[], ["collection"], [], marks⟩ roots marks loaded &&
        roots.any (holdsNothing loaded.store "collection") && roots.length == 3) = true :=
    Gives.of_check (by decide +kernel)
  simp only [Bool.and_eq_true, beq_iff_eq] at hcheck
  obtain ⟨⟨hcalm, hany⟩, hthree⟩ := hcheck
  have hharmless : ∀ roots' loaded', Gives (Execution.executeUnannotated x.source x.filter .null bookmarksOfTexts x.sources
      x.context x.paging) (.start ⟨⟩ Learning.registry) roots' loaded' →
      x.Harmless ⟨[], ["collection"], [], marks⟩ roots' loaded' := by
    -- There is one way only that the loads can end.
    intro roots' loaded' h
    obtain ⟨hroots, rfl⟩ := Prod.mk.inj (hload.symm.trans h)
    obtain rfl := Except.ok.inj hroots
    exact x.harmless_of_calm rfl (by decide +kernel) hcalm
  obtain ⟨hraises, houtcome⟩ := x.execute_blocked_iff ⟨bookmarksOfTexts, hdistinct⟩ rfl
    (labelled_snapshot Execution.threeTexts) hmatches Learning.schema_covers.backs hview hplan (pathless_snapshot Execution.threeTexts) hharmless
  obtain ⟨_, hsegments⟩ := houtcome roots loaded hload
  have hsteps : Text.steps "collection" = ["collection"] := by decide
  have hmark : ⟨"collection", .isBookmarked .collections⟩ ∈ marks := List.mem_cons_of_mem _ List.mem_cons_self
  have hblocked : ∃ a ∈ marks, loaded.store.Blocked Learning.schema "Text" roots [] (Text.steps a.path) := by
    -- The other annotator is on the texts themselves, which nothing bars.
    refine ⟨_, hmark, ?_⟩
    rw [hsteps]
    refine ⟨[], "collection", [], rfl, ⟨"Text", _, Schema.leads_nil, rfl, rfl⟩, ?_⟩
    obtain ⟨n, hn, hnothing⟩ := List.any_eq_true.mp hany
    obtain ⟨id, rfl, hnull⟩ := get?_of_holdsNothing hnothing
    exact ⟨id, .root hn, hnull⟩
  obtain ⟨reason, path, m, hruns⟩ := hraises.mpr ⟨roots, loaded, hload, hblocked⟩
  -- What the texts have under the relation is as their keys have it; the load had no filter.
  obtain ⟨load, hmem, _, haccounted⟩ := hsegments _ hmark [] "collection" [] hsteps
  rw [Plan.loads, List.flatMap_nil, List.append_nil] at hmem
  obtain ⟨_, _, rfl⟩ := List.mem_map.mp hmem
  obtain ⟨texts, htexts, hall⟩ := haccounted Execution.threeTexts (ideal_snapshot Execution.threeTexts)
    Learning.schema_integerIds "Text" _ Schema.leads_nil rfl rfl (by decide +kernel)
  refine ⟨roots, loaded, texts, reason, path, m, hruns, hload, hthree, htexts, ?_⟩
  intro id hid
  obtain ⟨target, v, htarget, hv, hvacant⟩ := hall id (.root hid)
  obtain rfl : target = Learning.collection := Option.some.inj (htarget.symm.trans rfl)
  exact ⟨v, hv, hvacant⟩

end Setting

end EntityViews
