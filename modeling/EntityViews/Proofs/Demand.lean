import Mathlib
import EntityViews.Learning.Sources
import EntityViews.Proofs.Tour

/-!
What a plan requests, as a set, and what a view demands: what its plan requests, or too much if it has none. Demands are
joined, and a merged view demands the join of what the two views demand.
-/

namespace EntityViews

/-- One thing that a plan requests. What is loaded under a filter is told by the path of the filtered relation, which is
the first of the paths that are loaded with it. -/
inductive Request
  | field (name : String)
  | populate (path : String)
  | filter (head : String) (filter : Value)
  | below (head path : String)
  | read (head field : String)
  | annotate (path : String) (annotator : Annotator)

/-- A request is one of six kinds. -/
theorem Request.exists_iff {P : Request → Prop} : (∃ r, P r) ↔
    (∃ name, P (.field name)) ∨ (∃ path, P (.populate path)) ∨ (∃ head f, P (.filter head f)) ∨
      (∃ head path, P (.below head path)) ∨ (∃ head field, P (.read head field)) ∨
        ∃ path annotator, P (.annotate path annotator) := by
  constructor
  · rintro ⟨r, h⟩
    cases r with
    | field => exact Or.inl ⟨_, h⟩
    | populate => exact Or.inr (Or.inl ⟨_, h⟩)
    | filter => exact Or.inr (Or.inr (Or.inl ⟨_, _, h⟩))
    | below => exact Or.inr (Or.inr (Or.inr (Or.inl ⟨_, _, h⟩)))
    | read => exact Or.inr (Or.inr (Or.inr (Or.inr (Or.inl ⟨_, _, h⟩))))
    | annotate => exact Or.inr (Or.inr (Or.inr (Or.inr (Or.inr ⟨_, _, h⟩))))
  · rintro (⟨_, h⟩ | ⟨_, h⟩ | ⟨_, _, h⟩ | ⟨_, _, h⟩ | ⟨_, _, h⟩ | ⟨_, _, h⟩) <;> exact ⟨_, h⟩

namespace Plan

def Requests (p : Plan) : Request → Prop
  | .field name => name ∈ p.fields
  | .populate path => path ∈ p.populate
  | .filter head f => ∃ l ∈ p.filtered, l.populate.head? = some head ∧ l.filter = f
  | .below head path => ∃ l ∈ p.filtered, l.populate.head? = some head ∧ path ∈ l.populate
  | .read head field => ∃ l ∈ p.filtered, l.populate.head? = some head ∧ field ∈ l.fields
  | .annotate path annotator => ⟨path, annotator⟩ ∈ p.annotations

def requests (p : Plan) : Set Request := {r | p.Requests r}

@[simp] theorem mem_requests {p : Plan} {r : Request} : r ∈ p.requests ↔ p.Requests r := Iff.rfl

theorem requests_empty : empty.requests = ∅ := by
  ext r
  cases r <;> simp [Requests, empty]

theorem requests_append (p q : Plan) : (p.append q).requests = p.requests ∪ q.requests := by
  ext r
  rw [Set.mem_union, mem_requests, mem_requests, mem_requests]
  cases r <;> simp [Requests, append, or_and_right, exists_or]

/-- Repetitions make no difference to what is requested. -/
theorem requests_join_empty (p : Plan) : (empty.join p).requests = p.requests := by
  ext r
  cases r <;> simp [Requests, join, empty]

end Plan

def Leg.opening (leg : Leg) : Set Request :=
  match leg.filter with
  | some f => {.filter leg.path (Filter.nest leg.path f), .below leg.path leg.path}
  | none => {.populate leg.path}

def Leg.carry (leg : Leg) : Request → Request
  | .field name => if leg.filter.isSome then .read leg.path name else .field name
  | .populate path => if leg.filter.isSome then .below leg.path path else .populate path
  | r => r

/-- Going along a relation requests the relation itself and carries what is requested beyond it. -/
theorem Plan.requests_ofLeg (leg : Leg) (nested : Plan) :
    (ofLeg leg nested).requests = leg.opening ∪ leg.carry '' nested.requests := by
  ext r
  rw [Set.mem_union, Set.mem_image]
  cases hf : leg.filter with
  | none =>
    -- Nothing changes on the way.
    have hcarry (r : Request) : leg.carry r = r := by cases r <;> simp [Leg.carry, hf]
    simp only [hcarry, exists_eq_right]
    cases r <;> simp [Requests, ofLeg, Leg.opening, hf]
  | some f =>
    rw [Request.exists_iff]
    cases r with
    | field | populate | annotate => simp [Requests, ofLeg, Leg.opening, Leg.carry, hf]
    | filter head g =>
      simp [Requests, ofLeg, Leg.opening, Leg.carry, hf, head?_distinct_cons]
      grind
    | below head path =>
      simp [Requests, ofLeg, Leg.opening, Leg.carry, hf, head?_distinct_cons]
      grind
    | read head field =>
      simp [Requests, ofLeg, Leg.opening, Leg.carry, hf, head?_distinct_cons]
      grind

/-- What a view demands: the requests of its plan, or too much if it has none. Two demands are joined into one for what
either of them requests. -/
abbrev Demand := WithTop (Set Request)

namespace Demand

def ofPlan : Option Plan → Demand
  | some p => p.requests
  | none => ⊤

/-- A plan demands what two plans do if its requests are theirs together, and it exists if both do. -/
theorem ofPlan_sup {m p q : Option Plan} (h : ofPlan m = ofPlan p ⊔ ofPlan q) :
    (m.isSome ↔ p.isSome ∧ q.isSome) ∧ ∀ m' ∈ m, ∀ p' ∈ p, ∀ q' ∈ q, m'.requests = p'.requests ∪ q'.requests := by
  cases p with
  | none =>
    cases m with
    | none => simp
    | some m => simp [ofPlan] at h
  | some p =>
    cases q with
    | none =>
      cases m with
      | none => simp
      | some m => simp [ofPlan] at h
    | some q =>
      have hboth : ofPlan (some p) ⊔ ofPlan (some q) = ((p.requests ∪ q.requests : Set Request) : Demand) :=
        (WithTop.coe_sup p.requests q.requests).symm
      rw [hboth] at h
      cases m with
      | none => exact absurd h WithTop.top_ne_coe
      | some m => simpa using WithTop.coe_inj.mp h

/-- A plan put together from two parts that may not be there demands what the parts do. -/
theorem ofPlan_append (p q : Option Plan) : ofPlan (Option.map₂ Plan.append p q) = ofPlan p ⊔ ofPlan q := by
  cases p with
  | none => exact (top_sup_eq _).symm
  | some p =>
    cases q with
    | none => exact (sup_top_eq _).symm
    | some q => exact (congrArg _ (p.requests_append q)).trans (WithTop.coe_sup _ _)

def along (leg : Option Leg) (beyond : Demand) : Demand :=
  -- The filters on the relation may not be there.
  match leg with
  | some leg => beyond.map fun requests => leg.opening ∪ leg.carry '' requests
  | none => ⊤

/-- The demand of a plan, seen from before a relation, is that of the plan which goes along it. -/
theorem along_ofPlan (leg : Option Leg) (p : Option Plan) :
    along leg (ofPlan p) = ofPlan (Option.map₂ Plan.ofLeg leg p) := by
  cases leg with
  | none => rfl
  | some leg =>
    cases p with
    | none => rfl
    | some p => exact congrArg _ (Plan.requests_ofLeg leg p).symm

/-- Demands are joined before a relation as they are beyond it. -/
theorem along_sup (leg : Option Leg) (d e : Demand) : along leg (d ⊔ e) = along leg d ⊔ along leg e := by
  cases leg with
  | none => exact (top_sup_eq _).symm
  | some leg =>
    cases d using WithTop.recTopCoe with
    | top => exact (top_sup_eq _).symm
    | coe s =>
      cases e using WithTop.recTopCoe with
      | top => exact (sup_top_eq _).symm
      | coe t =>
        have hunion : leg.opening ∪ leg.carry '' (s ∪ t) =
            (leg.opening ∪ leg.carry '' s) ∪ (leg.opening ∪ leg.carry '' t) := by
          rw [Set.image_union, Set.union_union_distrib_left]
        exact (congrArg _ hunion).trans (WithTop.coe_sup _ _)

variable (graph : Graph) (context : Context) (overrides : Value) (sources : EntityFields) (path : String)

def ofNames (names : List String) : Demand := ofPlan ((Tour.asked? sources path names).map Plan.ofAsked)

def ofView (view : View) : Demand :=
  ofPlan ((Tour.of? graph context overrides sources path view.normal).map Tour.gather)

def ofRelations (relations : List (String × View)) : Demand :=
  ofPlan ((Tour.legs? graph context overrides sources path (View.normalRelations relations)).map Tour.gatherLegs)

def leg? (r : RelationSource) : Option Leg :=
  Option.map₂ (Leg.mk r (Text.qualify path r.populate)) (Plan.contextFilter context r).toOption
    (Plan.override overrides (Text.qualify path r.populate)).toOption

def ofRelation (name : String) (view : View) : Demand :=
  match sources.source? name with
  | some (.relation r) =>
    match (graph r.target).toOption with
    | some target =>
      along (leg? context overrides path r)
        (ofView graph context overrides target (Text.qualify path r.populate) view)
    | none => ⊤
  | _ => ⊥

/-- Names demand what each of them does. -/
theorem ofNames_cons (name : String) (rest : List String) :
    ofNames sources path (name :: rest) = ofNames sources path [name] ⊔ ofNames sources path rest := by
  have happend (x : Asked) (more : List Asked) :
      Plan.ofAsked (x :: more) = (Plan.ofAsked [x]).append (Plan.ofAsked more) := by
    cases x <;> rfl
  rw [ofNames, ofNames, ofNames, ← ofPlan_append]
  congr 1
  simp only [Tour.asked?]
  cases sources.source? name with
  | none => rfl
  | some source =>
    cases Tour.asked? sources path rest with
    | none => cases source <;> rfl
    | some more =>
      cases source with
      | column | formula | annotated => exact congrArg some (happend _ more)
      | relation | «foreign» => rfl

theorem ofView_full (fields : List String) (relations : List (String × View)) :
    ofView graph context overrides sources path (.full fields relations) =
      ofNames sources path fields ⊔ ofRelations graph context overrides sources path relations := by
  rw [ofView, ofNames, ofRelations, ← ofPlan_append, View.normal, Tour.of?]
  cases Tour.asked? sources path fields with
  | none => rfl
  | some asked =>
    cases Tour.legs? graph context overrides sources path (View.normalRelations relations) <;> rfl

theorem ofRelations_nil : ofRelations graph context overrides sources path [] = ⊥ :=
  congrArg _ Plan.requests_empty

/-- Relations demand what each of them does. -/
theorem ofRelations_cons (name : String) (view : View) (rest : List (String × View)) :
    ofRelations graph context overrides sources path ((name, view) :: rest) =
      ofRelation graph context overrides sources path name view ⊔
        ofRelations graph context overrides sources path rest := by
  rw [ofRelations, ofRelations, ofRelation, View.normalRelations, Tour.legs?]
  cases hs : sources.source? name with
  | none => exact (bot_sup_eq _).symm
  | some source =>
    cases source with
    | column | formula | annotated | «foreign» => exact (bot_sup_eq _).symm
    | relation r =>
      dsimp only
      cases (graph r.target).toOption with
      | none => exact (top_sup_eq _).symm
      | some target =>
        simp only [bind, Option.bind_some, ofView, leg?, along_ofPlan, ← ofPlan_append]
        cases Tour.of? graph context overrides target (Text.qualify path r.populate) view.normal <;>
          cases (Plan.contextFilter context r).toOption <;>
          cases (Plan.override overrides (Text.qualify path r.populate)).toOption <;>
          cases Tour.legs? graph context overrides sources path (View.normalRelations rest) <;> rfl

def ofKnown (name : String) (relations : List (String × View)) : Demand :=
  -- A relation that is not there yet is known for nothing.
  match View.find? name relations with
  | some known => ofRelation graph context overrides sources path name known
  | none => ⊥

/-- A relation whose view demands `d` more than what is known of it adds just that when it is put among the others. -/
theorem ofRelations_put {name : String} {view : View} {relations : List (String × View)} {d : Demand}
    (h : ofRelation graph context overrides sources path name view =
      ofKnown graph context overrides sources path name relations ⊔ d) :
    ofRelations graph context overrides sources path (View.put name view relations) =
      ofRelations graph context overrides sources path relations ⊔ d := by
  induction relations with
  | nil =>
    rw [View.put, ofRelations_cons, ofRelations_nil, h, sup_bot_eq]
    rfl
  | cons r rest ih =>
    obtain ⟨n, v⟩ := r
    rw [View.put, ofRelations_cons]
    by_cases hn : n = name
    · subst hn
      have hknown : ofKnown graph context overrides sources path n ((n, v) :: rest) =
          ofRelation graph context overrides sources path n v := by
        simp [ofKnown, View.find?]
      rw [if_pos rfl, ofRelations_cons, h, hknown, sup_right_comm]
    · have hknown : ofKnown graph context overrides sources path name ((n, v) :: rest) =
          ofKnown graph context overrides sources path name rest := by
        simp [ofKnown, View.find?, hn]
      rw [if_neg hn, ofRelations_cons, ih (hknown ▸ h), sup_assoc]

/-- What a relation demands for two views is what it demands for each, if this is so beyond it. -/
theorem ofRelation_sup {name : String} {view view' both : View}
    (h : ∀ target here, ofView graph context overrides target here both =
      ofView graph context overrides target here view ⊔ ofView graph context overrides target here view') :
    ofRelation graph context overrides sources path name both =
      ofRelation graph context overrides sources path name view ⊔
        ofRelation graph context overrides sources path name view' := by
  simp only [ofRelation]
  split
  · split
    · rw [h, along_sup]
    · exact (top_sup_eq _).symm
  · exact (bot_sup_eq _).symm

theorem ofNames_nil : ofNames sources path [] = ⊥ := congrArg _ Plan.requests_empty

theorem ofNames_append (names more : List String) :
    ofNames sources path (names ++ more) = ofNames sources path names ⊔ ofNames sources path more := by
  induction names with
  | nil => rw [List.nil_append, ofNames_nil, bot_sup_eq]
  | cons name rest ih => rw [List.cons_append, ofNames_cons, ih, ofNames_cons sources path name rest, sup_assoc]

/-- A name among others demands no more than all of them. -/
theorem ofNames_le_of_mem {name : String} {names : List String} (h : name ∈ names) :
    ofNames sources path [name] ≤ ofNames sources path names := by
  induction names with
  | nil => cases h
  | cons n rest ih =>
    rw [ofNames_cons sources path n rest]
    rcases List.mem_cons.mp h with rfl | h
    · exact le_sup_left
    · exact le_sup_of_le_right (ih h)

/-- A name that is asked for again demands nothing more. -/
theorem ofNames_addNew (known names : List String) :
    ofNames sources path (addNew known names) = ofNames sources path (known ++ names) := by
  induction names generalizing known with
  | nil => rw [addNew_nil, List.append_nil]
  | cons name rest ih =>
    rw [addNew_cons, ih]
    split
    · have hle := ofNames_le_of_mem sources path ‹name ∈ known›
      rw [ofNames_append, ofNames_append, ofNames_cons, ← sup_assoc, sup_eq_left.mpr hle]
    · rw [List.append_assoc, List.singleton_append]

theorem normalRelations_relationViews (fields : List String) (relations : List (String × View)) :
    View.normalRelations (View.full fields relations).relationViews = View.normalRelations relations := by
  have hnormal (v : View) : v.expanded.normal = v.normal := by cases v <;> rfl
  have hmap (relations : List (String × View)) :
      View.normalRelations (relations.map fun r => (r.1, r.2.expanded)) = View.normalRelations relations := by
    induction relations with
    | nil => rfl
    | cons r rest ih => rw [List.map_cons, View.normalRelations, hnormal, ih, View.normalRelations]
  exact hmap relations

theorem ofView_expanded (view : View) :
    ofView graph context overrides sources path view.expanded = ofView graph context overrides sources path view := by
  cases view <;> rfl

/-- A view, whichever way it is spelled, demands what its fields and its relations do. -/
theorem ofView_parts (view : View) : ofView graph context overrides sources path view =
    ofNames sources path view.fields ⊔ ofRelations graph context overrides sources path view.relationViews := by
  rw [← ofView_expanded]
  cases view with
  | names fields => exact ofView_full graph context overrides sources path fields []
  | full fields relations =>
    have hrelations : ofRelations graph context overrides sources path (View.full fields relations).relationViews =
        ofRelations graph context overrides sources path relations := by
      rw [ofRelations, ofRelations, normalRelations_relationViews]
    rw [hrelations]
    exact ofView_full graph context overrides sources path fields relations

mutual

/-- A merged view demands what either of the two views does. -/
theorem ofView_merge (sources : EntityFields) (path : String) (a : View) : (b : View) →
    ofView graph context overrides sources path (a.merge b) =
      ofView graph context overrides sources path a ⊔ ofView graph context overrides sources path b
  | .names fields => by
    rw [View.merge, ofView_full, distinct_eq_addNew, ofNames_addNew, List.nil_append, ofNames_append, sup_right_comm,
      ← ofView_parts, ofView_parts graph context overrides sources path (.names fields), View.relationViews,
      ofRelations_nil, sup_bot_eq, View.fields]
  | .full fields relations => by
    rw [View.merge, ofView_full, distinct_eq_addNew, ofNames_addNew, List.nil_append, ofNames_append,
      ofRelations_merge, sup_sup_sup_comm, ← ofView_parts, ← ofView_full]

/-- Merging relations one by one: each adds its own demand to what is known of it. -/
theorem ofRelations_merge (sources : EntityFields) (path : String) (merged : List (String × View)) :
    (relations : List (String × View)) →
    ofRelations graph context overrides sources path (View.mergeRelations merged relations) =
      ofRelations graph context overrides sources path merged ⊔
        ofRelations graph context overrides sources path relations
  | [] => by
    rw [View.mergeRelations, ofRelations_nil, sup_bot_eq]
  | (name, view) :: rest => by
    rw [View.mergeRelations, ofRelations_cons, ← sup_assoc]
    cases hfind : View.find? name merged with
    | none =>
      have hnew : ofRelation graph context overrides sources path name view.expanded =
          ofKnown graph context overrides sources path name merged ⊔
            ofRelation graph context overrides sources path name view := by
        simp only [ofKnown, hfind, bot_sup_eq, ofRelation, ofView_expanded]
      rw [ofRelations_merge sources path _ rest, ofRelations_put graph context overrides sources path hnew]
    | some known =>
      have hmore : ofRelation graph context overrides sources path name (known.merge view) =
          ofKnown graph context overrides sources path name merged ⊔
            ofRelation graph context overrides sources path name view := by
        simp only [ofKnown, hfind]
        apply ofRelation_sup
        intro target here
        exact ofView_merge target here known view
      rw [ofRelations_merge sources path _ rest, ofRelations_put graph context overrides sources path hmore]

end

/-- What a view demands is what the compiler makes of it, repetitions apart. -/
theorem ofPlan_compile (view : View) :
    ofPlan (Plan.compile graph context overrides sources path view).toOption =
      ofView graph context overrides sources path view := by
  rw [Tour.toOption_compile, ofView]
  cases Tour.of? graph context overrides sources path view.normal with
  | none => rfl
  | some tour => exact congrArg ((↑) : Set Request → Demand) (Plan.requests_join_empty tour.gather)

end Demand

namespace Plan

/-- Merged views have a plan exactly when both views have one, and it then requests what either of the two plans
requests. -/
theorem compile_merge (graph : Graph) (context : Context) (overrides : Value) (sources : EntityFields) (path : String)
    (a b : View) :
    ((∃ m, compile graph context overrides sources path (a.merge b) = .ok m) ↔
      (∃ p, compile graph context overrides sources path a = .ok p) ∧
        ∃ q, compile graph context overrides sources path b = .ok q) ∧
    ∀ m p q, compile graph context overrides sources path (a.merge b) = .ok m →
      compile graph context overrides sources path a = .ok p →
      compile graph context overrides sources path b = .ok q →
      ∀ r, m.Requests r ↔ p.Requests r ∨ q.Requests r := by
  have hsup := Demand.ofView_merge graph context overrides sources path a b
  simp only [← Demand.ofPlan_compile] at hsup
  obtain ⟨hsome, hunion⟩ := Demand.ofPlan_sup hsup
  constructor
  · simpa only [Option.isSome_iff_exists, Except.toOption_eq_some_iff] using hsome
  · intro m p q hm hp hq r
    have h := hunion m (Except.toOption_eq_some_iff.mpr hm) p (Except.toOption_eq_some_iff.mpr hp) q
      (Except.toOption_eq_some_iff.mpr hq)
    rw [← mem_requests, h, Set.mem_union, mem_requests, mem_requests]

def titledTexts : View := .full ["title"] [("texts", .names ["title"])]

def leveledTexts : View := .full ["isBookmarked"] [("language", .names ["code"]), ("texts", .names ["level"])]

/-- The texts are loaded apart, under what the viewer may see, with the fields that either view names. -/
theorem compile_merge_titledTexts :
    ∃ (sources : EntityFields) (m p q : Plan), Learning.registry.graph "Collection" = .ok sources ∧
      compile Learning.registry.graph ⟨.anonymous, false, []⟩ .null sources "" (titledTexts.merge leveledTexts) = .ok m ∧
      compile Learning.registry.graph ⟨.anonymous, false, []⟩ .null sources "" titledTexts = .ok p ∧
      compile Learning.registry.graph ⟨.anonymous, false, []⟩ .null sources "" leveledTexts = .ok q ∧
      (∀ r, m.Requests r ↔ p.Requests r ∨ q.Requests r) ∧
      m.Requests (.read "texts" "texts.title") ∧ m.Requests (.read "texts" "texts.level") := by
  obtain ⟨sources, hs⟩ : ∃ sources, Learning.registry.graph "Collection" = .ok sources := ⟨_, rfl⟩
  obtain ⟨p, hp, hread⟩ : ∃ p,
      compile Learning.registry.graph ⟨.anonymous, false, []⟩ .null sources "" titledTexts = .ok p ∧
      p.Requests (.read "texts" "texts.title") := by
    cases hs
    exact ⟨_, rfl, _, List.mem_cons_self, rfl, List.mem_cons_self⟩
  obtain ⟨q, hq, hread'⟩ : ∃ q,
      compile Learning.registry.graph ⟨.anonymous, false, []⟩ .null sources "" leveledTexts = .ok q ∧
      q.Requests (.read "texts" "texts.level") := by
    cases hs
    exact ⟨_, rfl, _, List.mem_cons_self, rfl, List.mem_cons_self⟩
  obtain ⟨hsome, hunion⟩ :=
    compile_merge Learning.registry.graph ⟨.anonymous, false, []⟩ .null sources "" titledTexts leveledTexts
  obtain ⟨m, hm⟩ := hsome.mpr ⟨⟨p, hp⟩, q, hq⟩
  have h := hunion m p q hm hp hq
  exact ⟨sources, m, p, q, hs, hm, hp, hq, h, (h _).mpr (Or.inl hread), (h _).mpr (Or.inr hread')⟩

end Plan

end EntityViews
