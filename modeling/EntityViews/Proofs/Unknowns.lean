import EntityViews.Proofs.Keyed
import EntityViews.Learning.Sources

/-!
Views that ask for fields that their entities have no source for. Where all entities and filters on the way can be had,
compiling a view fails for nothing else, and it fails at the first such field that the view names in pre-order.
-/

namespace EntityViews

/-- What a view wants of one entity, on one level of the view. -/
structure Portion where
  sources : EntityFields
  view : View

namespace Portion

def unknown (p : Portion) : List String :=
  -- They stand in the order of the view.
  p.view.fields.filter fun name => (p.sources.source? name).isNone

theorem mem_unknown {p : Portion} {name : String} :
    name ∈ p.unknown ↔ name ∈ p.view.fields ∧ p.sources.source? name = none := by
  rw [unknown, List.mem_filter, Option.isNone_iff_eq_none]

def offences (p : Portion) : List (String × View) := p.unknown.map fun name => (name, p.view)

/-- What is wanted beyond relations, by way of any number of keys that are relations of their entities. -/
inductive Reaches (graph : Graph) : Portion → Portion → Prop
  | here (p : Portion) : Reaches graph p p
  | down {p q : Portion} {name : String} {view : View} {r : RelationSource} {target : EntityFields} :
    (name, view) ∈ p.view.relationViews → p.sources.source? name = some (.relation r) → graph r.target = .ok target →
    Reaches graph ⟨target, view⟩ q → Reaches graph p q

end Portion

namespace View

mutual

def portions (graph : Graph) (sources : EntityFields) : View → List Portion
  | names fields => [⟨sources, .full fields []⟩]
  | full fields relations => ⟨sources, .full fields relations⟩ :: relationPortions graph sources relations

def relationPortions (graph : Graph) (sources : EntityFields) : List (String × View) → List Portion
  | [] => []
  | (name, view) :: rest =>
    (match sources.source? name with
      | some (.relation r) =>
        match graph r.target with
        | .ok target => view.portions graph target
        | .error _ => []
      | _ => []) ++ relationPortions graph sources rest

end

/-- The fields without a source that a view names, each with the view of its level, in pre-order. -/
def offences (graph : Graph) (sources : EntityFields) (view : View) : List (String × View) :=
  (view.portions graph sources).flatMap Portion.offences

mutual

/-- A view with nothing left under the keys that are no relations of their entities. -/
def seen (graph : Graph) (sources : EntityFields) : View → View
  | names fields => .full fields []
  | full fields relations => .full fields (seenRelations graph sources relations)

def seenRelations (graph : Graph) (sources : EntityFields) : List (String × View) → List (String × View)
  | [] => []
  | (name, view) :: rest =>
    (match sources.source? name with
      | some (.relation r) =>
        match graph r.target with
        | .ok target => (name, view.seen graph target)
        | .error _ => (name, .names [])
      | _ => (name, .names [])) :: seenRelations graph sources rest

end

variable {graph : Graph}

theorem portions_expanded (sources : EntityFields) (view : View) :
    view.expanded.portions graph sources = view.portions graph sources := by
  cases view <;> rfl

/-- A portion of some relations lies below one that the sources know. -/
theorem mem_relationPortions {sources : EntityFields} {relations : List (String × View)} {p : Portion} :
    p ∈ relationPortions graph sources relations ↔ ∃ name view r target, (name, view) ∈ relations ∧
      sources.source? name = some (.relation r) ∧ graph r.target = .ok target ∧ p ∈ view.portions graph target := by
  induction relations with
  | nil => simp [relationPortions]
  | cons entry rest ih =>
    obtain ⟨name, view⟩ := entry
    rw [relationPortions, List.mem_append, ih]
    constructor
    · rintro (h | ⟨name', view', r, target, hmem, hrest⟩)
      · split at h
        · split at h
          · exact ⟨name, view, _, _, List.mem_cons_self, ‹_›, ‹_›, h⟩
          · cases h
        · cases h
      · exact ⟨name', view', r, target, List.mem_cons_of_mem _ hmem, hrest⟩
    · rintro ⟨name', view', r, target, hmem, hr, ht, hp⟩
      obtain heq | hmem := List.mem_cons.mp hmem
      · cases heq
        left
        simpa only [hr, ht] using hp
      · exact .inr ⟨name', view', r, target, hmem, hr, ht, hp⟩

/-- In a view that is written out, what is beyond its relations. -/
theorem mem_portions_iff {sources : EntityFields} {view : View} {p : Portion} :
    p ∈ view.portions graph sources ↔ p = ⟨sources, view.expanded⟩ ∨ ∃ name below r target,
      (name, below) ∈ view.relationViews ∧ sources.source? name = some (.relation r) ∧ graph r.target = .ok target ∧
        p ∈ below.portions graph target := by
  cases view with
  | names fields => simp [portions, relationViews, expanded]
  | full fields relations =>
    rw [portions, List.mem_cons, mem_relationPortions]
    apply or_congr_right
    constructor
    · rintro ⟨name, view, r, target, hmem, hr, ht, hp⟩
      exact ⟨name, _, r, target, List.mem_map.mpr ⟨_, hmem, rfl⟩, hr, ht, (portions_expanded target view).symm ▸ hp⟩
    · rintro ⟨name, below, r, target, hmem, hr, ht, hp⟩
      obtain ⟨⟨_, view⟩, hentry, heq⟩ := List.mem_map.mp hmem
      cases heq
      exact ⟨_, view, r, target, hentry, hr, ht, portions_expanded target view ▸ hp⟩

/-- What a portion reaches is among the portions of its view. -/
theorem portions_of_reaches {p q : Portion} (h : Portion.Reaches graph p q) (hp : p.view.expanded = p.view) :
    q ∈ p.view.portions graph p.sources := by
  induction h with
  | here p => exact mem_portions_iff.mpr (.inl (by rw [hp]))
  | @down p q name view r target hmem hr ht _ ih =>
    have hview : view.expanded = view := by
      obtain ⟨sources, view'⟩ := p
      cases view' with
      | names => cases hmem
      | full fields relations =>
        obtain ⟨⟨_, below⟩, _, heq⟩ := List.mem_map.mp hmem
        cases heq
        cases below <;> rfl
    exact mem_portions_iff.mpr (.inr ⟨name, view, r, target, hmem, hr, ht, ih hview⟩)

mutual

/-- A portion of a view is reached from the whole of it. -/
theorem reaches_of_portions {q : Portion} (sources : EntityFields) : (view : View) → q ∈ view.portions graph sources →
    Portion.Reaches graph ⟨sources, view.expanded⟩ q
  | names fields => by
    intro h
    rw [portions, List.mem_singleton] at h
    rw [h]
    exact .here _
  | full fields relations => by
    intro h
    rw [portions, List.mem_cons] at h
    rcases h with rfl | h
    · exact .here _
    · obtain ⟨name, view, r, target, hmem, hr, ht, hreach⟩ := reaches_of_relationPortions sources relations h
      exact .down (List.mem_map.mpr ⟨(name, view), hmem, rfl⟩) hr ht hreach

theorem reaches_of_relationPortions {q : Portion} (sources : EntityFields) : (relations : List (String × View)) →
    q ∈ relationPortions graph sources relations → ∃ name view r target, (name, view) ∈ relations ∧
      sources.source? name = some (.relation r) ∧ graph r.target = .ok target ∧
        Portion.Reaches graph ⟨target, view.expanded⟩ q
  | [] => nofun
  | (name, view) :: rest => by
    intro h
    rw [relationPortions, List.mem_append] at h
    rcases h with h | h
    · split at h
      · split at h
        · exact ⟨name, view, _, _, List.mem_cons_self, ‹_›, ‹_›, reaches_of_portions _ view h⟩
        · cases h
      · cases h
    · obtain ⟨name', view', r, target, hmem, hrest⟩ := reaches_of_relationPortions sources rest h
      exact ⟨name', view', r, target, List.mem_cons_of_mem _ hmem, hrest⟩

end

/-- The pre-order goes through just what can be reached. -/
theorem mem_portions {sources : EntityFields} {view : View} {q : Portion} :
    q ∈ view.portions graph sources ↔ Portion.Reaches graph ⟨sources, view.expanded⟩ q := by
  constructor
  · exact reaches_of_portions sources view
  · intro h
    have hq := portions_of_reaches h (by cases view <;> rfl)
    rwa [portions_expanded] at hq

end View

def Except.Ends {α : Type} (x : Except Fault α) : List (String × View) → Prop
  | [] => ∃ a, x = .ok a
  | (field, view) :: _ => x = .error (.unknownField field view)

namespace Except.Ends

variable {α β : Type} {x : Except Fault α} {offences : List (String × View)}

/-- Of two steps the first one ends at its first offence, the second at the next. -/
theorem bind {f : α → Except Fault β} {more : List (String × View)} (hx : Ends x offences)
    (hf : ∀ a, x = .ok a → Ends (f a) more) : Ends (x >>= f) (offences ++ more) := by
  cases offences with
  | nil =>
    obtain ⟨a, rfl⟩ := hx
    exact hf a rfl
  | cons o rest =>
    have herror : x = .error (.unknownField o.1 o.2) := hx
    rw [herror]
    rfl

/-- Work that ends at offences fails with the first of them. -/
theorem error_iff (h : Ends x offences) (e : Fault) :
    x = .error e ↔ ∃ field view, offences.head? = some (field, view) ∧ e = .unknownField field view := by
  cases offences with
  | nil =>
    obtain ⟨a, rfl⟩ := h
    simp
  | cons o rest =>
    have herror : x = .error (.unknownField o.1 o.2) := h
    rw [herror]
    constructor
    · rintro ⟨⟩
      exact ⟨o.1, o.2, rfl, rfl⟩
    · rintro ⟨field, view, ⟨⟩, rfl⟩
      rfl

/-- Work that ends at offences fails if there is one. -/
theorem fails_iff (h : Ends x offences) : (∃ e, x = .error e) ↔ ∃ o, o ∈ offences := by
  constructor
  · rintro ⟨e, he⟩
    obtain ⟨field, view, hhead, _⟩ := (h.error_iff e).mp he
    exact ⟨_, List.mem_of_head? hhead⟩
  · rintro ⟨o, ho⟩
    cases offences with
    | nil => cases ho
    | cons first rest => exact ⟨_, h⟩

end Except.Ends

structure EntityFields.Sound (graph : Graph) (context : Context) (f : EntityFields) : Prop where
  targets : ∀ name r, f.source? name = some (.relation r) → ∃ target, graph r.target = .ok target
  filters : ∀ name r, f.source? name = some (.relation r) → ∃ v, Plan.contextFilter context r = .ok v
  kinds : ∀ name word, f.source? name ≠ some (.foreign word)

inductive EntityFields.Leads (graph : Graph) : EntityFields → EntityFields → Prop
  | here (f : EntityFields) : Leads graph f f
  | down {f target last : EntityFields} {name : String} {r : RelationSource} :
    f.source? name = some (.relation r) → graph r.target = .ok target → Leads graph target last → Leads graph f last

def EntityFields.sound (graph : Graph) (context : Context) (f : EntityFields) : Bool :=
  f.sources.all fun p =>
    match p.2 with
    | .relation r => (graph r.target).isOk && (Plan.contextFilter context r).isOk
    | .foreign _ => false
    | _ => true

/-- The decidable check of fields says that they are sound. -/
theorem EntityFields.sound_of_check {graph : Graph} {context : Context} {f : EntityFields}
    (h : f.sound graph context = true) : f.Sound graph context := by
  have hok {α : Type} {x : Except Fault α} (hx : x.isOk = true) : ∃ a, x = .ok a := by
    cases x with
    | error e => cases hx
    | ok a => exact ⟨a, rfl⟩
  have hrelation : ∀ name r, f.source? name = some (.relation r) →
      (graph r.target).isOk = true ∧ (Plan.contextFilter context r).isOk = true := by
    intro name r hr
    exact Bool.and_eq_true_iff.mp (List.all_eq_true.mp h _ (mem_of_find?_key hr))
  constructor
  · exact fun name r hr => hok (hrelation name r hr).1
  · exact fun name r hr => hok (hrelation name r hr).2
  · intro name word hw
    have hcheck := List.all_eq_true.mp h _ (mem_of_find?_key hw)
    cases hcheck

theorem EntityFields.Leads.sound {graph : Graph} {context : Context} {f g : EntityFields} (h : f.Leads graph g)
    (hf : f.Sound graph context) (hgraph : ∀ entity g, graph entity = .ok g → g.Sound graph context) :
    g.Sound graph context := by
  induction h with
  | here => exact hf
  | down _ htarget _ ih => exact ih (hgraph _ _ htarget)

def Except.Alike {α : Type} (x y : Except Fault α) : Prop :=
  x = y ∨ ∃ field view view', x = .error (.unknownField field view) ∧ y = .error (.unknownField field view')

namespace Except.Alike

variable {α β : Type} {x y : Except Fault α}

theorem isOk_eq (h : Alike x y) : x.isOk = y.isOk := by
  rcases h with rfl | ⟨_, _, _, rfl, rfl⟩ <;> rfl

theorem symm (h : Alike x y) : Alike y x := by
  rcases h with rfl | ⟨field, view, view', rfl, rfl⟩
  · exact .inl rfl
  · exact .inr ⟨field, view', view, rfl, rfl⟩

theorem trans {z : Except Fault α} (h : Alike x y) (h' : Alike y z) : Alike x z := by
  rcases h with rfl | ⟨field, view, view', rfl, rfl⟩
  · exact h'
  · rcases h' with rfl | ⟨_, _, view'', ⟨⟩, rfl⟩
    · exact .inr ⟨field, view, view', rfl, rfl⟩
    · exact .inr ⟨field, view, view'', rfl, rfl⟩

theorem bind {f g : α → Except Fault β} (h : Alike x y) (hf : ∀ a, x = .ok a → Alike (f a) (g a)) :
    Alike (x >>= f) (y >>= g) := by
  rcases h with rfl | ⟨field, view, view', rfl, rfl⟩
  · cases hx : x with
    | error e => exact .inl rfl
    | ok a => exact hf a hx
  · exact .inr ⟨field, view, view', rfl, rfl⟩

end Except.Alike

namespace Plan

variable {graph : Graph} {context : Context} {overrides : Value}

/-- The fields of a level end at the first name that the sources do not know. -/
theorem ends_ofFields {sources : EntityFields} (hkinds : ∀ name word, sources.source? name ≠ some (.foreign word))
    (path : String) (view : View) (plan : Plan) (names : List String) :
    Except.Ends (ofFields sources path view plan names)
      ((names.filter fun name => (sources.source? name).isNone).map fun name => (name, view)) := by
  induction names generalizing plan with
  | nil => exact ⟨plan, rfl⟩
  | cons name rest ih =>
    rw [ofFields, List.filter_cons]
    cases hs : sources.source? name with
    | none => exact rfl
    | some source =>
      cases source with
      | column => exact ih _
      | formula => exact ih _
      | relation r => exact ih _
      | annotated a => exact ih _
      | «foreign» word => exact absurd hs (hkinds name word)

/-- From a mapping of overrides what is given for a path can always be read. -/
theorem override_ok (h : overrides.Mapping) (path : String) : ∃ v, override overrides path = .ok v := by
  by_cases hpresent : overrides.isPresent = true
  · obtain ⟨entries, rfl⟩ := h hpresent
    exact ⟨_, rfl⟩
  · unfold override
    split
    · exact ⟨_, rfl⟩
    · exact ⟨_, if_neg hpresent⟩

/-- From sound fields and a mapping of overrides the filter of a relation can always be had. -/
theorem scope_ok (hmapping : overrides.Mapping) {sources : EntityFields} (h : sources.Sound graph context) {name : String}
    {r : RelationSource} (hr : sources.source? name = some (.relation r)) (path : String) : ∃ f, scope context overrides path r = .ok f := by
  obtain ⟨own, hown⟩ := h.filters name r hr
  obtain ⟨given, hgiven⟩ := override_ok hmapping path
  have hscope : scope context overrides path r = .ok (Filter.conjunction [own, given]) := by
    apply Except.bind_eq_ok hown
    exact Except.bind_eq_ok hgiven rfl
  exact ⟨_, hscope⟩

mutual

/-- A view compiles up to the first field without a source. -/
theorem ends_compile (hmapping : overrides.Mapping) (sources : EntityFields)
    (hsound : ∀ f, sources.Leads graph f → f.Sound graph context) (path : String) : (view : View) →
    Except.Ends (compile graph context overrides sources path view) (view.offences graph sources)
  | .names fields => by
    have hfields := ends_ofFields (hsound _ (.here sources)).kinds path (.full fields []) empty fields
    rw [compile, View.offences, View.portions, List.flatMap_singleton]
    exact hfields
  | .full fields relations => by
    have hfields := ends_ofFields (hsound _ (.here sources)).kinds path (.full fields relations) empty fields
    rw [compile, View.offences, View.portions, List.flatMap_cons]
    apply Except.Ends.bind hfields
    intro plan _
    exact ends_compileRelations hmapping sources hsound path plan relations

/-- The views below end at the first unknown name in them. -/
theorem ends_compileRelations (hmapping : overrides.Mapping) (sources : EntityFields)
    (hsound : ∀ f, sources.Leads graph f → f.Sound graph context) (path : String) (plan : Plan) :
    (relations : List (String × View)) →
    Except.Ends (compileRelations graph context overrides sources path plan relations)
      ((View.relationPortions graph sources relations).flatMap Portion.offences)
  | [] => ⟨plan, rfl⟩
  | (name, view) :: rest => by
    have hrest := fun plan => ends_compileRelations hmapping sources hsound path plan rest
    rw [compileRelations, View.relationPortions, List.flatMap_append]
    cases hs : sources.source? name with
    | none => exact hrest plan
    | some source =>
      cases source with
      | column | formula | annotated | «foreign» => exact hrest plan
      | relation r =>
        obtain ⟨target, htarget⟩ := (hsound _ (.here sources)).targets name r hs
        obtain ⟨filter, hfilter⟩ := scope_ok hmapping (hsound _ (.here sources)) hs (Text.qualify path r.populate)
        -- Neither the entity nor the filter is in the way, so what is left is the view of the relation.
        have hnested := ends_compile hmapping target (fun f hf => hsound f (.down hs htarget hf))
          (Text.qualify path r.populate) view
        simp only [htarget]
        apply Except.Ends.bind hnested
        intro nested _
        rw [hfilter]
        exact hrest _

end

/-! What is under a key that is no relation makes no difference. -/

theorem alike_ofFields (sources : EntityFields) (path : String) (view view' : View) (plan : Plan) (names : List String) :
    Except.Alike (ofFields sources path view plan names) (ofFields sources path view' plan names) := by
  induction names generalizing plan with
  | nil => exact .inl rfl
  | cons name rest ih =>
    rw [ofFields, ofFields]
    split
    · exact .inr ⟨_, _, _, rfl, rfl⟩
    · exact ih _
    · exact ih _
    · exact ih _
    · exact ih _
    · exact .inl rfl

mutual

theorem alike_compile_seen (sources : EntityFields) (path : String) : (view : View) →
    Except.Alike (compile graph context overrides sources path (view.seen graph sources))
      (compile graph context overrides sources path view)
  | .names fields => by
    rw [View.seen, compile, compile]
    refine .inl ?_
    cases ofFields sources path (.full fields []) empty fields <;> rfl
  | .full fields relations => by
    rw [View.seen, compile, compile]
    apply Except.Alike.bind (alike_ofFields sources path _ _ empty fields)
    intro plan _
    exact alike_compileRelations_seen sources path plan relations

theorem alike_compileRelations_seen (sources : EntityFields) (path : String) (plan : Plan) :
    (relations : List (String × View)) →
    Except.Alike (compileRelations graph context overrides sources path plan (View.seenRelations graph sources relations))
      (compileRelations graph context overrides sources path plan relations)
  | [] => .inl rfl
  | (name, view) :: rest => by
    have hrest := fun plan => alike_compileRelations_seen sources path plan rest
    cases hs : sources.source? name with
    | none =>
      simp only [View.seenRelations, compileRelations, hs]
      exact hrest plan
    | some source =>
      cases source with
      | column | formula | annotated | «foreign» =>
        simp only [View.seenRelations, compileRelations, hs]
        exact hrest plan
      | relation r =>
        cases htarget : graph r.target with
        | error e =>
          simp only [View.seenRelations, compileRelations, hs, htarget]
          exact .inl rfl
        | ok target =>
          simp only [View.seenRelations, compileRelations, hs, htarget]
          apply Except.Alike.bind (alike_compile_seen target (Text.qualify path r.populate) view)
          intro nested _
          apply Except.Alike.bind (.inl rfl)
          intro filter _
          exact hrest _

end

mutual

/-- Nor does it make one to what a compilation comes by. -/
theorem visits_seen (sources : EntityFields) (path : String) : (view : View) →
    visits graph context overrides sources path (view.seen graph sources) =
      visits graph context overrides sources path view
  | .names fields => by
    rw [View.seen, visits, visits]
    split <;> rfl
  | .full fields relations => by
    rw [View.seen, visits, visits, relationVisits_seen sources path relations,
      (alike_ofFields sources path _ (.full fields relations) empty fields).isOk_eq]

theorem relationVisits_seen (sources : EntityFields) (path : String) : (relations : List (String × View)) →
    relationVisits graph context overrides sources path (View.seenRelations graph sources relations) =
      relationVisits graph context overrides sources path relations
  | [] => rfl
  | (name, view) :: rest => by
    have hrest := relationVisits_seen sources path rest
    cases hs : sources.source? name with
    | none => simp only [View.seenRelations, relationVisits, hs, hrest]
    | some source =>
      cases source with
      | column | formula | annotated | «foreign» => simp only [View.seenRelations, relationVisits, hs, hrest]
      | relation r =>
        cases htarget : graph r.target with
        | error e => simp only [View.seenRelations, relationVisits, hs, htarget]
        | ok target =>
          have hcompile : Except.Alike
              (compile graph context overrides target (Text.qualify path r.populate) (view.seen graph target))
              (compile graph context overrides target (Text.qualify path r.populate) view) :=
            alike_compile_seen target _ view
          simp only [View.seenRelations, relationVisits, hs, htarget, hrest, hcompile.isOk_eq,
            visits_seen target (Text.qualify path r.populate) view]

end

/-- Where the entities and the filters on the way can be had, a view fails to compile just if something that it wants, at
the top or beyond relations, is a field without a source. It fails at the first such field in pre-order and with the view of
its level. What the view has under keys that are no relations is not looked at. -/
theorem compile_error_iff {sources : EntityFields} (hsound : ∀ f, sources.Leads graph f → f.Sound graph context)
    (hmapping : overrides.Mapping) (path : String) (view : View) :
    ((∃ e, compile graph context overrides sources path view = .error e) ↔
      ∃ p, Portion.Reaches graph ⟨sources, view.expanded⟩ p ∧
        ∃ name ∈ p.view.fields, p.sources.source? name = none) ∧
    (∀ e, compile graph context overrides sources path view = .error e ↔
      ∃ field at', (view.offences graph sources).head? = some (field, at') ∧ e = .unknownField field at') ∧
    ∀ other : View, other.seen graph sources = view.seen graph sources →
      visits graph context overrides sources path other = visits graph context overrides sources path view ∧
      Except.Alike (compile graph context overrides sources path other)
        (compile graph context overrides sources path view) := by
  have hends := ends_compile hmapping sources hsound path view
  refine ⟨?_, hends.error_iff, ?_⟩
  · rw [hends.fails_iff]
    constructor
    · rintro ⟨o, ho⟩
      obtain ⟨p, hp, ho⟩ := List.mem_flatMap.mp ho
      obtain ⟨name, hname, rfl⟩ := List.mem_map.mp ho
      obtain ⟨hfields, hnone⟩ := Portion.mem_unknown.mp hname
      exact ⟨p, View.mem_portions.mp hp, name, hfields, hnone⟩
    · rintro ⟨p, hp, name, hfields, hnone⟩
      have hoffence : (name, p.view) ∈ p.offences := List.mem_map.mpr ⟨name, Portion.mem_unknown.mpr ⟨hfields, hnone⟩, rfl⟩
      exact ⟨_, List.mem_flatMap.mpr ⟨p, View.mem_portions.mpr hp, hoffence⟩⟩
  · intro other heq
    have hvisits : visits graph context overrides sources path (other.seen graph sources) =
        visits graph context overrides sources path other := visits_seen sources path other
    have hcompile : Except.Alike (compile graph context overrides sources path (other.seen graph sources))
        (compile graph context overrides sources path other) := alike_compile_seen sources path other
    rw [heq] at hvisits hcompile
    refine ⟨hvisits.symm.trans (visits_seen sources path view), ?_⟩
    exact hcompile.symm.trans (alike_compile_seen sources path view)

/-- A text with the texts of its collection, which have no field "heading"; nor has the language a field "script". What is
under "author" is not looked at, for there is no such relation. -/
def crookedTitles : View :=
  .full ["title"] [("author", .names ["pen name"]),
    ("collection", .full [] [("texts", .names ["level", "heading"])]), ("language", .names ["script"])]

theorem compile_crookedTitles :
    ∃ sources, Learning.registry.graph "Text" = .ok sources ∧
      compile Learning.registry.graph ⟨.learner ⟨1, "ana", 1⟩, true, []⟩ .null sources "" crookedTitles =
        .error (.unknownField "heading" (.full ["level", "heading"] [])) := by
  have hgraph : ∀ entity f, Learning.registry.graph entity = .ok f →
      f.Sound Learning.registry.graph ⟨.learner ⟨1, "ana", 1⟩, true, []⟩ := by
    have hevery : Learning.registry.every
        (fun _ f => f.sound Learning.registry.graph ⟨.learner ⟨1, "ana", 1⟩, true, []⟩) = true := by decide +kernel
    exact fun entity f hf => EntityFields.sound_of_check (Registry.of_every hevery hf)
  obtain ⟨sources, hs⟩ : ∃ sources, Learning.registry.graph "Text" = .ok sources := ⟨_, rfl⟩
  refine ⟨sources, hs, ?_⟩
  have hsound : ∀ f, sources.Leads Learning.registry.graph f →
      f.Sound Learning.registry.graph ⟨.learner ⟨1, "ana", 1⟩, true, []⟩ :=
    fun f hf => hf.sound (hgraph _ _ hs) hgraph
  have hfirst : (crookedTitles.offences Learning.registry.graph sources).head? =
      some ("heading", .full ["level", "heading"] []) := by
    cases hs
    rfl
  have hmapping : Value.Mapping .null := nofun
  obtain ⟨_, herror, _⟩ := compile_error_iff hsound hmapping "" crookedTitles
  exact (herror _).mpr ⟨_, _, hfirst, rfl⟩

end Plan

end EntityViews
