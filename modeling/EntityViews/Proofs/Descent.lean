import EntityViews.Proofs.Levels
import EntityViews.Learning.Sources

/-!
Where the compiler goes and where a walk along a compiled path goes. A path is put together from keys, and a segment of it
is looked up among the names of fields first. Main statement: a walk follows the compiler exactly if on every level the
key is read as the relation that it was taken from.
-/

namespace EntityViews

/-- A relation that the compiler goes along from one entity to another: the field, its source, and the fields it leads to. -/
structure Crossing where
  field : String
  source : RelationSource
  nested : EntityFields

namespace Crossing

def key (c : Crossing) : String := c.source.populate

def path (cs : List Crossing) : String := Trail.path (cs.map key).reverse

/-- Whether the key of a crossing is read as a relation that is loaded under it and leads to the same fields: either it is
the name of such a relation, or no field has this name and the first relation with the key is one. -/
def Legible (graph : Graph) (f : EntityFields) (c : Crossing) : Prop :=
  ∃ r, (f.source? c.key = some (.relation r) ∨ f.source? c.key = none ∧ f.byPopulate? c.key = some r) ∧
    r.populate = c.key ∧ graph r.target = .ok c.nested

def LegibleAll (graph : Graph) : EntityFields → List Crossing → Prop
  | _, [] => True
  | f, c :: cs => c.Legible graph f ∧ LegibleAll graph c.nested cs

end Crossing

/-- The entities that the compiler comes to from a view of one: along relations that the view names, one at a time. -/
inductive Descends (graph : Graph) : EntityFields → NormalView → List Crossing → EntityFields → NormalView → Prop
  | here (f : EntityFields) (view : NormalView) : Descends graph f view [] f view
  | down {f target last : EntityFields} {names : List String} {relations : List (String × NormalView)} {field : String}
    {below view : NormalView} {r : RelationSource} {cs : List Crossing} :
    (field, below) ∈ relations → f.source? field = some (.relation r) → graph r.target = .ok target →
    Descends graph target below cs last view →
    Descends graph f (.mk names relations) (⟨field, r, target⟩ :: cs) last view

namespace Text

def steps (path : String) : List String :=
  -- The empty path has none.
  if path = "" then [] else segments path

end Text

theorem Crossing.steps_path {cs : List Crossing} (h : Trail.Proper (cs.map key).reverse) :
    Text.steps (path cs) = cs.map key := by
  rw [Text.steps, path, Trail.keys_path h, List.reverse_reverse]

/-- Whether the look-ups of a walk find, segment by segment, a relation that is loaded under the segment and leads to the
fields that the compiler went on with. -/
def Follows (graph : Graph) : EntityFields → List String → List Crossing → Prop
  | _, [], [] => True
  | f, segment :: rest, c :: cs =>
    (∃ r, f.forSegment? segment = some (.relation r) ∧ r.populate = segment ∧ segment = c.key ∧
      graph r.target = .ok c.nested) ∧ Follows graph c.nested rest cs
  | _, _, _ => False

namespace EntityFields

/-- A relation that is found by the key it is attached under has this key. -/
theorem populate_of_byPopulate? {f : EntityFields} {key : String} {r : RelationSource} (h : f.byPopulate? key = some r) :
    r.populate = key := by
  obtain ⟨entry, _, he⟩ := List.exists_of_findSome?_eq_some h
  split at he
  · split at he
    · cases he
      assumption
    · cases he
  · cases he

/-- A segment is read as a relation if a field of this name is one, or if there is no such field and the segment is a key. -/
theorem forSegment?_eq_relation_iff {f : EntityFields} {segment : String} {r : RelationSource} :
    f.forSegment? segment = some (.relation r) ↔
      f.source? segment = some (.relation r) ∨ f.source? segment = none ∧ f.byPopulate? segment = some r := by
  rw [forSegment?]
  cases f.source? segment with
  | none => simp
  | some source => simp

end EntityFields

/-- Segments are followed along crossings exactly if they are the keys of these and each is read as the crossing has it. -/
theorem follows_iff_legible {graph : Graph} {f : EntityFields} {segments : List String} {cs : List Crossing} :
    Follows graph f segments cs ↔ segments = cs.map Crossing.key ∧ Crossing.LegibleAll graph f cs := by
  induction cs generalizing f segments with
  | nil =>
    cases segments with
    | nil => exact ⟨fun _ => ⟨rfl, trivial⟩, fun _ => trivial⟩
    | cons segment rest => exact ⟨False.elim, fun h => nomatch h.1⟩
  | cons c cs ih =>
    cases segments with
    | nil => exact ⟨False.elim, fun h => nomatch h.1⟩
    | cons segment rest =>
      -- A look-up finds the relation of the crossing by its name, or by its key where no field has this name.
      rw [Follows, ih, List.map_cons, List.cons.injEq, Crossing.LegibleAll, Crossing.Legible]
      simp only [EntityFields.forSegment?_eq_relation_iff]
      constructor
      · rintro ⟨⟨r, hread, hkey, rfl, htarget⟩, hrest, hall⟩
        exact ⟨⟨rfl, hrest⟩, ⟨r, hread, hkey, htarget⟩, hall⟩
      · rintro ⟨⟨rfl, hrest⟩, ⟨r, hread, hkey, htarget⟩, hall⟩
        exact ⟨⟨r, hread, hkey, rfl, htarget⟩, hrest, hall⟩

namespace Descends

variable {graph : Graph} {f last target : EntityFields} {view below : NormalView} {cs : List Crossing}

/-- A descent goes on along any relation that the view names where it has come to. -/
theorem further (h : Descends graph f view cs last below) {field : String} {r : RelationSource} {next : NormalView}
    (hmem : (field, next) ∈ below.relations) (hr : last.source? field = some (.relation r))
    (htarget : graph r.target = .ok target) :
    Descends graph f view (cs ++ [⟨field, r, target⟩]) target next := by
  induction h with
  | here f view =>
    obtain ⟨names, relations⟩ := view
    exact .down hmem hr htarget (.here target next)
  | down hm hs ht _ ih => exact .down hm hs ht (ih hmem hr)

/-- The places of a tour are where the compiler comes to, with the trail of the keys on the way. -/
theorem of_place {context : Context} {overrides : Value} {tour sub : Tour} {t : Trail}
    (hof : Tour.of? graph context overrides f "" view = some tour) (h : tour.Place [] t sub) :
    ∃ cs last below, Descends graph f view cs last below ∧ t = (cs.map Crossing.key).reverse ∧
      Tour.of? graph context overrides last t.path below = some sub := by
  induction h with
  | here => exact ⟨[], f, view, .here f view, rfl, hof⟩
  | @step t asked legs leg sub _ hl _ ih =>
    obtain ⟨cs, last, below, hdescends, rfl, hsub⟩ := ih
    obtain ⟨_, _, he, _, hlegs⟩ := Tour.of?_parts hsub
    cases he
    obtain ⟨field, next, target, hmem, hr, htarget, hnext⟩ := (Tour.mem_legs? hlegs).1 _ hl
    refine ⟨_, target, next, hdescends.further hmem hr htarget, ?_, hnext⟩
    rw [List.map_append, List.reverse_append]
    rfl

/-- The annotations of a plan are for where the compiler comes to. -/
theorem of_annotation {context : Context} {overrides : Value} {tour : Tour}
    (hof : Tour.of? graph context overrides f "" view = some tour) {a : Annotation} (ha : a ∈ tour.plan.annotations) :
    ∃ cs last below sub, Descends graph f view cs last below ∧ a.path = Crossing.path cs ∧
      tour.Place [] (cs.map Crossing.key).reverse sub ∧ ∃ name ∈ below.fields, last.source? name = some (.annotated a.annotator) := by
  obtain ⟨t, asked, legs, hplace, hasked⟩ := (Tour.mem_gather_annotations tour []).mp (Tour.mem_plan_annotations.mp ha)
  obtain ⟨cs, last, below, hdescends, rfl, hsub⟩ := of_place hof hplace
  obtain ⟨_, _, he, hfields, _⟩ := Tour.of?_parts hsub
  cases he
  -- Of what is asked for at the end, only an annotator makes an annotation.
  obtain ⟨name, hname, hsource⟩ := (Tour.mem_asked? hfields _).mp hasked
  split at hsource
  · cases hsource
  · cases hsource
  · rename_i annotator hs
    cases hsource
    exact ⟨cs, last, below, _, hdescends, rfl, hplace, name, hname, hs⟩
  · exact hsource.elim

end Descends

namespace EntityFields

/-- Whether every key leads to one relation only, and no field but this relation is named like it. -/
structure Clear (f : EntityFields) : Prop where
  distinct : f.names.Nodup
  unshared : f.Unshared
  apart : ∀ name r, f.source? name = some (.relation r) →
    f.source? r.populate = none ∨ f.source? r.populate = some (.relation r)

/-- Where no two relations are attached under one key, each is found by its key. -/
theorem byPopulate?_of_unshared {f : EntityFields} (hdistinct : f.names.Nodup) (hunshared : f.Unshared) {name : String}
    {r : RelationSource} (hr : f.source? name = some (.relation r)) : f.byPopulate? r.populate = some r := by
  have hentry : (name, Source.relation r) ∈ f.sources := mem_of_find?_key hr
  have hfinds : f.byPopulate? r.populate ≠ none := by
    rw [byPopulate?, Ne, List.findSome?_eq_none_iff]
    intro hnone
    simpa using hnone _ hentry
  obtain ⟨q, hq⟩ := Option.ne_none_iff_exists'.mp hfinds
  -- What is found is a relation of some field, and only one field has the key.
  obtain ⟨⟨name', source⟩, hmem, he⟩ := List.exists_of_findSome?_eq_some hq
  have hkey := populate_of_byPopulate? hq
  obtain rfl : source = .relation q := by
    cases source with
    | relation q' =>
      dsimp only at he
      split at he
      · exact congrArg Source.relation (Option.some.inj he)
      · cases he
    | column | formula | annotated | «foreign» => cases he
  have hq' : f.source? name' = some (.relation q) := find?_key_of_mem hdistinct hmem
  obtain rfl := hunshared.2 name' name q r hq' hr hkey
  rw [hq, Source.relation.inj (Option.some.inj (hq'.symm.trans hr))]

theorem Keyed.clear {f : EntityFields} (h : f.Keyed) (hdistinct : f.names.Nodup) : f.Clear where
  distinct := hdistinct
  unshared := h.unshared
  apart name r hr := Or.inr ((h name r hr).1.symm ▸ hr)

/-- In clear fields a key is read as the relation that has it. -/
theorem Clear.legible {f : EntityFields} {graph : Graph} (h : f.Clear) {c : Crossing}
    (hr : f.source? c.field = some (.relation c.source)) (htarget : graph c.source.target = .ok c.nested) :
    c.Legible graph f := by
  refine ⟨c.source, ?_, rfl, htarget⟩
  rcases h.apart c.field c.source hr with hnone | hsome
  · exact Or.inr ⟨hnone, byPopulate?_of_unshared h.distinct h.unshared hr⟩
  · exact Or.inl hsome

end EntityFields

namespace Descends

variable {graph graph' : Graph} {f last : EntityFields} {view below : NormalView} {cs : List Crossing}

/-- A descent through clear fields alone is one that a walk can follow. -/
theorem follows_of_clear (h : Descends graph f view cs last below) (hf : f.Clear)
    (hgraph : ∀ entity g, graph entity = .ok g → g.Clear)
    (hkept : ∀ entity g, graph entity = .ok g → graph' entity = .ok g) :
    Follows graph' f (Text.steps (Crossing.path cs)) cs := by
  rw [follows_iff_legible]
  -- By induction on the descent: every crossing is along a relation of clear fields, whose key is a name without dots.
  have hall : Crossing.LegibleAll graph' f cs ∧ Trail.Proper (cs.map Crossing.key) := by
    induction h with
    | here => exact ⟨trivial, nofun⟩
    | down _ hr htarget _ ih =>
      obtain ⟨hlegible, hproper⟩ := ih (hgraph _ _ htarget)
      refine ⟨⟨hf.legible hr (hkept _ _ htarget), hlegible⟩, ?_⟩
      exact List.forall_mem_cons.mpr ⟨hf.unshared.1 _ _ hr, hproper⟩
  have hproper : Trail.Proper (cs.map Crossing.key).reverse := fun key hk => hall.2 key (List.mem_reverse.mp hk)
  exact ⟨Crossing.steps_path hproper, hall.1⟩

end Descends

def Fault.IsLookup : Fault → Prop
  | .path (.noSource _) _ => True
  | .path (.notRelation _ _) _ => True
  | _ => False

namespace Store

variable {s : Store} {graph : Graph} {path here : String}

theorem ask_error {n : Node} {key : String} {e : Fault} (h : s.ask n key = .error e) : e = .absentMember := by
  cases n <;> cases h
  all_goals rfl

theorem parts_error {n : Node} {e : Fault} (h : s.parts n = .error e) : e = .mistyped := by
  cases n with
  | scalar a => cases a <;> cases h <;> rfl
  | list | tuple | set | record => cases h

/-- A relation that a walk has found does not fail for want of a field. -/
theorem follow_isLookup {r : RelationSource} {record : Node} {e : Fault}
    (h : s.follow path here r record = .error e) : ¬e.IsLookup := by
  rw [follow] at h
  cases hask : s.ask record r.populate with
  | error e' =>
    rw [hask] at h
    cases h
    rw [ask_error hask]
    exact id
  | ok related =>
    rw [hask] at h
    simp only [bind, Except.bind] at h
    -- Whatever the cardinality, a fault is that nothing is there or that what is there is of no use.
    cases hc : r.cardinality with
    | toOne =>
      rw [hc] at h
      dsimp only at h
      split at h
      · split at h
        · cases h
        · cases h
          exact id
      · cases h
        exact id
    | toMany =>
      rw [hc] at h
      dsimp only at h
      split at h
      · cases h
        exact id
      · cases h
        exact id
      · rw [parts_error h]
        exact id
    | other word =>
      rw [hc] at h
      cases h
      exact id

/-- A walk along a relation fails by no fault of a look-up. -/
theorem followAll_isLookup {r : RelationSource} {records : List Node} {e : Fault}
    (h : s.followAll path here r records = .error e) : ¬e.IsLookup := by
  rw [followAll] at h
  cases hfound : records.mapM (s.follow path here r) with
  | error e' =>
    rw [hfound] at h
    cases h
    obtain ⟨record, _, hrecord⟩ := Except.mapM_error hfound
    exact follow_isLookup hrecord
  | ok found =>
    rw [hfound] at h
    cases h

/-- A walk whose look-ups follow the compiler finds a relation for every segment. -/
theorem walk_isLookup {cs : List Crossing} {f : EntityFields} {segments walked : List String} {records : List Node}
    {e : Fault} (hfollows : Follows graph f segments cs)
    (h : s.walk graph path f walked records segments = .error e) : ¬e.IsLookup := by
  induction segments generalizing f cs walked records with
  | nil => cases h
  | cons segment rest ih =>
    cases cs with
    | nil => exact hfollows.elim
    | cons c cs =>
      obtain ⟨⟨r, hsegment, _, _, htarget⟩, hrest⟩ := hfollows
      rw [walk, hsegment] at h
      dsimp only at h
      cases hfound : s.followAll path (Text.joinDots (walked ++ [segment])) r records with
      | error e' =>
        rw [hfound] at h
        cases h
        exact followAll_isLookup hfound
      | ok found =>
        rw [hfound] at h
        simp only [bind, Except.bind, htarget] at h
        split at h
        · cases h
        · exact ih hrest h

/-- A path that is followed is never refused for a name on it. -/
theorem resolve_isLookup {cs : List Crossing} {f : EntityFields} {roots : List Node} {e : Fault}
    (hfollows : Follows graph f (Text.steps path) cs) (h : s.resolve graph f path roots = .error e) : ¬e.IsLookup := by
  rw [resolve] at h
  split at h
  · cases h
  · rename_i hne
    rw [Text.steps, if_neg hne] at hfollows
    exact walk_isLookup hfollows h

end Store

namespace Plan

variable {graph graph' : Graph} {context : Context} {overrides : Value} {sources : EntityFields} {view : View} {plan : Plan}

/-- Every annotation of a plan is for the end of a descent. A walk follows a descent exactly if the segments of its path
are the keys and every key is read as the relation that it was taken from; then it comes to no segment that is missing or no
relation. It follows all descents if no key belongs to two relations or is the name of another field. -/
theorem compile_follows (h : compile graph context overrides sources "" view = .ok plan)
    (hkept : ∀ entity f, graph entity = .ok f → graph' entity = .ok f) :
    (∀ a ∈ plan.annotations, ∃ cs last below, Descends graph sources view.normal cs last below ∧
      a.path = Crossing.path cs ∧ ∃ name ∈ below.fields, last.source? name = some (.annotated a.annotator)) ∧
    ∀ cs last below, Descends graph sources view.normal cs last below →
      (Follows graph' sources (Text.steps (Crossing.path cs)) cs ↔
        Text.steps (Crossing.path cs) = cs.map Crossing.key ∧ Crossing.LegibleAll graph' sources cs) ∧
      (Follows graph' sources (Text.steps (Crossing.path cs)) cs → ∀ (s : Store) (roots : List Node) (e : Fault),
        s.resolve graph' sources (Crossing.path cs) roots = .error e → ¬e.IsLookup) ∧
      (sources.Clear → (∀ entity f, graph entity = .ok f → f.Clear) →
        Follows graph' sources (Text.steps (Crossing.path cs)) cs) := by
  constructor
  · intro a ha
    have htour := Tour.toOption_compile graph context overrides sources "" view
    rw [h] at htour
    obtain ⟨tour, hof, rfl⟩ := Option.map_eq_some_iff.mp htour.symm
    obtain ⟨cs, last, below, _, hdescends, hpath, _, hasked⟩ := Descends.of_annotation hof ha
    exact ⟨cs, last, below, hdescends, hpath, hasked⟩
  · intro cs last below hdescends
    refine ⟨follows_iff_legible, ?_, ?_⟩
    · intro hfollows s roots e he
      exact Store.resolve_isLookup hfollows he
    · intro hsources hgraph
      exact hdescends.follows_of_clear hsources hgraph hkept

def bookmarkedTexts : View := .full [] [("texts", .names ["isBookmarked"])]

/-- No walk to the texts misses a relation, whatever the records hold. -/
theorem compile_follows_bookmarkedTexts :
    ∃ sources plan, Learning.registry.graph "Collection" = .ok sources ∧
      compile Learning.registry.graph ⟨.anonymous, false, []⟩ .null sources "" bookmarkedTexts = .ok plan ∧
      plan.annotations.map (·.path) = ["texts"] ∧
      ∀ a ∈ plan.annotations, ∀ (s : Store) (roots : List Node) (e : Fault),
        s.resolve Learning.registry.graph sources a.path roots = .error e → ¬e.IsLookup := by
  have hclear : ∀ entity f, Learning.registry.graph entity = .ok f → f.Clear := by
    intro entity f hf
    have hkeyed : f.Keyed ∧ f.Mapping ⟨.anonymous, false, []⟩ := Registry.keyed_of_declared (by decide +kernel) hf
    have hdistinct : Learning.registry.every (fun _ f => decide f.names.Nodup) = true := by decide +kernel
    exact hkeyed.1.clear (of_decide_eq_true (Registry.of_every hdistinct hf))
  obtain ⟨sources, hs⟩ : ∃ sources, Learning.registry.graph "Collection" = .ok sources := ⟨_, rfl⟩
  obtain ⟨plan, hplan, hpaths⟩ : ∃ plan,
      compile Learning.registry.graph ⟨.anonymous, false, []⟩ .null sources "" bookmarkedTexts = .ok plan ∧
        plan.annotations.map (·.path) = ["texts"] := by
    cases hs
    exact ⟨_, rfl, rfl⟩
  refine ⟨sources, plan, hs, hplan, hpaths, ?_⟩
  intro a ha s roots e he
  obtain ⟨hannotations, hdescents⟩ := compile_follows hplan fun _ _ hf => hf
  obtain ⟨cs, last, below, hdescends, hpath, _⟩ := hannotations a ha
  obtain ⟨_, hlookup, hfollows⟩ := hdescents cs last below hdescends
  rw [hpath] at he
  exact hlookup (hfollows (hclear _ _ hs) hclear) s roots e he

def crossedFields : EntityFields :=
  ⟨"Text", [("collection", .relation ⟨"source", "Collection", .toOne, none⟩),
    ("source", .relation ⟨"collection", "Profile", .toOne, none⟩)]⟩

def crossedGraph : Graph
  | "Collection" => .ok ⟨"Collection", [("title", .column), ("count", .annotated (.scripted "count"))]⟩
  | "Profile" => .ok ⟨"Profile", [("username", .column)]⟩
  | name => .error (.unknownEntityType name [])

def crossedView : View := .full [] [("collection", .names ["title", "count"]), ("source", .names ["username"])]

def crossedRecords : Store :=
  ⟨#[[(.text "source", .record 1), (.text "collection", .record 2)], [(.text "title", .scalar (.text "A"))],
    [(.text "username", .scalar (.text "bo"))]]⟩

/-- The annotator of the collection is compiled for the key of the collection, but the walk reads this key as the name of the
other field and comes to the profile. -/
theorem not_follows_crossedKeys :
    ∃ plan cs last below, EntityFields.ofPairs "Text" crossedFields.sources = .ok crossedFields ∧
      compile crossedGraph ⟨.nobody, false, []⟩ .null crossedFields "" crossedView = .ok plan ∧
      plan.annotations = [⟨"source", .scripted "count"⟩] ∧
      Descends crossedGraph crossedFields crossedView.normal cs last below ∧ Crossing.path cs = "source" ∧
      last.source? "count" = some (.annotated (.scripted "count")) ∧
      ¬Follows crossedGraph crossedFields (Text.steps "source") cs ∧
      crossedRecords.get? 0 (.text "source") = some (.record 1) ∧
      crossedRecords.resolve crossedGraph crossedFields "source" [.record 0] = .ok [.record 2] := by
  refine ⟨_, [⟨"collection", ⟨"source", "Collection", .toOne, none⟩,
      ⟨"Collection", [("title", .column), ("count", .annotated (.scripted "count"))]⟩⟩], _, _, rfl, rfl, rfl,
    .down (.head _) rfl rfl (.here _ _), rfl, rfl, ?_, rfl, rfl⟩
  rintro ⟨⟨r, hr, hkey, _, _⟩, _⟩
  -- The field that has the name of the segment is found before the one that has it for its key.
  obtain rfl : r = ⟨"collection", "Profile", .toOne, none⟩ := by
    have hfound : crossedFields.forSegment? "source" = some (.relation ⟨"collection", "Profile", .toOne, none⟩) := rfl
    exact Source.relation.inj (Option.some.inj (hr.symm.trans hfound))
  revert hkey
  decide

end Plan

end EntityViews
