import EntityViews.Proofs.Computations
import EntityViews.Proofs.Spellings
import EntityViews.Proofs.Tour

/-!
The plain traversal of a view as one list of stops in pre-order, and the plan that is read off it. Every stop carries the
address of the nearest filtered relation above it, so that a plan needs nothing but the list. Spellings, sources, paths,
merged and nested filters and first occurrences are said here without the compiler's own functions for them. Main
statement: the compiler gives exactly the plan of the list.
-/

namespace EntityViews

/-- Which relation of the root's view, which of that one's view, and so on; the root has the empty address. -/
abbrev Address := List Nat

/-- A stop of a traversal; `under` is the address of the nearest filtered relation above it, that of the root if there
is none. -/
inductive Stop
  | asked (under : Address) (what : Asked)
  | relation (under here : Address) (leg : Leg)

def Leg.cover (leg : Leg) (under here : Address) : Address := if leg.filter.isSome then here else under

namespace Tour

mutual

def stops (under here : Address) : Tour → List Stop
  | mk asked legs => asked.map (.asked under) ++ legStops under here 0 legs

def legStops (under here : Address) (i : Nat) : List (Leg × Tour) → List Stop
  | [] => []
  | (leg, tour) :: rest =>
    .relation under (here ++ [i]) leg ::
      (tour.stops (leg.cover under (here ++ [i])) (here ++ [i]) ++ legStops under here (i + 1) rest)

end

end Tour

namespace Stop

def under : Stop → Address
  | asked under _ => under
  | relation under _ _ => under

def field? (a : Address) : Stop → Option String
  | asked under what => if under = a then what.field? else none
  | relation _ _ _ => none

def path? (a : Address) : Stop → Option String
  | asked _ _ => none
  | relation under _ leg => if under = a ∧ leg.filter = none then some leg.path else none

def annotated? : Stop → Option Annotation
  | asked _ what => what.annotated?
  | relation _ _ _ => none

def fieldsAt (a : Address) (stops : List Stop) : List String := stops.filterMap (field? a)

def pathsAt (a : Address) (stops : List Stop) : List String := stops.filterMap (path? a)

end Stop

namespace Filter

def under : List String → Value → Value
  | [], filter => filter
  | key :: rest, filter => .map [(.text key, under rest filter)]

/-- A filter on the rows at the end of a dotted path, as one on the rows at its beginning. -/
def atEnd (path : String) (filter : Value) : Value := under ((path.toList.splitOn '.').map String.ofList) filter

end Filter

namespace Plan

/-- The load of a filtered relation: its own path, then those directly under its address, and the fields there. -/
def loadAt? (stops : List Stop) : Stop → Option FilteredPopulate
  | .asked _ _ => none
  | .relation _ here leg => leg.filter.map fun f =>
    ⟨(leg.path :: Stop.pathsAt here stops).eraseDups, Filter.atEnd leg.path f, (Stop.fieldsAt here stops).eraseDups⟩

def ofStops (stops : List Stop) : Plan :=
  -- Each list is kept with first occurrences only.
  ⟨(Stop.fieldsAt [] stops).eraseDups, (Stop.pathsAt [] stops).eraseDups, stops.filterMap (loadAt? stops),
    (stops.filterMap Stop.annotated?).eraseDups⟩

end Plan

def dotted (keys : List String) : String :=
  -- Empty keys at the beginning add nothing.
  ".".intercalate (keys.dropWhile (· = ""))

def RelationSource.filterFor? (r : RelationSource) (context : Context) : Option Value :=
  match r.filter with
  | some f => (f context).toOption
  | none => some .null

/-- What is given for a path. Only a map gives anything, and of what is no map only what counts as absent is let pass. -/
def givenAt? (overrides : Value) (path : String) : Option Value :=
  match overrides with
  | .map entries => some (((entries.find? fun e => e.1.same (.text path)).map Prod.snd).getD .null)
  | v => if v.isPresent then none else some .null

namespace Stop

def ownStops? (sources : EntityFields) (keys : List String) (under : Address) : List String → Option (List Stop)
  -- Relations are not visited for their names alone.
  | [] => some []
  | name :: rest => do
    let source ← sources.sources.lookup name
    let more ← ownStops? sources keys under rest
    match source with
    | .column | .formula => return asked under (.field (dotted (keys ++ [name]))) :: more
    | .annotated a => return asked under (.annotated ⟨dotted keys, a⟩) :: more
    | .relation _ => return more
    | .foreign _ => none

mutual

/-- The stops of a view of an entity in pre-order: its own fields, then each of its relations with all that is below. -/
def ofView? (graph : Graph) (context : Context) (overrides : Value) (sources : EntityFields) (keys : List String)
    (under here : Address) : NormalView → Option (List Stop)
  | .mk fields relations => do
    let own ← ownStops? sources keys under fields
    let below ← ofRelations? graph context overrides sources keys under here 0 relations
    return own ++ below

def ofRelations? (graph : Graph) (context : Context) (overrides : Value) (sources : EntityFields) (keys : List String)
    (under here : Address) (i : Nat) : List (String × NormalView) → Option (List Stop)
  | [] => some []
  | (name, view) :: rest =>
    match sources.sources.lookup name with
    | some (.relation r) => do
      let target ← (graph r.target).toOption
      let own ← r.filterFor? context
      let given ← givenAt? overrides (dotted (keys ++ [r.populate]))
      let leg : Leg := ⟨r, dotted (keys ++ [r.populate]), own, given⟩
      let below ← ofView? graph context overrides target (keys ++ [r.populate]) (leg.cover under (here ++ [i]))
        (here ++ [i]) view
      let more ← ofRelations? graph context overrides sources keys under here (i + 1) rest
      return relation under (here ++ [i]) leg :: (below ++ more)
    | _ => ofRelations? graph context overrides sources keys under here i rest

end

end Stop

/-- The plan of the plain traversal of a view, if every field on the way has a source and every entity and filter on the
way can be had. -/
def Plan.traversed? (graph : Graph) (context : Context) (overrides : Value) (sources : EntityFields) (path : String)
    (view : NormalView) : Option Plan :=
  (Stop.ofView? graph context overrides sources [path] [] [] view).map ofStops

theorem EntityFields.lookup_eq_source? (f : EntityFields) (name : String) : f.sources.lookup name = f.source? name := by
  rw [source?]
  induction f.sources with
  | nil => rfl
  | cons entry rest ih =>
    rw [List.lookup_cons, List.find?_cons, ih, BEq.comm]
    cases entry.1 == name <;> rfl

theorem dotted_singleton (path : String) : dotted [path] = path := by
  by_cases hp : path = "" <;> simp [dotted, hp]

/-- One more key makes a path longer by a segment. -/
theorem dotted_concat (keys : List String) (name : String) : dotted (keys ++ [name]) = Text.qualify (dotted keys) name := by
  rw [dotted, dotted, List.dropWhile_append]
  cases hk : keys.dropWhile (· = "") with
  | nil => by_cases hn : name = "" <;> simp [Text.qualify, hn]
  | cons key rest =>
    have hkey : key ≠ "" := by
      have hsome : keys.dropWhile (· = "") ≠ [] := by
        rw [hk]
        exact List.cons_ne_nil key rest
      simpa [hk] using List.head_dropWhile_not (fun key => decide (key = "")) hsome
    have hne : ".".intercalate (key :: rest) ≠ "" := by
      cases rest with
      | nil => simpa using hkey
      | cons other more => simp [String.intercalate_cons_cons]
    have hlast : ∀ (key : String) (rest : List String),
        ".".intercalate (key :: rest ++ [name]) = ".".intercalate (key :: rest) ++ "." ++ name := by
      intro key rest
      induction rest generalizing key with
      | nil => simp [String.intercalate_cons_cons]
      | cons other more ih =>
        rw [List.cons_append, List.cons_append, String.intercalate_cons_cons, ← List.cons_append, ih,
          String.intercalate_cons_cons]
        simp only [String.append_assoc]
    rw [Text.qualify, if_neg hne]
    exact hlast key rest

/-- Paths are split as lists are split at one of their members. -/
theorem splitChars_eq_splitOn (sep : Char) (cs : List Char) : Text.splitChars sep cs = cs.splitOn sep := by
  induction cs with
  | nil => rfl
  | cons c cs ih =>
    rw [Text.splitChars, List.splitOn, List.splitOnP_cons_eq_if_modifyHead, ← List.splitOn, ← ih]
    cases hs : Text.splitChars sep cs with
    | nil => exact absurd hs (Text.splitChars_ne_nil sep cs)
    | cons piece pieces => by_cases hc : c = sep <;> simp [hc]

/-- Wrapping a filter from the last key of its path to the first one leaves the first one outermost. -/
theorem Filter.nest_eq_atEnd (path : String) (filter : Value) : nest path filter = atEnd path filter := by
  rw [nest, atEnd, Text.segments, Text.splitAt, splitChars_eq_splitOn]
  induction (path.toList.splitOn '.').map String.ofList with
  | nil => rfl
  | cons key rest ih => rw [List.foldr_cons, ih, under]

theorem RelationSource.filterFor?_eq (r : RelationSource) (context : Context) :
    r.filterFor? context = (Plan.contextFilter context r).toOption := by
  rw [filterFor?, Plan.contextFilter]
  cases r.filter <;> rfl

/-- The override that is given for a path is found by descending along its keys. -/
theorem givenAt?_eq (overrides : Value) (path : String) :
    givenAt? overrides path = (Plan.override overrides path).toOption := by
  unfold givenAt? Plan.override
  cases overrides with
  | map entries => rfl
  | _ =>
    dsimp only
    split <;> rfl

namespace Stop

theorem fieldsAt_append (a : Address) (xs ys : List Stop) : fieldsAt a (xs ++ ys) = fieldsAt a xs ++ fieldsAt a ys :=
  List.filterMap_append ..

theorem pathsAt_append (a : Address) (xs ys : List Stop) : pathsAt a (xs ++ ys) = pathsAt a xs ++ pathsAt a ys :=
  List.filterMap_append ..

/-- Where no stop belongs to a load, nothing is fetched with it. -/
theorem nothing_at {a : Address} {stops : List Stop} (h : ∀ s ∈ stops, s.under ≠ a) :
    fieldsAt a stops = [] ∧ pathsAt a stops = [] := by
  constructor
  · apply List.filterMap_eq_nil_iff.mpr
    intro s hs
    cases s with
    | asked under what => exact if_neg (h _ hs)
    | relation => rfl
  · apply List.filterMap_eq_nil_iff.mpr
    intro s hs
    cases s with
    | asked => rfl
    | relation under here leg => exact if_neg fun (hc : _ ∧ _) => h _ hs hc.1

theorem filterMap_asked {β : Type} (f : Stop → Option β) (under : Address) (asked : List Asked) :
    (asked.map (.asked under)).filterMap f = asked.filterMap fun what => f (.asked under what) := by
  rw [List.filterMap_map]
  rfl

end Stop

namespace Tour

theorem prefix_index {here a : Address} {i j : Nat} (hi : here ++ [i] <+: a) (hj : here ++ [j] <+: a) : i = j := by
  obtain ⟨s, rfl⟩ := hi
  obtain ⟨t, ht⟩ := hj
  simp only [List.append_assoc, List.append_cancel_left_eq, List.singleton_append, List.cons.injEq] at ht
  exact ht.1.symm

theorem prefix_ne {under here a : Address} {i : Nat} (hl : under.length ≤ here.length) (h : here ++ [i] <+: a) :
    under ≠ a := by
  rintro rfl
  have := h.length_le
  simp only [List.length_append, List.length_singleton] at this
  omega

mutual

/-- A stop of a tour is directly under what the tour is under, or below one of its relations. -/
theorem under_of_mem_stops (under here : Address) : (t : Tour) → ∀ s ∈ t.stops under here,
    s.under = under ∨ ∃ i, here ++ [i] <+: s.under
  | mk asked legs => by
    intro s hs
    rw [stops, List.mem_append] at hs
    rcases hs with hs | hs
    · obtain ⟨what, _, rfl⟩ := List.mem_map.mp hs
      exact Or.inl rfl
    · rcases under_of_mem_legStops under here 0 legs s hs with h | ⟨i, _, hi⟩
      · exact Or.inl h
      · exact Or.inr ⟨i, hi⟩

/-- A stop belongs to the load that was going on, or to one that was begun further along. -/
theorem under_of_mem_legStops (under here : Address) (i : Nat) : (legs : List (Leg × Tour)) →
    ∀ s ∈ legStops under here i legs, s.under = under ∨ ∃ j, i ≤ j ∧ here ++ [j] <+: s.under
  | [] => by
    intro s hs
    cases hs
  | (leg, tour) :: rest => by
    intro s hs
    rw [legStops, List.mem_cons, List.mem_append] at hs
    rcases hs with rfl | hs | hs
    · exact Or.inl rfl
    · rcases under_of_mem_stops _ _ tour s hs with h | ⟨k, hk⟩
      · cases hf : leg.filter with
        | none => exact Or.inl (by simpa [Leg.cover, hf] using h)
        | some f =>
          refine Or.inr ⟨i, Nat.le_refl i, ?_⟩
          have h' : s.under = here ++ [i] := by simpa [Leg.cover, hf] using h
          exact h' ▸ List.prefix_rfl
      · exact Or.inr ⟨i, Nat.le_refl i, (List.prefix_append _ _).trans hk⟩
    · rcases under_of_mem_legStops under here (i + 1) rest s hs with h | ⟨j, hj, h⟩
      · exact Or.inl h
      · exact Or.inr ⟨j, by omega, h⟩

end

/-- The stops of the relations from the `i`th on hold nothing for an address below an earlier one. -/
theorem nothing_after {under here a : Address} {i j : Nat} (hl : under.length ≤ here.length) (legs : List (Leg × Tour))
    (hj : j < i) (ha : here ++ [j] <+: a) :
    Stop.fieldsAt a (legStops under here i legs) = [] ∧ Stop.pathsAt a (legStops under here i legs) = [] := by
  apply Stop.nothing_at
  intro s hs he
  rcases under_of_mem_legStops under here i legs s hs with h | ⟨k, hk, h⟩
  · exact prefix_ne hl ha (h.symm.trans he)
  · have := prefix_index (he ▸ h) ha
    omega

/-- What lies below one leg is not loaded with what lies below another. -/
theorem nothing_beside {under here a : Address} {i j : Nat} (hl : under.length ≤ here.length) (leg : Leg) (t : Tour)
    (hij : i ≠ j) (ha : here ++ [j] <+: a) :
    Stop.fieldsAt a (t.stops (leg.cover under (here ++ [i])) (here ++ [i])) = [] ∧
      Stop.pathsAt a (t.stops (leg.cover under (here ++ [i])) (here ++ [i])) = [] := by
  apply Stop.nothing_at
  intro s hs he
  have hnot : ¬here ++ [i] <+: a := fun h => hij (prefix_index h ha)
  rcases under_of_mem_stops _ _ t s hs with h | ⟨k, hk⟩
  · rw [he, Leg.cover] at h
    by_cases hf : leg.filter.isSome
    · rw [if_pos hf] at h
      exact hnot (h ▸ List.prefix_rfl)
    · rw [if_neg hf] at h
      exact prefix_ne hl ha h.symm
  · exact hnot ((List.prefix_append _ _).trans (he ▸ hk))

/-- What lies below a filtered leg is not loaded with what was going on above. -/
theorem nothing_across {under here : Address} {i : Nat} (hl : under.length ≤ here.length) (t : Tour) :
    Stop.fieldsAt under (t.stops (here ++ [i]) (here ++ [i])) = [] ∧
      Stop.pathsAt under (t.stops (here ++ [i]) (here ++ [i])) = [] := by
  apply Stop.nothing_at
  intro s hs he
  have hnot : ¬here ++ [i] <+: under := fun h => prefix_ne hl h rfl
  rcases under_of_mem_stops _ _ t s hs with h | ⟨k, hk⟩
  · exact hnot (he ▸ h ▸ List.prefix_rfl)
  · exact hnot ((List.prefix_append _ _).trans (he ▸ hk))

mutual

/-- With the load that goes on at a level are fetched the fields and the paths that its tour gathers. -/
theorem stops_direct (under here : Address) (hl : under.length ≤ here.length) : (t : Tour) →
    Stop.fieldsAt under (t.stops under here) = t.gather.fields ∧
      Stop.pathsAt under (t.stops under here) = t.gather.populate
  | mk asked legs => by
    obtain ⟨hf, hp⟩ := legStops_direct under here hl 0 legs
    rw [stops, Stop.fieldsAt_append, Stop.pathsAt_append, hf, hp, Stop.fieldsAt, Stop.pathsAt,
      Stop.filterMap_asked, Stop.filterMap_asked]
    constructor
    · simp only [Stop.field?, if_true, gather, Plan.append, Plan.ofAsked]
    · simp only [Stop.path?, gather, Plan.append, Plan.ofAsked]
      rw [List.filterMap_eq_nil_iff.mpr fun _ _ => rfl]

/-- With the load that goes on at some legs are fetched the fields and the paths that they gather. -/
theorem legStops_direct (under here : Address) (hl : under.length ≤ here.length) (i : Nat) :
    (legs : List (Leg × Tour)) →
    Stop.fieldsAt under (legStops under here i legs) = (gatherLegs legs).fields ∧
      Stop.pathsAt under (legStops under here i legs) = (gatherLegs legs).populate
  | [] => ⟨rfl, rfl⟩
  | (leg, tour) :: rest => by
    -- A filtered relation hides all that is below it from the address above; an unfiltered one passes it on.
    obtain ⟨hf, hp⟩ := legStops_direct under here hl (i + 1) rest
    have hcons (s : Stop) (ss : List Stop) : s :: ss = [s] ++ ss := rfl
    rw [legStops, hcons, Stop.fieldsAt_append, Stop.fieldsAt_append, Stop.pathsAt_append, Stop.pathsAt_append, hf, hp]
    cases hfilter : leg.filter with
    | some f =>
      obtain ⟨hf', hp'⟩ := nothing_across (i := i) hl tour
      have hc : leg.cover under (here ++ [i]) = here ++ [i] := by simp only [Leg.cover, hfilter, Option.isSome_some, if_true]
      rw [hc, hf', hp']
      constructor <;>
        simp [Stop.fieldsAt, Stop.pathsAt, Stop.field?, Stop.path?, hfilter, gatherLegs, Plan.append, Plan.ofLeg]
    | none =>
      have hc : leg.cover under (here ++ [i]) = under := by
        simp only [Leg.cover, hfilter, Option.isSome_none, Bool.false_eq_true, if_false]
      obtain ⟨hf', hp'⟩ := stops_direct under (here ++ [i]) (by simp; omega) tour
      rw [hc, hf', hp']
      constructor <;>
        simp [Stop.fieldsAt, Stop.pathsAt, Stop.field?, Stop.path?, hfilter, gatherLegs, Plan.append, Plan.ofLeg]

end

mutual

/-- The loads of a tour's filtered relations can be read off any list that has the same stops below the tour. -/
theorem stops_loads (under here : Address) (hl : under.length ≤ here.length) (all : List Stop) : (t : Tour) →
    (∀ i a, here ++ [i] <+: a → Stop.fieldsAt a all = Stop.fieldsAt a (t.stops under here) ∧
      Stop.pathsAt a all = Stop.pathsAt a (t.stops under here)) →
    (t.stops under here).filterMap (Plan.loadAt? all) = t.gather.filtered
  | mk asked legs => by
    intro hall
    rw [stops, List.filterMap_append, Stop.filterMap_asked, legStops_loads under here hl all 0 legs]
    · simp [Plan.loadAt?, gather, Plan.append, Plan.ofAsked]
    · intro i a _ ha
      obtain ⟨hf, hp⟩ := hall i a ha
      have hnone : Stop.fieldsAt a (asked.map (.asked under)) = [] ∧ Stop.pathsAt a (asked.map (.asked under)) = [] := by
        apply Stop.nothing_at
        intro s hs
        obtain ⟨what, _, rfl⟩ := List.mem_map.mp hs
        exact prefix_ne hl ha
      rw [hf, hp, stops, Stop.fieldsAt_append, Stop.pathsAt_append, hnone.1, hnone.2]
      exact ⟨rfl, rfl⟩

/-- The loads that some legs begin are those that their tours gather, in this order. -/
theorem legStops_loads (under here : Address) (hl : under.length ≤ here.length) (all : List Stop) (i : Nat) :
    (legs : List (Leg × Tour)) →
    (∀ j a, i ≤ j → here ++ [j] <+: a → Stop.fieldsAt a all = Stop.fieldsAt a (legStops under here i legs) ∧
      Stop.pathsAt a all = Stop.pathsAt a (legStops under here i legs)) →
    (legStops under here i legs).filterMap (Plan.loadAt? all) = (gatherLegs legs).filtered
  | [] => fun _ => rfl
  | (leg, tour) :: rest => by
    intro hall
    have hhead (j : Nat) (a : Address) (ha : here ++ [j] <+: a) :
        Stop.fieldsAt a [.relation under (here ++ [i]) leg] = [] ∧
          Stop.pathsAt a [.relation under (here ++ [i]) leg] = [] := by
      apply Stop.nothing_at
      intro s hs
      rw [List.mem_singleton.mp hs]
      exact prefix_ne hl ha
    have hcons (s : Stop) (ss : List Stop) : s :: ss = [s] ++ ss := rfl
    -- The induction needs that addresses only grow on the way down.
    have hcover : (leg.cover under (here ++ [i])).length ≤ (here ++ [i]).length := by
      rw [Leg.cover]
      split <;> simp
      omega
    -- Below this relation the whole list has just the stops of its tour, below the others just theirs.
    have htour (a : Address) (ha : here ++ [i] <+: a) :
        Stop.fieldsAt a all = Stop.fieldsAt a (tour.stops (leg.cover under (here ++ [i])) (here ++ [i])) ∧
          Stop.pathsAt a all = Stop.pathsAt a (tour.stops (leg.cover under (here ++ [i])) (here ++ [i])) := by
      obtain ⟨hf, hp⟩ := hall i a (Nat.le_refl i) ha
      obtain ⟨hf', hp'⟩ := nothing_after hl rest (Nat.lt_succ_self i) ha
      rw [hf, hp, legStops, hcons, Stop.fieldsAt_append, Stop.fieldsAt_append, Stop.pathsAt_append,
        Stop.pathsAt_append, (hhead i a ha).1, (hhead i a ha).2, hf', hp', List.append_nil, List.append_nil]
      exact ⟨rfl, rfl⟩
    have hrest (j : Nat) (a : Address) (hj : i + 1 ≤ j) (ha : here ++ [j] <+: a) :
        Stop.fieldsAt a all = Stop.fieldsAt a (legStops under here (i + 1) rest) ∧
          Stop.pathsAt a all = Stop.pathsAt a (legStops under here (i + 1) rest) := by
      obtain ⟨hf, hp⟩ := hall j a (by omega) ha
      obtain ⟨hf', hp'⟩ := nothing_beside (i := i) hl leg tour (by omega) ha
      rw [hf, hp, legStops, hcons, Stop.fieldsAt_append, Stop.fieldsAt_append, Stop.pathsAt_append,
        Stop.pathsAt_append, (hhead j a ha).1, (hhead j a ha).2, hf', hp']
      exact ⟨rfl, rfl⟩
    have htours := stops_loads (leg.cover under (here ++ [i])) (here ++ [i]) hcover all tour
      fun k a ha => htour a ((List.prefix_append _ _).trans ha)
    have hrests := legStops_loads under here hl all (i + 1) rest hrest
    rw [legStops, hcons, List.filterMap_append, List.filterMap_append, htours, hrests]
    cases hfilter : leg.filter with
    | none => simp [Plan.loadAt?, hfilter, gatherLegs, Plan.append, Plan.ofLeg]
    | some f =>
      have hc : leg.cover under (here ++ [i]) = here ++ [i] := by simp only [Leg.cover, hfilter, Option.isSome_some, if_true]
      obtain ⟨hf, hp⟩ := htour (here ++ [i]) List.prefix_rfl
      obtain ⟨hf', hp'⟩ := stops_direct (here ++ [i]) (here ++ [i]) (Nat.le_refl _) tour
      rw [hc, hf'] at hf
      rw [hc, hp'] at hp
      simp [Plan.loadAt?, hfilter, hf, hp, gatherLegs, Plan.append, Plan.ofLeg, distinct_eq_eraseDups,
        Filter.nest_eq_atEnd]

end

mutual

theorem stops_annotations (under here : Address) : (t : Tour) →
    (t.stops under here).filterMap Stop.annotated? = t.gather.annotations
  | mk asked legs => by
    rw [stops, List.filterMap_append, Stop.filterMap_asked, legStops_annotations under here 0 legs]
    rfl

theorem legStops_annotations (under here : Address) (i : Nat) : (legs : List (Leg × Tour)) →
    (legStops under here i legs).filterMap Stop.annotated? = (gatherLegs legs).annotations
  | [] => rfl
  | (leg, tour) :: rest => by
    rw [legStops, List.filterMap_cons_none rfl, List.filterMap_append, stops_annotations _ _ tour,
      legStops_annotations under here (i + 1) rest]
    cases hf : leg.filter <;> simp [gatherLegs, Plan.append, Plan.ofLeg, hf]

end

/-- Reading a plan off the list of stops gives the plan of the tour. -/
theorem ofStops_stops (t : Tour) : Plan.ofStops (t.stops [] []) = t.plan := by
  obtain ⟨hf, hp⟩ := stops_direct [] [] (Nat.le_refl 0) t
  have hl := stops_loads [] [] (Nat.le_refl 0) (t.stops [] []) t fun _ _ _ => ⟨rfl, rfl⟩
  simp only [Plan.ofStops, hf, hp, hl, stops_annotations, ← distinct_eq_eraseDups]
  rfl

/-- What the fields of a view ask of an entity, as stops. -/
theorem ownStops?_eq (sources : EntityFields) (keys : List String) (under : Address) (names : List String) :
    Stop.ownStops? sources keys under names = (asked? sources (dotted keys) names).map (·.map (.asked under)) := by
  induction names with
  | nil => rfl
  | cons name rest ih =>
    rw [Stop.ownStops?, asked?, ih, EntityFields.lookup_eq_source?]
    cases hs : sources.source? name with
    | none => rfl
    | some source =>
      cases source <;> cases asked? sources (dotted keys) rest <;> simp [dotted_concat]

variable (graph : Graph) (context : Context) (overrides : Value)

mutual

/-- The stops of a view are those of its tour; both fail at the same views. -/
theorem ofView?_eq (sources : EntityFields) (keys : List String) (under here : Address) : (view : NormalView) →
    Stop.ofView? graph context overrides sources keys under here view =
      (of? graph context overrides sources (dotted keys) view).map (·.stops under here)
  | .mk fields relations => by
    rw [Stop.ofView?, of?, ownStops?_eq, ofRelations?_eq sources keys under here 0 relations]
    cases asked? sources (dotted keys) fields with
    | none => rfl
    | some asked => cases legs? graph context overrides sources (dotted keys) relations <;> simp [stops]

/-- The stops of the views below are those of the tour of their legs. -/
theorem ofRelations?_eq (sources : EntityFields) (keys : List String) (under here : Address) (i : Nat) :
    (relations : List (String × NormalView)) →
    Stop.ofRelations? graph context overrides sources keys under here i relations =
      (legs? graph context overrides sources (dotted keys) relations).map (legStops under here i)
  | [] => rfl
  | (name, view) :: rest => by
    have hskipped := ofRelations?_eq sources keys under here i rest
    have hrest := ofRelations?_eq sources keys under here (i + 1) rest
    rw [Stop.ofRelations?, legs?, EntityFields.lookup_eq_source?]
    cases hs : sources.source? name with
    | none => exact hskipped
    | some source =>
      cases source with
      | relation r =>
        have hview := fun target leg => ofView?_eq target (keys ++ [r.populate]) (Leg.cover leg under (here ++ [i]))
          (here ++ [i]) view
        simp only [hview, hrest, RelationSource.filterFor?_eq, givenAt?_eq, dotted_concat]
        cases (graph r.target).toOption with
        | none => rfl
        | some target =>
          -- The filters are had before what is below them here and after it there, which is the same if all can be had.
          simp only [Option.bind_eq_bind, Option.bind_some]
          cases of? graph context overrides target (Text.qualify (dotted keys) r.populate) view <;>
            cases (Plan.contextFilter context r).toOption <;>
            cases (Plan.override overrides (Text.qualify (dotted keys) r.populate)).toOption <;>
            cases legs? graph context overrides sources (dotted keys) rest <;> simp [legStops]
      | _ => exact hskipped

end

end Tour

namespace Plan

/-- A view compiles to a plan exactly when its plain traversal succeeds, and then the plan is read off the traversal. A
value compiles as the view that it spells. -/
theorem compile_iff_traversed (context : Context) (overrides : Value) (sources : EntityFields) (path : String)
    (plan : Plan) :
    (∀ (graph : Graph) (view : View), compile graph context overrides sources path view = .ok plan ↔
      traversed? graph context overrides sources path view.normal = some plan) ∧
    ∀ (δ : Type) (w : World δ) (spelling : Value),
      (∃ w', Gives (Execution.plan sources spelling context overrides path) w plan w') ↔
        ∃ view, View.Spelled spelling view ∧
          traversed? w.registry.graph context overrides sources path view.normal = some plan := by
  have hview (graph : Graph) (view : View) : compile graph context overrides sources path view = .ok plan ↔
      traversed? graph context overrides sources path view.normal = some plan := by
    have hstops : traversed? graph context overrides sources path view.normal =
        (Tour.of? graph context overrides sources path view.normal).map Tour.plan := by
      rw [traversed?, Tour.ofView?_eq, dotted_singleton, Option.map_map]
      congr 1
      funext t
      exact t.ofStops_stops
    rw [← Except.toOption_eq_some_iff, Tour.toOption_compile, hstops]
  refine ⟨hview, ?_⟩
  intro δ w spelling
  -- An execution reads the spelling, compiles against the registry as it is, and records that.
  simp only [Execution.plan, Gives.bind_iff, Gives.lift_iff, Gives.get_iff, Gives.set_iff, hview]
  constructor
  · rintro ⟨w', view, _, ⟨hv, rfl⟩, _, _, ⟨rfl, rfl⟩, _, _, _, h, _⟩
    exact ⟨view, View.ofValue_eq_ok_iff.mp hv, h⟩
  · rintro ⟨view, hv, h⟩
    exact ⟨_, view, w, ⟨View.ofValue_eq_ok_iff.mpr hv, rfl⟩, w, w, ⟨rfl, rfl⟩, ⟨⟩, _, rfl, h, rfl⟩

end Plan

end EntityViews
