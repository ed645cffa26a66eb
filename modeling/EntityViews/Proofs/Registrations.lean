import EntityViews.Fetch.Registry
import EntityViews.Proofs.Distinct

/-!
A registry over time: entities are registered and registered anew, and their fields are asked for by name, by references
made earlier, and through relations of fields that were built earlier. Main statement: whatever came before, whoever asks
for an entity gets what the one successful run of its last blueprint has built.
-/

namespace EntityViews

structure Reference where
  -- It holds the name alone, so that it can be made before the entity is registered.
  entity : String

namespace Registry

/-- What is asked of a registry. -/
inductive Request
  | register (entity : String) (blueprint : Blueprint)
  | get (entity : String)
  | refer (entity : String)
  | call (reference : Reference)
  /-- Asks for the fields that a relation leads to; the fields that it belongs to may have been built at any time. -/
  | nested (fields : EntityFields) (field : String)
  | has (entity : String)
  | names

/-- What happens: a blueprint is registered, a blueprint is run, or something is answered. -/
inductive Event
  | registered (entity : String) (blueprint : Blueprint)
  | ran (entity : String) (blueprint : Blueprint) (outcome : Except Fault EntityFields)
  | answered (entity : String) (outcome : Except Fault EntityFields)
  | told (entity : String) (known : Bool)
  | listed (names : List String)

def runFor (r : Registry) (entity : String) : List Event :=
  -- Fields that are there already take no further run.
  match r.slot? entity with
  | some ⟨_, blueprint, runs, none⟩ => [.ran entity blueprint (blueprint.build runs)]
  | _ => []

def ask (r : Registry) (entity : String) : Registry × List Event :=
  ((r.get entity).2, r.runFor entity ++ [.answered entity (r.get entity).1])

def meet (r : Registry) : Request → Registry × List Event
  -- A field that is no relation leads nowhere.
  | .register entity blueprint => (r.register entity blueprint, [.registered entity blueprint])
  | .get entity => r.ask entity
  | .refer _ => (r, [])
  | .call reference => r.ask reference.entity
  | .nested fields field =>
    match fields.source? field with
    | some (.relation relation) => r.ask relation.target
    | _ => (r, [])
  | .has entity => (r, [.told entity (r.has entity)])
  | .names => (r, [.listed r.names])

def meetAll (r : Registry) : List Request → Registry × List Event
  | [] => (r, [])
  | q :: rest => (((r.meet q).1.meetAll rest).1, (r.meet q).2 ++ ((r.meet q).1.meetAll rest).2)

def Request.subject? : Request → Option String
  | .register entity _ | .get entity => some entity
  | .call reference => some reference.entity
  | .nested fields field =>
    match fields.source? field with
    | some (.relation relation) => some relation.target
    | _ => none
  | .refer _ | .has _ | .names => none

def table (r : Registry) : List (String × Blueprint × Option EntityFields) :=
  -- How often was tried is left out.
  r.slots.map fun s => (s.entity, s.blueprint, s.built)

/-! What events say about an entity. -/

def registrations (events : List Event) : List String :=
  events.filterMap fun
    | .registered entity _ => some entity
    | _ => none

def outcomes (entity : String) (events : List Event) : List (Except Fault EntityFields) :=
  events.filterMap fun
    | .ran other _ outcome => if other = entity then some outcome else none
    | _ => none

def countedRuns (entity : String) (events : List Event) : Nat :=
  events.countP fun
    | .ran other blueprint _ => other = entity && blueprint.counted
    | _ => false

/-- Whether an event is right after some others. A blueprint is run only if it is the last one of its entity and all of its
runs failed before. An answer about an entity that was never registered is the complaint of the registry; any other one
is what came of the last run of the last blueprint, all runs before having failed. A failure is answered only by the
run that failed. -/
def Justified (before : List Event) : Event → Prop
  | .registered _ _ => True
  | .ran entity blueprint outcome => ∃ earlier since, before = earlier ++ .registered entity blueprint :: since ∧
      entity ∉ registrations since ∧ (∀ o ∈ outcomes entity since, o.isOk = false) ∧
      ∃ n, outcome = blueprint.build n
  | .answered entity outcome =>
    (entity ∉ registrations before ∧
      outcome = .error (.unknownEntityType entity (distinct (registrations before)))) ∨
    ∃ earlier blueprint since failures, before = earlier ++ .registered entity blueprint :: since ∧
      entity ∉ registrations since ∧ outcomes entity since = failures ++ [outcome] ∧
      (∀ o ∈ failures, o.isOk = false) ∧ (outcome.isOk = false → since.getLast? = some (.ran entity blueprint outcome))
  | .told entity known => known = true ↔ entity ∈ registrations before
  | .listed names => names = distinct (registrations before)

/-- What may happen when an entity is asked for: an answer about it, or a run for it whose outcome is the answer. -/
inductive Asked (entity : String) : List Event → Prop
  | kept (outcome : Except Fault EntityFields) : Asked entity [.answered entity outcome]
  | built (blueprint : Blueprint) (outcome : Except Fault EntityFields) :
    Asked entity [.ran entity blueprint outcome, .answered entity outcome]

/-- What may happen when a request is met. Nothing does only if a reference is made, or if a field is no relation. -/
inductive Met : Request → List Event → Prop
  | register (entity : String) (blueprint : Blueprint) : Met (.register entity blueprint) [.registered entity blueprint]
  | get {entity : String} {events : List Event} : Asked entity events → Met (.get entity) events
  | refer (entity : String) : Met (.refer entity) []
  | call {reference : Reference} {events : List Event} : Asked reference.entity events → Met (.call reference) events
  | nested {fields : EntityFields} {field : String} {relation : RelationSource} {events : List Event} :
    fields.source? field = some (.relation relation) → Asked relation.target events → Met (.nested fields field) events
  | leaf {fields : EntityFields} {field : String} :
    (∀ relation, fields.source? field ≠ some (.relation relation)) → Met (.nested fields field) []
  | has (entity : String) (known : Bool) : Met (.has entity) [.told entity known]
  | names (listed : List String) : Met .names [.listed listed]

section Events

variable {entity : String} {xs ys : List Event}

@[simp] theorem registrations_append : registrations (xs ++ ys) = registrations xs ++ registrations ys :=
  List.filterMap_append

@[simp] theorem outcomes_append : outcomes entity (xs ++ ys) = outcomes entity xs ++ outcomes entity ys :=
  List.filterMap_append

@[simp] theorem countedRuns_append :
    countedRuns entity (xs ++ ys) = countedRuns entity xs + countedRuns entity ys :=
  List.countP_append

end Events

/-! Slots. -/

/-- An entity finds the slot that was put for it, any other what it found before. -/
theorem find?_putSlot (slots : List Slot) (slot : Slot) (entity : String) :
    (putSlot slot slots).find? (·.entity == entity) =
      if slot.entity = entity then some slot else slots.find? (·.entity == entity) := by
  induction slots with
  | nil =>
    rw [putSlot, List.find?_cons, List.find?_nil]
    by_cases h : slot.entity = entity
    · simp [h]
    · rw [if_neg h, beq_false_of_ne h]
  | cons first rest ih =>
    rw [putSlot]
    by_cases hs : first.entity = slot.entity
    · rw [if_pos hs, List.find?_cons, List.find?_cons, hs]
      by_cases h : slot.entity = entity
      · simp [h]
      · rw [if_neg h, beq_false_of_ne h]
    · rw [if_neg hs, List.find?_cons, List.find?_cons, ih]
      by_cases hf : first.entity = entity
      · have hslot : slot.entity ≠ entity := fun he => hs (hf.trans he.symm)
        simp [hf, hslot]
      · rw [beq_false_of_ne hf]

/-- A new slot takes the place of the old one or comes last. -/
theorem names_putSlot (slots : List Slot) (slot : Slot) :
    (putSlot slot slots).map (·.entity) =
      if slot.entity ∈ slots.map (·.entity) then slots.map (·.entity) else slots.map (·.entity) ++ [slot.entity] := by
  induction slots with
  | nil => rfl
  | cons first rest ih =>
    rw [putSlot]
    by_cases hs : first.entity = slot.entity
    · simp [hs]
    · simp only [if_neg hs, List.map_cons, ih, List.mem_cons, Ne.symm hs, false_or]
      split
      · rfl
      · rfl

theorem entity_of_slot? {r : Registry} {entity : String} {slot : Slot} (h : r.slot? entity = some slot) :
    slot.entity = entity := by
  simpa using List.find?_some h

theorem mem_names_iff {r : Registry} {entity : String} : entity ∈ r.names ↔ (r.slot? entity).isSome = true := by
  simp [names, slot?, List.find?_isSome]

theorem slot?_register (r : Registry) (entity other : String) (blueprint : Blueprint) :
    (r.register entity blueprint).slot? other =
      if entity = other then some ⟨entity, blueprint, ((r.slot? entity).map (·.runs)).getD 0, none⟩
      else r.slot? other := by
  rw [slot?, register, find?_putSlot]
  cases r.slot? entity with
  | none => rfl
  | some slot => rfl

/-- Asking for an entity that is not registered, whose fields are there, or whose blueprint has to be run. -/
theorem get_cases (r : Registry) (entity : String) :
    (r.slot? entity = none ∧ r.runFor entity = [] ∧
      r.get entity = (.error (.unknownEntityType entity r.names), r)) ∨
    (∃ blueprint runs fields, r.slot? entity = some ⟨entity, blueprint, runs, some fields⟩ ∧ r.runFor entity = [] ∧
      r.get entity = (.ok fields, r)) ∨
    ∃ blueprint runs, r.slot? entity = some ⟨entity, blueprint, runs, none⟩ ∧
      r.runFor entity = [.ran entity blueprint (blueprint.build runs)] ∧
      r.get entity = (blueprint.build runs, ⟨putSlot ⟨entity, blueprint, if blueprint.counted then runs + 1 else runs,
        (blueprint.build runs).toOption⟩ r.slots, learn r.behaviours blueprint.annotators⟩) := by
  rw [runFor, get]
  cases hslot : r.slot? entity with
  | none => exact Or.inl ⟨rfl, rfl, rfl⟩
  | some slot =>
    obtain ⟨name, blueprint, runs, built⟩ := slot
    obtain rfl : name = entity := entity_of_slot? hslot
    cases built with
    | some fields => exact Or.inr (Or.inl ⟨blueprint, runs, fields, rfl, rfl, rfl⟩)
    | none => exact Or.inr (Or.inr ⟨blueprint, runs, rfl, rfl, rfl⟩)

/-! Every request is met: what happens in a run falls into one part for each request. -/

theorem asked_ask (r : Registry) (entity : String) : Asked entity (r.ask entity).2 := by
  rw [ask]
  rcases r.get_cases entity with ⟨_, hrun, _⟩ | ⟨_, _, _, _, hrun, _⟩ | ⟨blueprint, runs, _, hrun, hget⟩
  · rw [hrun]
    exact .kept _
  · rw [hrun]
    exact .kept _
  · rw [hrun, hget]
    exact .built blueprint _

theorem met_meet (r : Registry) (q : Request) : Met q (r.meet q).2 := by
  cases q with
  | register entity blueprint => exact .register entity blueprint
  | get entity => exact .get (r.asked_ask entity)
  | refer entity => exact .refer entity
  | call reference => exact .call (r.asked_ask reference.entity)
  | nested fields field =>
    rw [meet]
    split
    · rename_i relation hsource
      exact .nested hsource (r.asked_ask relation.target)
    · rename_i hleaf
      exact .leaf hleaf
  | has entity => exact .has entity _
  | names => exact .names _

theorem met_meetAll (r : Registry) (requests : List Request) :
    ∃ parts, List.Forall₂ Met requests parts ∧ (r.meetAll requests).2 = parts.flatten := by
  induction requests generalizing r with
  | nil => exact ⟨[], .nil, rfl⟩
  | cons q rest ih =>
    obtain ⟨parts, hparts, hevents⟩ := ih (r.meet q).1
    exact ⟨(r.meet q).2 :: parts, .cons (r.met_meet q) hparts, by rw [meetAll, hevents, List.flatten_cons]⟩

/-! What a registry holds is what the events say. -/

/-- What is held for an entity after some events. -/
inductive Holds (past : List Event) (entity : String) : Option Slot → Prop
  | nothing : entity ∉ registrations past → countedRuns entity past = 0 → Holds past entity none
  | waiting {earlier since : List Event} {blueprint : Blueprint} :
    past = earlier ++ .registered entity blueprint :: since → entity ∉ registrations since →
    (∀ o ∈ outcomes entity since, o.isOk = false) →
    Holds past entity (some ⟨entity, blueprint, countedRuns entity past, none⟩)
  | built {earlier since : List Event} {blueprint : Blueprint} {failures : List (Except Fault EntityFields)}
    {fields : EntityFields} :
    past = earlier ++ .registered entity blueprint :: since → entity ∉ registrations since →
    outcomes entity since = failures ++ [.ok fields] → (∀ o ∈ failures, o.isOk = false) →
    Holds past entity (some ⟨entity, blueprint, countedRuns entity past, some fields⟩)

theorem Holds.of_waiting {past : List Event} {entity : String} {blueprint : Blueprint} {runs : Nat}
    (h : Holds past entity (some ⟨entity, blueprint, runs, none⟩)) :
    runs = countedRuns entity past ∧ ∃ earlier since, past = earlier ++ .registered entity blueprint :: since ∧
      entity ∉ registrations since ∧ ∀ o ∈ outcomes entity since, o.isOk = false := by
  cases h with
  | waiting heq hsince hfail => exact ⟨rfl, _, _, heq, hsince, hfail⟩

/-- What is held for an entity stays when nothing happens about it. -/
theorem Holds.aside {past new : List Event} {entity : String} {slot : Option Slot} (h : Holds past entity slot)
    (hnone : entity ∉ registrations new) (hruns : outcomes entity new = []) (hcount : countedRuns entity new = 0) :
    Holds (past ++ new) entity slot := by
  have hpast : countedRuns entity (past ++ new) = countedRuns entity past := by rw [countedRuns_append, hcount]; rfl
  have hstill : ∀ {events}, entity ∉ registrations events → entity ∉ registrations (events ++ new) := by
    intro events hne
    rw [registrations_append, List.mem_append]
    exact fun h => h.elim hne hnone
  have hnext : ∀ {earlier since : List Event} {event : Event}, past = earlier ++ event :: since →
      past ++ new = earlier ++ event :: (since ++ new) := by
    rintro earlier since event rfl
    rw [List.append_assoc, List.cons_append]
  cases h with
  | nothing hne hzero => exact .nothing (hstill hne) (hpast.trans hzero)
  | waiting heq hsince hfail =>
    rw [← hpast]
    refine .waiting (hnext heq) (hstill hsince) ?_
    rwa [outcomes_append, hruns, List.append_nil]
  | built heq hsince hrun hfail =>
    rw [← hpast]
    refine .built (hnext heq) (hstill hsince) ?_ hfail
    rw [outcomes_append, hruns, List.append_nil, hrun]

def AllJustified (events : List Event) : Prop :=
  ∀ before event after, events = before ++ event :: after → Justified before event

/-- One more justified event leaves a trace justified. -/
theorem AllJustified.concat {past : List Event} {event : Event} (h : AllJustified past) (hnew : Justified past event) :
    AllJustified (past ++ [event]) := by
  intro before e after heq
  rcases List.eq_nil_or_concat after with rfl | ⟨after, last, rfl⟩
  · obtain ⟨rfl, he⟩ := List.append_inj' heq rfl
    cases he
    exact hnew
  · rw [List.concat_eq_append, ← List.cons_append, ← List.append_assoc] at heq
    obtain ⟨rfl, _⟩ := List.append_inj' heq rfl
    exact h before e after rfl

/-- Whether a registry is what some events have made of it, each of them being right after those before. -/
structure Reflects (past : List Event) (r : Registry) : Prop where
  names : r.names = distinct (registrations past)
  slots : ∀ entity, Holds past entity (r.slot? entity)
  justified : AllJustified past

namespace Reflects

variable {past : List Event} {r : Registry}

theorem start : Reflects [] empty where
  names := rfl
  slots := fun _ => .nothing List.not_mem_nil rfl
  justified := by
    intro before event after h
    cases before <;> cases h

/-- What says nothing about registrations and runs changes nothing. -/
theorem concat (h : Reflects past r) {event : Event} (hnames : registrations [event] = [])
    (houtcomes : ∀ entity, outcomes entity [event] = []) (hcount : ∀ entity, countedRuns entity [event] = 0)
    (hnew : Justified past event) : Reflects (past ++ [event]) r where
  names := by rw [registrations_append, hnames, List.append_nil, h.names]
  slots := fun entity => (h.slots entity).aside (by rw [hnames]; exact List.not_mem_nil) (houtcomes entity) (hcount entity)
  justified := h.justified.concat hnew

theorem register (h : Reflects past r) (entity : String) (blueprint : Blueprint) :
    Reflects (past ++ [.registered entity blueprint]) (r.register entity blueprint) where
  names := by
    have hslots : (r.register entity blueprint).names = if entity ∈ r.names then r.names else r.names ++ [entity] :=
      names_putSlot _ _
    rw [hslots, registrations_append, show registrations [.registered entity blueprint] = [entity] from rfl,
      distinct_concat, h.names]
    simp only [mem_distinct]
  slots := by
    intro other
    rw [slot?_register]
    by_cases hother : entity = other
    · subst hother
      rw [if_pos rfl]
      have hruns : ((r.slot? entity).map (·.runs)).getD 0 = countedRuns entity (past ++ [.registered entity blueprint]) := by
        rw [countedRuns_append]
        generalize r.slot? entity = slot, h.slots entity = hslot
        cases hslot with
        | nothing _ hzero => exact hzero.symm
        | waiting => rfl
        | built => rfl
      rw [hruns]
      -- Runs of earlier blueprints are counted, but what came of them is of no account for the new one.
      exact .waiting rfl List.not_mem_nil fun _ ho => absurd ho List.not_mem_nil
    · rw [if_neg hother]
      refine (h.slots other).aside ?_ rfl rfl
      rintro (_ | ⟨_, ⟨⟩⟩)
      exact hother rfl
  justified := h.justified.concat trivial

/-- A run of a blueprint that has not succeeded yet, and the answer that it was made for. -/
theorem ran (h : Reflects past r) {entity : String} {blueprint : Blueprint} {runs : Nat}
    (hslot : r.slot? entity = some ⟨entity, blueprint, runs, none⟩) (behaviours : List (String × Behaviour)) :
    Reflects (past ++ [.ran entity blueprint (blueprint.build runs), .answered entity (blueprint.build runs)])
      ⟨putSlot ⟨entity, blueprint, if blueprint.counted then runs + 1 else runs, (blueprint.build runs).toOption⟩ r.slots,
        behaviours⟩ := by
  obtain ⟨hcount, earlier, since, heq, hsince, hfail⟩ := Holds.of_waiting (hslot ▸ h.slots entity)
  generalize houtcome : blueprint.build runs = outcome
  have hmem : entity ∈ r.names := by
    rw [mem_names_iff, hslot]
    rfl
  have hnext : past ++ [.ran entity blueprint outcome, .answered entity outcome] =
      earlier ++ .registered entity blueprint :: (since ++ [.ran entity blueprint outcome, .answered entity outcome]) := by
    rw [heq, List.append_assoc, List.cons_append]
  have hruns : outcomes entity (since ++ [.ran entity blueprint outcome, .answered entity outcome]) =
      outcomes entity since ++ [outcome] := by
    rw [outcomes_append]
    simp [outcomes]
  have hstill : entity ∉ registrations (since ++ [.ran entity blueprint outcome, .answered entity outcome]) := by
    rw [registrations_append]
    simpa [registrations] using hsince
  have hcounted : countedRuns entity (past ++ [.ran entity blueprint outcome, .answered entity outcome]) =
      if blueprint.counted then runs + 1 else runs := by
    rw [countedRuns_append, ← hcount]
    cases hc : blueprint.counted <;> simp [countedRuns, hc]
  constructor
  · rw [registrations_append]
    exact ((names_putSlot _ _).trans (if_pos hmem)).trans (h.names.trans (congrArg distinct (List.append_nil _).symm))
  · intro other
    rw [slot?, find?_putSlot]
    -- The slot is built if the run succeeded, else it waits as before, with one more failure since it was registered.
    by_cases hother : entity = other
    · subst hother
      rw [if_pos rfl, ← hcounted]
      cases outcome with
      | error fault =>
        refine .waiting hnext hstill ?_
        rw [hruns]
        intro o ho
        rcases List.mem_append.mp ho with ho | ho
        · exact hfail o ho
        · rw [List.mem_singleton.mp ho]
          rfl
      | ok fields => exact .built hnext hstill hruns hfail
    · rw [if_neg hother]
      refine (h.slots other).aside ?_ ?_ ?_
      · simp [registrations]
      · simp [outcomes, hother]
      · simp [countedRuns, hother]
  · have hran : AllJustified (past ++ [.ran entity blueprint outcome]) :=
      h.justified.concat ⟨earlier, since, heq, hsince, hfail, runs, houtcome.symm⟩
    have hanswer : Justified (past ++ [.ran entity blueprint outcome]) (.answered entity outcome) := by
      refine Or.inr ⟨earlier, blueprint, since ++ [.ran entity blueprint outcome], outcomes entity since, ?_, ?_, ?_,
        hfail, fun _ => List.getLast?_concat⟩
      · rw [heq, List.append_assoc, List.cons_append]
      · rw [registrations_append]
        simpa [registrations] using hsince
      · rw [outcomes_append]
        simp [outcomes]
    have hboth := hran.concat hanswer
    rwa [List.append_assoc] at hboth

theorem ask (h : Reflects past r) (entity : String) : Reflects (past ++ (r.ask entity).2) (r.ask entity).1 := by
  have hheld := h.slots entity
  rw [Registry.ask]
  rcases r.get_cases entity with ⟨hslot, hrun, hget⟩ | ⟨_, _, fields, hslot, hrun, hget⟩ | ⟨_, _, hslot, hrun, hget⟩
  · -- The entity was never registered, and the registry complains.
    rw [hslot] at hheld
    rw [hrun, hget]
    cases hheld with
    | nothing hne _ => exact h.concat rfl (fun _ => rfl) (fun _ => rfl) (Or.inl ⟨hne, by rw [h.names]⟩)
  · -- The fields are there since the last run.
    rw [hslot] at hheld
    rw [hrun, hget]
    cases hheld with
    | built heq hsince houtcomes hfail =>
      exact h.concat rfl (fun _ => rfl) (fun _ => rfl) (Or.inr ⟨_, _, _, _, heq, hsince, houtcomes, hfail,
        fun hfalse => absurd hfalse.symm Bool.false_ne_true⟩)
  · -- The blueprint is run, and what comes of it is answered.
    rw [hrun, hget]
    exact h.ran hslot _

theorem meet (h : Reflects past r) (q : Request) : Reflects (past ++ (r.meet q).2) (r.meet q).1 := by
  have hidle : Reflects (past ++ []) r := by rwa [List.append_nil]
  cases q with
  | register entity blueprint => exact h.register entity blueprint
  | get entity => exact h.ask entity
  | refer entity => exact hidle
  | call reference => exact h.ask reference.entity
  | nested fields field =>
    rw [Registry.meet]
    split
    · exact h.ask _
    · exact hidle
  | has entity =>
    refine h.concat rfl (fun _ => rfl) (fun _ => rfl) ?_
    change r.has entity = true ↔ _
    rw [has, ← mem_names_iff, h.names, mem_distinct]
  | names => exact h.concat rfl (fun _ => rfl) (fun _ => rfl) h.names

theorem meetAll (h : Reflects past r) (requests : List Request) :
    Reflects (past ++ (r.meetAll requests).2) (r.meetAll requests).1 := by
  induction requests generalizing past r with
  | nil =>
    change Reflects (past ++ []) r
    rwa [List.append_nil]
  | cons q rest ih =>
    rw [Registry.meetAll, ← List.append_assoc]
    exact ih (h.meet q)

end Reflects

/-! Requests leave alone what they are not about, and runs that fail leave everything alone. -/

/-- A slot that holds the same leaves what all slots hold. -/
theorem map_putSlot {α : Type} {held : Slot → α} {slots : List Slot} {slot new : Slot}
    (h : slots.find? (·.entity == new.entity) = some slot) (hheld : held new = held slot) :
    (putSlot new slots).map held = slots.map held := by
  induction slots with
  | nil => cases h
  | cons first rest ih =>
    rw [putSlot]
    by_cases hfirst : first.entity = new.entity
    · rw [List.find?_cons_of_pos (by simpa using hfirst)] at h
      cases h
      rw [if_pos hfirst, List.map_cons, List.map_cons, hheld]
    · rw [List.find?_cons_of_neg (by simpa using hfirst)] at h
      rw [if_neg hfirst, List.map_cons, List.map_cons, ih h]

/-- A look-up that fails leaves the table as it was. -/
theorem table_of_failed {r : Registry} {entity : String} (h : (r.get entity).1.isOk = false) :
    (r.get entity).2.table = r.table := by
  rcases r.get_cases entity with ⟨_, _, hget⟩ | ⟨_, _, _, _, _, hget⟩ | ⟨blueprint, runs, hslot, _, hget⟩
  · rw [hget]
  · rw [hget]
  · rw [hget] at h ⊢
    cases houtcome : blueprint.build runs with
    | ok fields =>
      rw [houtcome] at h
      cases h
    | error fault => exact map_putSlot hslot rfl

/-- A request for another entity leaves the slot alone. -/
theorem slot?_meet {r : Registry} {q : Request} {entity : String} (h : q.subject? ≠ some entity) :
    (r.meet q).1.slot? entity = r.slot? entity := by
  -- To ask for an entity can fill its own slot only.
  have hask : ∀ other, other ≠ entity → (r.ask other).1.slot? entity = r.slot? entity := by
    intro other hother
    rw [ask]
    rcases r.get_cases other with ⟨_, _, hget⟩ | ⟨_, _, _, _, _, hget⟩ | ⟨_, _, _, _, hget⟩
    · rw [hget]
    · rw [hget]
    · rw [hget, slot?, find?_putSlot]
      exact if_neg hother
  cases q with
  | register other blueprint =>
    rw [Request.subject?, Ne, Option.some.injEq] at h
    exact (slot?_register r other entity blueprint).trans (if_neg h)
  | get other =>
    rw [Request.subject?, Ne, Option.some.injEq] at h
    exact hask other h
  | call reference =>
    rw [Request.subject?, Ne, Option.some.injEq] at h
    exact hask _ h
  | nested fields field =>
    rw [Request.subject?] at h
    rw [meet]
    split
    · rename_i relation hsource
      rw [hsource, Ne, Option.some.injEq] at h
      exact hask _ h
    · rfl
  | refer | has | names => rfl

/-- Every outcome of a blueprint belongs to a run of it. -/
theorem mem_of_mem_outcomes {entity : String} {outcome : Except Fault EntityFields} {events : List Event}
    (h : outcome ∈ outcomes entity events) : ∃ blueprint, .ran entity blueprint outcome ∈ events := by
  obtain ⟨event, hevent, he⟩ := List.mem_filterMap.mp h
  split at he
  · split at he
    · rename_i hentity
      cases he
      exact ⟨_, hentity ▸ hevent⟩
    · cases he
  · cases he

/-- The registry complains exactly about entities that were never registered, if no blueprint does so by itself. -/
theorem AllJustified.unknown_iff {events before after : List Event} {entity : String} {outcome : Except Fault EntityFields}
    (h : AllJustified events) (heq : events = before ++ .answered entity outcome :: after)
    (hown : ∀ blueprint, .registered entity blueprint ∈ events → ∀ n known,
      blueprint.build n ≠ .error (.unknownEntityType entity known)) :
    (∃ known, outcome = .error (.unknownEntityType entity known)) ↔ entity ∉ registrations before := by
  rcases h _ _ _ heq with ⟨hne, rfl⟩ | ⟨earlier, blueprint, since, failures, rfl, hsince, houtcomes, _, _⟩
  · exact ⟨fun _ => hne, fun _ => ⟨_, rfl⟩⟩
  · constructor
    · rintro ⟨known, rfl⟩
      -- The answer came of a run, and what is run was registered.
      have hmem : .error (.unknownEntityType entity known) ∈ outcomes entity since :=
        houtcomes ▸ List.mem_append_right _ List.mem_cons_self
      obtain ⟨ran, hran⟩ := mem_of_mem_outcomes hmem
      obtain ⟨first, rest, rfl⟩ := List.append_of_mem hran
      have hsplit : events = (earlier ++ .registered entity blueprint :: first) ++
          .ran entity ran (.error (.unknownEntityType entity known)) ::
            (rest ++ .answered entity (.error (.unknownEntityType entity known)) :: after) := by
        rw [heq]
        simp only [List.append_assoc, List.cons_append]
      obtain ⟨earlier', since', hbefore, _, _, n, hbuild⟩ := h _ _ _ hsplit
      refine absurd hbuild.symm (hown ran ?_ n known)
      rw [hsplit, hbefore]
      exact List.mem_append_left _ (List.mem_append_right _ List.mem_cons_self)
    · intro hne
      refine absurd ?_ hne
      rw [registrations_append]
      exact List.mem_append_right _ List.mem_cons_self

/-- A look-up of an entity depends on its slot alone. -/
theorem get_of_slot? {r r' : Registry} {entity : String} (h : r'.slot? entity = r.slot? entity)
    (hhas : r.has entity = true) : (r'.get entity).1 = (r.get entity).1 := by
  rw [get, get, h]
  cases hslot : r.slot? entity with
  | none =>
    rw [has, hslot] at hhas
    cases hhas
  | some slot =>
    dsimp only
    cases slot.built with
    | none => rfl
    | some fields => rfl

/-- What it means that a registry has met requests rightly, by what happened and what it holds now. -/
structure Faithful (requests : List Request) (events : List Event) (r : Registry) : Prop where
  /-- Every request has a part of what happened to itself, in the order of the requests: whoever asks is answered, and
  nothing happens that was not asked for. -/
  met : ∃ parts, List.Forall₂ Met requests parts ∧ events = parts.flatten
  /-- The entities that the registry knows are those that were registered, in the order in which they first were. -/
  known : r.names = distinct (registrations events)
  /-- Whoever asks for an entity, by its name, by a reference or through a relation, gets what its last blueprint has
  built. Of the runs since the blueprint was registered at most one succeeded, and it is the last one. -/
  justified : AllJustified events
  /-- The registry complains about an entity exactly if it was never registered. -/
  unknown : ∀ before entity outcome after, events = before ++ .answered entity outcome :: after →
    (∀ blueprint, .registered entity blueprint ∈ events → ∀ n known,
      blueprint.build n ≠ .error (.unknownEntityType entity known)) →
    ((∃ known, outcome = .error (.unknownEntityType entity known)) ↔ entity ∉ registrations before)
  /-- A run that fails changes nothing that is held. -/
  failed : ∀ entity, (r.get entity).1.isOk = false → (r.get entity).2.table = r.table
  /-- Requests about one entity change no answer about another. -/
  apart : ∀ q entity, Request.subject? q ≠ some entity → (r.meet q).1.has entity = r.has entity ∧
    (r.has entity = true → ((r.meet q).1.get entity).1 = (r.get entity).1)
  /-- Fields that are held on to lead to an entity as it was registered last. -/
  renewed : ∀ (fields : EntityFields) field relation blueprint, fields.source? field = some (.relation relation) →
    ∃ n, ((r.register relation.target blueprint).meet (.nested fields field)).2 =
      [.ran relation.target blueprint (blueprint.build n), .answered relation.target (blueprint.build n)]
  /-- The runs that are counted are those that were made. -/
  counted : ∀ entity slot, r.slot? entity = some slot → slot.runs = countedRuns entity events

/-- Whatever is asked of a registry, in whatever order, it is met rightly. -/
theorem meetAll_faithful (requests : List Request) :
    Faithful requests (empty.meetAll requests).2 (empty.meetAll requests).1 := by
  have hall : Reflects (empty.meetAll requests).2 (empty.meetAll requests).1 := Reflects.start.meetAll requests
  have hmet := empty.met_meetAll requests
  generalize (empty.meetAll requests).1 = r at hall ⊢
  generalize (empty.meetAll requests).2 = events at hall hmet ⊢
  -- What happened is judged by the invariant of the trace; the rest is about one request more.
  constructor
  · exact hmet
  · exact hall.names
  · exact hall.justified
  · exact fun _ _ _ _ heq hown => hall.justified.unknown_iff heq hown
  · exact fun _ => table_of_failed
  · intro q entity hq
    have hslot := slot?_meet (r := r) hq
    exact ⟨by rw [has, has, hslot], get_of_slot? hslot⟩
  · intro fields field relation blueprint hsource
    have hslot := slot?_register r relation.target relation.target blueprint
    rw [if_pos rfl] at hslot
    rw [meet, hsource]
    dsimp only
    rcases get_cases (r.register relation.target blueprint) relation.target with
      ⟨hnone, _, _⟩ | ⟨_, _, _, hbuilt, _, _⟩ | ⟨_, runs, hopen, hrun, hget⟩
    · cases hslot.symm.trans hnone
    · cases hslot.symm.trans hbuilt
    · cases hslot.symm.trans hopen
      rw [ask, hrun, hget]
      exact ⟨_, rfl⟩
  · intro entity slot hslot
    have hheld := hall.slots entity
    rw [hslot] at hheld
    cases hheld with
    | waiting => rfl
    | built => rfl

end Registry

end EntityViews
