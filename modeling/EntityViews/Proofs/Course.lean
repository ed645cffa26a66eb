import EntityViews.Proofs.Walks
import EntityViews.Fetch.Execution

/-!
The course of an execution: the calls to the repository and to annotators that it makes, in turn, whatever these do and
wherever they fail. Main statement: the calls are those of the plan in its order, up to the first failure, and the execution
ends with what its last turn came to.
-/

namespace EntityViews

open Execution

inductive Step
  | find
  | populate (f : FilteredPopulate)
  | annotate (a : Annotation)

def Plan.steps (p : Plan) : List Step := .find :: (p.filtered.map .populate ++ p.annotations.map .annotate)

inductive Call
  | find (filter : Value) (fields populate : List String) (paging : Paging)
  | populate (records : List Node) (paths : List String) (filter : Value) (fields : List String)
  | annotate (annotator : Annotator) (targets : List Node) (context : Context)

structure Setting (δ : Type) where
  source : RecordSource δ
  annotate : Annotator → List Node → Context → Run δ Unit
  filter : Value
  sources : EntityFields
  context : Context
  paging : Paging

variable {δ : Type}

def giving {α β : Type} (b : β) : Except Fault α × World δ → Except Fault β × World δ
  | (.error e, w) => (.error e, w)
  | (.ok _, w) => (.ok b, w)

namespace Setting

variable (x : Setting δ)

def execute (overrides view : Value) : Run δ (List Node) :=
  executeWith x.annotate x.source x.filter overrides view x.sources x.context x.paging

def run (p : Plan) : Run δ (List Node) :=
  runWith x.annotate x.source p x.filter x.sources x.context x.paging

def make : Call → Run δ (List Node)
  | .find filter fields populate paging =>
    x.source.find filter fields populate paging.orderBy paging.limit paging.offset
  | .populate records paths filter fields => do
    x.source.populate records paths filter fields
    return []
  | .annotate annotator targets context => do
    x.annotate annotator targets context
    return []

/-- The call for a step once some root records are found. An annotator gets what the path leads to at that moment. -/
def call (p : Plan) (found : List Node) (w : World δ) : Step → Except Fault Call
  | .find => .ok (.find x.filter p.fields p.populate x.paging)
  | .populate f => .ok (.populate found f.populate f.filter f.fields)
  | .annotate a => do
    let targets ← w.store.resolve w.registry.graph x.sources a.path found
    return .annotate a.annotator targets x.context

def enter (found : List Node) (w : World δ) : Step → World δ
  -- A walk along a path builds the fields of the entities on it, and changes nothing else.
  | .annotate a =>
    { w with registry := w.registry.visit (w.store.resolveVisits w.registry.graph x.sources a.path found) }
  | .find | .populate _ => w

def turn (p : Plan) (found : List Node) (s : Step) (w : World δ) : Except Fault (List Node) × World δ :=
  match x.call p found w s with
  | .error e => (.error e, x.enter found w s)
  | .ok c => (x.make c).run.run (x.enter found w s)

def turns (p : Plan) (found : List Node) : List Step → World δ → Except Fault Unit × World δ
  | [], w => (.ok (), w)
  | s :: rest, w =>
    match x.turn p found s w with
    | (.error e, m) => (.error e, m)
    | (.ok _, m) => turns p found rest m

/-- Steps are taken one after the other up to the first that fails. -/
theorem turns_append (p : Plan) (found : List Node) (before after : List Step) (w : World δ) :
    x.turns p found (before ++ after) w = match x.turns p found before w with
      | (.error e, m) => (.error e, m)
      | (.ok _, m) => x.turns p found after m := by
  induction before generalizing w with
  | nil => rfl
  | cons s rest ih =>
    rw [List.cons_append, turns, turns]
    cases hturn : x.turn p found s w with
    | mk outcome m =>
      cases outcome with
      | error e => rfl
      | ok records => exact ih m

/-- A loop whose body takes a step for each item takes these steps. -/
theorem forM_run {α : Type} (p : Plan) (found : List Node) (toStep : α → Step) (body : α → Run δ Unit)
    (hbody : ∀ a w, (body a).run.run w = giving () (x.turn p found (toStep a) w)) (items : List α) (w : World δ) :
    (items.forM body).run.run w = x.turns p found (items.map toStep) w := by
  induction items generalizing w with
  | nil => rfl
  | cons a rest ih =>
    rw [List.forM, Gives.run_bind, hbody, List.map_cons, turns]
    cases hturn : x.turn p found (toStep a) w with
    | mk outcome m =>
      cases outcome with
      | error e => rfl
      | ok records => exact ih m

theorem turn_populate (p : Plan) (found : List Node) (f : FilteredPopulate) (w : World δ) :
    (x.source.populate found f.populate f.filter f.fields).run.run w =
      giving () (x.turn p found (.populate f) w) := by
  have hturn : x.turn p found (.populate f) w =
      (x.source.populate found f.populate f.filter f.fields >>= fun _ => return []).run.run w := rfl
  rw [hturn, Gives.run_bind]
  cases hrun : (x.source.populate found f.populate f.filter f.fields).run.run w with
  | mk outcome m => cases outcome <;> rfl

/-- The turn of an annotator is the walk along its path and then its call. -/
theorem turn_annotate (p : Plan) (found : List Node) (a : Annotation) (w : World δ) :
    (recordsAt x.sources a.path found >>= fun targets => x.annotate a.annotator targets x.context).run.run w =
      giving () (x.turn p found (.annotate a) w) := by
  -- The walk reads the records only, but the fields that it looks at are built by then, also if it fails.
  have hwalk : (recordsAt x.sources a.path found : Run δ (List Node)).run.run w =
      (w.store.resolve w.registry.graph x.sources a.path found, x.enter found w (.annotate a)) := rfl
  rw [Gives.run_bind, hwalk]
  cases hfound : w.store.resolve w.registry.graph x.sources a.path found with
  | error e =>
    rw [turn, call, hfound]
    rfl
  | ok targets =>
    have hturn : x.turn p found (.annotate a) w =
        (x.annotate a.annotator targets x.context >>= fun _ => return []).run.run (x.enter found w (.annotate a)) := by
      rw [turn, call, hfound]
      rfl
    rw [hturn, Gives.run_bind]
    dsimp only
    cases hrun : (x.annotate a.annotator targets x.context).run.run (x.enter found w (.annotate a)) with
    | mk outcome m => cases outcome <;> rfl

/-- A run of a plan looks the root records up and then takes the other steps with them. -/
theorem run_eq (p : Plan) (w : World δ) :
    (x.run p).run.run w = match x.turn p [] .find w with
      | (.error e, m) => (.error e, m)
      | (.ok found, m) => giving found (x.turns p found (p.filtered.map .populate ++ p.annotations.map .annotate) m) := by
  have hfind : x.turn p [] .find w = (x.source.find x.filter p.fields p.populate x.paging.orderBy x.paging.limit
      x.paging.offset).run.run w := rfl
  rw [run, runWith, Gives.run_bind, hfind]
  -- Where a step fails both sides stop with its fault; else they go on from the same state.
  cases hrun : (x.source.find x.filter p.fields p.populate x.paging.orderBy x.paging.limit
      x.paging.offset).run.run w with
  | mk outcome m =>
    cases outcome with
    | error e => rfl
    | ok found =>
      have hpopulates := x.forM_run p found Step.populate _ (fun f w => x.turn_populate p found f w) p.filtered m
      dsimp only
      rw [turns_append, Gives.run_bind, hpopulates]
      cases hturns : x.turns p found (p.filtered.map .populate) m with
      | mk outcome m' =>
        cases outcome with
        | error e => rfl
        | ok u =>
          have hannotates := x.forM_run p found Step.annotate _ (fun a w => x.turn_annotate p found a w) p.annotations m'
          dsimp only
          rw [Gives.run_bind, hannotates]
          cases x.turns p found (p.annotations.map .annotate) m' with
          | mk outcome m'' => cases outcome <;> rfl

end Setting

/-- A call that was made: for which step, from which state on, and what it came to. -/
structure Turn (δ : Type) where
  step : Step
  start : World δ
  call : Call
  outcome : Except Fault (List Node)
  finish : World δ

namespace Turn

def Taken (x : Setting δ) (p : Plan) (found : List Node) (t : Turn δ) : Prop :=
  x.call p found t.start t.step = .ok t.call ∧
    (x.make t.call).run.run (x.enter found t.start t.step) = (t.outcome, t.finish)

def Succeeds (t : Turn δ) : Prop := ∃ records, t.outcome = .ok records

def Consecutive : World δ → List (Turn δ) → World δ → Prop
  | w, [], last => last = w
  | w, t :: rest, last => t.start = w ∧ Consecutive t.finish rest last

def found : List (Turn δ) → List Node
  | ⟨_, _, _, .ok records, _⟩ :: _ => records
  | _ => []

/-- How calls for some steps end: all steps are done; or the last call fails; or there is no call for the next step, since
its path cannot be walked. -/
inductive Ends (x : Setting δ) (p : Plan) (found : List Node) {α : Type} (a : α) (steps : List Step)
    (turns : List (Turn δ)) (last : World δ) : Except Fault α × World δ → Prop
  | done : turns.map (·.step) = steps → (∀ t ∈ turns, t.Succeeds) → Ends x p found a steps turns last (.ok a, last)
  | failed {before : List (Turn δ)} {t : Turn δ} {e : Fault} : turns = before ++ [t] → (∀ s ∈ before, s.Succeeds) →
    t.outcome = .error e → Ends x p found a steps turns last (.error e, last)
  | lost {s : Step} {rest : List Step} {e : Fault} : turns.map (·.step) ++ s :: rest = steps →
    (∀ t ∈ turns, t.Succeeds) → x.call p found last s = .error e →
    Ends x p found a steps turns last (.error e, x.enter found last s)

namespace Ends

variable {x : Setting δ} {p : Plan} {found : List Node} {α : Type} {a : α} {steps : List Step} {turns : List (Turn δ)}
  {last : World δ} {result : Except Fault α × World δ}

theorem cons (h : Ends x p found a steps turns last result) {t : Turn δ} (ht : t.Succeeds) :
    Ends x p found a (t.step :: steps) (t :: turns) last result := by
  cases h with
  | done hsteps hall => exact .done (congrArg (t.step :: ·) hsteps) (List.forall_mem_cons.mpr ⟨ht, hall⟩)
  | failed hturns hall he => exact .failed (congrArg (t :: ·) hturns) (List.forall_mem_cons.mpr ⟨ht, hall⟩) he
  | lost hsteps hall he => exact .lost (congrArg (t.step :: ·) hsteps) (List.forall_mem_cons.mpr ⟨ht, hall⟩) he

/-- What is given at the end is of no account before it. -/
theorem giving (h : Ends x p found a steps turns last result) {β : Type} (b : β) :
    Ends x p found b steps turns last (EntityViews.giving b result) := by
  cases h with
  | done hsteps hall => exact .done hsteps hall
  | failed hturns hall he => exact .failed hturns hall he
  | lost hsteps hall he => exact .lost hsteps hall he

/-- Something is given exactly if every step is done. -/
theorem gives_iff (h : Ends x p found a steps turns last result) :
    (∃ b w, result = (.ok b, w)) ↔ turns.map (·.step) = steps ∧ ∀ t ∈ turns, t.Succeeds := by
  cases h with
  | done hsteps hall => exact ⟨fun _ => ⟨hsteps, hall⟩, fun _ => ⟨a, last, rfl⟩⟩
  | @failed before t e hturns _ he =>
    constructor
    · rintro ⟨b, w, hb⟩
      cases hb
    · rintro ⟨_, hall⟩
      obtain ⟨records, hr⟩ := hall t (by rw [hturns]; exact List.mem_append_right _ List.mem_cons_self)
      cases hr.symm.trans he
  | lost hsteps _ _ =>
    constructor
    · rintro ⟨b, w, hb⟩
      cases hb
    · rintro ⟨hdone, _⟩
      have hlength := congrArg List.length (hsteps.trans hdone.symm)
      simp at hlength

end Ends

end Turn

/-- The course of the calls for a plan: they are made for its first steps, one after the other, each as the step says. -/
structure Course (x : Setting δ) (p : Plan) (w : World δ) (turns : List (Turn δ)) (last : World δ)
    (result : Except Fault (List Node) × World δ) : Prop where
  first : turns.map (·.step) <+: p.steps
  taken : ∀ t ∈ turns, t.Taken x p (Turn.found turns)
  consecutive : Turn.Consecutive w turns last
  ends : Turn.Ends x p (Turn.found turns) (Turn.found turns) p.steps turns last result

namespace Setting

variable (x : Setting δ)

/-- What one turn adds in front of the turns that follow it. -/
theorem turns_course (p : Plan) (found : List Node) (steps : List Step) (w : World δ) :
    ∃ turns last, turns.map (·.step) <+: steps ∧ (∀ t ∈ turns, t.Taken x p found) ∧ Turn.Consecutive w turns last ∧
      Turn.Ends x p found () steps turns last (x.turns p found steps w) := by
  induction steps generalizing w with
  | nil => exact ⟨[], w, List.nil_prefix, List.forall_mem_nil _, rfl, .done rfl (List.forall_mem_nil _)⟩
  | cons s rest ih =>
    rw [turns]
    -- There is no call to make, or the call fails, or the turns of the other steps follow it.
    cases hcall : x.call p found w s with
    | error e =>
      have hturn : x.turn p found s w = (.error e, x.enter found w s) := by rw [turn, hcall]
      rw [hturn]
      exact ⟨[], w, List.nil_prefix, List.forall_mem_nil _, rfl, .lost rfl (List.forall_mem_nil _) hcall⟩
    | ok c =>
      have hturn : x.turn p found s w = (x.make c).run.run (x.enter found w s) := by rw [turn, hcall]
      rw [hturn]
      cases hmake : (x.make c).run.run (x.enter found w s) with
      | mk outcome m =>
        have htaken : Turn.Taken x p found ⟨s, w, c, outcome, m⟩ := ⟨hcall, hmake⟩
        cases outcome with
        | error e =>
          refine ⟨[⟨s, w, c, .error e, m⟩], m, ?_, ?_, ⟨rfl, rfl⟩, .failed (List.nil_append _).symm (List.forall_mem_nil _) rfl⟩
          · exact List.cons_prefix_cons.mpr ⟨rfl, List.nil_prefix⟩
          · exact List.forall_mem_cons.mpr ⟨htaken, List.forall_mem_nil _⟩
        | ok records =>
          obtain ⟨turns, last, hfirst, hall, hconsecutive, hends⟩ := ih m
          have hsucceeds : Turn.Succeeds ⟨s, w, c, .ok records, m⟩ := ⟨records, rfl⟩
          refine ⟨⟨s, w, c, .ok records, m⟩ :: turns, last, ?_, ?_, ⟨rfl, hconsecutive⟩, hends.cons hsucceeds⟩
          · exact List.cons_prefix_cons.mpr ⟨rfl, hfirst⟩
          · exact List.forall_mem_cons.mpr ⟨htaken, hall⟩

/-- Every run goes by the course of its plan and ends as its last turn does. -/
theorem run_course (p : Plan) (w : World δ) : ∃ turns last, Course x p w turns last ((x.run p).run.run w) := by
  let look : Call := .find x.filter p.fields p.populate x.paging
  have hturn : x.turn p [] .find w = (x.make look).run.run w := rfl
  rw [run_eq, hturn]
  cases hmake : (x.make look).run.run w with
  | mk outcome m =>
    -- The look-up comes first, so its call does not depend on what is found.
    have htaken (found : List Node) : Turn.Taken x p found ⟨.find, w, look, outcome, m⟩ := ⟨rfl, hmake⟩
    cases outcome with
    | error e =>
      refine ⟨[⟨.find, w, look, .error e, m⟩], m, ?_, ?_, ⟨rfl, rfl⟩, ?_⟩
      · exact List.cons_prefix_cons.mpr ⟨rfl, List.nil_prefix⟩
      · exact List.forall_mem_cons.mpr ⟨htaken _, List.forall_mem_nil _⟩
      · exact .failed (List.nil_append _).symm (List.forall_mem_nil _) rfl
    | ok found =>
      have hsucceeds : Turn.Succeeds ⟨.find, w, look, .ok found, m⟩ := ⟨found, rfl⟩
      obtain ⟨turns, last, hfirst, hall, hconsecutive, hends⟩ :=
        x.turns_course p found (p.filtered.map .populate ++ p.annotations.map .annotate) m
      refine ⟨⟨.find, w, look, .ok found, m⟩ :: turns, last, ?_, ?_, ⟨rfl, hconsecutive⟩, ?_⟩
      · exact List.cons_prefix_cons.mpr ⟨rfl, hfirst⟩
      · exact List.forall_mem_cons.mpr ⟨htaken _, hall⟩
      · exact (hends.giving found).cons hsucceeds

end Setting

namespace Store

/-- From no records a path leads to none. -/
theorem resolve_nil {s : Store} {graph : Graph} {path : String} {f : EntityFields} {targets : List Node}
    (h : s.resolve graph f path [] = .ok targets) : targets = [] := by
  rw [resolve] at h
  split at h
  · exact (Except.ok.inj h).symm
  · exact (walk_ok_iff.mp h).eq_nil

end Store

namespace Setting

variable (x : Setting δ)

/-- An annotator is given nothing if nothing is found. -/
theorem targets_of_call {p : Plan} {w : World δ} {s : Step} {annotator : Annotator} {targets : List Node}
    {context : Context} (h : x.call p [] w s = .ok (.annotate annotator targets context)) : targets = [] := by
  cases s with
  | find => cases h
  | populate f => cases h
  | annotate a =>
    obtain ⟨found, hfound, hcall⟩ := Except.bind_ok h
    cases hcall
    exact Store.resolve_nil hfound

/-- Compiling a view changes nothing but the registry. -/
theorem plan_world (sources : EntityFields) (view : Value) (context : Context) (overrides : Value) (path : String)
    (w : World δ) : ∃ registry,
      ((plan sources view context overrides path : Run δ Plan).run.run w).2 = { w with registry := registry } := by
  rw [plan]
  cases hview : View.ofValue view with
  | error e => exact ⟨w.registry, rfl⟩
  | ok v =>
    exact ⟨w.registry.visit (Plan.entered (Plan.visits w.registry.graph context overrides sources path v)), rfl⟩

/-- An execution fails with the compilation, which asks nothing of the repository; or else it makes the calls of the plan
in their order, each after the one before it is finished, and ends with the first that fails, or the first path that cannot be
walked. It gives the records found exactly if all the calls are made and succeed. -/
theorem execute_course (overrides view : Value) (w : World δ) :
    (∃ e registry, (plan x.sources view x.context overrides "").run.run w = (.error e, { w with registry := registry }) ∧
      (x.execute overrides view).run.run w = (.error e, { w with registry := registry })) ∨
    ∃ p registry turns last,
      (plan x.sources view x.context overrides "").run.run w = (.ok p, { w with registry := registry }) ∧
      Course x p { w with registry := registry } turns last ((x.execute overrides view).run.run w) ∧
      ((∃ records w', (x.execute overrides view).run.run w = (.ok records, w')) ↔
        turns.map (·.step) = p.steps ∧ ∀ t ∈ turns, t.Succeeds) ∧
      (Turn.found turns = [] → ∀ t ∈ turns, ∀ annotator targets context,
        t.call = .annotate annotator targets context → targets = []) := by
  obtain ⟨registry, hworld⟩ := plan_world x.sources view x.context overrides "" w
  rw [execute, executeWith, Gives.run_bind]
  cases hplan : (plan x.sources view x.context overrides "").run.run w with
  | mk outcome m =>
    rw [hplan] at hworld
    dsimp only at hworld
    subst hworld
    cases outcome with
    | error e => exact Or.inl ⟨e, registry, rfl, rfl⟩
    | ok p =>
      obtain ⟨turns, last, hcourse⟩ := x.run_course p { w with registry := registry }
      refine Or.inr ⟨p, registry, turns, last, rfl, hcourse, hcourse.ends.gives_iff, ?_⟩
      -- Without root records every path leads to none, so that annotators are called with nothing.
      intro hnone t ht annotator targets context hannotate
      obtain ⟨hcall, _⟩ := hcourse.taken t ht
      rw [hnone, hannotate] at hcall
      exact x.targets_of_call hcall

end Setting

end EntityViews
