import EntityViews.Proofs.Arrangement
import EntityViews.Proofs.Likeness
import EntityViews.Proofs.Sessions

/-!
The relations of a find in any order. They are loaded in the order of their depth, so that a relation comes after all others
on the way to it; where one of these is left out, nothing is there to load it onto. Main statement: with a database that gives
the same answers whenever it is asked, the graph of the records depends on which relations are asked for, and not on their
order, on how often they are asked for, or on whether they are loaded by the find or afterwards.
-/

namespace EntityViews

open Sql

variable {δ : Type} [Engine δ] {s : Schema} {e : Entity} {entity : String} {roots : List Node}
  {fields : Option (List String)} {sel : Select} {w₀ w w' : World δ} {start : Trail → Nat} {all done rest : List Trail}
  {name : String} {above : Trail} {paths others : List String}

omit [Engine δ] in
/-- The twins of the items of a list are the raised ends of the list. -/
theorem Node.records_of_twins {b n : Nat} {items others : List Node} (h : List.Forall₂ (Node.Twin b n) items others) :
    others = (Node.list items).ends.map fun i => .record (b + i) := by
  induction h with
  | nil => rfl
  | cons hone _ ih =>
    obtain ⟨i, _, rfl, rfl⟩ := hone
    rw [ih]
    rfl

namespace Repository

omit [Engine δ] in
/-- Segments lead to an entity in two steps. -/
theorem entityAt_append {path target : String} {keys more : List String}
    (h : entityAt s path entity (keys ++ more) = .ok target) :
    ∃ middle, entityAt s path entity keys = .ok middle ∧ entityAt s path middle more = .ok target := by
  induction keys generalizing entity with
  | nil => exact ⟨entity, rfl, h⟩
  | cons key keys ih =>
    rw [List.cons_append, entityAt] at h
    rw [entityAt]
    cases hr : s.relation? entity key with
    | none =>
      rw [hr] at h
      cases h
    | some relation =>
      rw [hr] at h
      exact ih h

omit [Engine δ] in
/-- Where a trail has an entity, every key on the way is the name of a relation. -/
theorem relation_of_suffix {path target : String} {t u : Trail} (h : entityAt s path entity u.reverse = .ok target)
    (hsuffix : name :: t <:+ u) : ∃ parent relation, entityAt s path entity t.reverse = .ok parent ∧
      s.relation? parent name = some relation := by
  obtain ⟨below, rfl⟩ := hsuffix
  rw [List.reverse_append, List.reverse_cons, List.append_assoc] at h
  obtain ⟨parent, hparent, hrest⟩ := entityAt_append h
  rw [List.singleton_append, entityAt] at hrest
  cases hr : s.relation? parent name with
  | none =>
    rw [hr] at hrest
    cases hrest
  | some relation => exact ⟨parent, relation, hparent, hr⟩

end Repository

namespace Layer

/-- Whether a relation can be populated together with others: there is an entity that it can be a relation of, and if all
relations on the way are populated too, it has a layer. -/
def Passes (w : World δ) (s : Schema) (e : Entity) (fields : Option (List String)) (sel : Select) (all : List Trail)
    (t : Trail) : Prop :=
  (∃ parent, Repository.entityAt s "" e.name t.tail.reverse = .ok parent) ∧
    (t.Clear all → ∃ layer, at? w s e fields sel t = some layer)

/-- Records at the end of a layer have nothing under the name of a relation until it is loaded. -/
theorem bare (labelled : Labelled δ) (apart : s.Apart) (he : s.entity? e.name = some e)
    (hsel : ∀ label ∈ sel.outputs.map Output.label, e.Knows label) {t : Trail} {layer : Layer}
    (hlayer : at? w s e fields sel t = some layer) {path : String} {relation : Relation}
    (hentity : Repository.entityAt s path e.name t.reverse = .ok entity) (hr : s.relation? entity name = some relation)
    {i : Nat} (hi : i ∈ layer.ends) : layer.store.get? i (.text name) = none := by
  obtain ⟨other, target, hother, htarget, P, hkeys, hknown⟩ := named_ends labelled he hsel hlayer hi
  cases hentity.symm.trans (hother path)
  rw [Store.get?, Option.eq_none_iff_forall_ne_some]
  intro n hn
  have hname : P name := (HasNames.lookup?_isSome hkeys name).mp (by rw [hn]; rfl)
  exact apart.unknown htarget hr (hknown name hname)

end Layer

namespace Repository

open Layer

/-- Populating a path does nothing if a relation on the way has not been loaded. -/
theorem populatePath_idle (reliable : Reliable δ) (apart : s.Apart) (he : s.entity? e.name = some e)
    (hsel : ∀ label ∈ sel.outputs.map Output.label, e.Knows label)
    (hs : w.store.Stacks (at? w₀ s e fields sel) roots start done) (hproper : Trail.Proper (name :: above))
    (habove : above ∉ done) : Gives (populatePath s e.name roots fields .null (Trail.path (name :: above))) w ⟨⟩ w' ↔
      (∃ parent, entityAt s "" e.name above.reverse = .ok parent) ∧ w' = w := by
  have hnone : ∀ parent, entityAt s "" e.name above.reverse = .ok parent →
      w.store.recordsAt roots (Trail.path above) = .ok [] := by
    intro parent hparent
    refine hs.recordsAt_none (family_at? reliable) habove hproper.above ?_
    intro key t layer hsuffix hlayer i hi
    obtain ⟨entity, relation, hentity, hr⟩ := relation_of_suffix hparent hsuffix
    exact bare reliable.labelled apart he hsel hlayer hentity hr hi
  rw [populatePath_iff hproper]
  constructor
  · rintro ⟨parent, found, hparent, hfound, hload⟩
    have hentity : entityAt s "" e.name above.reverse = .ok parent := entityAt_path hparent
    cases (hnone parent hentity).symm.trans hfound
    exact ⟨⟨parent, hentity⟩, (hload.resolve_right fun h => h.1 rfl).2⟩
  · rintro ⟨⟨parent, hparent⟩, rfl⟩
    exact ⟨parent, [], entityAt_path hparent, hnone parent hparent, .inl ⟨rfl, rfl⟩⟩

/-- What populating some paths one after the other comes to: all of them pass, and in the end the layers of all that are clear
are there; or one does not pass, and it fails. -/
def Settles (w₀ w : World δ) (s : Schema) (e : Entity) (roots : List Node) (fields : Option (List String)) (sel : Select)
    (all rest : List Trail) : Prop :=
  ((∀ t ∈ rest, Passes w₀ s e fields sel all t) ∧ ∃ w' start done,
    Gives ((rest.map Trail.path).forM (populatePath s e.name roots fields .null)) w ⟨⟩ w' ∧
    w'.store.Stacks (at? w₀ s e fields sel) roots start done ∧ ∀ t, t ∈ done ↔ t.Clear all) ∨
  ((∃ t ∈ rest, ¬Passes w₀ s e fields sel all t) ∧ ∀ w',
    ¬Gives ((rest.map Trail.path).forM (populatePath s e.name roots fields .null)) w ⟨⟩ w')

/-- Once the first trail was loaded, what settles the rest settles all. -/
theorem Settles.after {t : Trail} (hpass : Passes w₀ s e fields sel all t)
    (hfirst : Gives (populatePath s e.name roots fields .null t.path) w ⟨⟩ w')
    (h : Settles w₀ w' s e roots fields sel all rest) : Settles w₀ w s e roots fields sel all (t :: rest) := by
  rcases h with ⟨hpasses, w'', start, done, hrest, hs, hdone⟩ | ⟨⟨u, hu, hnot⟩, hfails⟩
  · exact .inl ⟨List.forall_mem_cons.mpr ⟨hpass, hpasses⟩, w'', start, done, Gives.forM_cons_iff.mpr ⟨w', hfirst, hrest⟩,
      hs, hdone⟩
  · refine .inr ⟨⟨u, List.mem_cons_of_mem _ hu, hnot⟩, fun w'' h => ?_⟩
    obtain ⟨m, hm, hrest⟩ := Gives.forM_cons_iff.mp h
    obtain ⟨_, rfl⟩ := hfirst.unique hm
    exact hfails w'' hrest

theorem Settles.failing {t : Trail} (hnot : ¬Passes w₀ s e fields sel all t)
    (hfails : ∀ w', ¬Gives (populatePath s e.name roots fields .null t.path) w ⟨⟩ w') :
    Settles w₀ w s e roots fields sel all (t :: rest) := by
  refine .inr ⟨⟨t, List.mem_cons_self, hnot⟩, fun w' h => ?_⟩
  obtain ⟨m, hm, _⟩ := Gives.forM_cons_iff.mp h
  exact hfails m hm

/-- Paths in the order of their depth can be populated just if all of them pass, and this brings the layers of those that are
clear. -/
theorem settles (reliable : Reliable δ) (apart : s.Apart) (he : s.entity? e.name = some e)
    (hsel : ∀ label ∈ sel.outputs.map Output.label, e.Knows label) (hall : ∀ t ∈ all, t.Proper ∧ t ≠ [])
    (hpending : Trail.Pending all done rest) (hs : w.store.Stacks (at? w₀ s e fields sel) roots start done) :
    Settles w₀ w s e roots fields sel all rest := by
  induction rest generalizing w start done with
  | nil =>
    refine .inl ⟨nofun, w, start, done, Gives.forM_nil_iff.mpr rfl, hs, fun t => ?_⟩
    exact ⟨hpending.cleared t, fun h => (hpending.covered t h).resolve_right List.not_mem_nil⟩
  | cons t rest ih =>
    obtain ⟨hproper, hne⟩ := hall t (hpending.member t List.mem_cons_self)
    obtain ⟨name, above, rfl⟩ := List.exists_cons_of_ne_nil hne
    by_cases habove : above ∈ done
    · have hnew : name :: above ∉ done := hpending.fresh _ List.mem_cons_self
      have hclear := hpending.clear_iff.mpr habove
      rcases populatePath_layer reliable apart hs hproper habove hnew with
        ⟨w₁, start₁, ⟨layer, hlayer⟩, hfirst, hs₁⟩ | ⟨hnone, hfails⟩
      · obtain ⟨_, parent, _, hparent, _⟩ := at?_cons hlayer
        exact (ih (hpending.load habove) hs₁).after ⟨⟨parent, hparent ""⟩, fun _ => ⟨layer, hlayer⟩⟩ hfirst
      · refine .failing (fun hpass => ?_) hfails
        obtain ⟨layer, hlayer⟩ := hpass.2 hclear
        rw [hnone] at hlayer
        cases hlayer
    · -- What is on the way to this relation has not been loaded, so that it is passed over.
      have hidle : ∀ w₁, Gives (populatePath s e.name roots fields .null (Trail.path (name :: above))) w ⟨⟩ w₁ ↔
          (∃ parent, entityAt s "" e.name above.reverse = .ok parent) ∧ w₁ = w :=
        fun w₁ => populatePath_idle reliable apart he hsel hs hproper habove
      by_cases hparent : ∃ parent, entityAt s "" e.name above.reverse = .ok parent
      · refine (ih (hpending.skip habove) hs).after ⟨hparent, fun hclear => ?_⟩ ((hidle w).mpr ⟨hparent, rfl⟩)
        exact absurd (hpending.clear_iff.mp hclear) habove
      · exact .failing (fun hpass => hparent hpass.1) fun w₁ h => hparent ((hidle w₁).mp h).1

/-- Populating the same paths in another order, or some of them several times, brings the same graph. -/
theorem populate_same (reliable : Reliable δ) (apart : s.Apart) (he : s.entity? e.name = some e)
    (hsel : ∀ label ∈ sel.outputs.map Output.label, e.Knows label)
    (hpaths : ∀ path ∈ paths, ∀ segment ∈ Text.segments path, segment ≠ "") (hsame : ∀ path, path ∈ paths ↔ path ∈ others)
    {m m' : World δ} {start' : Trail → Nat} (hs : m.store.Stacks (at? w₀ s e fields sel) roots start [[]])
    (hs' : m'.store.Stacks (at? w₀ s e fields sel) roots start' [[]])
    (h : Gives ((parentsFirst paths).forM (populatePath s e.name roots fields .null)) m ⟨⟩ w) :
    ∃ w', Gives ((parentsFirst others).forM (populatePath s e.name roots fields .null)) m' ⟨⟩ w' ∧
      w.store.SameGraph w'.store roots ∧ w'.store.SameGraph w.store roots := by
  have hothers : ∀ path ∈ others, ∀ segment ∈ Text.segments path, segment ≠ "" :=
    fun path hpath => hpaths path ((hsame path).mpr hpath)
  have hmem := mem_trails_congr hsame
  have hclear := Trail.clear_congr hmem
  rw [← map_path_trails hpaths] at h
  rw [← map_path_trails hothers]
  have family : Family (at? w₀ s e fields sel) := family_at? reliable
  rcases settles reliable apart he hsel (fun _ => proper_of_mem_trails hpaths) (pending_trails hpaths) hs with
    ⟨hpasses, w₁, start₁, done₁, hgives, hs₁, hdone₁⟩ | ⟨_, hfails⟩
  · obtain ⟨_, rfl⟩ := hgives.unique h
    rcases settles reliable apart he hsel (fun _ => proper_of_mem_trails hothers) (pending_trails hothers) hs' with
      ⟨_, w₂, start₂, done₂, hgives', hs₂, hdone₂⟩ | ⟨⟨t, ht, hnot⟩, _⟩
    · have hdone : ∀ t, t ∈ done₁ ↔ t ∈ done₂ := fun t => (hdone₁ t).trans ((hclear t).trans (hdone₂ t).symm)
      exact ⟨w₂, hgives', hs₁.sameGraph family hs₂ hdone, hs₂.sameGraph family hs₁ fun t => (hdone t).symm⟩
    · -- Whether a relation passes depends on which others are asked for, and on nothing else.
      obtain ⟨hparent, hlayer⟩ := hpasses t ((hmem t).mpr ht)
      exact absurd ⟨hparent, fun hc => hlayer ((hclear t).mpr hc)⟩ hnot
  · exact absurd h (hfails w)

/-- When the roots have come up, the records carry their layer and no other. -/
theorem stacks_of_fetched (reliable : Reliable δ) (w₀ : World δ) (fields : Option (List String))
    (h : Gives (fetchRecords e sel) w roots w') :
    ∃ start, w'.store.Stacks (at? w₀ s e fields sel) roots start [[]] := by
  have htracks : Run.Tracks w.store 0 (fetchRecords e sel : Run δ (List Node)) (fetchRecords e sel) _ :=
    Loader.fetchRecords_tracks reliable e sel
  rcases htracks.alone w₀ rfl with ⟨nodes, t, others, w₁, halone, hfetch, _, hstore, htwins⟩ | ⟨_, hfails⟩
  · obtain ⟨rfl, rfl⟩ := h.unique hfetch
    have hlayer : at? w₀ s e fields sel [] = some ⟨t, (Node.list nodes).ends, fun _ => .null⟩ := by
      rw [at?, root?, halone]
      rfl
    refine ⟨fun _ => w.store.records.size, List.mem_singleton_self _, ?_, ?_, ?_, ?_, ?_, ?_, ?_⟩
    · intro u hu
      rw [List.mem_singleton.mp hu]
      exact List.mem_singleton_self _
    · intro u hu
      rw [List.mem_singleton.mp hu]
      exact ⟨_, hlayer⟩
    · intro layer h
      cases hlayer.symm.trans h
      exact Node.records_of_twins htwins
    · intro u hu layer h
      rw [List.mem_singleton.mp hu] at h
      cases hlayer.symm.trans h
      exact Nat.le_of_eq (by rw [hstore, Store.size_topped])
    · intro u hu v hv _ _ _ _ _ _ _ _ _
      rw [List.mem_singleton.mp hu, List.mem_singleton.mp hv]
    · intro u hu layer h i _ key _
      rw [List.mem_singleton.mp hu] at h
      cases hlayer.symm.trans h
      rw [hstore, Store.get?_topped]
    · exact fun name u hmem => absurd (List.mem_singleton.mp hmem) (List.cons_ne_nil _ _)
  · exact absurd h (hfails roots w')

end Repository

namespace World

def begun (w : World δ) : World δ := (w.after .connect).after (.execute .foreignKeys)

def ended (w : World δ) : World δ := (w.after .commit).after .close

end World

namespace Run

theorem ask_iff {a : Action} {r : Answer} :
    Gives (ask a) w r w' ↔ (Engine.perform a w.database).1 = .ok r ∧ w' = w.after a := by
  rw [Gives, ask_run, Prod.mk.injEq, eq_comm (a := w.after a)]

/-- With a database on which connections do not fail, work within a connection gives what it gives on an open one. -/
theorem withConnection_iff (reliable : Reliable δ) {α : Type} {body : Run δ α} {a : α} :
    Gives (withConnection body) w a w' ↔ ∃ m, Gives body w.begun a m ∧ w' = m.ended := by
  constructor
  · intro h
    obtain ⟨w₁, m, before, after, hbefore, hbody, hafter⟩ := withConnection_parts h
    obtain ⟨_, _, hconnect, hsetting⟩ := Gives.bind_iff.mp hbefore
    obtain ⟨_, _, hcommit, hclose⟩ := Gives.bind_iff.mp hafter
    obtain ⟨_, rfl⟩ := ask_iff.mp hconnect
    obtain ⟨_, rfl⟩ := ask_iff.mp hsetting
    obtain ⟨_, rfl⟩ := ask_iff.mp hcommit
    obtain ⟨_, rfl⟩ := ask_iff.mp hclose
    exact ⟨m, hbody, rfl⟩
  · rintro ⟨m, hbody, rfl⟩
    have heq : withConnection body = ask .connect >>= fun _ => execute .foreignKeys >>= fun _ => connected body := rfl
    obtain ⟨_, hconnect⟩ := reliable.connects w.database
    obtain ⟨_, hsetting⟩ := reliable.configures (w.after .connect).database
    obtain ⟨_, hcommit⟩ := reliable.commits m.database
    obtain ⟨_, hclose⟩ := reliable.closes (m.after .commit).database
    have hcommitted : Gives (committing body) w.begun a (m.after .commit) := by
      rw [Gives, committing_run hbody, hcommit]
      rfl
    rw [heq]
    refine Gives.bind_iff.mpr ⟨_, _, ask_iff.mpr ⟨hconnect, rfl⟩, ?_⟩
    refine Gives.bind_iff.mpr ⟨_, _, ask_iff.mpr ⟨hsetting, rfl⟩, ?_⟩
    refine (connected_run_ok hcommitted).trans ?_
    rw [hclose]
    rfl

end Run

namespace Repository

variable {filter orderBy : Value} {limit offset : Option Int}

omit [Engine δ] in
/-- The names in the answer to the statement for the root records are known to their entity. -/
theorem knows_of_rootStatement (h : Gives (rootStatement s e filter fields orderBy limit offset : Run δ Select) w sel w') :
    ∀ label ∈ sel.outputs.map Output.label, e.Knows label := by
  intro label hlabel
  have hlists := (rootStatement_yields ⟨w, w', h⟩).1
  simp only [rootStatement, Gives.bind_iff, Gives.lift_iff] at h
  obtain ⟨start, _, ⟨hstart, _⟩, q, _, ⟨hselecting, _⟩, _⟩ := h
  have hasked := ((hlists.labels label).mp hlabel).resolve_right List.not_mem_nil
  exact Query.knows_of_selecting hstart hselecting label (List.mem_cons.mpr hasked)

theorem parentsFirst_nil : parentsFirst [] = [] := by
  simp [parentsFirst, distinct]

/-- Without a filter all paths are populated in the same way. -/
theorem populatePaths_null {filterPath : Option String} :
    (populatePaths s entity roots paths fields .null filterPath : Run δ Unit) =
      (parentsFirst paths).forM (populatePath s entity roots fields .null) := by
  have hnone : ∀ path, (Filter.atPath .null path).getD .null = .null := by
    intro path
    rw [Filter.atPath]
    cases Text.segments path <;> rfl
  refine congrArg (List.forM (parentsFirst paths)) (funext fun path => ?_)
  dsimp only
  rw [hnone, ite_self]

def Populated (s : Schema) (entity : String) (roots : List Node) (paths : List String) (fields : Option (List String))
    (w w' : World δ) : Prop :=
  (roots = [] ∧ w' = w) ∨
    (roots ≠ [] ∧ Gives ((parentsFirst paths).forM (populatePath s entity roots fields .null)) w ⟨⟩ w')

theorem populated_nil : Populated s entity [] paths fields w w' ↔ w' = w :=
  ⟨fun h => (h.resolve_right fun h => h.1 rfl).2, fun h => .inl ⟨rfl, h⟩⟩

theorem populated_of_ne_nil (h : roots ≠ []) : Populated s entity roots paths fields w w' ↔
    Gives ((parentsFirst paths).forM (populatePath s entity roots fields .null)) w ⟨⟩ w' :=
  ⟨fun hp => (hp.resolve_left fun hn => h hn.1).2, fun hp => .inr ⟨h, hp⟩⟩

theorem populated_nothing : Populated s entity roots [] fields w w' ↔ w' = w := by
  by_cases hroots : roots = []
  · rw [hroots, populated_nil]
  · rw [populated_of_ne_nil hroots, parentsFirst_nil, Gives.forM_nil_iff]

/-- Relations are populated if there are any, and records to load them onto; the roots stay as they are. -/
theorem populating_iff {records : List Node} :
    Gives (if (!paths.isEmpty && !roots.isEmpty) = true then
        (populatePaths s entity roots paths fields .null none : Run δ Unit) >>= fun _ => pure roots
      else pure roots) w records w' ↔ records = roots ∧ Populated s entity roots paths fields w w' := by
  by_cases hroots : roots = []
  · rw [if_neg (by simp [hroots]), Gives.pure_iff, hroots, populated_nil]
  · by_cases hpaths : paths = []
    · rw [if_neg (by simp [hpaths]), Gives.pure_iff, hpaths, populated_nothing]
    · rw [if_pos (by simp [hroots, hpaths]), Gives.bind_iff, populatePaths_null, populated_of_ne_nil hroots]
      constructor
      · rintro ⟨_, m, hpopulate, hpure⟩
        obtain ⟨rfl, rfl⟩ := Gives.pure_iff.mp hpure
        exact ⟨rfl, hpopulate⟩
      · rintro ⟨rfl, hpopulate⟩
        exact ⟨⟨⟩, w', hpopulate, Gives.pure_iff.mpr ⟨rfl, rfl⟩⟩

/-- What a find does, with a database on which connections do not fail. -/
theorem find_iff (reliable : Reliable δ) :
    Gives (find s e filter fields paths orderBy limit offset) w roots w' ↔ ∃ sel m m₁ m₂,
      Gives (rootStatement s e filter fields orderBy limit offset) w sel m ∧ Gives (fetchRecords e sel) m.begun roots m₁ ∧
      Populated s e.name roots paths fields m₁ m₂ ∧ w' = m₂.ended := by
  rw [find_eq, Gives.bind_iff]
  constructor
  · rintro ⟨sel, m, hsel, hconnect⟩
    obtain ⟨m₂, hbody, rfl⟩ := (Run.withConnection_iff reliable).mp hconnect
    obtain ⟨records, m₁, hfetch, hmore⟩ := Gives.bind_iff.mp hbody
    obtain ⟨rfl, hpopulated⟩ := populating_iff.mp hmore
    exact ⟨sel, m, m₁, m₂, hsel, hfetch, hpopulated, rfl⟩
  · rintro ⟨sel, m, m₁, m₂, hsel, hfetch, hpopulated, rfl⟩
    refine ⟨sel, m, hsel, (Run.withConnection_iff reliable).mpr ⟨m₂, ?_, rfl⟩⟩
    exact Gives.bind_iff.mpr ⟨roots, m₁, hfetch, populating_iff.mpr ⟨rfl, hpopulated⟩⟩

/-- Populating records that were found before does the same on a connection of its own, if there is anything to do. -/
theorem populate_iff (reliable : Reliable δ) :
    Gives (populate s entity roots paths .null fields) w ⟨⟩ w' ↔ ∃ m, Populated s entity roots paths fields w.begun m ∧
      w' = if paths = [] ∨ roots = [] then w else m.ended := by
  unfold populate
  cases paths with
  | nil =>
    simp only [Gives.pure_iff, populated_nothing, exists_eq_left, true_or, if_true, true_and]
  | cons first rest =>
    by_cases hroots : roots = []
    · simp only [hroots, List.isEmpty_nil, if_true, Gives.pure_iff, populated_nil, exists_eq_left, or_true, true_and]
    · have hempty : roots.isEmpty = false := List.isEmpty_eq_false_iff.mpr hroots
      simp only [hempty, Bool.false_eq_true, if_false, Run.withConnection_iff reliable, populatePaths_null,
        populated_of_ne_nil hroots, hroots, List.cons_ne_nil, or_self]

/-- What a population leaves in the store does not depend on when it began. -/
theorem Populated.store_eq {m : World δ} (h : Populated s entity roots paths fields w.begun m) :
    (if paths = [] ∨ roots = [] then w else m.ended).store = m.store := by
  split
  · rename_i hnothing
    rcases hnothing with rfl | rfl
    · rw [populated_nothing.mp h]
      rfl
    · rw [populated_nil.mp h]
      rfl
  · rfl

section Reordered

variable (reliable : Reliable δ) (apart : s.Apart) (he : s.entity? e.name = some e)
  (hpaths : ∀ path ∈ paths, ∀ segment ∈ Text.segments path, segment ≠ "") (hsame : ∀ path, path ∈ paths ↔ path ∈ others)
include reliable apart he hpaths hsame

/-- The same paths in another order, or some of them several times, bring the same graph, also in another state with the
same roots. -/
theorem Populated.same {m m' : World δ} {start' : Trail → Nat} (hsel : ∀ label ∈ sel.outputs.map Output.label, e.Knows label)
    (hs : m.store.Stacks (Layer.at? w₀ s e fields sel) roots start [[]])
    (hs' : m'.store.Stacks (Layer.at? w₀ s e fields sel) roots start' [[]]) (h : Populated s e.name roots paths fields m w) :
    ∃ w', Populated s e.name roots others fields m' w' ∧ w.store.SameGraph w'.store roots ∧
      w'.store.SameGraph w.store roots := by
  by_cases hroots : roots = []
  · rw [hroots]
    exact ⟨m', populated_nil.mpr rfl, Store.sameGraph_nil _ _, Store.sameGraph_nil _ _⟩
  · simp only [populated_of_ne_nil hroots] at h ⊢
    exact populate_same reliable apart he hsel hpaths hsame hs hs' h

/-- A find gives the same graph for the same relations in any order and however often, loaded by the find or afterwards. -/
theorem find_reordered :
    (∀ roots w', Gives (find s e filter fields paths orderBy limit offset) w roots w' → ∃ w₁,
      Gives (find s e filter fields others orderBy limit offset) w roots w₁ ∧ w'.store.SameGraph w₁.store roots) ∧
    (∀ roots w', Gives (find s e filter fields paths orderBy limit offset) w roots w' → ∃ w₁ w₂,
      Gives (find s e filter fields [] orderBy limit offset) w roots w₁ ∧
      Gives (populate s e.name roots others .null fields) w₁ ⟨⟩ w₂ ∧ w'.store.SameGraph w₂.store roots) ∧
    ∀ roots w₁ w₂, Gives (find s e filter fields [] orderBy limit offset) w roots w₁ →
      Gives (populate s e.name roots others .null fields) w₁ ⟨⟩ w₂ → ∃ w',
        Gives (find s e filter fields paths orderBy limit offset) w roots w' ∧ w'.store.SameGraph w₂.store roots := by
  refine ⟨?_, ?_, ?_⟩
  · intro roots w' h
    obtain ⟨sel, m, m₁, m₂, hsel, hfetch, hpopulated, rfl⟩ := (find_iff reliable).mp h
    obtain ⟨start, hs⟩ := stacks_of_fetched (s := s) reliable w fields hfetch
    obtain ⟨m₃, hothers, hgraph, _⟩ := hpopulated.same reliable apart he hpaths hsame (knows_of_rootStatement hsel) hs hs
    exact ⟨m₃.ended, (find_iff reliable).mpr ⟨sel, m, m₁, m₃, hsel, hfetch, hothers, rfl⟩, hgraph⟩
  · intro roots w' h
    obtain ⟨sel, m, m₁, m₂, hsel, hfetch, hpopulated, rfl⟩ := (find_iff reliable).mp h
    obtain ⟨start, hs⟩ := stacks_of_fetched (s := s) reliable w fields hfetch
    -- The roots are found once, and the records are the same when the next connection begins.
    have hbare : Gives (find s e filter fields [] orderBy limit offset) w roots m₁.ended :=
      (find_iff reliable).mpr ⟨sel, m, m₁, m₁, hsel, hfetch, populated_nothing.mpr rfl, rfl⟩
    have hlater : m₁.ended.begun.store.Stacks (Layer.at? w s e fields sel) roots start [[]] := hs
    obtain ⟨m₃, hothers, hgraph, _⟩ := hpopulated.same reliable apart he hpaths hsame (knows_of_rootStatement hsel) hs hlater
    refine ⟨m₁.ended, _, hbare, (populate_iff reliable).mpr ⟨m₃, hothers, rfl⟩, ?_⟩
    rw [hothers.store_eq]
    exact hgraph
  · intro roots w₁ w₂ h hpopulate
    obtain ⟨sel, m, m₁, m₂, hsel, hfetch, hnothing, rfl⟩ := (find_iff reliable).mp h
    obtain ⟨start, hs⟩ := stacks_of_fetched (s := s) reliable w fields hfetch
    obtain rfl := populated_nothing.mp hnothing
    obtain ⟨m₃, hothers, rfl⟩ := (populate_iff reliable).mp hpopulate
    have hpaths' : ∀ path ∈ others, ∀ segment ∈ Text.segments path, segment ≠ "" :=
      fun path hpath => hpaths path ((hsame path).mpr hpath)
    have hlater : m₂.ended.begun.store.Stacks (Layer.at? w s e fields sel) roots start [[]] := hs
    obtain ⟨m₄, hpopulated, _, hgraph⟩ := hothers.same reliable apart he hpaths' (fun path => (hsame path).symm)
      (knows_of_rootStatement hsel) hlater hs
    refine ⟨m₄.ended, (find_iff reliable).mpr ⟨sel, m, m₂, m₄, hsel, hfetch, hpopulated, rfl⟩, ?_⟩
    rw [hothers.store_eq]
    exact hgraph

end Reordered

end Repository

theorem Learning.schema_apart : Learning.schema.Apart := Schema.apart_of_all (by decide +kernel)

namespace Repository

def textsInLanguage : Contents := .ofTables [
  ("Collection", [.ofCells [("id", .int 1), ("isPublic", .int 1)]]),
  ("Text", [.ofCells [("id", .int 10), ("languageId", .int 3), ("collectionId", .int 1)],
    .ofCells [("id", .int 11), ("languageId", .int 3), ("collectionId", .int 1)]]),
  ("Language", [.ofCells [("id", .int 3)]])]

/-- The texts of a collection and their language are found as well when the language is asked for first, or afterwards. -/
theorem find_reordered_languages : ∃ (roots found : List Node) (w' w₁ w₂ w₃ : World (Snapshot textsInLanguage)),
    Gives (find Learning.schema Learning.collection .null (some ["title"]) ["texts", "addedBy", "texts.language"] .null none
      none) (.start ⟨⟩ Learning.registry) roots w' ∧
    w'.store.recordsAt roots "texts.language" = .ok found ∧ found.length = 1 ∧
    Gives (find Learning.schema Learning.collection .null (some ["title"]) ["texts.language", "addedBy", "texts", "texts"]
      .null none none) (.start ⟨⟩ Learning.registry) roots w₁ ∧ w'.store.SameGraph w₁.store roots ∧
    Gives (find Learning.schema Learning.collection .null (some ["title"]) [] .null none none)
      (.start ⟨⟩ Learning.registry) roots w₂ ∧
    Gives (populate Learning.schema "Collection" roots ["texts.language", "addedBy", "texts", "texts"] .null
      (some ["title"])) w₂ ⟨⟩ w₃ ∧ w'.store.SameGraph w₃.store roots := by
  have hsorted : parentsFirst ["texts", "addedBy", "texts.language"] = ["texts", "addedBy", "texts.language"] :=
    List.mergeSort_of_pairwise (by decide +kernel)
  obtain ⟨roots, w', hfind, hcheck⟩ : ∃ roots w',
      Gives (find Learning.schema Learning.collection .null (some ["title"]) ["texts", "addedBy", "texts.language"] .null none
        none) (.start (⟨⟩ : Snapshot textsInLanguage) Learning.registry) roots w' ∧
      (fun roots w' => (w'.store.recordsAt roots "texts.language").toOption.any (·.length == 1)) roots w' = true := by
    unfold find populatePaths
    rw [hsorted]
    exact Gives.of_check (by decide +kernel)
  obtain ⟨found, hfound, hlength⟩ : ∃ found, w'.store.recordsAt roots "texts.language" = .ok found ∧ found.length = 1 := by
    obtain ⟨found, hfound, hlength⟩ := (Option.any_eq_true _ _).mp hcheck
    exact ⟨found, Except.toOption_eq_some_iff.mp hfound, beq_iff_eq.mp hlength⟩
  have hsame : ∀ path, path ∈ ["texts", "addedBy", "texts.language"] ↔
      path ∈ ["texts.language", "addedBy", "texts", "texts"] := by
    intro path
    simp [or_comm, or_left_comm]
  obtain ⟨hreorder, hlater, _⟩ := find_reordered (e := Learning.collection) (reliable_snapshot textsInLanguage)
    Learning.schema_apart rfl (by decide +kernel) hsame
  obtain ⟨w₁, hothers, hgraph⟩ := hreorder roots w' hfind
  obtain ⟨w₂, w₃, hbare, hpopulate, hgraph'⟩ := hlater roots w' hfind
  exact ⟨roots, found, w', w₁, w₂, w₃, hfind, hfound, hlength, hothers, hgraph, hbare, hpopulate, hgraph'⟩

end Repository

end EntityViews
