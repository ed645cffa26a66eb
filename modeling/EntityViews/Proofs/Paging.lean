import EntityViews.Proofs.Annotation
import EntityViews.Learning.Entities
import EntityViews.Learning.Sources

/-!
How many root records a resolver asks for. Main statement: the first statement of a resolution is for the root, and the
limit that it binds is at most the size of a page; it is a limit at all if and only if the given one is not negative.
-/

namespace EntityViews

open Sql

def World.selects {δ : Type} (w : World δ) : List Select := w.actions.toList.filterMap Action.select?

namespace Run

variable {δ α β : Type} {Q : Select → Prop}

/-- Whether between two states some statements were asked, the first of which is of a kind. -/
def Asked (Q : Select → Prop) (w w' : World δ) : Prop :=
  ∃ asked, w'.selects = w.selects ++ asked ∧ ∀ q ∈ asked.head?, Q q

/-- What holds of no statements, of one that may be asked, and of such lists together, holds of what some work asks. -/
theorem guarantee_selects [Engine δ] {P : List Select → Prop} (hnil : P []) (hone : ∀ q, Q q → P [q])
    (happend : ∀ xs ys, P xs → P ys → P (xs ++ ys)) : Guarantee Q (fun _ _ => True) fun w w' : World δ =>
      ∃ asked, w'.selects = w.selects ++ asked ∧ P asked := by
  have hsame : ∀ w w' : World δ, w'.actions = w.actions → ∃ asked, w'.selects = w.selects ++ asked ∧ P asked := by
    intro w w' h
    refine ⟨[], ?_, hnil⟩
    rw [World.selects, World.selects, h, List.append_nil]
  have hask : ∀ (w : World δ) (a : Action), (∀ q, a.select? = some q → Q q) →
      ∃ asked, World.selects { w with database := (Engine.perform a w.database).2, actions := w.actions.push a } =
        w.selects ++ asked ∧ P asked := by
    intro w a h
    refine ⟨a.select?.toList, ?_, ?_⟩
    · simp only [World.selects, Array.toList_push, List.filterMap_append, List.filterMap_cons, List.filterMap_nil]
      cases a.select? <;> rfl
    · cases ha : a.select? with
      | none => exact hnil
      | some q => exact hone q (h q ha)
  -- Only the steps that issue a statement matter; all others leave what was asked as it is.
  refine {
    refl := fun w _ => hsame w w rfl
    trans := ?_
    issue := ?_
    count := fun _ _ _ => hsame _ _ rfl
    grow := fun _ _ _ => hsame _ _ rfl
    set := fun _ _ _ _ _ => hsame _ _ rfl
    turn := ?_
    tell := fun _ _ => hsame _ _ rfl
    build := fun _ _ => hsame _ _ rfl
    use := fun _ _ => hsame _ _ rfl }
  · rintro w w' w'' _ ⟨asked, he, hasked⟩ ⟨more, he', hmore⟩
    refine ⟨asked ++ more, ?_, happend asked more hasked hmore⟩
    rw [he', he, List.append_assoc]
  · intro w s h
    refine hask w (.execute s) ?_
    intro q hq
    cases s with
    | select q' => exact Option.some.inj hq ▸ h
    | _ => cases hq
  · intro w a h
    refine hask w a ?_
    intro q hq
    cases a with
    | execute s => exact absurd rfl (h s)
    | _ => cases hq

theorem guarantee_asked [Engine δ] (Q : Select → Prop) :
    Guarantee Q (fun _ _ => True) (Asked Q : World δ → World δ → Prop) := by
  refine guarantee_selects nofun (fun q hq q' hq' => Option.some.inj hq' ▸ hq) ?_
  intro xs ys hxs hys
  cases xs with
  | nil => exact hys
  | cons x rest => exact hxs

/-- Work that may ask statements of a kind asks none but these. -/
theorem guarantee_asksOnly [Engine δ] (Q : Select → Prop) : Guarantee Q (fun _ _ => True) fun w w' : World δ =>
    ∃ asked, w'.selects = w.selects ++ asked ∧ ∀ q ∈ asked, Q q := by
  refine guarantee_selects nofun ?_ ?_
  · intro q hq q' hq'
    rwa [List.mem_singleton.mp hq']
  · intro xs ys hxs hys q hq
    exact (List.mem_append.mp hq).elim (hxs q) (hys q)

def Opens (Q : Select → Prop) (x : Run δ α) : Prop :=
  ∀ w, ∃ asked, (x.run.run w).2.selects = w.selects ++ asked ∧ (∀ q ∈ asked.head?, Q q) ∧
    ((x.run.run w).1.isOk = true → asked ≠ [])

theorem Opens.within {x : Run δ α} (h : Opens Q x) : Within (Asked Q) x := by
  intro w
  obtain ⟨asked, he, hfirst, _⟩ := h w
  exact ⟨asked, he, hfirst⟩

/-- Before it other work may be done that asks no statement. -/
theorem Opens.after {x : Run δ α} {f : α → Run δ β} (hx : Within (Asked fun _ => False) x)
    (hf : ∀ a, Yields x a → Opens Q (f a)) : Opens Q (x >>= f) := by
  intro w
  have hquiet : (x.run.run w).2.selects = w.selects := by
    obtain ⟨asked, he, hnone⟩ := hx w
    cases asked with
    | nil => rw [he, List.append_nil]
    | cons q rest => exact (hnone q rfl).elim
  rw [Gives.run_bind]
  cases h : x.run.run w with
  | mk outcome m =>
    rw [h] at hquiet
    cases outcome with
    | error e => exact ⟨[], by rw [hquiet, List.append_nil], nofun, nofun⟩
    | ok a =>
      have hopens := hf a ⟨w, m, h⟩ m
      rwa [show m.selects = w.selects from hquiet] at hopens

/-- After it any work may be done. -/
theorem Opens.before {x : Run δ α} {f : α → Run δ β} (hx : Opens Q x)
    (hf : ∀ a, Within (Asked fun _ => True) (f a)) : Opens Q (x >>= f) := by
  intro w
  obtain ⟨asked, he, hfirst, hsome⟩ := hx w
  rw [Gives.run_bind]
  cases h : x.run.run w with
  | mk outcome m =>
    rw [h] at he hsome
    cases outcome with
    | error e => exact ⟨asked, he, hfirst, nofun⟩
    | ok a =>
      obtain ⟨more, hmore, _⟩ := hf a m
      have hne : asked ≠ [] := hsome rfl
      refine ⟨asked ++ more, ?_, ?_, ?_⟩
      · rw [hmore, show m.selects = w.selects ++ asked from he, List.append_assoc]
      · cases asked with
        | nil => exact absurd rfl hne
        | cons q rest => exact hfirst
      · intro _ hnil
        exact hne (List.append_eq_nil_iff.mp hnil).1

variable [Engine δ]

theorem Opens.execute {q : Select} (h : Q q) : Opens Q (EntityViews.execute (.select q) : Run δ Answer) := by
  intro w
  refine ⟨[q], ?_, ?_, nofun⟩
  · exact (congrArg (List.filterMap Action.select?) (Array.toList_push ..)).trans (List.filterMap_append ..)
  · intro q' hq'
    rwa [← Option.some.inj hq']

theorem Opens.withConnection {body : Run δ α} (h : Opens Q body) : Opens Q (EntityViews.withConnection body) := by
  intro w
  obtain ⟨asked, he, hfirst⟩ := (guarantee_asked Q).withConnection h.within w
  refine ⟨asked, he, hfirst, ?_⟩
  intro hok
  -- If all succeeds, so does the body, which then has asked a statement.
  obtain ⟨a, hgives⟩ : ∃ a, Gives (EntityViews.withConnection body) w a
      ((EntityViews.withConnection body).run.run w).2 := by
    cases hrun : (EntityViews.withConnection body).run.run w with
    | mk outcome m =>
      rw [hrun] at hok
      cases outcome with
      | error e => cases hok
      | ok a => exact ⟨a, hrun⟩
  obtain ⟨w₁, w₂, ⟨before, hbefore, _⟩, hbody, ⟨after, hafter, _⟩⟩ :=
    (guarantee_asked fun _ => True).withConnection_gives hgives
  obtain ⟨own, hown, _, hsome⟩ := h w₁
  rw [show body.run.run w₁ = (.ok a, w₂) from hbody] at hown hsome
  have hne : own ≠ [] := hsome rfl
  have hasked : asked = before ++ own ++ after := by
    have hall : w.selects ++ asked = w.selects ++ (before ++ own ++ after) := by
      rw [← he, hafter, show w₂.selects = w₁.selects ++ own from hown, hbefore]
      simp only [List.append_assoc]
    exact List.append_cancel_left hall
  rw [hasked]
  simp [hne]

end Run

namespace Repository

variable {δ : Type} [Engine δ] {Q : Select → Prop}

/-- The first statement of a look-up is that for the root records. -/
theorem opens_find {s : Schema} {e : Entity} {filter orderBy : Value} {fields : Option (List String)}
    {populate : List String} {limit offset : Option Int}
    (h : ∀ sel : Select, sel.table.text = e.name → (∀ n, limit = some n → sel.page = .window n (offset.getD 0)) → Q sel) :
    Run.Opens Q (find s e filter fields populate orderBy limit offset : Run δ (List Node)) := by
  have G := Run.guarantee_asked (δ := δ) fun _ => True
  rw [find_eq]
  refine .after (abides_rootStatement (Run.guarantee_asked _).toDiscipline) ?_
  intro sel hsel
  obtain ⟨hlists, hpage⟩ := rootStatement_yields hsel
  refine .withConnection (.before (.before (.execute (h sel hlists.table hpage)) ?_) ?_)
  · exact fun _ => G.bind (G.lift _) fun _ _ => G.mapM _ fun _ => G.recordOfRow _ _
  · intro records
    split
    · exact G.bind (abides_populatePaths G.toDiscipline (fun _ _ _ => trivial) fun _ _ _ _ => trivial) fun _ _ => G.pure _
    · exact G.pure _

end Repository

def Plan.Sets (p : Plan) (name : String) : Prop :=
  (∃ path ∈ p.populate, (Text.splitLast '.' path).2 = name) ∨
    (∃ f ∈ p.filtered, ∃ path ∈ f.populate, (Text.splitLast '.' path).2 = name) ∨
    ∃ a ∈ p.annotations, a.annotator.field = name

namespace Execution

variable {δ : Type} [Engine δ] {Q : Select → Prop} {asks : Select → Prop} {touched : Nat → String → Prop}
  {R : World δ → World δ → Prop}

theorem within_plan (G : Run.Guarantee asks touched R) {sources : EntityFields} {view overrides : Value}
    {context : Context} {path : String} : Run.Within R (plan sources view context overrides path : Run δ Plan) :=
  G.bind (G.lift _) fun _ _ w => G.visit w _

theorem within_run (G : Run.Guarantee asks touched R) {s : Schema} {e : Entity} {p : Plan} {filter : Value}
    {sources : EntityFields} {context : Context} {paging : Paging} (ht : ∀ id name, p.Sets name → touched id name)
    (hroot : ∀ sel : Select, sel.Lists e (fun name => name = "id" ∨ name ∈ e.selection (some (Repository.ownFields p.fields)))
      [] → asks sel)
    (hfind : ∀ path ∈ p.populate, ∀ sel, Repository.Asks s e.name (some p.fields) path sel → asks sel)
    (hfiltered : ∀ f ∈ p.filtered, ∀ path ∈ f.populate, ∀ sel, Repository.Asks s e.name (some f.fields) path sel → asks sel) :
    Run.Within R (run (Repository.source s e) p filter sources context paging : Run δ (List Node)) := by
  have hpopulate : ∀ path ∈ p.populate, ∀ id, touched id (Text.splitLast '.' path).2 :=
    fun path hp id => ht id _ (Or.inl ⟨path, hp, rfl⟩)
  refine G.bind (Repository.within_find G hpopulate hroot hfind) fun _ _ => G.bind (G.forM _ ?_) fun _ _ =>
    G.bind (G.forM _ ?_) fun _ _ => G.pure _
  · intro f hf
    refine Repository.within_populate G ?_ (hfiltered f hf)
    exact fun path hp id => ht id _ (Or.inr (Or.inl ⟨f, hf, path, hp, rfl⟩))
  · intro a ha
    exact G.bind (within_recordsAt G) fun _ _ => within_annotate G fun id _ => ht id _ (Or.inr (Or.inr ⟨a, ha, rfl⟩))

/-- After the look-up of the root records come the relations under filters, then the annotators. -/
theorem opens_run {s : Schema} {e : Entity} {p : Plan} {filter : Value} {sources : EntityFields} {context : Context}
    {paging : Paging} (h : ∀ sel : Select, sel.table.text = e.name →
      (∀ n, paging.limit = some n → sel.page = .window n (paging.offset.getD 0)) → Q sel) :
    Run.Opens Q (run (Repository.source s e) p filter sources context paging : Run δ (List Node)) := by
  have G := Run.guarantee_asked (δ := δ) fun _ => True
  refine .before (Repository.opens_find h) ?_
  intro records
  refine G.bind (G.forM _ ?_) fun _ _ => G.bind (G.forM _ ?_) fun _ _ => G.pure _
  · intro f _
    exact Repository.within_populate G (fun _ _ _ => trivial) fun _ _ _ _ => trivial
  · intro a _
    exact G.bind (within_recordsAt G) fun _ _ => within_annotate G fun _ _ => trivial

end Execution

namespace Resolver

variable {δ : Type} [Engine δ]

/-- With an upper bound on pages every limit is at most this bound, and it is negative only if a negative limit was asked
for. -/
theorem cappedLimit_some {most : Int} (hm : 0 ≤ most) (limit : Option Int) :
    ∃ bound, cappedLimit (some most) limit = some bound ∧ bound ≤ most ∧ (0 ≤ bound ↔ ∀ n ∈ limit, 0 ≤ n) := by
  cases limit with
  | none =>
    refine ⟨most, rfl, Int.le_refl most, ?_⟩
    simp [hm]
  | some n =>
    refine ⟨min n most, rfl, by omega, ?_⟩
    simp only [Option.mem_some, forall_eq']
    omega

/-- The first statement of a resolution asks for records of the entity, with a limit of at most the size of a page; that
limit is not negative if and only if none was given that is. A resolution that gives records has asked this. -/
theorem resolve_capped (s : Schema) {most : Int} (hm : 0 ≤ most) (entity : String) (filter view overrides : Value)
    (context : Context) (paging : Paging) (w : World δ) :
    ∃ asked, (((s.resolver (some most)).resolve entity filter view context overrides paging).run.run w).2.selects =
        w.selects ++ asked ∧
      ((((s.resolver (some most)).resolve entity filter view context overrides paging).run.run w).1.isOk = true →
        asked ≠ []) ∧
      ∀ q ∈ asked.head?, q.table.text = entity ∧ ∃ bound offset, q.page = .window bound offset ∧
        q.params = Select.whereParams q.clauses ++ [.int bound, .int offset] ∧
        bound ≤ most ∧ (0 ≤ bound ↔ ∀ n ∈ paging.limit, 0 ≤ n) := by
  have G := Run.guarantee_asked (δ := δ) fun _ => False
  obtain ⟨bound, hbound, hle, hneg⟩ := cappedLimit_some hm paging.limit
  have hopens : Run.Opens (fun q => q.table.text = entity ∧ q.page = .window bound (paging.offset.getD 0))
      ((s.resolver (some most)).resolve entity filter view context overrides paging : Run δ (List Node)) := by
    -- Fields, entity and plan are had without asking for anything, so that the root records are asked for first.
    refine .after (G.fetchFields entity) ?_
    intro sources _
    have hopen : Run.Within (Run.Asked fun _ => False) (s.open entity : Run δ Entity) := by
      unfold Schema.open
      split
      · exact G.bind (fun w => G.use w _) fun _ _ => G.pure _
      · exact G.throw _
    refine .after (G.bind hopen fun _ _ => G.pure _) ?_
    rintro source ⟨_, _, hsource⟩
    obtain ⟨e, _, he, hsource⟩ := Gives.bind_iff.mp hsource
    obtain ⟨rfl, _⟩ := Gives.pure_iff.mp hsource
    have hname : e.name = entity := by
      unfold Schema.open at he
      split at he
      · rename_i e' hentity
        obtain ⟨_, _, _, hpure⟩ := Gives.bind_iff.mp he
        obtain ⟨rfl, _⟩ := Gives.pure_iff.mp hpure
        exact Schema.name_of_entity? hentity
      · exact (Gives.throw_iff.mp he).elim
    refine .after (Execution.within_plan G) ?_
    intro p _
    refine Execution.opens_run ?_
    intro sel htable hpage
    exact ⟨htable.trans hname, hpage bound hbound⟩
  obtain ⟨asked, he, hfirst, hsome⟩ := hopens w
  refine ⟨asked, he, hsome, ?_⟩
  intro q hq
  obtain ⟨htable, hpage⟩ := hfirst q hq
  refine ⟨htable, bound, paging.offset.getD 0, hpage, ?_, hle, hneg⟩
  rw [Select.params, hpage]
  rfl

def noRows : Contents := .ofTables []

def languages (limit : Option Int) : Run (Snapshot noRows) (List Node) :=
  (Learning.schema.resolver (some 2)).resolve "Language" .null (.list [.text "code"]) ⟨.anonymous, false, []⟩ .null
    ⟨.null, limit, none⟩

/-- Of ten languages that are asked for a page has two. -/
theorem resolve_capped_tenLanguages :
    ∃ q, ((languages (some 10)).run.run (.start ⟨⟩ Learning.registry)).2.selects.head? = some q ∧
      q.table.text = "Language" ∧ ∃ bound offset, q.page = .window bound offset ∧ 0 ≤ bound ∧ bound ≤ 2 := by
  obtain ⟨asked, he, hsome, hfirst⟩ := resolve_capped (δ := Snapshot noRows) Learning.schema (by decide : (0 : Int) ≤ 2)
    "Language" .null (.list [.text "code"]) .null ⟨.anonymous, false, []⟩ ⟨.null, some 10, none⟩
    (.start ⟨⟩ Learning.registry)
  have hok : ((languages (some 10)).run.run (.start ⟨⟩ Learning.registry)).1.isOk = true := by decide +kernel
  have hasked : ((languages (some 10)).run.run (.start ⟨⟩ Learning.registry)).2.selects = asked := he
  cases asked with
  | nil => exact absurd rfl (hsome hok)
  | cons q rest =>
    obtain ⟨htable, bound, offset, hpage, _, hle, hneg⟩ := hfirst q rfl
    refine ⟨q, by rw [hasked, List.head?_cons], htable, bound, offset, hpage, hneg.mpr ?_, hle⟩
    intro n hn
    cases hn
    decide

def asksAllLanguages : List Select → Bool
  | [⟨table, _, _, _, [], _, .window bound offset⟩] => table.text == "Language" && bound == -1 && offset == 0
  | _ => false

/-- A negative limit is less than the size of a page, and so it is bound as it is: it lets all languages through. -/
theorem resolve_uncapped_negativeLimit :
    ∃ (roots : List Node) (w' : World (Snapshot noRows)) (q : Select),
      Gives (languages (some (-1))) (.start ⟨⟩ Learning.registry) roots w' ∧ w'.selects = [q] ∧
      q.table.text = "Language" ∧ q.params = [.int (-1), .int 0] ∧
      ∃ bound, q.page = .window bound 0 ∧ ¬(0 ≤ bound ∧ bound ≤ 2) := by
  obtain ⟨roots, w', h, hcheck⟩ : ∃ (roots : List Node) (w' : World (Snapshot noRows)),
      Gives (languages (some (-1))) (.start ⟨⟩ Learning.registry) roots w' ∧ asksAllLanguages w'.selects = true :=
    Gives.of_check (by decide +kernel)
  unfold asksAllLanguages at hcheck
  split at hcheck
  · rename_i table row joins outputs order bound offset hselects
    simp only [Bool.and_eq_true, beq_iff_eq] at hcheck
    obtain ⟨⟨htable, rfl⟩, rfl⟩ := hcheck
    exact ⟨roots, w', _, h, hselects, htable, rfl, -1, rfl, by decide⟩
  · cases hcheck

end Resolver

end EntityViews
