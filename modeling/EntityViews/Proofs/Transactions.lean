import EntityViews.Proofs.Sessions

/-!
The operations on a database, each of which is done within one connection. Main statements: an operation commits if and only
if its connection is set up and all of its work succeeds, and what goes wrong is rolled back and passed on; and a connection
that is opened is closed once, as the last that is done with it, if and only if it can be set up.
-/

namespace EntityViews

open Sql Run

variable {δ α : Type} [Engine δ] {w w' : World δ} {log : List Reply}

/-- What a database is used for at once: by words, by tables, and by the repository of an entity. -/
inductive Operation
  | fetchAll (sql : String) (params : List Value)
  | insert (table : String) (data : List (Value × Value))
  | createTable (e : Entity)
  | tableExists (name : String)
  | find (s : Schema) (e : Entity) (filter : Value) (fields : Option (List String)) (populate : List String)
    (orderBy : Value) (limit offset : Option Int)
  | populate (s : Schema) (entity : String) (records : List Node) (paths : List String) (filter : Value)
    (fields : Option (List String))
  | count (s : Schema) (e : Entity) (filter : Value)
  | create (table : String) (data : List (Value × Value))

namespace Operation

def Made : Operation → Type
  | fetchAll .. | find .. => List Node
  | insert .. | count .. | create .. => Int
  | createTable _ | populate .. => Unit
  | tableExists _ => Bool

def Result : Operation → Type
  | create .. => Node
  | o => o.Made

/-- What the operation does, as the library has it. -/
def perform : (o : Operation) → Run δ o.Result
  | fetchAll sql params => Database.fetchAll sql params
  | insert table data => Database.insert table data
  | createTable e => Database.createTable e
  | tableExists name => Database.tableExists name
  | find s e filter fields paths orderBy limit offset => Repository.find s e filter fields paths orderBy limit offset
  | populate s entity records paths filter fields => Repository.populate s entity records paths filter fields
  | count s e filter => Repository.count s e filter
  | create table data => Repository.create table data

def insertion (table : String) (data : List (Value × Value)) : Run δ (Run δ Int) := do
  let columns ← data.mapM fun e => Database.columnName e.1
  let values ← data.mapM fun e => e.2.toCell
  let table ← Name.make? table
  return do
    let answer ← execute (.insert table columns values)
    match lookup? (.text "id") data with
    | some id => id.wholeNumber
    | none => return answer.lastId

def prepare : (o : Operation) → Run δ (o.Made ⊕ Run δ o.Made)
  -- Nothing is to be done if the result is known already.
  | fetchAll sql params => return .inr do
    let answer ← execute (.raw sql params)
    (← answer.namedRows).mapM Run.newRecordOf
  | insert table data | create table data => do return .inr (← insertion table data)
  | createTable e => do
    let name ← Name.make? e.name
    let columns ← Database.definitions e
    return .inr do
      let _ ← execute (.createTable name columns)
      (e.columns.filter fun c => c.indexed || c.type.isRef).forM fun c => do
        let _ ← execute (.createIndex name (← Name.make? c.name))
  | tableExists name => return .inr do
    let answer ← execute (.tableExists name)
    return !(← answer.rows).isEmpty
  | find s e filter fields paths orderBy limit offset => do
    let statement ← Repository.rootStatement s e filter fields orderBy limit offset
    return .inr do
      let records ← fetchRecords e statement
      if !paths.isEmpty && !records.isEmpty then
        Repository.populatePaths s e.name records paths fields .null none
      return records
  | populate s entity records paths filter fields =>
    match paths with
    | [] => return .inl ⟨⟩
    | first :: _ =>
      if records.isEmpty then return .inl ⟨⟩
      else return .inr (Repository.populatePaths s entity records paths fields filter (some first))
  | count s e filter => do
    let q ← Query.start e Loader.mainRow
    let q ← Run.compile (q.filtered s filter)
    return .inr do
      let answer ← execute (.count q.buildCount)
      match ← answer.rows with
      | [] => throw .mistyped
      | [] :: _ => throw .absentItem
      | (v :: _) :: _ => v.wholeNumber

def finish : (o : Operation) → o.Made → Run δ o.Result
  | create _ data => fun id => Run.newRecordOf (assign (.text "id") (.int id) data)
  | fetchAll .. | insert .. | createTable _ | tableExists _ | find .. | populate .. | count .. => pure

/-- An operation prepares its work, does it within one connection and makes its result of what this gives. -/
theorem perform_eq (o : Operation) : (o.perform : Run δ o.Result) = o.prepare >>= fun
    | .inl made => o.finish made
    | .inr body => withConnection body >>= o.finish := by
  cases o with
  | fetchAll sql params => exact (bind_pure _).symm
  | insert table data =>
    simp only [perform, prepare, finish, insertion, Database.insert, bind_assoc, pure_bind]
    exact bind_congr fun _ => bind_congr fun _ => bind_congr fun _ => (bind_pure _).symm
  | createTable e =>
    simp only [perform, prepare, finish, Database.createTable, bind_assoc, pure_bind]
    exact bind_congr fun _ => bind_congr fun _ => (bind_pure _).symm
  | tableExists name => exact (bind_pure _).symm
  | find s e filter fields paths orderBy limit offset =>
    simp only [perform, prepare, finish, Repository.find_eq, bind_assoc, pure_bind]
    exact bind_congr fun _ => (bind_pure _).symm
  | populate s entity records paths filter fields =>
    simp only [perform, prepare, finish, Repository.populate]
    cases paths with
    | nil => rfl
    | cons first rest =>
      by_cases h : records.isEmpty
      · simp only [h, if_true]
        rfl
      · simp only [h]
        exact (bind_pure _).symm
  | count s e filter =>
    simp only [perform, prepare, finish, Repository.count, bind_assoc, pure_bind]
    exact bind_congr fun _ => bind_congr fun _ => (bind_pure _).symm
  | create table data =>
    simp only [perform, prepare, finish, insertion, Repository.create, Database.insert, bind_assoc, pure_bind]
    rfl

theorem silent_insertion (table : String) (data : List (Value × Value)) :
    Abides Silent (insertion table data : Run δ (Run δ Int)) := by
  have D := discipline_silent (δ := δ)
  exact D.bind (D.mapM _ fun _ => D.lift _) fun _ _ => D.bind (D.mapM _ fun _ => D.lift _) fun _ _ =>
    D.bind (D.lift _) fun _ _ => D.pure _

/-- To prepare an operation sends nothing to the database. -/
theorem silent_prepare (o : Operation) : Abides Silent (o.prepare : Run δ (o.Made ⊕ Run δ o.Made)) := by
  have D := discipline_silent (δ := δ)
  cases o with
  | fetchAll | tableExists => exact D.pure _
  | insert table data | create table data => exact D.bind (silent_insertion table data) fun _ _ => D.pure _
  | createTable e => exact D.bind (D.lift _) fun _ _ => D.bind (D.lift _) fun _ _ => D.pure _
  | find => exact D.bind (Repository.abides_rootStatement D) fun _ _ => D.pure _
  | populate s entity records paths filter fields =>
    dsimp only [prepare]
    split
    · exact D.pure _
    · split
      · exact D.pure _
      · exact D.pure _
  | count => exact D.bind (D.lift _) fun _ _ => D.bind (D.compile _) fun _ _ => D.pure _

omit [Engine δ] in
theorem finish_run (o : Operation) (made : o.Made) (w : World δ) :
    Silent w none ((o.finish made).run.run w).2 ∧ failure? ((o.finish made).run.run w).1 = none := by
  cases o <;> exact ⟨⟨rfl, rfl⟩, rfl⟩

/-- Work that an insertion comes to issues statements only. -/
theorem insertion_yields {table : String} {data : List (Value × Value)} {body : Run δ Int}
    (h : Yields (insertion table data) body) : Abides Issues body := by
  have D := discipline_issues (δ := δ)
  obtain ⟨w, w', h⟩ := h
  obtain ⟨columns, _, _, h⟩ := Gives.bind_iff.mp h
  obtain ⟨values, _, _, h⟩ := Gives.bind_iff.mp h
  obtain ⟨name, _, _, h⟩ := Gives.bind_iff.mp h
  obtain ⟨rfl, _⟩ := Gives.pure_iff.mp h
  refine D.bind (D.execute trivial) fun answer _ => ?_
  split
  · exact D.lift _
  · exact D.pure _

/-- What an operation does on its connection is to issue statements, up to the first that fails. -/
theorem prepare_yields {o : Operation} {body : Run δ o.Made} (h : Yields o.prepare (.inr body)) : Abides Issues body := by
  have D := discipline_issues (δ := δ)
  obtain ⟨w, w', h⟩ := h
  -- What is left once an operation is prepared only issues statements: all that could fail without one has been done.
  cases o with
  | fetchAll sql params =>
    obtain ⟨hbody, _⟩ := Gives.pure_iff.mp h
    obtain rfl := Sum.inr.inj hbody
    exact D.bind (D.execute trivial) fun _ _ => D.bind (D.lift _) fun _ _ => D.mapM _ fun _ => D.newRecordOf _
  | insert table data | create table data =>
    obtain ⟨b, m, hinsertion, h⟩ := Gives.bind_iff.mp h
    obtain ⟨hbody, _⟩ := Gives.pure_iff.mp h
    obtain rfl := Sum.inr.inj hbody
    exact insertion_yields ⟨_, _, hinsertion⟩
  | createTable e =>
    obtain ⟨name, _, _, h⟩ := Gives.bind_iff.mp h
    obtain ⟨columns, _, _, h⟩ := Gives.bind_iff.mp h
    obtain ⟨hbody, _⟩ := Gives.pure_iff.mp h
    obtain rfl := Sum.inr.inj hbody
    exact D.bind (D.execute trivial) fun _ _ => D.forM _ fun _ _ => D.bind (D.lift _) fun _ _ =>
      D.bind (D.execute trivial) fun _ _ => D.pure _
  | tableExists name =>
    obtain ⟨hbody, _⟩ := Gives.pure_iff.mp h
    obtain rfl := Sum.inr.inj hbody
    exact D.bind (D.execute trivial) fun _ _ => D.bind (D.lift _) fun _ _ => D.pure _
  | find s e filter fields paths orderBy limit offset =>
    obtain ⟨statement, _, _, h⟩ := Gives.bind_iff.mp h
    obtain ⟨hbody, _⟩ := Gives.pure_iff.mp h
    obtain rfl := Sum.inr.inj hbody
    refine D.bind (D.fetchRecords _ trivial) fun records _ => ?_
    split
    · exact D.bind (Repository.abides_populatePaths D (fun _ _ _ => trivial) fun _ _ _ _ => trivial) fun _ _ => D.pure _
    · exact D.pure _
  | populate s entity records paths filter fields =>
    dsimp only [prepare] at h
    split at h
    · cases (Gives.pure_iff.mp h).1
    · split at h
      · cases (Gives.pure_iff.mp h).1
      · obtain rfl := Sum.inr.inj (Gives.pure_iff.mp h).1
        exact Repository.abides_populatePaths D (fun _ _ _ => trivial) fun _ _ _ _ => trivial
  | count s e filter =>
    obtain ⟨q, _, _, h⟩ := Gives.bind_iff.mp h
    obtain ⟨q', _, _, h⟩ := Gives.bind_iff.mp h
    obtain ⟨hbody, _⟩ := Gives.pure_iff.mp h
    obtain rfl := Sum.inr.inj hbody
    refine D.bind (D.execute trivial) fun answer _ => D.bind (D.lift _) fun rows _ => ?_
    split
    · exact D.throw _
    · exact D.throw _
    · exact D.lift _

/-- Whether an operation asks for nothing if it fails beforehand or its result is known, and else keeps to some rules on its
one connection, by the work that is to be done there. -/
def Follows (o : Operation) (rules : Run δ o.Made → World δ → List Reply → Option Fault → Prop) (w : World δ)
    (log : List Reply) (failure : Option Fault) : Prop :=
  match (o.prepare : Run δ (o.Made ⊕ Run δ o.Made)).run.run w with
  | (.error e, _) => log = [] ∧ failure = some e
  | (.ok (.inl _), _) => log = [] ∧ failure = none
  | (.ok (.inr body), m) => Silent w none m ∧ rules body m log failure

theorem Follows.mono {o : Operation} {rules rules' : Run δ o.Made → World δ → List Reply → Option Fault → Prop}
    {failure : Option Fault} (hrules : ∀ body m, rules body m log failure → rules' body m log failure)
    (h : o.Follows rules w log failure) : o.Follows rules' w log failure := by
  unfold Follows at h ⊢
  split at h
  · exact h
  · exact h
  · exact ⟨h.1, hrules _ _ h.2⟩

/-- An operation is performed in one session, or ends before one is begun. -/
theorem perform_session (o : Operation) (w : World δ) : ∃ log,
    w.Logs log ((o.perform : Run δ o.Result).run.run w).2 ∧
      o.Follows (fun body m log failure => ∃ outcome, Session body m log outcome ∧ failure? outcome = failure) w log
        (failure? ((o.perform : Run δ o.Result).run.run w).1) := by
  have hsilent := silent_prepare o w
  rw [perform_eq, Gives.run_bind]
  unfold Follows
  cases hprepare : (o.prepare : Run δ (o.Made ⊕ Run δ o.Made)).run.run w with
  | mk outcome m =>
    rw [hprepare] at hsilent
    cases outcome with
    -- It fails before there is a connection.
    | error e => exact ⟨[], .unasked hsilent.1 hsilent.2, rfl, rfl⟩
    | ok plan =>
      cases plan with
      -- Its result is known without a connection.
      | inl made =>
        obtain ⟨hfinish, hfailure⟩ := finish_run o made m
        exact ⟨[], .unasked (hfinish.1.trans hsilent.1) (hfinish.2.trans hsilent.2), rfl, hfailure⟩
      -- All that is asked for is asked within the session: neither before it nor after it is there more.
      | inr body =>
        obtain ⟨log, hlogs, hsession⟩ := withConnection_session (prepare_yields ⟨w, m, hprepare⟩) m
        have hall := (World.Logs.unasked hsilent.1 hsilent.2).trans hlogs
        refine ⟨log, ?_⟩
        dsimp only
        rw [Gives.run_bind]
        cases hrun : (withConnection body).run.run m with
        | mk outcome m' =>
          rw [hrun] at hall hsession
          cases outcome with
          | error e => exact ⟨hall, hsilent, _, hsession, rfl⟩
          | ok made =>
            obtain ⟨hfinish, hfailure⟩ := finish_run o made m'
            have hrest := hall.trans (.unasked hfinish.1 hfinish.2)
            rw [List.nil_append, List.append_nil] at hrest
            exact ⟨hrest, hsilent, _, hsession, hfailure.symm⟩

/-- Every operation keeps the rules of transactions: it commits if and only if its connection is set up and all of its work
succeeds; what goes wrong within it leads to a rollback and is passed on; and nothing is done after either but to close. -/
theorem perform_transacts (o : Operation) (w : World δ) : ∃ log,
    w.Logs log ((o.perform : Run δ o.Result).run.run w).2 ∧
      o.Follows Transacted w log (failure? ((o.perform : Run δ o.Result).run.run w).1) := by
  obtain ⟨log, hlogs, h⟩ := o.perform_session w
  refine ⟨log, hlogs, h.mono ?_⟩
  rintro body m ⟨outcome, hsession, hfailure⟩
  exact hfailure ▸ hsession.transacted

end Operation

/-! Connections that are opened and closed. -/

def Connection (part : List Reply) : Prop :=
  ∃ opened rest, part = ⟨.connect, opened⟩ :: rest ∧ ∀ r ∈ rest, r.action ≠ .connect

namespace Connection

def Opened (part : List Reply) : Prop := ∃ r ∈ part, r.action = .connect ∧ r.outcome.isOk = true

def SetUp (part : List Reply) : Prop := ∃ r ∈ part, r.action = .execute .foreignKeys ∧ r.outcome.isOk = true

def Closed (part : List Reply) : Prop :=
  ∃ before closed, part = before ++ [⟨.close, closed⟩] ∧ ∀ r ∈ before, r.action ≠ .close

/-- Whether a connection that is opened is closed, if it can be set up; else it is not closed at all. -/
def Ends (part : List Reply) : Prop :=
  Opened part → (SetUp part → Closed part) ∧ (¬ SetUp part → ∀ r ∈ part, r.action ≠ .close)

end Connection

open Connection

/-- A connection that is set up and closed after work on it. -/
theorem Connection.of_closed {a b : Answer} {closed : Except Fault Answer} {between : List Reply}
    (h : ∀ r ∈ between, r.action ≠ .connect ∧ r.action ≠ .close) :
    Connection ([⟨.connect, .ok a⟩, ⟨.execute .foreignKeys, .ok b⟩] ++ between ++ [⟨.close, closed⟩]) ∧
      Ends ([⟨.connect, .ok a⟩, ⟨.execute .foreignKeys, .ok b⟩] ++ between ++ [⟨.close, closed⟩]) := by
  refine ⟨⟨.ok a, ⟨.execute .foreignKeys, .ok b⟩ :: (between ++ [⟨.close, closed⟩]), rfl, ?_⟩, fun _ => ⟨fun _ => ?_, ?_⟩⟩
  · intro r hr
    rcases List.mem_cons.mp hr with rfl | hr
    · nofun
    · rcases List.mem_append.mp hr with hr | hr
      · exact (h r hr).1
      · rw [List.mem_singleton.mp hr]
        nofun
  · refine ⟨_, closed, rfl, ?_⟩
    intro r hr
    rcases List.mem_append.mp hr with hr | hr
    · rcases List.mem_pair.mp hr with rfl | rfl <;> nofun
    · exact (h r hr).2
  · intro hset
    refine absurd ⟨⟨.execute .foreignKeys, .ok b⟩, ?_, rfl, rfl⟩ hset
    exact List.mem_append_left _ (List.mem_append_left _ (List.mem_cons_of_mem _ List.mem_cons_self))

/-- What is issued between the ends of a connection neither opens nor closes one. -/
theorem Issued.between {failure : Option Fault} (h : Issued log failure) {more : List Reply}
    (hmore : ∀ r ∈ more, r.action ≠ .connect ∧ r.action ≠ .close) :
    ∀ r ∈ log ++ more, r.action ≠ .connect ∧ r.action ≠ .close := by
  intro r hr
  rcases List.mem_append.mp hr with hr | hr
  · obtain ⟨s, hs⟩ := h.1 r hr
    rw [hs]
    exact ⟨nofun, nofun⟩
  · exact hmore r hr

/-- A session is a connection with its ends. -/
theorem Session.ends {body : Run δ α} {outcome : Except Fault α} (h : Session body w log outcome) :
    Connection log ∧ Ends log := by
  cases h with
  | unopened hset =>
    refine ⟨⟨_, [], rfl, List.forall_mem_nil _⟩, ?_⟩
    rintro ⟨r, hr, _, hok⟩
    rw [List.mem_singleton.mp hr] at hok
    cases hok
  | unset hset =>
    refine ⟨⟨_, _, rfl, List.forall_mem_singleton.mpr nofun⟩, fun _ => ⟨?_, fun _ => ?_⟩⟩
    · rintro ⟨r, hr, hkeys, hok⟩
      rcases List.mem_pair.mp hr with rfl | rfl
      · cases hkeys
      · cases hok
    · intro r hr
      rcases List.mem_pair.mp hr with rfl | rfl <;> nofun
  | @failed _ _ _ _ _ done undone closed _ _ hissued =>
    have hbetween : ∀ r ∈ done ++ [⟨.rollback, undone⟩], r.action ≠ .connect ∧ r.action ≠ .close :=
      hissued.between (by simp)
    simpa only [List.append_assoc, List.singleton_append] using Connection.of_closed hbetween
  | @uncommitted _ _ _ e _ _ done undone closed _ _ hissued =>
    have hbetween : ∀ r ∈ done ++ [⟨.commit, .error e⟩, ⟨.rollback, undone⟩], r.action ≠ .connect ∧ r.action ≠ .close :=
      hissued.between (by simp)
    simpa only [List.append_assoc, List.cons_append, List.nil_append] using Connection.of_closed hbetween
  | @committed _ _ c _ _ _ done closed _ _ hissued =>
    have hbetween : ∀ r ∈ done ++ [⟨.commit, .ok c⟩], r.action ≠ .connect ∧ r.action ≠ .close := hissued.between (by simp)
    simpa only [List.append_assoc, List.singleton_append] using Connection.of_closed hbetween

/-- Whether all that is asked for between two states is done on connections of a kind, one after the other. -/
def World.Connects (P : List Reply → Prop) (w w' : World δ) : Prop :=
  ∃ parts : List (List Reply), w.Logs parts.flatten w' ∧ ∀ part ∈ parts, Connection part ∧ P part

theorem Run.discipline_connects (P : List Reply → Prop) : Discipline (fun _ => False) (fun _ _ => True)
    fun (w : World δ) _ w' => w.Connects P w' := by
  have hunasked : ∀ w w' : World δ, w'.actions = w.actions → w'.database = w.database → w.Connects P w' :=
    fun w w' hactions hdatabase => ⟨[], .unasked hactions hdatabase, List.forall_mem_nil _⟩
  exact {
    refl := fun w _ => hunasked w w rfl rfl
    trans := by
      rintro w w' w'' _ ⟨parts, hlogs, h⟩ ⟨more, hmore, h'⟩
      refine ⟨parts ++ more, ?_, fun part hpart => (List.mem_append.mp hpart).elim (h part) (h' part)⟩
      rw [List.flatten_append]
      exact hlogs.trans hmore
    issue := fun _ _ h => h.elim
    count := fun _ _ _ => hunasked _ _ rfl rfl
    grow := fun _ _ _ => hunasked _ _ rfl rfl
    set := fun _ _ _ _ _ => hunasked _ _ rfl rfl }

/-- All that an operation sends goes through connections that end. -/
theorem Operation.connects (o : Operation) : Within (World.Connects Ends) (o.perform : Run δ o.Result) := by
  intro w
  obtain ⟨log, hlogs, h⟩ := o.perform_session w
  unfold Follows at h
  split at h
  · obtain ⟨rfl, _⟩ := h
    exact ⟨[], hlogs, List.forall_mem_nil _⟩
  · obtain ⟨rfl, _⟩ := h
    exact ⟨[], hlogs, List.forall_mem_nil _⟩
  · obtain ⟨_, outcome, hsession, _⟩ := h
    refine ⟨[log], ?_, List.forall_mem_singleton.mpr hsession.ends⟩
    rwa [List.flatten_singleton]

/-- Whatever is asked of a database, a connection that is opened is closed exactly once, as the last that is done with it, if
it can be set up; a connection that cannot be set up is left open. -/
theorem Database.connections_end : (∀ o : Operation, Within (World.Connects Ends) (o.perform : Run δ o.Result)) ∧
    ∀ entities, Within (World.Connects Ends) (Database.createAll entities : Run δ (List String)) := by
  refine ⟨Operation.connects, ?_⟩
  intro entities
  have D := discipline_connects (δ := δ) Ends
  refine D.bind (D.mapM _ ?_) fun _ _ => D.pure _
  intro e
  exact D.bind (Operation.connects (.tableExists e.name)) fun _ _ =>
    D.bind (Operation.connects (.createTable e)) fun _ _ => D.pure _

structure Locked where

instance : Engine Locked where
  perform
    | .execute .foreignKeys, d => (.error (.database "OperationalError" "database is locked"), d)
    | _, d => (.ok .empty, d)

/-- Looking for a table in a locked database leaves a connection open. -/
theorem Database.not_connections_close_locked : ¬ Within (World.Connects fun part => Opened part → Closed part)
    (Database.tableExists "Text" : Run Locked Bool) := by
  intro h
  obtain ⟨parts, ⟨hactions, hreplies⟩, hparts⟩ := h (.start ⟨⟩ .empty)
  have hasked : parts.flatten.map Reply.action = [.connect, .execute .foreignKeys] := hactions.symm
  have hlog : parts.flatten = [⟨.connect, .ok .empty⟩,
      ⟨.execute .foreignKeys, .error (.database "OperationalError" "database is locked")⟩] :=
    hreplies.unique (.cons .connect (.cons (.execute .foreignKeys) (.nil _))) hasked
  obtain ⟨part, hpart, hopened⟩ := List.mem_flatten.mp (hlog ▸ List.mem_cons_self)
  obtain ⟨before, closed, rfl, _⟩ := (hparts part hpart).2 ⟨_, hopened, rfl, rfl⟩
  -- The connection would have been closed, but nothing was asked for after its settings failed.
  have hclosed : ⟨.close, closed⟩ ∈ parts.flatten :=
    List.mem_flatten.mpr ⟨_, hpart, List.mem_append_right _ List.mem_cons_self⟩
  rw [hlog] at hclosed
  rcases List.mem_pair.mp hclosed with hclosed | hclosed <;> cases hclosed

end EntityViews
