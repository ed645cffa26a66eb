import EntityViews.Proofs.Roots

/-!
Connections from their setup to their end. Main statements: work within a connection that only issues statements goes one of
five ways, which tell all that the database is asked for; and in each of them the rules of transactions are kept.
-/

namespace EntityViews

open Sql

/-- Something that a database was asked for, and what came of it. -/
structure Reply where
  action : Action
  outcome : Except Fault Answer

inductive Engine.Replies {δ : Type} [Engine δ] : δ → List Reply → δ → Prop
  | nil (d : δ) : Replies d [] d
  | cons (a : Action) {d d' : δ} {log : List Reply} :
    Replies (Engine.perform a d).2 log d' → Replies d (⟨a, (Engine.perform a d).1⟩ :: log) d'

theorem Engine.Replies.append {δ : Type} [Engine δ] {d d' d'' : δ} {log more : List Reply}
    (h : Engine.Replies d log d') (h' : Engine.Replies d' more d'') : Engine.Replies d (log ++ more) d'' := by
  induction h with
  | nil => exact h'
  | cons a _ ih => exact .cons a (ih h')

/-- The actions alone tell what was replied to them. -/
theorem Engine.Replies.unique {δ : Type} [Engine δ] {d d' d'' : δ} {log log' : List Reply} (h : Engine.Replies d log d')
    (h' : Engine.Replies d log' d'') (he : log.map Reply.action = log'.map Reply.action) : log = log' := by
  induction h generalizing log' with
  | nil => exact (List.map_eq_nil_iff.mp he.symm).symm
  | cons a _ ih =>
    cases h' with
    | nil => cases he
    | cons b h' =>
      obtain ⟨rfl, hrest⟩ := List.cons.inj he
      rw [ih h' hrest]

variable {δ α β : Type} [Engine δ] {w w' w'' : World δ} {log more : List Reply}

def World.Logs (w : World δ) (log : List Reply) (w' : World δ) : Prop :=
  w'.actions.toList = w.actions.toList ++ log.map Reply.action ∧ Engine.Replies w.database log w'.database

namespace World.Logs

theorem unasked (hactions : w'.actions = w.actions) (hdatabase : w'.database = w.database) : w.Logs [] w' := by
  refine ⟨?_, hdatabase ▸ .nil _⟩
  rw [hactions, List.map_nil, List.append_nil]

protected theorem trans (h : w.Logs log w') (h' : w'.Logs more w'') : w.Logs (log ++ more) w'' := by
  refine ⟨?_, h.2.append h'.2⟩
  rw [h'.1, h.1, List.map_append, List.append_assoc]

theorem asked (w : World δ) (a : Action) : w.Logs [⟨a, (Engine.perform a w.database).1⟩] (w.after a) :=
  ⟨Array.toList_push .., .cons a (.nil _)⟩

end World.Logs

/-- Whether a log is one of statements that work issues up to its end: if one of them fails, it is the last, and its fault is
what the work fails with. -/
def Issued (log : List Reply) (failure : Option Fault) : Prop :=
  (∀ r ∈ log, ∃ s, r.action = .execute s) ∧
    ((∀ r ∈ log, r.outcome.isOk = true) ∨
      ∃ before s e, log = before ++ [⟨.execute s, .error e⟩] ∧ (∀ r ∈ before, r.outcome.isOk = true) ∧ failure = some e)

theorem Issued.nil (failure : Option Fault) : Issued [] failure := ⟨List.forall_mem_nil _, .inl (List.forall_mem_nil _)⟩

theorem Issued.all_ok (h : Issued log none) : ∀ r ∈ log, r.outcome.isOk = true := by
  obtain h | ⟨_, _, _, _, _, hnone⟩ := h.2
  · exact h
  · cases hnone

theorem Issued.append {failure : Option Fault} (h : Issued log none) (h' : Issued more failure) :
    Issued (log ++ more) failure := by
  refine ⟨fun r hr => (List.mem_append.mp hr).elim (h.1 r) (h'.1 r), ?_⟩
  obtain hok | ⟨before, s, e, rfl, hbefore, hfailure⟩ := h'.2
  · exact .inl fun r hr => (List.mem_append.mp hr).elim (h.all_ok r) (hok r)
  · refine .inr ⟨log ++ before, s, e, (List.append_assoc ..).symm, ?_, hfailure⟩
    exact fun r hr => (List.mem_append.mp hr).elim (h.all_ok r) (hbefore r)

namespace Run

def Issues (w : World δ) (failure : Option Fault) (w' : World δ) : Prop := ∃ log, w.Logs log w' ∧ Issued log failure

def Silent (w : World δ) (_ : Option Fault) (w' : World δ) : Prop := w'.actions = w.actions ∧ w'.database = w.database

/-- Every step of work adds the replies to its statements to the log. -/
theorem discipline_issues :
    Discipline (fun _ => True) (fun _ _ => True) (Issues : World δ → Option Fault → World δ → Prop) := by
  have hunasked : ∀ (w : World δ) failure w', w'.actions = w.actions → w'.database = w.database → Issues w failure w' :=
    fun w failure w' hactions hdatabase => ⟨[], .unasked hactions hdatabase, .nil failure⟩
  exact {
    refl := fun w o => hunasked w o w rfl rfl
    trans := by
      rintro w w' w'' o ⟨log, hlog, h⟩ ⟨more, hmore, h'⟩
      exact ⟨log ++ more, hlog.trans hmore, h.append h'⟩
    issue := by
      intro w s _
      refine ⟨_, .asked w (.execute s), ?_, ?_⟩
      · intro r hr
        rw [List.mem_singleton.mp hr]
        exact ⟨s, rfl⟩
      · cases h : (Engine.perform (.execute s) w.database).1 with
        | ok a =>
          left
          intro r hr
          rw [List.mem_singleton.mp hr]
          rfl
        | error e => exact .inr ⟨[], s, e, rfl, List.forall_mem_nil _, rfl⟩
    count := fun _ _ _ => hunasked _ _ _ rfl rfl
    grow := fun _ _ _ => hunasked _ _ _ rfl rfl
    set := fun _ _ _ _ _ => hunasked _ _ _ rfl rfl }

theorem discipline_silent :
    Discipline (fun _ => False) (fun _ _ => True) (Silent : World δ → Option Fault → World δ → Prop) where
  refl := fun _ _ => ⟨rfl, rfl⟩
  trans := fun _ h h' => ⟨h'.1.trans h.1, h'.2.trans h.2⟩
  issue := fun _ _ h => h.elim
  count := fun _ _ _ => ⟨rfl, rfl⟩
  grow := fun _ _ _ => ⟨rfl, rfl⟩
  set := fun _ _ _ _ _ => ⟨rfl, rfl⟩

def setUp : Run δ Answer := ask .connect >>= fun _ => execute .foreignKeys

end Run

open Run

/-- How a connection for some work can go: what is done with it from its setup on, and how the work ends. -/
inductive Session (body : Run δ α) (w : World δ) : List Reply → Except Fault α → Prop
  | unopened {e : Fault} {m : World δ} : setUp.run.run w = (.error e, m) → Session body w [⟨.connect, .error e⟩] (.error e)
  | unset {a : Answer} {e : Fault} {m : World δ} : setUp.run.run w = (.error e, m) →
    Session body w [⟨.connect, .ok a⟩, ⟨.execute .foreignKeys, .error e⟩] (.error e)
  | failed {a b : Answer} {e : Fault} {m m' : World δ} {done : List Reply} {undone closed : Except Fault Answer} :
    Gives setUp w b m → body.run.run m = (.error e, m') → Issued done (some e) →
    Session body w ([⟨.connect, .ok a⟩, ⟨.execute .foreignKeys, .ok b⟩] ++ done ++ [⟨.rollback, undone⟩, ⟨.close, closed⟩])
      (do let _ ← closed; let _ ← undone; .error e)
  | uncommitted {a b : Answer} {result : α} {e : Fault} {m m' : World δ} {done : List Reply}
      {undone closed : Except Fault Answer} :
    Gives setUp w b m → Gives body m result m' → Issued done none →
    Session body w ([⟨.connect, .ok a⟩, ⟨.execute .foreignKeys, .ok b⟩] ++ done ++
      [⟨.commit, .error e⟩, ⟨.rollback, undone⟩, ⟨.close, closed⟩]) (do let _ ← closed; let _ ← undone; .error e)
  | committed {a b c : Answer} {result : α} {m m' : World δ} {done : List Reply} {closed : Except Fault Answer} :
    Gives setUp w b m → Gives body m result m' → Issued done none →
    Session body w ([⟨.connect, .ok a⟩, ⟨.execute .foreignKeys, .ok b⟩] ++ done ++ [⟨.commit, .ok c⟩, ⟨.close, closed⟩])
      (do let _ ← closed; return result)

namespace Run

variable {body : Run δ α}

def committing (body : Run δ α) : Run δ α := do
  let result ← body
  let _ ← ask .commit
  return result

def settling : Except Fault α → Run δ α
  | .ok result => return result
  | .error fault => do
    let _ ← ask .rollback
    throw fault

theorem connected_eq (body : Run δ α) : connected body =
    withConnection.observe (withConnection.observe (committing body) >>= settling) >>= fun outcome =>
      ask .close >>= fun _ => liftM outcome := by
  unfold connected committing settling
  rfl

/-- The connection is closed whatever comes before, and what was settled is passed on if this does not fail. -/
theorem connected_run {m m' : World δ} {settled : Except Fault α}
    (h : (withConnection.observe (committing body) >>= settling).run.run m = (settled, m')) :
    (connected body).run.run m =
      (do let _ ← (Engine.perform .close m'.database).1; settled, m'.after .close) := by
  rw [connected_eq, Gives.run_bind, observe_run, h]
  dsimp only
  rw [Gives.run_bind, ask_run]
  cases (Engine.perform .close m'.database).1 <;> rfl

theorem connected_run_ok {result : α} {m m' : World δ} (h : Gives (committing body) m result m') :
    (connected body).run.run m = (do let _ ← (Engine.perform .close m'.database).1; return result, m'.after .close) := by
  refine connected_run ?_
  rw [Gives.run_bind, observe_run, show (committing body).run.run m = (.ok result, m') from h]
  rfl

theorem connected_run_error {e : Fault} {m m' : World δ} (h : (committing body).run.run m = (.error e, m')) :
    (connected body).run.run m =
      (do
        let _ ← (Engine.perform .close (m'.after .rollback).database).1
        let _ ← (Engine.perform .rollback m'.database).1
        .error e, (m'.after .rollback).after .close) := by
  refine connected_run ?_
  rw [Gives.run_bind, observe_run, h]
  change (ask .rollback >>= fun _ => (throw e : Run δ α)).run.run m' = _
  rw [Gives.run_bind, ask_run]
  cases (Engine.perform .rollback m'.database).1 <;> rfl

theorem committing_run {result : α} {m m' : World δ} (h : Gives body m result m') :
    (committing body).run.run m =
      (do let _ ← (Engine.perform .commit m'.database).1; return result, m'.after .commit) := by
  rw [committing, Gives.run_bind, show body.run.run m = (.ok result, m') from h]
  dsimp only
  rw [Gives.run_bind, ask_run]
  cases (Engine.perform .commit m'.database).1 <;> rfl

theorem committing_run_error {e : Fault} {m m' : World δ} (h : body.run.run m = (.error e, m')) :
    (committing body).run.run m = (.error e, m') := by
  rw [committing, Gives.run_bind, h]

/-- All that work within a connection can do: its log is that of one of five kinds of sessions. -/
theorem withConnection_session (hbody : Abides Issues body) (w : World δ) :
    ∃ log, w.Logs log ((withConnection body).run.run w).2 ∧ Session body w log ((withConnection body).run.run w).1 := by
  have heq : withConnection body = ask .connect >>= fun _ => execute .foreignKeys >>= fun _ => connected body := rfl
  have hsetUp : (setUp : Run δ Answer).run.run w = match (Engine.perform .connect w.database).1 with
      | .ok _ => (execute .foreignKeys).run.run (w.after .connect)
      | .error e => (.error e, w.after .connect) := by
    rw [setUp, Gives.run_bind, ask_run]
    cases (Engine.perform .connect w.database).1 <;> rfl
  -- What is logged up to each point at which the session can go wrong.
  have hopen := World.Logs.asked w .connect
  have hset := hopen.trans (.asked _ (.execute .foreignKeys))
  rw [heq, Gives.run_bind, ask_run]
  cases hconnect : (Engine.perform .connect w.database).1 with
  | error e =>
    rw [hconnect] at hsetUp hopen
    exact ⟨_, hopen, .unopened hsetUp⟩
  | ok a =>
    rw [hconnect] at hsetUp hset
    dsimp only at hsetUp ⊢
    rw [execute, ask_run] at hsetUp
    rw [Gives.run_bind, execute, ask_run]
    cases hkeys : (Engine.perform (.execute .foreignKeys) (w.after .connect).database).1 with
    | error e =>
      rw [hkeys] at hsetUp hset
      exact ⟨_, hset, .unset hsetUp⟩
    | ok b =>
      rw [hkeys] at hsetUp hset
      dsimp only
      obtain ⟨done, hdone, hissued⟩ := hbody ((w.after .connect).after (.execute .foreignKeys))
      cases hrun : body.run.run ((w.after .connect).after (.execute .foreignKeys)) with
      | mk outcome m =>
        rw [hrun] at hdone hissued
        have hwork := hset.trans hdone
        cases outcome with
        | error e =>
          -- No commit is asked for, since the work comes before it.
          rw [connected_run_error (committing_run_error hrun)]
          exact ⟨_, hwork.trans ((World.Logs.asked _ .rollback).trans (.asked _ .close)), .failed hsetUp hrun hissued⟩
        | ok result =>
          have hcommit := committing_run hrun
          have hlogs := World.Logs.asked m .commit
          cases hc : (Engine.perform .commit m.database).1 with
          | error e =>
            rw [hc] at hcommit hlogs
            rw [connected_run_error hcommit]
            have hend := hlogs.trans ((World.Logs.asked _ .rollback).trans (.asked _ .close))
            exact ⟨_, hwork.trans hend, .uncommitted hsetUp hrun hissued⟩
          | ok c =>
            rw [hc] at hcommit hlogs
            rw [connected_run_ok hcommit]
            exact ⟨_, hwork.trans (hlogs.trans (.asked _ .close)), .committed hsetUp hrun hissued⟩

end Run

def Reply.Early (r : Reply) : Prop := r.action = .connect ∨ ∃ s, r.action = .execute s

def Reply.Final (r : Reply) : Prop := r.action = .commit ∧ r.outcome.isOk = true ∨ r.action = .rollback

namespace Reply.Early

variable {r : Reply} (h : r.Early)
include h

theorem ne_commit : r.action ≠ .commit := by
  rcases h with h | ⟨s, h⟩ <;> simp [h]

theorem not_final : ¬ r.Final := by
  rcases h with h | ⟨s, h⟩ <;> simp [Reply.Final, h]

end Reply.Early

/-- A run that only issues statements neither commits nor rolls back nor closes. -/
theorem Issued.early {failure : Option Fault} {c b : Except Fault Answer} (h : Issued log failure) :
    ∀ r ∈ [⟨.connect, c⟩, ⟨.execute .foreignKeys, b⟩] ++ log, r.Early := by
  intro r hr
  rcases List.mem_append.mp hr with hr | hr
  · rcases List.mem_pair.mp hr with rfl | rfl
    · exact .inl rfl
    · exact .inr ⟨_, rfl⟩
  · exact .inr (h.1 r hr)

theorem Issued.all_ok_opened {a b : Answer} (h : Issued log none) :
    ∀ r ∈ [⟨.connect, .ok a⟩, ⟨.execute .foreignKeys, .ok b⟩] ++ log, r.outcome.isOk = true := by
  intro r hr
  rcases List.mem_append.mp hr with hr | hr
  · rcases List.mem_pair.mp hr with rfl | rfl <;> rfl
  · exact h.all_ok r hr

/-- Whether a connection keeps the rules of transactions: its log and what it fails with, by the work that is to be done. -/
structure Transacted (body : Run δ α) (w : World δ) (log : List Reply) (failure : Option Fault) : Prop where
  /-- It is committed if and only if it is set up and all of the work succeeds. -/
  commits_iff : (∃ r ∈ log, r.action = .commit) ↔ ∃ result m, Gives (setUp >>= fun _ => body) w result m
  /-- Before it is committed nothing has failed, be it only to be passed over. -/
  sound : log.Pairwise fun q r => r.action = .commit → q.outcome.isOk = true
  /-- If the work or its commit fails, it is rolled back and closed; if that succeeds, the fault is passed on. -/
  aborts : ∀ e, (∃ b m m', Gives setUp w b m ∧ body.run.run m = (.error e, m')) ∨ ⟨.commit, .error e⟩ ∈ log →
    ∃ before undone closed, log = before ++ [⟨.rollback, undone⟩, ⟨.close, closed⟩] ∧
      (undone.isOk = true → closed.isOk = true → failure = some e)
  /-- After a commit that succeeds, or a rollback, it is only closed. -/
  ends : log.Pairwise fun q r => q.Final → r.action = .close

namespace Transacted

variable {body : Run δ α} {failure : Option Fault} {front ending : List Reply} {a : Answer} {e : Fault} {m : World δ}

/-- Where the connection cannot be set up and only early statements were sent, the rules of transactions are kept. -/
theorem of_unset (hset : (setUp : Run δ Answer).run.run w = (.error e, m)) (hearly : ∀ r ∈ log, r.Early) :
    Transacted body w log failure where
  commits_iff := by
    constructor
    · rintro ⟨r, hr, hcommit⟩
      exact absurd hcommit (hearly r hr).ne_commit
    · rintro ⟨result, m', h⟩
      obtain ⟨a, m'', hgives, _⟩ := Gives.bind_iff.mp h
      cases hset.symm.trans hgives
  sound := List.pairwise_of_forall_mem_list fun q _ r hr hcommit => absurd hcommit (hearly r hr).ne_commit
  aborts := by
    rintro e' (⟨a, m', _, hgives, _⟩ | hcommit)
    · cases hset.symm.trans hgives
    · exact absurd rfl (hearly _ hcommit).ne_commit
  ends := List.pairwise_of_forall_mem_list fun q hq r _ hfinal => absurd hfinal (hearly q hq).not_final

/-- On a connection that is set up, the rules are kept if they are by how it ends. -/
theorem of_set (hset : Gives setUp w a m) (hfront : ∀ r ∈ front, r.Early)
    (hcommits : (∃ r ∈ ending, r.action = .commit) ↔ ∃ result m', Gives body m result m')
    (hok : (∃ r ∈ ending, r.action = .commit) → ∀ r ∈ front, r.outcome.isOk = true)
    (hsound : ending.Pairwise fun q r => r.action = .commit → q.outcome.isOk = true)
    (haborts : ∀ e, (∃ m', body.run.run m = (.error e, m')) ∨ ⟨.commit, .error e⟩ ∈ ending →
      ∃ before undone closed, ending = before ++ [⟨.rollback, undone⟩, ⟨.close, closed⟩] ∧
        (undone.isOk = true → closed.isOk = true → failure = some e))
    (hends : ending.Pairwise fun q r => q.Final → r.action = .close) :
    Transacted body w (front ++ ending) failure where
  commits_iff := by
    -- Nothing that was issued to set the connection up is a commit, so that every commit is in the ending.
    have hmem : (∃ r ∈ front ++ ending, r.action = .commit) ↔ ∃ r ∈ ending, r.action = .commit := by
      constructor
      · rintro ⟨r, hr, hcommit⟩
        exact (List.mem_append.mp hr).elim (fun h => absurd hcommit (hfront r h).ne_commit) fun h => ⟨r, h, hcommit⟩
      · rintro ⟨r, hr, hcommit⟩
        exact ⟨r, List.mem_append_right _ hr, hcommit⟩
    rw [hmem, hcommits]
    constructor
    · rintro ⟨result, m', h⟩
      exact ⟨result, m', Gives.bind_iff.mpr ⟨a, m, hset, h⟩⟩
    · rintro ⟨result, m', h⟩
      obtain ⟨b, m'', hgives, h⟩ := Gives.bind_iff.mp h
      cases hset.symm.trans hgives
      exact ⟨result, m', h⟩
  sound := by
    refine List.pairwise_append.mpr ⟨?_, hsound, fun q hq r hr hcommit => hok ⟨r, hr, hcommit⟩ q hq⟩
    exact List.pairwise_of_forall_mem_list fun q _ r hr hcommit => absurd hcommit (hfront r hr).ne_commit
  aborts := by
    intro e h
    have hhere : (∃ m', body.run.run m = (.error e, m')) ∨ ⟨.commit, .error e⟩ ∈ ending := by
      rcases h with ⟨b, m', m'', hgives, hrun⟩ | hcommit
      · cases hset.symm.trans hgives
        exact .inl ⟨m'', hrun⟩
      · exact (List.mem_append.mp hcommit).elim (fun h => absurd rfl (hfront _ h).ne_commit) .inr
    obtain ⟨before, undone, closed, rfl, hpassed⟩ := haborts e hhere
    exact ⟨front ++ before, undone, closed, (List.append_assoc ..).symm, hpassed⟩
  ends := by
    refine List.pairwise_append.mpr ⟨?_, hends, fun q hq r _ hfinal => absurd hfinal (hfront q hq).not_final⟩
    exact List.pairwise_of_forall_mem_list fun q hq r _ hfinal => absurd hfinal (hfront q hq).not_final

end Transacted

namespace Session

variable {body : Run δ α} {outcome : Except Fault α}

/-- A failure is passed on if rolling back and closing succeed. -/
theorem passedOn {undone closed : Except Fault Answer} (e : Fault) (hundone : undone.isOk = true)
    (hclosed : closed.isOk = true) :
    failure? (do let _ ← closed; let _ ← undone; .error e : Except Fault α) = some e := by
  cases closed with
  | error _ => cases hclosed
  | ok _ =>
    cases undone with
    | error _ => cases hundone
    | ok _ => rfl

/-- A session keeps the rules of transactions. -/
theorem transacted (h : Session body w log outcome) : Transacted body w log (failure? outcome) := by
  cases h with
  | unopened hset =>
    refine .of_unset hset ?_
    intro r hr
    exact .inl (List.mem_singleton.mp hr ▸ rfl)
  | unset hset => exact .of_unset hset (Issued.nil none).early
  -- The work fails: no commit is asked for, and the fault is passed on after the rollback.
  | @failed a b e m m' done undone closed hset hrun hissued =>
    refine .of_set hset hissued.early ?_ ?_ ?_ ?_ ?_
    · constructor
      · rintro ⟨r, hr, hcommit⟩
        rcases List.mem_pair.mp hr with rfl | rfl <;> cases hcommit
      · rintro ⟨result, m'', hgives⟩
        cases hrun.symm.trans hgives
    · rintro ⟨r, hr, hcommit⟩
      rcases List.mem_pair.mp hr with rfl | rfl <;> cases hcommit
    · simp
    · rintro e' (⟨m'', hrun'⟩ | hcommit)
      · cases hrun.symm.trans hrun'
        exact ⟨[], undone, closed, rfl, passedOn e⟩
      · rcases List.mem_pair.mp hcommit with h | h <;> cases h
    · simp
  -- The work succeeds and its commit is what fails, so the fault is that of the commit.
  | @uncommitted a b result e m m' done undone closed hset hrun hissued =>
    refine .of_set hset hissued.early ?_ ?_ ?_ ?_ ?_
    · exact ⟨fun _ => ⟨result, m', hrun⟩, fun _ => ⟨_, List.mem_cons_self, rfl⟩⟩
    · exact fun _ => hissued.all_ok_opened
    · simp
    · rintro e' (⟨m'', hrun'⟩ | hcommit)
      · cases hrun.symm.trans hrun'
      · obtain rfl : e' = e := by simpa using hcommit
        exact ⟨[_], undone, closed, rfl, passedOn e'⟩
    · simp [Reply.Final, Except.isOk, Except.toBool]
  -- Neither fails, and nothing is rolled back.
  | @committed a b c result m m' done closed hset hrun hissued =>
    refine .of_set hset hissued.early ?_ ?_ ?_ ?_ ?_
    · exact ⟨fun _ => ⟨result, m', hrun⟩, fun _ => ⟨_, List.mem_cons_self, rfl⟩⟩
    · exact fun _ => hissued.all_ok_opened
    · simp
    · rintro e' (⟨m'', hrun'⟩ | hcommit)
      · cases hrun.symm.trans hrun'
      · simp at hcommit
    · simp [Reply.Final]

end Session

end EntityViews
