import EntityViews.Proofs.Readings
import EntityViews.Proofs.Sessions
import EntityViews.Storage.Script

/-!
Statements in words, each on a connection of its own. Main statement: if nothing fails on the connection, the rows of the
answer come as records, and all that the database is asked for is the connection with this one statement.
-/

namespace EntityViews

open Sql Run

variable {δ : Type} [Engine δ] {w w' : World δ}

/-- A log is one reply and then the log from there. -/
theorem Engine.replies_cons_iff {d d' : δ} {r : Reply} {log : List Reply} : Engine.Replies d (r :: log) d' ↔
    (Engine.perform r.action d).1 = r.outcome ∧ Engine.Replies (Engine.perform r.action d).2 log d' := by
  constructor
  · intro h
    cases h with
    | cons a h => exact ⟨rfl, h⟩
  · rintro ⟨houtcome, h⟩
    obtain ⟨a, outcome⟩ := r
    obtain rfl : (Engine.perform a d).1 = outcome := houtcome
    exact .cons a h

def enquiry (s : Statement) : List Action := [.connect, .execute .foreignKeys, .execute s, .commit, .close]

/-- Whether a database answers a statement on a connection of its own, on which nothing fails. -/
def Engine.Serves (d : δ) (s : Statement) (columns : List String) (rows : List (List Value)) : Prop :=
  ∃ a b c e last d', Engine.Replies d [⟨.connect, .ok a⟩, ⟨.execute .foreignKeys, .ok b⟩,
    ⟨.execute s, .ok ⟨columns, .ok rows, last⟩⟩, ⟨.commit, .ok c⟩, ⟨.close, .ok e⟩] d'

namespace Run

theorem ask_answered {a : Action} {answer : Answer} (h : (Engine.perform a w.database).1 = .ok answer) :
    Gives (ask a) w answer (w.after a) := by
  rw [Gives, ask_run, h]

/-- Work within a connection gives what it gives on its own, if the connection is set up, committed and closed. -/
theorem withConnection_of_gives {α : Type} {body : Run δ α} {result : α} {m : World δ} {a b c e : Answer}
    (hconnect : (Engine.perform .connect w.database).1 = .ok a)
    (hkeys : (Engine.perform (.execute .foreignKeys) (w.after .connect).database).1 = .ok b)
    (hbody : Gives body ((w.after .connect).after (.execute .foreignKeys)) result m)
    (hcommit : (Engine.perform .commit m.database).1 = .ok c)
    (hclose : (Engine.perform .close (m.after .commit).database).1 = .ok e) :
    Gives (withConnection body) w result ((m.after .commit).after .close) := by
  have heq : withConnection body = ask .connect >>= fun _ => execute .foreignKeys >>= fun _ => connected body := rfl
  have hcommitting : Gives (committing body) ((w.after .connect).after (.execute .foreignKeys)) result (m.after .commit) := by
    rw [Gives, committing_run hbody, hcommit]
    rfl
  have hconnected : Gives (connected body) ((w.after .connect).after (.execute .foreignKeys)) result
      ((m.after .commit).after .close) := by
    rw [Gives, connected_run_ok hcommitting, hclose]
    rfl
  rw [heq]
  exact Gives.bind_iff.mpr ⟨a, _, ask_answered hconnect, Gives.bind_iff.mpr ⟨b, _, ask_answered hkeys, hconnected⟩⟩

end Run

def named (columns : List String) (row : List Value) : Value := .map (collect ((columns.map .text).zip row))

omit [Engine δ] in
theorem newRecords_gives (rows : List (List (Value × Value))) (w : World δ) :
    Gives (rows.mapM Run.newRecordOf) w (w.store.loadItems (rows.map .map)).1
      { w with store := (w.store.loadItems (rows.map .map)).2 } := by
  induction rows generalizing w with
  | nil => exact Gives.mapM_nil_iff.mpr ⟨rfl, rfl⟩
  | cons row rest ih => exact Gives.mapM_cons_iff.mpr ⟨_, _, _, rfl, ih _, rfl⟩

/-- The rows that a statement gives become new records, and the statement is all that the database is asked for. -/
theorem Database.fetchAll_gives {sql : String} {params : List Value} {columns : List String} {rows : List (List Value)}
    (h : Engine.Serves w.database (.raw sql params) columns rows) :
    ∃ w', Gives (Database.fetchAll sql params) w (w.store.loadItems (rows.map (named columns))).1 w' ∧
      w'.store = (w.store.loadItems (rows.map (named columns))).2 ∧
      w'.actions.toList = w.actions.toList ++ enquiry (.raw sql params) := by
  obtain ⟨a, b, c, e, last, d', hreplies⟩ := h
  simp only [Engine.replies_cons_iff] at hreplies
  obtain ⟨hconnect, hkeys, hraw, hcommit, hclose, _⟩ := hreplies
  let m := ((w.after .connect).after (.execute .foreignKeys)).after (.execute (.raw sql params))
  let records := w.store.loadItems (rows.map (named columns))
  have hmap : (rows.map fun row => collect ((columns.map Value.text).zip row)).map Value.map = rows.map (named columns) := by
    rw [List.map_map]
    rfl
  have hbody : Gives (do
      let answer ← execute (.raw sql params)
      (← answer.namedRows).mapM Run.newRecordOf) ((w.after .connect).after (.execute .foreignKeys)) records.1
      { m with store := records.2 } := by
    refine Gives.bind_iff.mpr ⟨_, m, Run.ask_answered hraw, Gives.bind_iff.mpr ⟨_, m, Gives.lift_iff.mpr ⟨rfl, rfl⟩, ?_⟩⟩
    have hrecords := newRecords_gives (rows.map fun row => collect ((columns.map Value.text).zip row)) m
    rw [hmap] at hrecords
    exact hrecords
  -- Records are made within the connection, and its end changes none of them.
  refine ⟨_, Run.withConnection_of_gives hconnect hkeys hbody hcommit hclose, rfl, ?_⟩
  simp [World.after, enquiry, m]

/-! Answers that are written down beforehand. -/

theorem head?_append {s t : String} {c : Char} (h : s.toList.head? = some c) : (s ++ t).toList.head? = some c := by
  rw [String.toList_append, List.head?_append, h, Option.some_or]

/-- A statement that does not begin as settings do is none. -/
theorem isSetting_eq_false {s : Statement} {c : Char} (h : s.text.toList.head? = some c) (hc : c ≠ 'P') :
    s.isSetting = false := by
  obtain ⟨rest, hrest⟩ := List.head?_eq_some_iff.mp h
  have hword : "PRAGMA".toList = 'P' :: ['R', 'A', 'G', 'M', 'A'] := by decide
  have hno : "PRAGMA".toList.isPrefixOf s.text.toList = false := by
    rw [hword, hrest, List.isPrefixOf, beq_false_of_ne (Ne.symm hc), Bool.false_and]
  rw [Statement.isSetting, Text.dropStart?, hno]
  rfl

theorem serves_script {s : Statement} {columns : List String} {rows : List (List Value)} (h : s.isSetting = false) :
    Engine.Serves (⟨[.ok ⟨columns, .ok rows, 0⟩]⟩ : Script) s columns rows := by
  have hkeys : Statement.foreignKeys.isSetting = true := by decide +kernel
  refine ⟨.empty, .empty, .empty, .empty, 0, ⟨[]⟩, ?_⟩
  simp only [Engine.replies_cons_iff, Engine.perform, hkeys, h, if_true, Bool.false_eq_true, if_false, true_and]
  exact .nil _

end EntityViews
