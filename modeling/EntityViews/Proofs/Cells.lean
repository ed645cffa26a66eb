import Mathlib.Data.List.Forall2
import EntityViews.Calendar.Zone
import EntityViews.Proofs.Integers
import EntityViews.Proofs.Timestamps
import EntityViews.Proofs.Computations
import EntityViews.Storage.Cell

/-!
Values of typed columns. A value is stored by what it is and read back by the type of its column. Main statement: what
comes back equals what was held, and so does a record of such values, but for two kinds of points in time: those in a
column of days, and those at a clock reading that their place has with several offsets.
-/

namespace EntityViews

/-- What a field may hold: a value, or a point in time in a place with rules of its own. -/
inductive Held
  | value (v : Value)
  | zoned (t : ZonedTime)

namespace Held

def toCell : Held → Except Fault Value
  | value v => v.toCell
  | zoned t => (Value.datetime t.stamped).toCell

/-- Whether what was held equals a value. A reading with several offsets equals no point in time outside its place, the one
of its own offset included. -/
def Equals : Held → Value → Prop
  | value v, back => v.same back = true
  | zoned t, back => t.IsSettled ∧ (Value.datetime t.stamped).same back = true

inductive IsText : Held → Prop
  | text (s : String) : IsText (value (.text s))
  | word (k : ColumnKind) : IsText (value (.columnKind k))

inductive IsWhole : Held → Prop
  | int (n : Int) : IsWhole (value (.int n))
  | level (l : VocabLevel) : IsWhole (value (.level l))
  | bool (b : Bool) : IsWhole (value (.bool b))

inductive IsMoment : Held → Prop
  -- An offset of whole minutes is legible; one of less than a second is not.
  | plain (t : DateTime) (legible : ∀ o, t.offset = some o → o.IsLegible) : IsMoment (value (.datetime t))
  | zoned (t : ZonedTime) (legible : ∀ o, t.offset = some o → o.IsLegible) : IsMoment (zoned t)

inductive IsDay : Held → Prop
  -- All that a day can be asked a point in time can be asked.
  | date (d : Date) : IsDay (value (.date d))
  | moment {h : Held} : h.IsMoment → IsDay h

end Held

namespace ColumnType

/-- What a column takes besides JSON values and decimals: nothing, or what is of its type. -/
inductive Takes : ColumnType → Held → Prop
  | null (type : ColumnType) : Takes type (.value .null)
  | str {h : Held} : h.IsText → Takes (.scalar (some .str)) h
  | text {h : Held} : h.IsText → Takes (.scalar (some .text)) h
  | int {h : Held} : h.IsWhole → Takes (.scalar (some .int)) h
  | ref {h : Held} (target : Option String) : h.IsWhole → Takes (.ref target) h
  | bool (b : Bool) : Takes (.scalar (some .bool)) (.value (.bool b))
  | date {h : Held} : h.IsDay → Takes (.scalar (some .date)) h
  | datetime {h : Held} : h.IsMoment → Takes (.scalar (some .datetime)) h

/-- What a column takes and does not give back: a time of day in a column of days, and which of two readings is meant. -/
inductive Loses : ColumnType → Held → Prop
  | time {h : Held} : h.IsMoment → Loses (.scalar (some .date)) h
  | reading {t : ZonedTime} : ¬t.IsSettled → Loses (.scalar (some .datetime)) (.zoned t)

def Restores (type : ColumnType) (h : Held) : Prop :=
  ∃ cell back, h.toCell = .ok cell ∧ type.ofCell cell = .ok back ∧ h.Equals back

end ColumnType

/-- Whether a field of a record names a column that takes what it holds and does not lose it, or is the id of an entity
that does not describe one. -/
inductive Entity.Keeps (e : Entity) (key : Value) (h : Held) : Prop
  | column {name : String} {c : Column} (named : key.asText? = some name) (found : e.column? name = some c)
      (taken : c.type.Takes h) (kept : ¬c.type.Loses h)
  | id (named : key.asText? = some "id") (plain : e.column? "id" = none) (unformed : e.formula? "id" = none)
      (whole : h.IsWhole)

/-- The text of a point in time has at least the date, the hour, the minute and the second. -/
theorem DateTime.length_text (t : DateTime) : 19 ≤ t.text.toList.length := by
  have hhour : (numeral 10 2 t.hour).length = 2 :=
    length_numeral (by decide) (by decide) (Nat.lt_trans t.inDay.1 (by decide))
  have hminute : (numeral 10 2 t.minute).length = 2 :=
    length_numeral (by decide) (by decide) (Nat.lt_trans t.inDay.2.1 (by decide))
  have hsecond : (numeral 10 2 t.second).length = 2 :=
    length_numeral (by decide) (by decide) (Nat.lt_trans t.inDay.2.2.1 (by decide))
  rw [toList_text]
  simp only [List.length_append, List.length_cons, t.date.length_text, clockChars, hhour, hminute, hsecond]
  omega

/-- The text of a point in time is too long for one of a day. -/
theorem Date.ofText?_moment (t : DateTime) : ofText? t.text = .error (.malformed t.text) := by
  have hsize : t.text.utf8ByteSize = t.text.toList.length := t.allAscii_text.utf8ByteSize_eq
  have hlength := t.length_text
  have hnone : (t.text.utf8ByteSize = 7 || t.text.utf8ByteSize = 8 || t.text.utf8ByteSize = 10) = false := by
    rw [hsize]
    simp
    omega
  rw [ofText?]
  simp only [hnone, Bool.false_eq_true, if_false]

/-- The text of a point in time is refused by a column of days and read by a column of points in time. -/
theorem ColumnType.ofCell_moment (t : DateTime) :
    ColumnType.ofCell (.scalar (some .date)) (.text t.text) = .error (.calendar (.malformed t.text)) ∧
      ((∀ o, t.offset = some o → o.IsLegible) →
        ColumnType.ofCell (.scalar (some .datetime)) (.text t.text) = .ok (.datetime t)) := by
  constructor
  · show ((Date.ofText? t.text).mapError Fault.calendar).map Value.date = _
    rw [Date.ofText?_moment]
    rfl
  · intro legible
    show ((DateTime.ofText? t.text).mapError Fault.calendar).map Value.datetime = _
    rw [t.ofText?_text legible]
    rfl

namespace Value

theorem same_self_of_canon {a : Scalar} (h : a.canon ≠ .magnitude (.nan none)) : (scalar a).same (scalar a) = true := by
  rw [same, Scalar.same_iff]
  exact ⟨rfl, h⟩

theorem same_text (s : String) : (text s).same (text s) = true := same_self_of_canon nofun

theorem same_datetime (t : DateTime) : (datetime t).same (datetime t) = true := same_self_of_canon nofun

end Value

/-- Columns of numbers and of references leave cells as they are, and what is whole equals its cell. -/
theorem Held.IsWhole.restored {h : Held} (hwhole : h.IsWhole) : ∃ cell, h.toCell = .ok cell ∧
    ColumnType.ofCell (.scalar (some .int)) cell = .ok cell ∧ (∀ target, ColumnType.ofCell (.ref target) cell = .ok cell) ∧
    h.Equals cell := by
  cases hwhole with
  | int n => exact ⟨.int n, rfl, rfl, fun _ => rfl, Value.same_ints.mpr rfl⟩
  | level l =>
    refine ⟨.level l, rfl, rfl, fun _ => rfl, Value.same_self_of_canon ?_⟩
    intro hcanon
    exact Magnitude.ofInt_ne_nan l.value none (Canon.magnitude.inj hcanon)
  | bool b =>
    refine ⟨.int (if b then 1 else 0), rfl, rfl, fun _ => rfl, ?_⟩
    rw [Equals, Value.same, Scalar.same_iff]
    refine ⟨rfl, ?_⟩
    intro hcanon
    exact Magnitude.ofInt_ne_nan (if b then 1 else 0) none (Canon.magnitude.inj hcanon)

/-- What a column takes and does not lose comes back and equals what was held. -/
theorem ColumnType.restores_of_takes {type : ColumnType} {h : Held} (htakes : type.Takes h) (hkept : ¬type.Loses h) :
    type.Restores h := by
  cases htakes with
  | null => exact ⟨.null, .null, rfl, rfl, rfl⟩
  | str htext | text htext =>
    cases htext with
    | text s => exact ⟨.text s, .text s, rfl, rfl, Value.same_text s⟩
    | word k => exact ⟨.columnKind k, .columnKind k, rfl, rfl, Value.same_self_of_canon nofun⟩
  | int hwhole =>
    obtain ⟨cell, hcell, hback, _, hequals⟩ := hwhole.restored
    exact ⟨cell, cell, hcell, hback, hequals⟩
  | ref target hwhole =>
    obtain ⟨cell, hcell, _, hback, hequals⟩ := hwhole.restored
    exact ⟨cell, cell, hcell, hback target, hequals⟩
  | bool b => cases b <;> exact ⟨_, _, rfl, rfl, rfl⟩
  | date hday =>
    cases hday with
    | date d =>
      refine ⟨.text d.text, .date d, rfl, ?_, Value.same_self_of_canon nofun⟩
      show ((Date.ofText? d.text).mapError Fault.calendar).map Value.date = .ok (.date d)
      rw [d.ofText?_text]
      rfl
    | moment hmoment => exact absurd (.time hmoment) hkept
  | datetime hmoment =>
    cases hmoment with
    | plain t legible => exact ⟨.text t.text, .datetime t, rfl, (ofCell_moment t).2 legible, Value.same_datetime t⟩
    | zoned t legible =>
      -- The text tells the offset and not the place, which is enough where the reading is settled.
      have hsettled : t.IsSettled := Decidable.byContradiction fun hnot => hkept (.reading hnot)
      exact ⟨.text t.stamped.text, .datetime t.stamped, rfl, (ofCell_moment t.stamped).2 legible, hsettled,
        Value.same_datetime t.stamped⟩

/-- What a column loses is refused on the way back, or equals nothing that comes back. -/
theorem ColumnType.Loses.not_restores {type : ColumnType} {h : Held} (hloses : type.Loses h) : ¬type.Restores h := by
  rintro ⟨cell, back, hcell, hback, hequals⟩
  cases hloses with
  | time hmoment =>
    cases hmoment with
    | plain t legible =>
      cases hcell
      cases hback.symm.trans (ofCell_moment t).1
    | zoned t legible =>
      cases hcell
      cases hback.symm.trans (ofCell_moment t.stamped).1
  | reading hnot => exact hnot hequals.1

/-- What was held as a value comes back as the same value, but a truth value in a column of numbers as a number. -/
theorem ColumnType.Takes.eq_of_ofCell {type : ColumnType} {v cell back : Value} (htakes : type.Takes (.value v))
    (hcell : v.toCell = .ok cell) (hback : type.ofCell cell = .ok back) :
    back = v ∨ ∃ b, v = .bool b ∧ back = .int (if b then 1 else 0) := by
  cases htakes with
  | null =>
    cases hcell
    cases hback
    exact .inl rfl
  | str htext | text htext =>
    cases htext <;> cases hcell <;> cases hback <;> exact .inl rfl
  | int hwhole | ref target hwhole =>
    cases hwhole with
    | int n | level l =>
      cases hcell
      cases hback
      exact .inl rfl
    | bool b =>
      cases hcell
      cases hback
      exact .inr ⟨b, rfl, rfl⟩
  | bool b =>
    cases hcell
    cases hback
    exact .inl (by cases b <;> rfl)
  | date hday =>
    cases hday with
    | date d =>
      cases hcell
      have hread : ColumnType.ofCell (.scalar (some .date)) (.text d.text) = .ok (.date d) := by
        show ((Date.ofText? d.text).mapError Fault.calendar).map Value.date = .ok (.date d)
        rw [d.ofText?_text]
        rfl
      exact .inl (Except.ok.inj (hback.symm.trans hread))
    | moment hmoment =>
      cases hmoment with
      | plain t legible =>
        cases hcell
        cases hback.symm.trans (ofCell_moment t).1
  | datetime hmoment =>
    cases hmoment with
    | plain t legible =>
      cases hcell
      exact .inl (Except.ok.inj (hback.symm.trans ((ofCell_moment t).2 legible)))

/-- What a field of a record keeps comes back and equals what was held. -/
theorem Entity.Keeps.restored {e : Entity} {key : Value} {h : Held} (hkeeps : e.Keeps key h) :
    ∃ cell back, h.toCell = .ok cell ∧ e.ofCell key cell = .ok back ∧ h.Equals back := by
  cases hkeeps with
  | column named found taken kept =>
    obtain ⟨cell, back, hcell, hback, hequals⟩ := ColumnType.restores_of_takes taken kept
    refine ⟨cell, back, hcell, ?_, hequals⟩
    simp only [ofCell, named, found, hback]
  | id named plain unformed whole =>
    obtain ⟨cell, hcell, _, _, hequals⟩ := whole.restored
    exact ⟨cell, cell, hcell, by simp only [ofCell, named, plain, unformed], hequals⟩

/-- The record of a row that a record was stored as has its keys, and under each of them what equals what was held. -/
theorem Entity.fieldsOfRow_toCell {e : Entity} {record : List (Value × Held)} (h : ∀ f ∈ record, e.Keeps f.1 f.2) :
    ∃ cells back, record.mapM (fun f => f.2.toCell) = .ok cells ∧
      e.fieldsOfRow ((record.map Prod.fst).zip cells) = .ok back ∧
      List.Forall₂ (fun f g => g.1 = f.1 ∧ f.2.Equals g.2) record back := by
  induction record with
  | nil => exact ⟨[], [], rfl, rfl, .nil⟩
  | cons f record ih =>
    obtain ⟨cell, v, hcell, hback, hequals⟩ := (h f List.mem_cons_self).restored
    obtain ⟨cells, back, hcells, hrow, hall⟩ := ih fun g hg => h g (List.mem_cons_of_mem _ hg)
    refine ⟨cell :: cells, (f.1, v) :: back, ?_, ?_, .cons ⟨rfl, hequals⟩ hall⟩
    · rw [List.mapM_cons, hcell, hcells]
      rfl
    · have hfield : (e.ofCell f.1 cell).map (fun v => (f.1, v)) = .ok (f.1, v) := by
        rw [hback]
        rfl
      rw [Entity.fieldsOfRow] at hrow ⊢
      simp only [List.map_cons, List.zip_cons_cons, List.mapM_cons, hfield, hrow]
      rfl

/-- What a column takes comes back from its cell equal to what it was if and only if the column does not lose it, a value as
the same value unless it is a truth value among numbers; and a record of what its columns keep comes back from its row. -/
theorem restored_from_cells :
    (∀ (type : ColumnType) (h : Held), type.Takes h → (type.Restores h ↔ ¬type.Loses h)) ∧
      (∀ (type : ColumnType) (v cell back : Value), type.Takes (.value v) → v.toCell = .ok cell →
        type.ofCell cell = .ok back → back = v ∨ ∃ b, v = .bool b ∧ back = .int (if b then 1 else 0)) ∧
      ∀ (e : Entity) (record : List (Value × Held)), (∀ f ∈ record, e.Keeps f.1 f.2) →
        ∃ cells back, record.mapM (fun f => f.2.toCell) = .ok cells ∧
          e.fieldsOfRow ((record.map Prod.fst).zip cells) = .ok back ∧
          List.Forall₂ (fun f g => g.1 = f.1 ∧ f.2.Equals g.2) record back := by
  refine ⟨?_, fun _ _ _ _ htakes => htakes.eq_of_ofCell, fun _ _ => Entity.fieldsOfRow_toCell⟩
  intro type h htakes
  exact ⟨fun hrestores hloses => hloses.not_restores hrestores, ColumnType.restores_of_takes htakes⟩

def shiftTable : Entity :=
  ⟨"shift", [⟨"code", .scalar (some .str), true, .null, false, true⟩,
    ⟨"note", .scalar (some .text), false, .null, false, false⟩,
    ⟨"pay", .scalar (some .int), true, .null, false, false⟩, ⟨"night", .scalar (some .bool), true, .null, false, false⟩,
    ⟨"day", .scalar (some .date), true, .null, true, false⟩,
    ⟨"opened", .scalar (some .datetime), true, .null, false, false⟩,
    ⟨"closed", .scalar (some .datetime), true, .null, false, false⟩,
    ⟨"worker_id", .ref (some "worker"), true, .null, true, false⟩], [], []⟩

def lastDay : Date := ⟨9999, 12, 31, by decide⟩

def lastMoment : DateTime := ⟨lastDay, 23, 59, 59, 999999, some ⟨-19800000000, by decide⟩, by decide⟩

def autumnClocks : Zone := fun reading later =>
  let ahead (hours : Nat) : Option Offset := if h : hours < 24 then some ⟨hours * 3600000000, by
    rw [microsPerDay, microsPerSecond]
    omega⟩ else none
  let twoOClock := (DateTime.mk ⟨2024, 10, 27, by decide⟩ 2 0 0 0 none (by decide)).instant
  if reading.instant < twoOClock then ahead 2
  else if reading.instant < twoOClock + 3600000000 then ahead (if later then 1 else 2)
  else ahead 1

def firstHalfPastTwo : ZonedTime := ⟨⟨⟨2024, 10, 27, by decide⟩, 2, 30, 0, 0, none, by decide⟩, false, autumnClocks, rfl⟩

def fourOClock : ZonedTime := ⟨⟨⟨2024, 10, 27, by decide⟩, 4, 0, 0, 0, none, by decide⟩, false, autumnClocks, rfl⟩

def lastShift : List (Value × Held) :=
  [(.text "id", .value (.int 7)), (.text "code", .value (.text "")), (.text "note", .value .null),
    (.text "pay", .value (.int (-1180591620717411303424))), (.text "night", .value (.bool false)),
    (.text "day", .value (.date lastDay)), (.text "opened", .value (.datetime lastMoment)), (.text "closed", .zoned fourOClock),
    (.text "worker_id", .value (.int 3))]

theorem Offset.legible_of_micros {offset : Option Offset} {n : Int} (h : offset.map Offset.micros = some n)
    (hn : 1000000 ≤ n.natAbs) : ∀ o, offset = some o → o.IsLegible := by
  rintro o rfl
  exact .inr (Option.some.inj h ▸ hn)

theorem fourOClock_legible : ∀ o, fourOClock.offset = some o → o.IsLegible :=
  Offset.legible_of_micros (n := 3600000000) (by decide +kernel) (by decide)

theorem fourOClock_kept : ¬(ColumnType.scalar (some .datetime)).Loses (.zoned fourOClock) := by
  rintro (_ | hnot)
  exact hnot (by decide +kernel)

/-- All columns of the table keep what this shift holds. -/
theorem lastShift_kept : ∀ f ∈ lastShift, shiftTable.Keeps f.1 f.2 := by
  have hmoment : Held.IsMoment (.value (.datetime lastMoment)) :=
    .plain lastMoment (Offset.legible_of_micros (n := -19800000000) rfl (by decide))
  simp only [lastShift, List.forall_mem_cons]
  exact ⟨.id rfl rfl rfl (.int 7), .column rfl rfl (.str (.text "")) nofun, .column rfl rfl (.null _) nofun,
    .column rfl rfl (.int (.int _)) nofun, .column rfl rfl (.bool false) nofun,
    .column rfl rfl (.date (.date lastDay)) (by rintro ⟨⟨⟩⟩), .column rfl rfl (.datetime hmoment) nofun,
    .column rfl rfl (.datetime (.zoned fourOClock fourOClock_legible)) fourOClock_kept,
    .column rfl rfl (.ref _ (.int 3)) nofun, fun _ h => absurd h List.not_mem_nil⟩

theorem lastShift_restored :
    (ColumnType.scalar (some .datetime)).Restores (.zoned fourOClock) ∧
      (Value.int 1 = .bool true ∨ ∃ b, Value.bool true = .bool b ∧ Value.int 1 = .int (if b then 1 else 0)) ∧
      ∃ cells back, lastShift.mapM (fun f => f.2.toCell) = .ok cells ∧
        shiftTable.fieldsOfRow ((lastShift.map Prod.fst).zip cells) = .ok back ∧
        List.Forall₂ (fun f g => g.1 = f.1 ∧ f.2.Equals g.2) lastShift back :=
  ⟨(restored_from_cells.1 _ _ (.datetime (.zoned fourOClock fourOClock_legible))).mpr fourOClock_kept,
    restored_from_cells.2.1 (.scalar (some .int)) (.bool true) (.int 1) (.int 1) (.int (.bool true)) rfl rfl,
    restored_from_cells.2.2 shiftTable lastShift lastShift_kept⟩

def noon : DateTime := ⟨⟨2024, 3, 1, by decide⟩, 12, 0, 0, 0, none, by decide⟩

/-- A reading in the hour that is read twice has an offset of whole minutes, is written with it and read as it is written;
but it does not equal what is read. And a point in time, which is a day as well, is not read from a column of days. -/
theorem not_restored_firstHalfPastTwo :
    ((ColumnType.scalar (some .datetime)).Takes (.zoned firstHalfPastTwo) ∧
      firstHalfPastTwo.offset.map Offset.micros = some (120 * 60 * 1000000) ∧
      (Held.zoned firstHalfPastTwo).toCell = .ok (.text "2024-10-27T02:30:00+02:00") ∧
      ColumnType.ofCell (.scalar (some .datetime)) (.text "2024-10-27T02:30:00+02:00") =
        .ok (.datetime firstHalfPastTwo.stamped) ∧
      ¬(Held.zoned firstHalfPastTwo).Equals (.datetime firstHalfPastTwo.stamped)) ∧
    ((ColumnType.scalar (some .date)).Takes (.value (.datetime noon)) ∧
      (Held.value (.datetime noon)).toCell = .ok (.text "2024-03-01T12:00:00") ∧
      ColumnType.ofCell (.scalar (some .date)) (.text "2024-03-01T12:00:00") =
        .error (.calendar (.malformed "2024-03-01T12:00:00"))) := by
  have htext : firstHalfPastTwo.stamped.text = "2024-10-27T02:30:00+02:00" := by decide +kernel
  have hnoon : noon.text = "2024-03-01T12:00:00" := by decide +kernel
  have hlegible : ∀ o, firstHalfPastTwo.stamped.offset = some o → o.IsLegible :=
    Offset.legible_of_micros (n := 7200000000) (by decide +kernel) (by decide)
  have hbare : ∀ o, noon.offset = some o → o.IsLegible := by
    intro o ho
    cases ho
  refine ⟨⟨.datetime (.zoned _ hlegible), by decide +kernel, ?_, ?_, ?_⟩, .date (.moment (.plain noon hbare)), ?_, ?_⟩
  · rw [← htext]
    rfl
  · rw [← htext]
    exact (ColumnType.ofCell_moment _).2 hlegible
  · rintro ⟨hsettled, _⟩
    exact absurd hsettled (by decide +kernel)
  · rw [← hnoon]
    rfl
  · rw [← hnoon]
    exact (ColumnType.ofCell_moment noon).1

end EntityViews
