import EntityViews.Proofs.Computations
import EntityViews.Proofs.Lookup
import EntityViews.Storage.Loader

/-!
What reading and setting fields does to the records of a store. Reading changes nothing; what is attached to some records
under a name changes no other record and no other name. A load is put together from both.
-/

namespace EntityViews

namespace Store

/-- Whether a store still has the records of an earlier one, with the same values under all names that were not touched. -/
def Keeps (touched : Nat → String → Prop) (s t : Store) : Prop :=
  s.records.size ≤ t.records.size ∧
    ∀ i < s.records.size, ∀ name, ¬touched i name → t.get? i (.text name) = s.get? i (.text name)

variable {touched : Nat → String → Prop}

theorem Keeps.refl (s : Store) : s.Keeps touched s := ⟨Nat.le_refl _, fun _ _ _ _ => rfl⟩

theorem Keeps.trans {s t u : Store} (h : s.Keeps touched t) (h' : t.Keeps touched u) : s.Keeps touched u := by
  refine ⟨Nat.le_trans h.1 h'.1, ?_⟩
  intro i hi name hn
  rw [h'.2 i (Nat.lt_of_lt_of_le hi h.1) name hn, h.2 i hi name hn]

theorem Keeps.mono {touched' : Nat → String → Prop} {s t : Store} (h : s.Keeps touched t)
    (ht : ∀ i name, touched i name → touched' i name) : s.Keeps touched' t :=
  ⟨h.1, fun i hi name hn => h.2 i hi name fun hn' => hn (ht i name hn')⟩

theorem Grows.keeps {s t : Store} (h : s.Grows t) : s.Keeps touched t := by
  refine ⟨h.1, ?_⟩
  intro i hi name _
  rw [get?, get?, h.2 i hi]

theorem keeps_set (s : Store) {id : Nat} {name : String} (v : Node) (h : touched id name) :
    s.Keeps touched (s.set id (.text name) v) := by
  refine ⟨Nat.le_of_eq (s.size_set id _ v).symm, ?_⟩
  intro i _ other hother
  rw [get?_set, if_neg]
  rintro ⟨rfl, _, rfl⟩
  exact hother h

def keyAt (s : Store) (id : Nat) (field : String) : Except Fault Value :=
  match s.get? id (.text field) with
  | none => .ok .null
  | some n => n.key

theorem keyAt_congr {s t : Store} {id : Nat} {field : String} (h : t.get? id (.text field) = s.get? id (.text field)) :
    t.keyAt id field = s.keyAt id field := by
  rw [keyAt, keyAt, h]

end Store

namespace Link

def ownKey : Link → String
  | manyToOne key | oneToOne key => key
  | oneToOneInverse _ | oneToMany _ | manyToMany _ _ _ => "id"

end Link

namespace Run

variable {δ : Type} {w w' : World δ}

/-- To look at a field changes nothing and gives what the record holds there. -/
theorem field?_gives {n : Node} {key : String} {v : Option Node} (h : Gives (Run.field? n key) w v w') :
    w' = w ∧ ∃ id, n = .record id ∧ v = w.store.get? id (.text key) := by
  unfold Run.field? at h
  split at h
  · rename_i id
    simp only [Gives.bind_iff, Gives.get_iff, Gives.pure_iff] at h
    obtain ⟨_, _, ⟨rfl, rfl⟩, rfl, rfl⟩ := h
    exact ⟨rfl, id, rfl, rfl⟩
  · exact (Gives.throw_iff.mp h).elim

/-- To take a field gives what the record holds there, which is then something. -/
theorem item_gives {n v : Node} {key : String} (h : Gives (Run.item n key) w v w') :
    w' = w ∧ ∃ id, n = .record id ∧ w.store.get? id (.text key) = some v := by
  unfold Run.item at h
  split at h
  · rename_i id
    simp only [Gives.bind_iff, Gives.get_iff] at h
    obtain ⟨_, _, ⟨rfl, rfl⟩, h⟩ := h
    split at h
    · obtain ⟨rfl, rfl⟩ := Gives.pure_iff.mp h
      exact ⟨rfl, id, rfl, ‹_›⟩
    · exact (Gives.throw_iff.mp h).elim
  · exact (Gives.throw_iff.mp h).elim

theorem setField_gives {n v : Node} {key : String} {u : PUnit} (h : Gives (Run.setField n key v) w u w') :
    ∃ id, n = .record id ∧ w' = { w with store := w.store.set id (.text key) v } := by
  unfold Run.setField at h
  split at h
  · exact ⟨_, rfl, Gives.modify_iff.mp h⟩
  · exact (Gives.throw_iff.mp h).elim

end Run

namespace Loader

variable {δ : Type} {w w' : World δ}

/-- To read a key changes nothing and gives the key that the record has. -/
theorem keyOf_gives {n : Node} {field : String} {v : Value} (h : Gives (keyOf n field) w v w') :
    w' = w ∧ ∃ id, n = .record id ∧ w.store.keyAt id field = .ok v := by
  obtain ⟨found, m, hfound, h⟩ := Gives.bind_iff.mp h
  obtain ⟨rfl, id, rfl, rfl⟩ := Run.field?_gives hfound
  cases hget : m.store.get? id (.text field) with
  | none =>
    rw [hget] at h
    obtain ⟨rfl, rfl⟩ := Gives.pure_iff.mp h
    refine ⟨rfl, id, rfl, ?_⟩
    rw [Store.keyAt, hget]
  | some found =>
    rw [hget] at h
    obtain ⟨hkey, rfl⟩ := Gives.lift_iff.mp h
    refine ⟨rfl, id, rfl, ?_⟩
    rw [Store.keyAt, hget]
    exact hkey

/-- A loop that sets a field on records changes this field only, makes no record, and sets it on each of them. -/
theorem attach_gives {records : List Node} {key name : String} {f : Value → Node} {u : PUnit}
    (h : Gives (records.forM fun r => do Run.setField r name (f (← keyOf r key))) w u w') :
    w.store.Keeps (fun i other => other = name ∧ .record i ∈ records) w'.store ∧
      w'.store.records.size = w.store.records.size ∧ (∀ n ∈ records, ∃ i, n = .record i) ∧
      ∀ i, .record i ∈ records → i < w.store.records.size → ∃ v, w'.store.get? i (.text name) = some (f v) ∧
        (key ≠ name → w.store.keyAt i key = .ok v) := by
  induction records generalizing w with
  | nil =>
    rw [Gives.forM_nil_iff.mp h]
    exact ⟨.refl _, rfl, nofun, nofun⟩
  | cons n rest ih =>
    obtain ⟨m, hn, hrest⟩ := Gives.forM_cons_iff.mp h
    obtain ⟨v, w₁, hv, hset⟩ := Gives.bind_iff.mp hn
    obtain ⟨rfl, id, rfl, hkey⟩ := keyOf_gives hv
    obtain ⟨_, hid, rfl⟩ := Run.setField_gives hset
    cases hid
    obtain ⟨hkeeps, hsize, hrecords, hall⟩ := ih hrest
    rw [Store.size_set] at hsize hall
    have hfirst : w₁.store.Keeps (fun i other => other = name ∧ Node.record i ∈ Node.record id :: rest)
        (w₁.store.set id (.text name) (f v)) := Store.keeps_set _ _ ⟨rfl, List.mem_cons_self⟩
    have hlater : (w₁.store.set id (.text name) (f v)).Keeps
        (fun i other => other = name ∧ Node.record i ∈ Node.record id :: rest) w'.store :=
      hkeeps.mono fun i other ht => ⟨ht.1, List.mem_cons_of_mem _ ht.2⟩
    refine ⟨hfirst.trans hlater, hsize, ?_, ?_⟩
    · intro n hn
      rcases List.mem_cons.mp hn with rfl | hn
      · exact ⟨id, rfl⟩
      · exact hrecords n hn
    · intro i hi hlt
      -- A record that is met again is set again; as the key is another name, it is still looked up by the same key.
      by_cases hr : Node.record i ∈ rest
      · obtain ⟨v', hv', hk⟩ := hall i hr hlt
        refine ⟨v', hv', ?_⟩
        intro hne
        rw [← hk hne]
        apply Store.keyAt_congr
        rw [Store.get?_set, if_neg]
        exact fun he => hne he.2.2.symm
      · -- The record is the first one, and it is not met again.
        have he : i = id := by
          rcases List.mem_cons.mp hi with he | he
          · cases he
            rfl
          · exact absurd he hr
        subst he
        refine ⟨v, ?_, fun _ => hkey⟩
        rw [hkeeps.2 i (by rwa [Store.size_set]) name fun ht => hr ht.2, Store.get?_set, if_pos ⟨rfl, hlt, rfl⟩]

def ownKey? (store : Store) (field : String) : Node → Option Value
  | .record id =>
    match store.keyAt id field with
    | .ok .null => none
    | .ok key => some key
    | .error _ => none
  | _ => none

theorem eq_null_of_key {n : Node} (h : n.key = .ok .null) : n = .null := by
  unfold Node.key at h
  cases hk : n.key? with
  | none =>
    rw [hk] at h
    cases h
  | some v =>
    rw [hk] at h
    cases h
    cases n with
    | scalar a =>
      unfold Node.key? at hk
      split at hk
      · cases hk
        rfl
      · cases hk
    | tuple items =>
      unfold Node.key? at hk
      cases hi : Node.keys? items with
      | none =>
        rw [hi] at hk
        cases hk
      | some keys =>
        rw [hi] at hk
        cases hk
    | list | set | record => cases hk

/-- The key of a record is its own key unless it is null. -/
theorem ownKey?_of_keyAt {store : Store} {id : Nat} {field : String} {key : Value}
    (h : store.keyAt id field = .ok key) (hne : key ≠ .null) : ownKey? store field (.record id) = some key := by
  rw [ownKey?, h]
  cases key with
  | scalar a =>
    cases a with
    | null => exact absurd rfl hne
    | _ => rfl
  | _ => rfl

/-- Keys are read without any change: those that are not null, each once. -/
theorem keysOf_gives {records : List Node} {field : String} {keys : List Value}
    (h : Gives (keysOf records field) w keys w') :
    w' = w ∧ keys = distinctKeys (records.filterMap (ownKey? w.store field)) := by
  obtain ⟨found, m, hfound, hkeys⟩ := Gives.bind_iff.mp h
  obtain ⟨rfl, rfl⟩ := Gives.pure_iff.mp hkeys
  have hread := Gives.filterMapM_reads (g := ownKey? w.store field) hfound ?_
  · rw [hread.2]
    exact ⟨hread.1, rfl⟩
  intro n v m hn
  obtain ⟨found, m₁, hfield, hkey⟩ := Gives.bind_iff.mp hn
  obtain ⟨rfl, id, rfl, rfl⟩ := Run.field?_gives hfield
  -- A field that is missing and one that holds nothing both add no key.
  cases hget : m₁.store.get? id (.text field) with
  | none =>
    rw [hget] at hkey
    obtain ⟨rfl, rfl⟩ := Gives.pure_iff.mp hkey
    refine ⟨rfl, ?_⟩
    rw [ownKey?, Store.keyAt, hget]
  | some n =>
    by_cases hnull : n = .null
    · subst hnull
      rw [hget] at hkey
      obtain ⟨rfl, rfl⟩ := Gives.pure_iff.mp hkey
      refine ⟨rfl, ?_⟩
      rw [ownKey?, Store.keyAt, hget]
      rfl
    · have hsome : Gives (liftM n.key >>= fun key => pure (some key) : Run _ (Option Value)) m₁ v m := by
        rw [hget] at hkey
        split at hkey
        · cases ‹some n = none›
        · cases ‹some n = some Node.null›
          exact absurd rfl hnull
        · cases ‹some n = some _›
          exact hkey
      obtain ⟨key, m₂, hlift, hpure⟩ := Gives.bind_iff.mp hsome
      obtain ⟨hk, rfl⟩ := Gives.lift_iff.mp hlift
      obtain ⟨rfl, rfl⟩ := Gives.pure_iff.mp hpure
      refine ⟨rfl, ?_⟩
      have hat : m.store.keyAt id field = .ok key := by
        rw [Store.keyAt, hget]
        exact hk
      refine (ownKey?_of_keyAt hat ?_).symm
      rintro rfl
      exact hnull (eq_null_of_key hk)

/-- Records are paired with their keys, in their order. -/
theorem keyed_gives {records : List Node} {field : String} {pairs : List (Value × Node)}
    (h : Gives (records.mapM fun r => do return (← (← Run.item r field).key, r)) w pairs w') :
    w' = w ∧ pairs.map (·.2) = records ∧ ∀ p ∈ pairs, ∃ id, p.2 = .record id ∧ w.store.keyAt id field = .ok p.1 := by
  induction records generalizing w pairs with
  | nil =>
    obtain ⟨rfl, rfl⟩ := Gives.mapM_nil_iff.mp h
    exact ⟨rfl, rfl, nofun⟩
  | cons n rest ih =>
    obtain ⟨p, m, ps, hp, hps, rfl⟩ := Gives.mapM_cons_iff.mp h
    obtain ⟨v, m₁, hv, hkeyed⟩ := Gives.bind_iff.mp hp
    obtain ⟨rfl, id, hid, hget⟩ := Run.item_gives hv
    obtain ⟨key, m₂, hkey, hpair⟩ := Gives.bind_iff.mp hkeyed
    obtain ⟨hlift, rfl⟩ := Gives.lift_iff.mp hkey
    obtain ⟨rfl, rfl⟩ := Gives.pure_iff.mp hpair
    obtain ⟨rfl, hrecords, hall⟩ := ih hps
    refine ⟨rfl, congrArg (n :: ·) hrecords, List.forall_mem_cons.mpr ⟨⟨id, hid, ?_⟩, hall⟩⟩
    rw [Store.keyAt, hget]
    exact hlift

/-- What is found by a key are the given records, and each of their keys finds one. -/
theorem byField_gives {records : List Node} {field : String} {found : List (Value × Node)}
    (h : Gives (byField records field) w found w') : w' = w ∧ (∀ p ∈ found, p.2 ∈ records) ∧
      (∀ n ∈ records, ∃ id k, n = .record id ∧ w.store.keyAt id field = .ok k) ∧
      ∀ v, (lookup? v found).isSome = true ↔
        ∃ id k, Node.record id ∈ records ∧ w.store.keyAt id field = .ok k ∧ k.same v = true := by
  obtain ⟨pairs, m, hpairs, hfound⟩ := Gives.bind_iff.mp h
  obtain ⟨rfl, rfl⟩ := Gives.pure_iff.mp hfound
  obtain ⟨rfl, rfl, hall⟩ := keyed_gives hpairs
  refine ⟨rfl, ?_, ?_, ?_⟩
  · intro p hp
    obtain ⟨q, hq, he⟩ := mem_of_mem_collect hp
    exact List.mem_map.mpr ⟨q, hq, he⟩
  · intro n hn
    obtain ⟨p, hp, rfl⟩ := List.mem_map.mp hn
    obtain ⟨id, hid, hkey⟩ := hall p hp
    exact ⟨id, p.1, hid, hkey⟩
  · intro v
    rw [isSome_lookup?_collect]
    constructor
    · rintro ⟨p, hp, hsame⟩
      obtain ⟨id, hid, hkey⟩ := hall p hp
      exact ⟨id, p.1, List.mem_map.mpr ⟨p, hp, hid⟩, hkey, hsame⟩
    · rintro ⟨id, k, hid, hkey, hsame⟩
      obtain ⟨p, hp, he⟩ := List.mem_map.mp hid
      obtain ⟨id', hid', hkey'⟩ := hall p hp
      cases he.symm.trans hid'
      rw [Except.ok.inj (hkey.symm.trans hkey')] at hsame
      exact ⟨p, hp, hsame⟩

/-- To put one more record into its group keeps what holds of all members. -/
theorem all_addToGroup {Q : Node → Prop} {groups : List (Value × List Node)} {key : Value} {record : Node}
    (h : ∀ p ∈ groups, ∀ n ∈ p.2, Q n) (hr : Q record) : ∀ p ∈ addToGroup groups key record, ∀ n ∈ p.2, Q n := by
  intro p hp n hn
  rcases mem_of_mem_assign hp with he | hp
  · rw [he, List.mem_append, List.mem_singleton] at hn
    rcases hn with hn | rfl
    · cases hl : lookup? key groups with
      | none =>
        rw [hl] at hn
        cases hn
      | some known =>
        rw [hl] at hn
        obtain ⟨q, hq, _, rfl⟩ := mem_of_lookup? hl
        exact h q hq n hn
    · exact hr
  · exact h p hp n hn

theorem all_group {Q : Node → Prop} {groups : List (Value × List Node)} (h : ∀ p ∈ groups, ∀ n ∈ p.2, Q n) (v : Value) :
    ∀ n ∈ (lookup? v groups).getD [], Q n := by
  intro n hn
  cases hl : lookup? v groups with
  | none =>
    rw [hl] at hn
    cases hn
  | some known =>
    rw [hl] at hn
    obtain ⟨p, hp, _, rfl⟩ := mem_of_lookup? hl
    exact h p hp n hn

/-- Grouping reads the records and puts each into some group. -/
theorem groups_gives {rows : List Node} {key : String} {groups : List (Value × List Node)}
    (h : Gives (rows.foldlM (fun groups row => do return addToGroup groups (← keyOf row key) row) []) w groups w') :
    w' = w ∧ ∀ p ∈ groups, ∀ n ∈ p.2, n ∈ rows := by
  apply Gives.foldlM_keeps (P := fun groups m => m = w ∧ ∀ p ∈ groups, ∀ n ∈ p.2, n ∈ rows) h
  · rintro row hrow groups _ groups' m' ⟨rfl, hall⟩ hstep
    obtain ⟨v, m, hv, hadd⟩ := Gives.bind_iff.mp hstep
    obtain ⟨rfl, _⟩ := keyOf_gives hv
    obtain ⟨rfl, rfl⟩ := Gives.pure_iff.mp hadd
    exact ⟨rfl, all_addToGroup hall hrow⟩
  · exact ⟨rfl, nofun⟩

/-! The parts of a load: its keys, what they lead to, and one loop that attaches that. -/

section Parts

open Sql

variable [Engine δ]

def ownRelated (s : Schema) (target : Entity) (fields : Option (List String)) (filter : Value) (keys : List Value) :
    Run δ (List (Value × Node)) := do
  if keys.isEmpty then return []
  let q ← queryFor s target fields filter
  let rows ← fetchRecords target (← (q.add (among q.rowAlias .id keys)).build)
  byField rows "id"

def theirRows (s : Schema) (relation : Relation) (key : String) (target : Entity) (fields : Option (List String))
    (filter : Value) (ids : List Value) : Run δ (List Node) := do
  if ids.isEmpty then return []
  let q ← queryFor s target (fields.map (· ++ [key])) filter
  let q := q.add (among q.rowAlias (← Name.make? key) ids)
  let q := q.sorted (sortKeys relation)
  fetchRecords target (← q.build)

def throughRows (s : Schema) (relation : Relation) (table sourceKey targetKey : String) (target : Entity)
    (fields : Option (List String)) (filter : Value) (ids : List Value) :
    Run δ (List (Value × Node) × List (Value × List Node)) := do
  if ids.isEmpty then return ([], [])
  let q ← queryFor s target fields filter
  let source ← Name.make? sourceKey
  let table ← Name.make? table
  let targetColumn ← Name.make? targetKey
  let q := q.joined (.keyed table joinRow targetColumn q.rowAlias .id)
  let q := q.extended (.labelled (.column joinRow source) sourceLabel)
  let q := q.add (among joinRow source ids)
  let q := q.sorted (sortKeys relation)
  let answer ← execute (.select (← q.build))
  gather target (← answer.namedRows)

def theirItems (relation : Relation) (groups : List (Value × List Node)) (id : Value) : Node :=
  let items := (lookup? id groups).getD []
  if relation.link.isToOne then items.headD .null else .list items

/-- What a load has in hand before it attaches anything: what each key leads to, and all records that came up. -/
def inHand (s : Schema) (relation : Relation) (target : Entity) (fields : Option (List String)) (filter : Value)
    (keys : List Value) : Run δ ((Value → Node) × List Node) :=
  match relation.link with
  | .manyToOne _ | .oneToOne _ => do
    let related ← ownRelated s target fields filter keys
    return (fun v => (lookup? v related).getD .null, related.map (·.2))
  | .oneToMany key | .oneToOneInverse key => do
    let rows ← theirRows s relation key target fields filter keys
    let groups ← rows.foldlM (fun groups row => do return addToGroup groups (← keyOf row key) row) []
    return (theirItems relation groups, rows)
  | .manyToMany table sourceKey targetKey => do
    let found ← throughRows s relation table sourceKey targetKey target fields filter keys
    return (fun v => .list ((lookup? v found.2).getD []), found.1.map (·.2))

variable {s : Schema} {relation : Relation} {target : Entity} {records : List Node} {fields : Option (List String)}
  {filter : Value} {keys : List Value}

/-- Without keys nothing is asked for, else there is one statement. -/
theorem ownRelated_gives {related : List (Value × Node)} (h : Gives (ownRelated s target fields filter keys) w related w') :
    (keys.isEmpty = true ∧ w' = w ∧ related = []) ∨ (keys.isEmpty = false ∧
      ∃ (q : Query) (m : World δ) (sel : Select) (rows : List Node),
        Gives (queryFor s target fields filter) w q m ∧ (q.add (among q.rowAlias .id keys)).build = .ok sel ∧
        Gives (fetchRecords target sel) m rows w' ∧ Gives (byField rows "id") w' related w') := by
  unfold ownRelated at h
  split at h
  case isTrue hk =>
    obtain ⟨rfl, rfl⟩ := Gives.pure_iff.mp h
    exact .inl ⟨hk, rfl, rfl⟩
  case isFalse hk =>
    obtain ⟨q, m, hq, hbuild⟩ := Gives.bind_iff.mp h
    obtain ⟨sel, m, hsel, hfetch⟩ := Gives.bind_iff.mp hbuild
    obtain ⟨hb, rfl⟩ := Gives.lift_iff.mp hsel
    obtain ⟨rows, m₁, hrows, hby⟩ := Gives.bind_iff.mp hfetch
    obtain ⟨rfl, _⟩ := byField_gives hby
    exact .inr ⟨Bool.eq_false_iff.mpr hk, q, _, sel, rows, hq, hb, hrows, hby⟩

/-- Without keys nothing is asked for the related rows; else one query over the keys is. -/
theorem theirRows_gives {key : String} {rows : List Node}
    (h : Gives (theirRows s relation key target fields filter keys) w rows w') :
    (keys.isEmpty = true ∧ w' = w ∧ rows = []) ∨ (keys.isEmpty = false ∧
      ∃ (q : Query) (m : World δ) (name : Name) (sel : Select),
        Gives (queryFor s target (fields.map (· ++ [key])) filter) w q m ∧ Name.make? key = .ok name ∧
        ((q.add (among q.rowAlias name keys)).sorted (sortKeys relation)).build = .ok sel ∧
        Gives (fetchRecords target sel) m rows w') := by
  unfold theirRows at h
  split at h
  case isTrue hk =>
    obtain ⟨rfl, rfl⟩ := Gives.pure_iff.mp h
    exact .inl ⟨hk, rfl, rfl⟩
  case isFalse hk =>
    obtain ⟨q, m, hq, hmake⟩ := Gives.bind_iff.mp h
    obtain ⟨name, m, hn, hbuild⟩ := Gives.bind_iff.mp hmake
    obtain ⟨hname, rfl⟩ := Gives.lift_iff.mp hn
    obtain ⟨sel, m, hsel, hrows⟩ := Gives.bind_iff.mp hbuild
    obtain ⟨hb, rfl⟩ := Gives.lift_iff.mp hsel
    exact .inr ⟨Bool.eq_false_iff.mpr hk, q, _, name, sel, hq, hname, hb, hrows⟩

/-- Without keys nothing is asked for the rows behind a table; else one query over the keys and this table is. -/
theorem throughRows_gives {table sourceKey targetKey : String} {found : List (Value × Node) × List (Value × List Node)}
    (h : Gives (throughRows s relation table sourceKey targetKey target fields filter keys) w found w') :
    (keys.isEmpty = true ∧ w' = w ∧ found = ([], [])) ∨ (keys.isEmpty = false ∧
      ∃ (q : Query) (m m₁ : World δ) (source tableName column : Name) (sel : Select) (answer : Answer)
        (rows : List (List (Value × Value))),
        Gives (queryFor s target fields filter) w q m ∧ Name.make? sourceKey = .ok source ∧
        Name.make? table = .ok tableName ∧ Name.make? targetKey = .ok column ∧
        ((((q.joined (.keyed tableName joinRow column q.rowAlias .id)).extended
          (.labelled (.column joinRow source) sourceLabel)).add (among joinRow source keys)).sorted
            (sortKeys relation)).build = .ok sel ∧
        Gives (execute (.select sel)) m answer m₁ ∧ answer.namedRows = .ok rows ∧
        Gives (gather target rows) m₁ found w') := by
  unfold throughRows at h
  split at h
  case isTrue hk =>
    obtain ⟨rfl, rfl⟩ := Gives.pure_iff.mp h
    exact .inl ⟨hk, rfl, rfl⟩
  case isFalse hk =>
    obtain ⟨q, m, hq, hmake⟩ := Gives.bind_iff.mp h
    obtain ⟨source, m, hn, hmake₁⟩ := Gives.bind_iff.mp hmake
    obtain ⟨hsource, rfl⟩ := Gives.lift_iff.mp hn
    obtain ⟨tableName, m, hn, hmake₂⟩ := Gives.bind_iff.mp hmake₁
    obtain ⟨htable, rfl⟩ := Gives.lift_iff.mp hn
    obtain ⟨column, m, hn, hbuild⟩ := Gives.bind_iff.mp hmake₂
    obtain ⟨hcolumn, rfl⟩ := Gives.lift_iff.mp hn
    obtain ⟨sel, m, hsel, hask⟩ := Gives.bind_iff.mp hbuild
    obtain ⟨hb, rfl⟩ := Gives.lift_iff.mp hsel
    obtain ⟨answer, m₁, hanswer, hnamed⟩ := Gives.bind_iff.mp hask
    obtain ⟨rows, m₁, hlift, hgather⟩ := Gives.bind_iff.mp hnamed
    obtain ⟨hrows, rfl⟩ := Gives.lift_iff.mp hlift
    exact .inr ⟨Bool.eq_false_iff.mpr hk, q, _, _, source, tableName, column, sel, answer, rows, hq, hsource, htable,
      hcolumn, hb, hanswer, hrows, hgather⟩

/-- What is in hand comes about in one of three ways, by where the key of the relation is held. -/
theorem inHand_gives {hand : (Value → Node) × List Node}
    (h : Gives (inHand s relation target fields filter keys) w hand w') :
    (∃ key related, (relation.link = .manyToOne key ∨ relation.link = .oneToOne key) ∧
      Gives (ownRelated s target fields filter keys) w related w' ∧
      hand = (fun v => (lookup? v related).getD .null, related.map (·.2))) ∨
    (∃ key rows groups, (relation.link = .oneToMany key ∨ relation.link = .oneToOneInverse key) ∧
      Gives (theirRows s relation key target fields filter keys) w rows w' ∧
      Gives (rows.foldlM (fun groups row => do return addToGroup groups (← keyOf row key) row) []) w' groups w' ∧
      hand = (theirItems relation groups, rows)) ∨
    ∃ table sourceKey targetKey found, relation.link = .manyToMany table sourceKey targetKey ∧
      Gives (throughRows s relation table sourceKey targetKey target fields filter keys) w found w' ∧
      hand = (fun v => .list ((lookup? v found.2).getD []), found.1.map (·.2)) := by
  unfold inHand at h
  cases hl : relation.link with
  | manyToOne key | oneToOne key =>
    simp only [hl] at h
    obtain ⟨related, m, hrelated, hpure⟩ := Gives.bind_iff.mp h
    obtain ⟨rfl, rfl⟩ := Gives.pure_iff.mp hpure
    exact .inl ⟨key, related, by simp, hrelated, rfl⟩
  | oneToMany key | oneToOneInverse key =>
    simp only [hl] at h
    obtain ⟨rows, m, hrows, hgroup⟩ := Gives.bind_iff.mp h
    obtain ⟨groups, m₁, hgroups, hpure⟩ := Gives.bind_iff.mp hgroup
    obtain ⟨rfl, rfl⟩ := Gives.pure_iff.mp hpure
    obtain ⟨rfl, _⟩ := groups_gives hgroups
    exact .inr (.inl ⟨key, rows, groups, by simp, hrows, hgroups, rfl⟩)
  | manyToMany table sourceKey targetKey =>
    simp only [hl] at h
    obtain ⟨found, m, hfound, hpure⟩ := Gives.bind_iff.mp h
    obtain ⟨rfl, rfl⟩ := Gives.pure_iff.mp hpure
    exact .inr (.inr ⟨table, sourceKey, targetKey, found, rfl, hfound, rfl⟩)

/-- A load collects keys, takes in hand what they lead to, and attaches that. -/
theorem load_eq {entity name : String} (hr : s.relation? entity name = some relation)
    (ht : s.entity? relation.target = some target) :
    (load s entity records name fields filter : Run δ (List Node)) = do
      let keys ← keysOf records relation.link.ownKey
      let hand ← inHand s relation target fields filter keys
      records.forM fun r => do Run.setField r relation.name (hand.1 (← keyOf r relation.link.ownKey))
      return hand.2 := by
  unfold load
  simp only [hr, ht]
  cases hl : relation.link with
  | manyToOne key | oneToOne key =>
    unfold loadByOwnKey inHand ownRelated
    simp only [hl]
    refine bind_congr fun keys => ?_
    by_cases hk : keys.isEmpty <;> simp [hk, Link.ownKey]
  | oneToMany key | oneToOneInverse key =>
    unfold loadByTheirKey inHand theirRows
    simp only [hl]
    refine bind_congr fun keys => ?_
    by_cases hk : keys.isEmpty <;> simp [hk, hl, theirItems, Link.ownKey]
  | manyToMany table sourceKey targetKey =>
    unfold loadThrough inHand throughRows
    simp only [hl]
    refine bind_congr fun keys => ?_
    by_cases hk : keys.isEmpty <;> simp [hk, Link.ownKey]

/-- A load gives a result if all keys can be had, what they lead to can be taken in hand, and that can be attached. -/
theorem load_iff {entity name : String} {out : List Node} (hr : s.relation? entity name = some relation)
    (ht : s.entity? relation.target = some target) :
    Gives (load s entity records name fields filter) w out w' ↔
      Gives (keysOf records relation.link.ownKey) w
          (distinctKeys (records.filterMap (ownKey? w.store relation.link.ownKey))) w ∧
        ∃ hand w₁, Gives (inHand s relation target fields filter
            (distinctKeys (records.filterMap (ownKey? w.store relation.link.ownKey)))) w hand w₁ ∧
          Gives (records.forM fun r => do Run.setField r relation.name (hand.1 (← keyOf r relation.link.ownKey))) w₁ ⟨⟩ w' ∧
          hand.2 = out := by
  rw [load_eq hr ht]
  constructor
  · intro h
    obtain ⟨keys, _, hkeys, h⟩ := Gives.bind_iff.mp h
    obtain ⟨rfl, rfl⟩ := keysOf_gives hkeys
    obtain ⟨hand, w₁, hhand, h⟩ := Gives.bind_iff.mp h
    obtain ⟨_, _, hattach, h⟩ := Gives.bind_iff.mp h
    obtain ⟨hout, rfl⟩ := Gives.pure_iff.mp h
    exact ⟨hkeys, hand, w₁, hhand, hattach, hout.symm⟩
  · rintro ⟨hkeys, hand, w₁, hhand, hattach, rfl⟩
    refine Gives.bind_iff.mpr ⟨_, w, hkeys, ?_⟩
    refine Gives.bind_iff.mpr ⟨hand, w₁, hhand, ?_⟩
    exact Gives.bind_iff.mpr ⟨⟨⟩, w', hattach, Gives.pure_iff.mpr ⟨rfl, rfl⟩⟩

theorem load_of_unknown {entity name : String} (hr : s.relation? entity name = none) :
    (load s entity records name fields filter : Run δ (List Node)) = throw (.unknownRelation name entity none) := by
  unfold load
  rw [hr]

theorem load_of_absent {entity name : String} (hr : s.relation? entity name = some relation)
    (ht : s.entity? relation.target = none) :
    (load s entity records name fields filter : Run δ (List Node)) = throw .absentKey := by
  unfold load
  simp only [hr, ht]

/-- What can be loaded is a relation of the schema, to an entity that there is. -/
theorem load_known {entity name : String} {out : List Node} (h : Gives (load s entity records name fields filter) w out w') :
    ∃ relation target, s.relation? entity name = some relation ∧ s.entity? relation.target = some target := by
  cases hr : s.relation? entity name with
  | none =>
    rw [load_of_unknown hr] at h
    exact (Gives.throw_iff.mp h).elim
  | some relation =>
    cases ht : s.entity? relation.target with
    | none =>
      rw [load_of_absent hr ht] at h
      exact (Gives.throw_iff.mp h).elim
    | some target => exact ⟨relation, target, rfl, ht⟩

end Parts

end Loader

end EntityViews
