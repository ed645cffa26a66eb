import EntityViews.Proofs.Answers

/-!
What nodes stand for. A node in a store is read as a value, its records as maps; a value that is put into a store is read
back as it was, also after the store has grown and after other records have changed.
-/

namespace EntityViews

namespace Store

mutual

/-- Whether a node of a store stands for a value, all of whose maps are records from a number on. -/
inductive Reads (s : Store) (base : Nat) : Node → Value → Prop
  | scalar (a : Scalar) : Reads s base (.scalar a) (.scalar a)
  | list {nodes : List Node} {items : List Value} : ReadsItems s base nodes items → Reads s base (.list nodes) (.list items)
  | tuple {nodes : List Node} {items : List Value} :
    ReadsItems s base nodes items → Reads s base (.tuple nodes) (.tuple items)
  | set {nodes : List Node} {items : List Value} : ReadsItems s base nodes items → Reads s base (.set nodes) (.set items)
  | record {id : Nat} {entries : List (Value × Value)} : base ≤ id → id < s.records.size →
    ReadsEntries s base (s.entries id) entries → Reads s base (.record id) (.map entries)

inductive ReadsItems (s : Store) (base : Nat) : List Node → List Value → Prop
  | nil : ReadsItems s base [] []
  | cons {node : Node} {nodes : List Node} {item : Value} {items : List Value} : Reads s base node item →
    ReadsItems s base nodes items → ReadsItems s base (node :: nodes) (item :: items)

inductive ReadsEntries (s : Store) (base : Nat) : List (Value × Node) → List (Value × Value) → Prop
  | nil : ReadsEntries s base [] []
  | cons {key : Value} {node : Node} {nodes : List (Value × Node)} {value : Value} {entries : List (Value × Value)} :
    Reads s base node value → ReadsEntries s base nodes entries →
    ReadsEntries s base ((key, node) :: nodes) ((key, value) :: entries)

end

def KeepsFrom (base : Nat) (s t : Store) : Prop :=
  s.records.size ≤ t.records.size ∧ ∀ i, base ≤ i → i < s.records.size → t.entries i = s.entries i

theorem Grows.keepsFrom {s t : Store} (h : s.Grows t) (base : Nat) : s.KeepsFrom base t :=
  ⟨h.1, fun i _ hi => h.2 i hi⟩

mutual

/-- What reads as a value goes on reading as it while the records that it is made of are kept. -/
theorem Reads.kept {s t : Store} {base : Nat} (hk : s.KeepsFrom base t) {n : Node} {v : Value} :
    s.Reads base n v → t.Reads base n v
  | .scalar a => .scalar a
  | .list h => .list (h.kept hk)
  | .tuple h => .tuple (h.kept hk)
  | .set h => .set (h.kept hk)
  | .record hbase hlt h => by
    refine .record hbase (Nat.lt_of_lt_of_le hlt hk.1) ?_
    rw [hk.2 _ hbase hlt]
    exact h.kept hk

theorem ReadsItems.kept {s t : Store} {base : Nat} (hk : s.KeepsFrom base t) {nodes : List Node} {items : List Value} :
    s.ReadsItems base nodes items → t.ReadsItems base nodes items
  | .nil => .nil
  | .cons h hs => .cons (h.kept hk) (hs.kept hk)

theorem ReadsEntries.kept {s t : Store} {base : Nat} (hk : s.KeepsFrom base t) {nodes : List (Value × Node)}
    {entries : List (Value × Value)} : s.ReadsEntries base nodes entries → t.ReadsEntries base nodes entries
  | .nil => .nil
  | .cons h hs => .cons (h.kept hk) (hs.kept hk)

end

variable {base : Nat}

mutual

/-- A loaded value reads as what was loaded. -/
theorem reads_load (s t : Store) (hbase : base ≤ s.records.size) :
    (v : Value) → (s.load v).2.Grows t → t.Reads base (s.load v).1 v
  | .scalar a, _ => .scalar a
  | .list items, h => .list (reads_loadItems s t hbase items h)
  | .tuple items, h => .tuple (reads_loadItems s t hbase items h)
  | .set items, h => .set (reads_loadItems s t hbase items h)
  | .map entries, h => by
    -- The entries come first; the record itself is the last one that is made.
    have hfirst := grows_loadEntries s entries
    have hown := grows_alloc (s.loadEntries entries).2 (s.loadEntries entries).1
    have hlast : (s.loadEntries entries).2.records.size <
        ((s.loadEntries entries).2.alloc (s.loadEntries entries).1).2.records.size := by
      rw [alloc, Array.size_push]
      omega
    have hentries : t.entries (s.loadEntries entries).2.records.size = (s.loadEntries entries).1 := by
      rw [h.2 _ hlast]
      exact (entries_alloc _ _ _).trans (if_pos rfl)
    refine .record (Nat.le_trans hbase hfirst.1) (Nat.lt_of_lt_of_le hlast h.1) ?_
    rw [hentries]
    exact reads_loadEntries s t hbase entries (hown.trans h)

theorem reads_loadItems (s t : Store) (hbase : base ≤ s.records.size) :
    (items : List Value) → (s.loadItems items).2.Grows t → t.ReadsItems base (s.loadItems items).1 items
  | [], _ => .nil
  | item :: rest, h =>
    have hnext : base ≤ (s.load item).2.records.size := Nat.le_trans hbase (grows_load s item).1
    .cons (reads_load s t hbase item ((grows_loadItems _ rest).trans h)) (reads_loadItems _ t hnext rest h)

theorem reads_loadEntries (s t : Store) (hbase : base ≤ s.records.size) :
    (entries : List (Value × Value)) → (s.loadEntries entries).2.Grows t →
    t.ReadsEntries base (s.loadEntries entries).1 entries
  | [], _ => .nil
  | (_, value) :: rest, h =>
    have hnext : base ≤ (s.load value).2.records.size := Nat.le_trans hbase (grows_load s value).1
    .cons (reads_load s t hbase value ((grows_loadEntries _ rest).trans h)) (reads_loadEntries _ t hnext rest h)

end

theorem ReadsItems.of_map {s : Store} {α : Type} {node : α → Node} {item : α → Value} {xs : List α}
    (h : s.ReadsItems base (xs.map node) (xs.map item)) : ∀ x ∈ xs, s.Reads base (node x) (item x) := by
  induction xs with
  | nil => exact nofun
  | cons x xs ih =>
    cases h with
    | cons hx hrest => exact List.forall_mem_cons.mpr ⟨hx, ih hrest⟩

/-- What a key finds among the entries reads as what it finds in the mapping. -/
theorem ReadsEntries.lookup? {s : Store} {nodes : List (Value × Node)} {entries : List (Value × Value)} {key v : Value}
    (h : s.ReadsEntries base nodes entries) (hv : EntityViews.lookup? key entries = some v) :
    ∃ n, EntityViews.lookup? key nodes = some n ∧ s.Reads base n v := by
  induction entries generalizing nodes with
  | nil => cases hv
  | cons e rest ih =>
    obtain ⟨k, x⟩ := e
    cases h with
    | cons hx hrest =>
      rw [lookup?_cons] at hv
      rw [lookup?_cons]
      by_cases hk : k.same key
      · rw [if_pos hk] at hv ⊢
        cases hv
        exact ⟨_, rfl, hx⟩
      · rw [if_neg hk] at hv ⊢
        exact ih hrest hv

theorem Reads.scalarAt {s : Store} {id : Nat} {entries : List (Value × Value)} {name : String} {a : Scalar}
    (h : s.Reads base (.record id) (.map entries)) (hv : EntityViews.lookup? (.text name) entries = some (.scalar a)) :
    s.get? id (.text name) = some (.scalar a) := by
  cases h with
  | record _ _ hentries =>
    obtain ⟨n, hn, hreads⟩ := hentries.lookup? hv
    cases hreads
    exact hn

/-- The key under a name of a record that is read as a map, if it refers to a row. -/
theorem Reads.keyAt {s : Store} {id : Nat} {entries : List (Value × Value)} {name : String} {a : Scalar}
    (h : s.Reads base (.record id) (.map entries)) (hv : EntityViews.lookup? (.text name) entries = some (.scalar a))
    (hkey : (Value.scalar a).isKey = true) :
    s.get? id (.text name) = some (.scalar a) ∧ (Node.scalar a).key = .ok (.scalar a) := by
  refine ⟨h.scalarAt hv, ?_⟩
  rw [Node.key, Node.key?, if_pos hkey]

end Store

end EntityViews
