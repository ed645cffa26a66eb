import EntityViews.Proofs.Lookup

/-!
Records with other numbers. A store can be put on top of another one, which raises the numbers of its records. Loading a
value does not look at the records that are there, so it comes to the same on top of any store.
-/

namespace EntityViews

namespace Node

variable {b n : Nat}

mutual

def raised (b : Nat) : Node → Node
  | .scalar a => .scalar a
  | .list items => .list (raisedItems b items)
  | .tuple items => .tuple (raisedItems b items)
  | .set items => .set (raisedItems b items)
  | .record id => .record (b + id)

def raisedItems (b : Nat) : List Node → List Node
  | [] => []
  | item :: rest => item.raised b :: raisedItems b rest

end

mutual

def mentions : Node → List Nat
  | .scalar _ => []
  | .list items | .tuple items | .set items => mentionsOf items
  | .record id => [id]

def mentionsOf : List Node → List Nat
  | [] => []
  | item :: rest => item.mentions ++ mentionsOf rest

end

def Within (n : Nat) (node : Node) : Prop := ∀ id ∈ node.mentions, id < n

theorem raisedItems_eq_map (items : List Node) : raisedItems b items = items.map (raised b) := by
  induction items with
  | nil => rfl
  | cons item rest ih => rw [raisedItems, ih, List.map_cons]

theorem mem_mentionsOf {items : List Node} {id : Nat} : id ∈ mentionsOf items ↔ ∃ item ∈ items, id ∈ item.mentions := by
  induction items with
  | nil => simp [mentionsOf]
  | cons item rest ih => simp [mentionsOf, ih]

theorem Within.mono {m : Nat} {node : Node} (h : node.Within n) (hm : n ≤ m) : node.Within m :=
  fun id hid => Nat.lt_of_lt_of_le (h id hid) hm

/-- Numbers are mentioned within a bound if all items are within it. -/
theorem within_mentionsOf {items : List Node} :
    (∀ id ∈ mentionsOf items, id < n) ↔ ∀ item ∈ items, item.Within n := by
  constructor
  · intro h item hitem id hid
    exact h id (mem_mentionsOf.mpr ⟨item, hitem, hid⟩)
  · intro h id hid
    obtain ⟨item, hitem, hid⟩ := mem_mentionsOf.mp hid
    exact h item hitem id hid

mutual

/-- What can be a key is the same key with other numbers of records. -/
theorem key?_raised : (node : Node) → (node.raised b).key? = node.key?
  | .scalar _ | .list _ | .set _ | .record _ => by simp only [raised, key?]
  | .tuple items => by rw [raised, key?, key?, keys?_raisedItems items]

theorem keys?_raisedItems : (items : List Node) → keys? (raisedItems b items) = keys? items
  | [] => rfl
  | item :: rest => by rw [raisedItems, keys?, keys?, key?_raised item, keys?_raisedItems rest]

end

theorem key_raised (node : Node) : (node.raised b).key = node.key := by
  rw [key, key, key?_raised]

end Node

def raisedEntries (b : Nat) (entries : List (Value × Node)) : List (Value × Node) :=
  entries.map fun e => (e.1, e.2.raised b)

theorem lookup?_map {α β : Type} (f : α → β) (key : Value) (entries : List (Value × α)) :
    lookup? key (entries.map fun e => (e.1, f e.2)) = (lookup? key entries).map f := by
  induction entries with
  | nil => rfl
  | cons e rest ih =>
    rw [List.map_cons, lookup?_cons, lookup?_cons, ih]
    split <;> rfl

namespace Store

def Closed (s : Store) : Prop := ∀ id, ∀ e ∈ s.entries id, e.2.Within s.records.size

def topped (s t : Store) : Store := ⟨s.records ++ t.records.map (raisedEntries s.records.size)⟩

variable {s t : Store}

theorem closed_empty : Store.empty.Closed := by
  intro id e he
  simp [entries, empty] at he

theorem Closed.get? (h : t.Closed) {id : Nat} {key : Value} {node : Node} (hget : t.get? id key = some node) :
    node.Within t.records.size := by
  obtain ⟨e, he, _, rfl⟩ := mem_of_lookup? hget
  exact h id e he

theorem size_topped (s t : Store) : (s.topped t).records.size = s.records.size + t.records.size := by
  rw [topped, Array.size_append, Array.size_map]

theorem topped_empty (s : Store) : s.topped .empty = s := by
  simp [topped, empty]

theorem entries_topped_lt (s t : Store) {id : Nat} (h : id < s.records.size) : (s.topped t).entries id = s.entries id := by
  simp [entries, topped, Array.getElem?_append_left h]

theorem entries_topped (s t : Store) (id : Nat) :
    (s.topped t).entries (s.records.size + id) = raisedEntries s.records.size (t.entries id) := by
  rw [entries, entries, topped, Array.getElem?_append_right (Nat.le_add_right _ _), Nat.add_sub_cancel_left,
    Array.getElem?_map]
  cases t.records[id]? <;> rfl

theorem get?_topped (s t : Store) (id : Nat) (key : Value) :
    (s.topped t).get? (s.records.size + id) key = (t.get? id key).map (Node.raised s.records.size) := by
  rw [get?, get?, entries_topped, raisedEntries, lookup?_map]

theorem alloc_topped (s t : Store) (es : List (Value × Node)) :
    (s.topped t).alloc (raisedEntries s.records.size es) =
      (s.records.size + (t.alloc es).1, s.topped (t.alloc es).2) := by
  rw [alloc, size_topped, alloc]
  simp only [topped, Array.map_push, Array.append_push]

mutual

/-- A value is loaded in the same way whatever is below. -/
theorem load_topped (s t : Store) : (v : Value) →
    (s.topped t).load v = ((t.load v).1.raised s.records.size, s.topped (t.load v).2)
  | .scalar a => by simp only [load, Node.raised]
  | .list items => by simp only [load, loadItems_topped s t items, Node.raised]
  | .tuple items => by simp only [load, loadItems_topped s t items, Node.raised]
  | .set items => by simp only [load, loadItems_topped s t items, Node.raised]
  | .map entries => by simp only [load, loadEntries_topped s t entries, alloc_topped, Node.raised]

theorem loadItems_topped (s t : Store) : (items : List Value) →
    (s.topped t).loadItems items = (Node.raisedItems s.records.size (t.loadItems items).1, s.topped (t.loadItems items).2)
  | [] => rfl
  | item :: rest => by
    simp only [loadItems, load_topped s t item, loadItems_topped s (t.load item).2 rest, Node.raisedItems]

theorem loadEntries_topped (s t : Store) : (entries : List (Value × Value)) →
    (s.topped t).loadEntries entries =
      (raisedEntries s.records.size (t.loadEntries entries).1, s.topped (t.loadEntries entries).2)
  | [] => rfl
  | (key, value) :: rest => by
    simp only [loadEntries, load_topped s t value, loadEntries_topped s (t.load value).2 rest, raisedEntries,
      List.map_cons]

end

/-- A record of known records leaves the store closed. -/
theorem Closed.alloc (h : t.Closed) {es : List (Value × Node)} (hes : ∀ e ∈ es, e.2.Within t.records.size) :
    (t.alloc es).2.Closed := by
  have hsize : t.records.size ≤ (t.alloc es).2.records.size := (grows_alloc t es).1
  intro id e he
  rw [entries_alloc] at he
  split at he
  · exact (hes e he).mono hsize
  · exact (h id e he).mono hsize

mutual

/-- A loaded value leaves the store closed and points into it. -/
theorem closed_load : (v : Value) → ∀ t : Store, t.Closed →
    (t.load v).2.Closed ∧ (t.load v).1.Within (t.load v).2.records.size
  | .scalar a => fun _ h => ⟨h, nofun⟩
  | .list items | .tuple items | .set items => by
    intro t h
    obtain ⟨hclosed, hitems⟩ := closed_loadItems items t h
    exact ⟨hclosed, Node.within_mentionsOf.mpr hitems⟩
  | .map entries => by
    intro t h
    obtain ⟨hclosed, hentries⟩ := closed_loadEntries entries t h
    refine ⟨hclosed.alloc hentries, ?_⟩
    intro id hid
    rw [List.mem_singleton.mp hid]
    change (t.loadEntries entries).2.records.size < ((t.loadEntries entries).2.records.push _).size
    rw [Array.size_push]
    exact Nat.lt_succ_self _

/-- Loaded items leave the store closed and point into it. -/
theorem closed_loadItems : (items : List Value) → ∀ t : Store, t.Closed → (t.loadItems items).2.Closed ∧
    ∀ node ∈ (t.loadItems items).1, node.Within (t.loadItems items).2.records.size
  | [] => fun _ h => ⟨h, nofun⟩
  | item :: rest => by
    intro t h
    obtain ⟨hfirst, hitem⟩ := closed_load item t h
    obtain ⟨hclosed, hrest⟩ := closed_loadItems rest _ hfirst
    exact ⟨hclosed, List.forall_mem_cons.mpr ⟨hitem.mono (grows_loadItems _ rest).1, hrest⟩⟩

theorem closed_loadEntries : (entries : List (Value × Value)) → ∀ t : Store, t.Closed →
    (t.loadEntries entries).2.Closed ∧
      ∀ e ∈ (t.loadEntries entries).1, e.2.Within (t.loadEntries entries).2.records.size
  | [] => fun _ h => ⟨h, nofun⟩
  | (key, value) :: rest => by
    intro t h
    obtain ⟨hfirst, hvalue⟩ := closed_load value t h
    obtain ⟨hclosed, hrest⟩ := closed_loadEntries rest _ hfirst
    exact ⟨hclosed, List.forall_mem_cons.mpr ⟨hvalue.mono (grows_loadEntries _ rest).1, hrest⟩⟩

end

end Store

end EntityViews
