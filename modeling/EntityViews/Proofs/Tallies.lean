import Mathlib.Data.List.Nodup
import EntityViews.Learning.Annotators
import EntityViews.Learning.Sources
import EntityViews.Proofs.Distinct
import EntityViews.Proofs.Enquiries
import EntityViews.Proofs.Integers
import EntityViews.Proofs.Operands

/-!
What the annotators of the learning domain fill in. Main statement: one query asks for the distinct ids of all records, and
what its rows say of an id is found on every record with this id, in a histogram of its own, and nothing else is changed.
-/

namespace EntityViews

open Run

/-! Keys and entries. -/

/-- Integers are told apart as keys as they are as numbers. -/
theorem distinctKeys_ints (ns : List Int) : distinctKeys (ns.map .int) = (distinct ns).map .int := by
  have hrun : ∀ (ns seen : List Int),
      (ns.map Value.int).foldl (fun seen k => if seen.any (·.same k) then seen else seen ++ [k]) (seen.map .int) =
        (addNew seen ns).map .int := by
    intro ns
    induction ns with
    | nil => exact fun _ => rfl
    | cons n rest ih =>
      intro seen
      have hany : (seen.map Value.int).any (·.same (.int n)) = true ↔ n ∈ seen := by
        simp only [List.any_map, List.any_eq_true, Function.comp_apply, Value.same_ints, exists_eq_right]
      rw [List.map_cons, List.foldl_cons, addNew_cons]
      by_cases hn : n ∈ seen
      · rw [if_pos (hany.mpr hn), if_pos hn, ih]
      · rw [if_neg fun h => hn (hany.mp h), if_neg hn, ← ih, List.map_append]
        rfl
  exact hrun ns []

/-- The last of two assignments to one key counts. -/
theorem assign_assign {α : Type} {key : Value} (hkey : key.same key = true) (v v' : α) (entries : List (Value × α)) :
    assign key v (assign key v' entries) = assign key v entries := by
  induction entries with
  | nil => rw [assign, assign, assign, if_pos hkey]
  | cons e rest ih =>
    obtain ⟨k, x⟩ := e
    rw [assign]
    by_cases hk : k.same key
    · rw [if_pos hk, assign, if_pos hk, assign, if_pos hk]
    · rw [if_neg hk, assign, if_neg hk, assign, if_neg hk, ih]

/-! One field of some records filled in. -/

namespace Store

/-- Whether a store has a value under one key of some records of an earlier store, and no other key and no other of these
records has changed. -/
structure Fills (s t : Store) (objects : List Nat) (key : String) (value : Nat → Node) : Prop where
  grown : s.records.size ≤ t.records.size
  filled : ∀ o ∈ objects, t.entries o = assign (.text key) (value o) (s.entries o)
  others : ∀ i < s.records.size, i ∉ objects → t.entries i = s.entries i

namespace Fills

variable {s t : Store} {objects : List Nat} {key : String} {value : Nat → Node}

theorem nil (s : Store) (key : String) (value : Nat → Node) : s.Fills s [] key value :=
  ⟨Nat.le_refl _, nofun, fun _ _ _ => rfl⟩

theorem congr {value' : Nat → Node} (h : s.Fills t objects key value) (hv : ∀ o ∈ objects, value o = value' o) :
    s.Fills t objects key value' :=
  ⟨h.grown, fun o ho => hv o ho ▸ h.filled o ho, h.others⟩

theorem get?_other (h : s.Fills t objects key value) {i : Nat} (hi : i < s.records.size) {name : String} (hne : key ≠ name) :
    t.get? i (.text name) = s.get? i (.text name) := by
  rw [get?, get?]
  by_cases ho : i ∈ objects
  · rw [h.filled i ho, lookup?_assign, if_neg fun hs => hne (Value.same_texts.mp hs)]
  · rw [h.others i hi ho]

/-- One more record is filled in, perhaps for another time, after new records have come up. -/
theorem concat {u : Store} (h : s.Fills t objects key value) (hu : t.Grows u) {o : Nat} (ho : o < s.records.size)
    (hobjects : ∀ p ∈ objects, p < s.records.size) (v : Node) :
    s.Fills (u.set o (.text key) v) (objects ++ [o]) key (Function.update value o v) := by
  have hold : ∀ p < s.records.size, u.entries p = t.entries p := fun p hp => hu.2 p (Nat.lt_of_lt_of_le hp h.grown)
  have hsize : s.records.size ≤ u.records.size := Nat.le_trans h.grown hu.1
  have hother : ∀ p < s.records.size, p ≠ o → (u.set o (.text key) v).entries p = t.entries p := by
    intro p hp hne
    rw [entries_set, if_neg fun he => hne he.1.symm, hold p hp]
  refine ⟨?_, ?_, ?_⟩
  · rwa [size_set]
  · intro p hp
    by_cases he : p = o
    · subst he
      rw [entries_set, if_pos ⟨rfl, Nat.lt_of_lt_of_le ho hsize⟩, hold p ho, Function.update_self]
      by_cases hmem : p ∈ objects
      · rw [h.filled p hmem, assign_assign (Value.same_texts.mpr rfl)]
      · rw [h.others p ho hmem]
    · have hmem : p ∈ objects := (List.mem_append.mp hp).resolve_right fun hs => he (List.mem_singleton.mp hs)
      rw [hother p (hobjects p hmem) he, h.filled p hmem, Function.update_of_ne he]
  · intro i hi hnot
    rw [List.mem_append, List.mem_singleton, not_or] at hnot
    rw [hother i hi hnot.2, h.others i hi hnot.1]

/-- New records that came up before make no difference. -/
theorem of_grows {u : Store} (hg : s.Grows t) (h : t.Fills u objects key value) (hobjects : ∀ o ∈ objects, o < s.records.size) :
    s.Fills u objects key value := by
  refine ⟨Nat.le_trans hg.1 h.grown, ?_, ?_⟩
  · intro o ho
    rw [h.filled o ho, hg.2 o (hobjects o ho)]
  · intro i hi hnot
    rw [h.others i (Nat.lt_of_lt_of_le hi hg.1) hnot, hg.2 i hi]

end Fills

end Store

variable {δ : Type} {w : World δ} {objects : List Nat} {id : Nat → Int}

namespace Run

theorem item_of_get? {i : Nat} {key : String} {v : Node} (h : w.store.get? i (.text key) = some v) :
    Gives (Run.item (.record i) key) w v w := by
  refine Gives.bind_iff.mpr ⟨w, w, Gives.get_iff.mpr ⟨rfl, rfl⟩, ?_⟩
  rw [h]
  exact Gives.pure_iff.mpr ⟨rfl, rfl⟩

theorem itemKey_gives {i : Nat} {key : String} {n : Int} (h : w.store.get? i (.text key) = some (.scalar (.int n))) :
    Gives (do (← Run.item (.record i) key).key) w (Value.int n) w :=
  Gives.bind_iff.mpr ⟨_, w, item_of_get? h, Gives.lift_iff.mpr ⟨rfl, rfl⟩⟩

/-- A loop over one more object is the loop and then this object. -/
theorem forM_concat_iff {g : Node → Run δ PUnit} {xs : List Nat} {o : Nat} {w' : World δ} :
    Gives (((xs ++ [o]).map Node.record).forM g) w ⟨⟩ w' ↔
      ∃ m, Gives ((xs.map Node.record).forM g) w ⟨⟩ m ∧ Gives (g (.record o)) m ⟨⟩ w' := by
  have happend : ((xs ++ [o]).map Node.record).forM g =
      (xs.map Node.record).forM g >>= fun _ => ([o].map Node.record).forM g := by
    rw [List.map_append]
    exact List.forM_append
  rw [happend, Gives.bind_iff]
  constructor
  · rintro ⟨_, m, hxs, ho⟩
    obtain ⟨m', ho, hnil⟩ := Gives.forM_cons_iff.mp ho
    obtain rfl := Gives.forM_nil_iff.mp hnil
    exact ⟨m, hxs, ho⟩
  · rintro ⟨m, hxs, ho⟩
    exact ⟨⟨⟩, m, hxs, Gives.forM_cons_iff.mpr ⟨w', ho, Gives.forM_nil_iff.mpr rfl⟩⟩

/-- A loop that sets one field of each record, to what depends on the record alone, fills it in. -/
theorem forM_fills (g : Node → Run δ PUnit) (key : String) (value : Nat → Node) (objects : List Nat)
    (hobjects : ∀ o ∈ objects, o < w.store.records.size)
    (hstep : ∀ o ∈ objects, ∀ m : World δ, (∀ name, key ≠ name → m.store.get? o (.text name) = w.store.get? o (.text name)) →
      Gives (g (.record o)) m ⟨⟩ { m with store := m.store.set o (.text key) (value o) }) :
    ∃ t, Gives ((objects.map Node.record).forM g) w ⟨⟩ { w with store := t } ∧ w.store.Fills t objects key value := by
  -- From the back, as a record that comes again is filled in anew.
  induction objects using List.reverseRecOn with
  | nil => exact ⟨w.store, Gives.forM_nil_iff.mpr rfl, .nil _ _ _⟩
  | append_singleton xs o ih =>
    obtain ⟨hxs, ho⟩ := List.forall_mem_append.mp hobjects
    obtain ⟨hstepxs, hstepo⟩ := List.forall_mem_append.mp hstep
    obtain ⟨t, hrun, hfills⟩ := ih hxs hstepxs
    have ho : o < w.store.records.size := ho o (List.mem_singleton_self o)
    have hlast := hstepo o (List.mem_singleton_self o) { w with store := t } fun _ => hfills.get?_other ho
    refine ⟨_, forM_concat_iff.mpr ⟨_, hrun, hlast⟩, ?_⟩
    have hall := hfills.concat (.refl t) ho hxs (value o)
    rwa [Function.update_eq_self] at hall

end Run

namespace Learning

/-! What the rows of a query come to. -/

/-- A row of a query by owners and levels: how many words of a level an owner has. -/
structure Tally where
  owner : Int
  level : Int
  count : Scalar

namespace Tally

def columns : List String := ["ownerId", "level", "count"]

def cells (t : Tally) : List Value := [.int t.owner, .int t.level, .scalar t.count]

def entry (t : Tally) : Value × Node := (.int t.level, .scalar t.count)

def addTo (counts : List (Value × List (Value × Node))) (t : Tally) : List (Value × List (Value × Node)) :=
  assign (.int t.owner) (assign (.int t.level) (.scalar t.count) ((lookup? (.int t.owner) counts).getD [])) counts

/-- To add a count to what was counted so far changes no record. -/
theorem addCount_gives {base : Nat} {n : Node} {t : Tally} (h : w.store.Reads base n (named columns t.cells))
    (counts : List (Value × List (Value × Node))) : Gives (addCount counts n) w (t.addTo counts) w := by
  have hcells : collect ((columns.map Value.text).zip t.cells) =
      [(.text "ownerId", .int t.owner), (.text "level", .int t.level), (.text "count", .scalar t.count)] := rfl
  rw [named, hcells] at h
  obtain ⟨row, rfl⟩ : ∃ row, n = .record row := by
    cases h
    exact ⟨_, rfl⟩
  have howner : w.store.get? row (.text "ownerId") = some (.scalar (.int t.owner)) := h.scalarAt rfl
  have hlevel : w.store.get? row (.text "level") = some (.scalar (.int t.level)) := h.scalarAt rfl
  have hcount : w.store.get? row (.text "count") = some (.scalar t.count) := h.scalarAt rfl
  unfold addCount
  refine Gives.bind_iff.mpr ⟨_, w, item_of_get? hcount, ?_⟩
  refine Gives.bind_iff.mpr ⟨_, w, item_of_get? howner, ?_⟩
  refine Gives.bind_iff.mpr ⟨.int t.owner, w, Gives.lift_iff.mpr ⟨rfl, rfl⟩, ?_⟩
  refine Gives.bind_iff.mpr ⟨_, w, item_of_get? hlevel, ?_⟩
  refine Gives.bind_iff.mpr ⟨w, w, Gives.get_iff.mpr ⟨rfl, rfl⟩, ?_⟩
  exact Gives.bind_iff.mpr ⟨t.level, w, Gives.lift_iff.mpr ⟨rfl, rfl⟩, Gives.pure_iff.mpr ⟨rfl, rfl⟩⟩

/-- Rows are counted one after the other. -/
theorem counts_gives {base : Nat} {nodes : List Node} {tallies : List Tally}
    (h : w.store.ReadsItems base nodes (tallies.map fun t => named columns t.cells))
    (counts : List (Value × List (Value × Node))) :
    Gives (nodes.foldlM addCount counts) w (tallies.foldl addTo counts) w := by
  induction tallies generalizing nodes counts with
  | nil =>
    cases h
    exact Gives.foldlM_nil_iff.mpr ⟨rfl, rfl⟩
  | cons t rest ih =>
    cases h with
    | cons ht hrest => exact Gives.foldlM_cons_iff.mpr ⟨_, w, addCount_gives ht counts, ih hrest _⟩

/-- Under an owner the counts have just the rows of this owner. -/
theorem lookup?_counts {tallies : List Tally} (h : (tallies.map fun t => (t.owner, t.level)).Nodup) (owner : Int) :
    (lookup? (.int owner) (tallies.foldl addTo [])).getD [] = (tallies.filter (·.owner == owner)).map entry := by
  induction tallies using List.reverseRecOn generalizing owner with
  | nil => rfl
  | append_singleton rest t ih =>
    rw [List.map_append, List.nodup_append] at h
    obtain ⟨hrest, _, hapart⟩ := h
    rw [List.foldl_append, List.foldl_cons, List.foldl_nil, addTo, lookup?_assign, ih hrest, List.filter_append,
      List.map_append]
    by_cases ht : t.owner = owner
    · -- The level is new to the owner, so that the row comes behind the others.
      subst ht
      have hnew : ∀ e ∈ (rest.filter (·.owner == t.owner)).map entry, e.1.same (.int t.level) = false := by
        intro e he
        obtain ⟨u, hu, rfl⟩ := List.mem_map.mp he
        obtain ⟨hu, howner⟩ := List.mem_filter.mp hu
        apply Bool.eq_false_iff.mpr
        intro hsame
        have hlevel : u.level = t.level := Value.same_ints.mp hsame
        refine hapart _ (List.mem_map_of_mem hu) _ (List.mem_singleton_self _) ?_
        rw [beq_iff_eq.mp howner, hlevel]
      have hthis : [t].filter (·.owner == t.owner) = [t] := by simp
      rw [if_pos (Value.same_ints.mpr rfl), assign_of_new hnew, hthis]
      rfl
    · rw [if_neg fun hs => ht (Value.same_ints.mp hs), ih hrest, List.filter_cons_of_neg (by simpa using ht)]
      exact (List.append_nil _).symm

end Tally

def countOf (tallies : List Tally) (owner : Int) (l : VocabLevel) : Scalar :=
  match tallies.find? fun t => t.owner == owner && t.level == l.value with
  | some t => t.count
  | none => .int 0

def histogramOf (counts : List (Value × List (Value × Node))) (owner : Int) : List (Value × Node) :=
  ((lookup? (.int owner) counts).getD []).foldl (fun h e => assign e.1 e.2 h)
    (zeroHistogram.map fun e => (e.1, .scalar (.int 0)))

/-- A level holds its own count if there is one, and else what it held at first. -/
theorem lookup?_entries (level : Int) (zeros : List (Value × Node)) {own : List Tally} (h : (own.map Tally.level).Nodup) :
    lookup? (.int level) ((own.map Tally.entry).foldl (fun h e => assign e.1 e.2 h) zeros) =
      ((own.find? (·.level == level)).map fun t => Node.scalar t.count).or (lookup? (.int level) zeros) := by
  induction own using List.reverseRecOn with
  | nil => rfl
  | append_singleton rest t ih =>
    rw [List.map_append, List.nodup_append] at h
    obtain ⟨hrest, _, hapart⟩ := h
    rw [List.map_append, List.foldl_append, List.map_singleton, List.foldl_cons, List.foldl_nil, lookup?_assign,
      List.find?_append, ih hrest]
    have hsame : t.entry.1.same (.int level) = true ↔ t.level = level := Value.same_ints
    by_cases ht : t.level = level
    · subst ht
      have hnone : rest.find? (·.level == t.level) = none := by
        apply List.find?_eq_none.mpr
        intro u hu he
        exact hapart _ (List.mem_map_of_mem hu) _ (List.mem_singleton_self _) (beq_iff_eq.mp he)
      have hthis : [t].find? (·.level == t.level) = some t := by simp
      rw [hnone, if_pos (hsame.mpr rfl), Option.none_or, hthis]
      rfl
    · have hother : [t].find? (·.level == level) = none := by simp [ht]
      rw [if_neg fun hs => ht (hsame.mp hs), hother, Option.or_none]

/-- The histogram of an owner holds for each level the count of the tally, or zero. -/
theorem lookup?_histogramOf {tallies : List Tally} (h : (tallies.map fun t => (t.owner, t.level)).Nodup) (owner : Int)
    (l : VocabLevel) : lookup? (.int l.value) (histogramOf (tallies.foldl Tally.addTo []) owner) =
      some (.scalar (countOf tallies owner l)) := by
  have hlevels : ((tallies.filter (·.owner == owner)).map Tally.level).Nodup := by
    have hpairs : ((tallies.filter (·.owner == owner)).map fun t => (t.owner, t.level)) =
        ((tallies.filter (·.owner == owner)).map Tally.level).map (Prod.mk owner) := by
      rw [List.map_map]
      apply List.map_congr_left
      intro t ht
      have howner : t.owner = owner := beq_iff_eq.mp (List.mem_filter.mp ht).2
      rw [howner]
      rfl
    have hnodup : ((tallies.filter (·.owner == owner)).map fun t => (t.owner, t.level)).Nodup :=
      (List.Sublist.map _ List.filter_sublist).nodup h
    exact List.Nodup.of_map _ (hpairs ▸ hnodup)
  have hzero : lookup? (.int l.value) (zeroHistogram.map fun e => (e.1, Node.scalar (.int 0))) = some (.scalar (.int 0)) := by
    cases l <;> rfl
  rw [histogramOf, Tally.lookup?_counts h, lookup?_entries _ _ hlevels, hzero, List.find?_filter, countOf]
  simp only [Bool.decide_and, Bool.decide_eq_true]
  cases tallies.find? fun t => t.owner == owner && t.level == l.value <;> rfl

/-! Records and their ids. -/

def distinctIds (objects : List Nat) (id : Nat → Int) : List Value := (distinct (objects.map id)).map .int

def Identified (s : Store) (objects : List Nat) (id : Nat → Int) : Prop :=
  ∀ o ∈ objects, s.get? o (.text "id") = some (.scalar (.int (id o)))

namespace Identified

variable {s t : Store}

theorem lt_size (h : Identified s objects id) : ∀ o ∈ objects, o < s.records.size := by
  intro o ho
  by_contra hge
  have hnone : s.get? o (.text "id") = none := by
    rw [Store.get?, Store.entries, Array.getElem?_eq_none (Nat.le_of_not_lt hge)]
    rfl
  cases hnone.symm.trans (h o ho)

theorem grows (h : Identified s objects id) (hg : s.Grows t) : Identified t objects id := by
  intro o ho
  rw [Store.get?, hg.2 o (h.lt_size o ho)]
  exact h o ho

end Identified

/-- The ids of objects are read once each. -/
theorem recordIds_gives (h : Identified w.store objects id) :
    Gives (recordIds (objects.map .record)) w (distinctIds objects id) w := by
  have hkeys : ∀ objects : List Nat, Identified w.store objects id →
      Gives ((objects.map Node.record).mapM fun r => do (← Run.item r "id").key) w ((objects.map id).map .int) w := by
    intro objects
    induction objects with
    | nil => exact fun _ => Gives.mapM_nil_iff.mpr ⟨rfl, rfl⟩
    | cons o rest ih =>
      intro h
      have hrest := ih fun p hp => h p (List.mem_cons_of_mem _ hp)
      exact Gives.mapM_cons_iff.mpr ⟨_, w, _, itemKey_gives (h o List.mem_cons_self), hrest, rfl⟩
  exact Gives.bind_iff.mpr ⟨_, w, hkeys objects h, Gives.pure_iff.mpr ⟨(distinctKeys_ints _).symm, rfl⟩⟩

/-! The loops over the records. -/

structure Histograms (s t : Store) (counts : List (Value × List (Value × Node))) (objects : List Nat) (id : Nat → Int)
    (histogram : Nat → Nat) : Prop where
  fills : s.Fills t objects "vocabsByLevel" fun o => .record (histogram o)
  own : ∀ o ∈ objects, ∀ p ∈ objects, histogram o = histogram p → o = p
  fresh : ∀ o ∈ objects, s.records.size ≤ histogram o ∧ histogram o < t.records.size
  counted : ∀ o ∈ objects, t.entries (histogram o) = histogramOf counts (id o)

namespace Histograms

variable {s t : Store} {counts : List (Value × List (Value × Node))} {histogram : Nat → Nat}

theorem nil (s : Store) (counts : List (Value × List (Value × Node))) (id : Nat → Int) (histogram : Nat → Nat) :
    Histograms s s counts [] id histogram :=
  ⟨.nil _ _ _, nofun, nofun, nofun⟩

/-- One more record is given a histogram, which takes the next number; if the record has one already, it is given up. -/
theorem concat (h : Histograms s t counts objects id histogram) (hobjects : ∀ p ∈ objects, p < s.records.size) {o : Nat}
    (ho : o < s.records.size) :
    Histograms s ((t.alloc (histogramOf counts (id o))).2.set o (.text "vocabsByLevel") (.record t.records.size)) counts
      (objects ++ [o]) id (Function.update histogram o t.records.size) := by
  have hgrows : t.Grows (t.alloc (histogramOf counts (id o))).2 := t.grows_alloc _
  have hsize : (t.alloc (histogramOf counts (id o))).2.records.size = t.records.size + 1 := Array.size_push _
  have hbefore : ∀ p ∈ objects ++ [o], p ≠ o → p ∈ objects := fun p hp hne =>
    (List.mem_append.mp hp).resolve_right fun hs => hne (List.mem_singleton.mp hs)
  have hlast : ∀ p ∈ objects ++ [o], p ≠ o → histogram p ≠ t.records.size := fun p hp hne =>
    Nat.ne_of_lt (h.fresh p (hbefore p hp hne)).2
  -- No histogram is one of the records themselves.
  have hapart : ∀ i, s.records.size ≤ i → o ≠ i := fun i hi => Nat.ne_of_lt (Nat.lt_of_lt_of_le ho hi)
  refine ⟨?_, ?_, ?_, ?_⟩
  · refine (h.fills.concat hgrows ho hobjects _).congr fun p _ => ?_
    by_cases hp : p = o
    · rw [hp, Function.update_self, Function.update_self]
    · rw [Function.update_of_ne hp, Function.update_of_ne hp]
  · intro p hp q hq he
    by_cases hpo : p = o <;> by_cases hqo : q = o
    · rw [hpo, hqo]
    · rw [hpo, Function.update_self, Function.update_of_ne hqo] at he
      exact absurd he.symm (hlast q hq hqo)
    · rw [hqo, Function.update_self, Function.update_of_ne hpo] at he
      exact absurd he (hlast p hp hpo)
    · rw [Function.update_of_ne hpo, Function.update_of_ne hqo] at he
      exact h.own p (hbefore p hp hpo) q (hbefore q hq hqo) he
  · intro p hp
    rw [Store.size_set, hsize]
    by_cases hpo : p = o
    · rw [hpo, Function.update_self]
      exact ⟨h.fills.grown, Nat.lt_succ_self _⟩
    · obtain ⟨hle, hlt⟩ := h.fresh p (hbefore p hp hpo)
      rw [Function.update_of_ne hpo]
      exact ⟨hle, Nat.lt_succ_of_lt hlt⟩
  · intro p hp
    by_cases hpo : p = o
    · rw [hpo, Function.update_self, Store.entries_set, if_neg fun hs => hapart _ h.fills.grown hs.1]
      exact (t.entries_alloc _ _).trans (if_pos rfl)
    · have hmem := hbefore p hp hpo
      obtain ⟨hle, hlt⟩ := h.fresh p hmem
      rw [Function.update_of_ne hpo, Store.entries_set, if_neg fun hs => hapart _ hle hs.1, hgrows.2 _ hlt]
      exact h.counted p hmem

end Histograms

/-- The loop that gives each record its histogram. -/
theorem histograms_gives (counts : List (Value × List (Value × Node))) (h : Identified w.store objects id) :
    ∃ (t : Store) (histogram : Nat → Nat),
      Gives ((objects.map Node.record).forM fun record => do
        let id ← (← Run.item record "id").key
        let zeros := zeroHistogram.map fun e => (e.1, Node.scalar (.int 0))
        let own := (lookup? id counts).getD []
        let histogram ← Run.newRecord (own.foldl (fun h e => assign e.1 e.2 h) zeros)
        Run.setField record "vocabsByLevel" histogram) w ⟨⟩ { w with store := t } ∧
      Histograms w.store t counts objects id histogram := by
  -- From the back: of the histograms that a record is given one after the other it keeps the last.
  induction objects using List.reverseRecOn with
  | nil => exact ⟨w.store, fun _ => 0, Gives.forM_nil_iff.mpr rfl, .nil _ _ _ _⟩
  | append_singleton xs o ih =>
    obtain ⟨hsizes, hsize⟩ := List.forall_mem_append.mp h.lt_size
    obtain ⟨hxs, ho⟩ := List.forall_mem_append.mp h
    obtain ⟨t, histogram, hrun, hgiven⟩ := ih hxs
    have hlt : o < w.store.records.size := hsize o (List.mem_singleton_self o)
    have hid : t.get? o (.text "id") = some (.scalar (.int (id o))) := by
      rw [hgiven.fills.get?_other hlt (by decide)]
      exact ho o (List.mem_singleton_self o)
    refine ⟨_, _, forM_concat_iff.mpr ⟨_, hrun, ?_⟩, hgiven.concat hsizes hlt⟩
    refine Gives.bind_iff.mpr ⟨_, _, item_of_get? hid, ?_⟩
    refine Gives.bind_iff.mpr ⟨.int (id o), _, Gives.lift_iff.mpr ⟨rfl, rfl⟩, ?_⟩
    refine Gives.bind_iff.mpr ⟨.record t.records.size, { w with store := (t.alloc (histogramOf counts (id o))).2 }, rfl, ?_⟩
    exact Gives.modify_iff.mpr rfl

/-! The queries. -/

theorem marks_literal {cs : List Char} {n : Nat} (h : cs.count '?' = n) : Text.marks (String.ofList cs) = n := by
  rw [Text.marks, String.toList_ofList, h]

theorem marks_concat {s t : String} {m n : Nat} (hs : Text.marks s = m) (ht : Text.marks t = n) :
    Text.marks (s ++ t) = m + n := by
  rw [Text.marks_append, hs, ht]

/-- One placeholder is for the learner, in the line that joins what the learner knows, and one for each id. -/
theorem marks_vocabsByLevelQuery (ids : List Value) (owner : Owner) :
    Text.marks (vocabsByLevelQuery ids owner) = ids.length + 1 := by
  have hids := Sql.Condition.marks_placeholders ids
  cases owner with
  | texts =>
    have hparts : Text.marks (vocabsByLevelQuery ids .texts) = 0 + 0 + 1 + 0 + ids.length + 0 + 0 := by
      refine marks_concat (marks_concat (marks_concat (marks_concat (marks_concat (marks_concat ?_ ?_) ?_) ?_) hids) ?_) ?_
      all_goals exact marks_literal (by decide)
    omega
  | collections =>
    have hparts : Text.marks (vocabsByLevelQuery ids .collections) = 0 + 0 + 0 + 1 + 0 + ids.length + 0 + 0 := by
      refine marks_concat (marks_concat (marks_concat (marks_concat (marks_concat (marks_concat (marks_concat
        ?_ ?_) ?_) ?_) ?_) hids) ?_) ?_
      all_goals exact marks_literal (by decide)
    omega

/-- The query for bookmarks has a placeholder for each id and one for the profile. -/
theorem marks_bookmarkQuery (ids : List Value) (owner : Owner) : Text.marks (bookmarkQuery ids owner) = ids.length + 1 := by
  have hids := Sql.Condition.marks_placeholders ids
  have hparts : Text.marks (bookmarkQuery ids owner) = 0 + 0 + 0 + 0 + 1 + 0 + 0 + ids.length + 0 := by
    cases owner <;>
    · refine marks_concat (marks_concat (marks_concat (marks_concat (marks_concat (marks_concat (marks_concat (marks_concat
        ?_ ?_) ?_) ?_) ?_) ?_) ?_) hids) ?_
      all_goals exact marks_literal (by decide)
  omega

variable [Engine δ] {w' : World δ} {owner : Owner} {user : User} {extra : List (Value × Value)}

/-- Whether a database was asked for one statement in words, and for nothing else, with a value for each of its placeholders. -/
def Asked (w w' : World δ) (sql : String) (params : List Value) : Prop :=
  w'.actions.toList = w.actions.toList ++ enquiry (.raw sql params) ∧ Text.marks sql = params.length

/-- A query with as many placeholders as parameters gives records that read as the rows of the answer. -/
theorem query_gives (extra : List (Value × Value)) {sql : String} {ids : List Value} {columns : List String} {rows : List (List Value)}
    (h : Engine.Serves w.database (.raw sql (.int user.profile :: ids)) columns rows)
    (hmarks : Text.marks sql = ids.length + 1) :
    ∃ w' nodes, Gives (query ⟨.learner user, true, extra⟩ user ids sql) w nodes w' ∧ w.store.Grows w'.store ∧
      w'.store.ReadsItems w.store.records.size nodes (rows.map (named columns)) ∧
      Asked w w' sql (.int user.profile :: ids) := by
  obtain ⟨w', hrun, hstore, hactions⟩ := Database.fetchAll_gives h
  have hquery : query ⟨.learner user, true, extra⟩ user ids sql = (Database.fetchAll sql (.int user.profile :: ids) : Run δ _) :=
    rfl
  refine ⟨w', _, hquery ▸ hrun, ?_, ?_, hactions, hmarks⟩
  · rw [hstore]
    exact w.store.grows_loadItems _
  · rw [hstore]
    exact Store.reads_loadItems _ _ (Nat.le_refl _) _ (.refl _)

/-- Every given record gets its histogram, by one query over all ids. -/
theorem annotateVocabsByLevel_gives (h : Identified w.store objects id) (hne : objects ≠ []) {tallies : List Tally}
    (hunique : (tallies.map fun t => (t.owner, t.level)).Nodup)
    (hserves : Engine.Serves w.database
      (.raw (vocabsByLevelQuery (distinctIds objects id) owner) (.int user.profile :: distinctIds objects id))
      Tally.columns (tallies.map Tally.cells)) :
    ∃ (w' : World δ) (histogram : Nat → Nat),
      Gives (annotateVocabsByLevel owner (objects.map .record) ⟨.learner user, true, extra⟩) w ⟨⟩ w' ∧
      Asked w w' (vocabsByLevelQuery (distinctIds objects id) owner) (.int user.profile :: distinctIds objects id) ∧
      w.store.Fills w'.store objects "vocabsByLevel" (fun o => .record (histogram o)) ∧
      (∀ o ∈ objects, ∀ p ∈ objects, histogram o = histogram p → o = p) ∧
      ∀ o ∈ objects, w.store.records.size ≤ histogram o ∧ ∀ l : VocabLevel,
        w'.store.get? (histogram o) (.int l.value) = some (.scalar (countOf tallies (id o) l)) := by
  obtain ⟨m, nodes, hquery, hgrows, hreads, hasked⟩ :=
    query_gives extra hserves (marks_vocabsByLevelQuery _ owner)
  rw [List.map_map] at hreads
  have hcounts : Gives (nodes.foldlM addCount []) m (tallies.foldl Tally.addTo []) m := Tally.counts_gives hreads []
  obtain ⟨t, histogram, hloop, hgiven⟩ := histograms_gives (tallies.foldl Tally.addTo []) (h.grows hgrows)
  refine ⟨{ m with store := t }, histogram, ?_, hasked, .of_grows hgrows hgiven.fills h.lt_size, hgiven.own, ?_⟩
  · -- The ids are asked for in the store that the query finds, the counts and histograms in the one that it leaves.
    unfold annotateVocabsByLevel
    refine Gives.bind_iff.mpr ⟨user, w, Gives.lift_iff.mpr ⟨rfl, rfl⟩, ?_⟩
    rw [if_neg (by simpa using hne)]
    refine Gives.bind_iff.mpr ⟨_, w, recordIds_gives h, ?_⟩
    exact Gives.bind_iff.mpr ⟨nodes, m, hquery, Gives.bind_iff.mpr ⟨_, m, hcounts, hloop⟩⟩
  · intro o ho
    refine ⟨Nat.le_trans hgrows.1 (hgiven.fresh o ho).1, fun l => ?_⟩
    rw [Store.get?, hgiven.counted o ho]
    exact lookup?_histogramOf hunique (id o) l

omit [Engine δ] in
/-- The owners of the answered rows are read in their order. -/
theorem owners_gives {base : Nat} {nodes : List Node} {owners : List Int}
    (h : w.store.ReadsItems base nodes (owners.map fun n => named ["ownerId"] [.int n])) :
    Gives (nodes.mapM fun row => do (← Run.item row "ownerId").key) w (owners.map .int) w := by
  induction owners generalizing nodes with
  | nil =>
    cases h
    exact Gives.mapM_nil_iff.mpr ⟨rfl, rfl⟩
  | cons n rest ih =>
    cases h with
    | cons hn hrest =>
      rename_i node nodes
      obtain ⟨row, rfl⟩ : ∃ row, node = .record row := by
        cases hn
        exact ⟨_, rfl⟩
      exact Gives.mapM_cons_iff.mpr ⟨_, w, _, itemKey_gives (hn.scalarAt rfl), ih hrest, rfl⟩

/-- Every given record is told whether it is bookmarked, by one query over all ids. -/
theorem annotateIsBookmarked_gives (h : Identified w.store objects id) (hne : objects ≠ []) {owners : List Int}
    (hserves : Engine.Serves w.database
      (.raw (bookmarkQuery (distinctIds objects id) owner) (.int user.profile :: distinctIds objects id))
      ["ownerId"] (owners.map fun n => [.int n])) :
    ∃ w' : World δ, Gives (annotateIsBookmarked owner (objects.map .record) ⟨.learner user, true, extra⟩) w ⟨⟩ w' ∧
      Asked w w' (bookmarkQuery (distinctIds objects id) owner) (.int user.profile :: distinctIds objects id) ∧
      w.store.Fills w'.store objects "isBookmarked" fun o => .scalar (.bool (decide (id o ∈ owners))) := by
  obtain ⟨m, nodes, hquery, hgrows, hreads, hasked⟩ := query_gives extra hserves (marks_bookmarkQuery _ owner)
  rw [List.map_map] at hreads
  -- The rows have come as new records, which leaves the ids of the old ones as they are.
  have hid := h.grows hgrows
  let mark (record : Node) : Run δ Unit := do
    let id ← (← Run.item record "id").key
    Run.setField record "isBookmarked" (.scalar (.bool ((owners.map Value.int).any id.same)))
  have hmark : ∀ o ∈ objects, ∀ u : World δ,
      (∀ name, "isBookmarked" ≠ name → u.store.get? o (.text name) = m.store.get? o (.text name)) →
      Gives (mark (.record o)) u ⟨⟩
        { u with store := u.store.set o (.text "isBookmarked") (.scalar (.bool (decide (id o ∈ owners)))) } := by
    intro o ho u hkept
    have hget : u.store.get? o (.text "id") = some (.scalar (.int (id o))) := (hkept "id" (by decide)).trans (hid o ho)
    have hany : (owners.map Value.int).any (Value.int (id o)).same = decide (id o ∈ owners) := by
      rw [List.any_map, Bool.eq_iff_iff, List.any_eq_true, decide_eq_true_eq]
      simp only [Function.comp_apply, Value.same_ints, exists_eq_right']
    refine Gives.bind_iff.mpr ⟨_, u, item_of_get? hget, ?_⟩
    refine Gives.bind_iff.mpr ⟨.int (id o), u, Gives.lift_iff.mpr ⟨rfl, rfl⟩, ?_⟩
    rw [hany]
    exact Gives.modify_iff.mpr rfl
  obtain ⟨t, hloop, hfills⟩ := forM_fills mark "isBookmarked" _ objects hid.lt_size hmark
  refine ⟨{ m with store := t }, ?_, hasked, .of_grows hgrows hfills h.lt_size⟩
  unfold annotateIsBookmarked
  rw [if_neg (by simpa using hne)]
  refine Gives.bind_iff.mpr ⟨_, w, recordIds_gives h, ?_⟩
  exact Gives.bind_iff.mpr ⟨nodes, m, hquery, Gives.bind_iff.mpr ⟨_, m, owners_gives hreads, hloop⟩⟩

/-- Whoever is not logged in has bookmarked nothing, and no database is asked. -/
theorem annotateIsBookmarked_public (owner : Owner) (h : Identified w.store objects id) {context : Context}
    (hcontext : context.isAuthenticated = false) :
    ∃ t, Gives (annotateIsBookmarked owner (objects.map .record) context) w ⟨⟩ { w with store := t } ∧
      w.store.Fills t objects "isBookmarked" fun _ => .scalar (.bool false) := by
  obtain ⟨t, hloop, hfills⟩ := forM_fills (fun record => Run.setField record "isBookmarked" (.scalar (.bool false)))
    "isBookmarked" _ objects h.lt_size fun _ _ _ _ => Gives.modify_iff.mpr rfl
  refine ⟨t, ?_, hfills⟩
  unfold annotateIsBookmarked
  split
  · rename_i hempty
    obtain rfl := List.map_eq_nil_iff.mp (List.isEmpty_iff.mp hempty)
    exact hloop
  · rw [Context.isAuthenticated] at hcontext
    cases hviewer : context.viewer with
    | learner user =>
      rw [hviewer] at hcontext
      cases hcontext
    | nobody | anonymous => exact hloop

/-- What the annotators of the domain do for records that have whole numbers as ids, among which objects and ids may come
again. Without records nothing is asked for. For a learner a database is asked once, for the distinct ids. If no two rows of
the answer are for one owner and level, every record then has a new histogram, which no other record has, with a count for
each level: that of the row for its id and the level, or zero. Bookmarks are asked for in the same way, and are true of the
records whose ids are among the owners. For whoever is not logged in they are false, and no database is asked. Nothing else
is changed on any record. -/
theorem annotators_fill (owner : Owner) (user : User) (extra : List (Value × Value)) (h : Identified w.store objects id) :
    (objects = [] → ∀ database,
      Gives (annotateVocabsByLevel owner (objects.map .record) ⟨.learner user, database, extra⟩) w ⟨⟩ w ∧
      Gives (annotateIsBookmarked owner (objects.map .record) ⟨.learner user, database, extra⟩) w ⟨⟩ w) ∧
    (objects ≠ [] → ∀ tallies : List Tally, (tallies.map fun t => (t.owner, t.level)).Nodup →
      Engine.Serves w.database
        (.raw (vocabsByLevelQuery (distinctIds objects id) owner) (.int user.profile :: distinctIds objects id))
        Tally.columns (tallies.map Tally.cells) →
      ∃ (w' : World δ) (histogram : Nat → Nat),
        Gives (annotateVocabsByLevel owner (objects.map .record) ⟨.learner user, true, extra⟩) w ⟨⟩ w' ∧
        Asked w w' (vocabsByLevelQuery (distinctIds objects id) owner) (.int user.profile :: distinctIds objects id) ∧
        w.store.Fills w'.store objects "vocabsByLevel" (fun o => .record (histogram o)) ∧
        (∀ o ∈ objects, ∀ p ∈ objects, histogram o = histogram p → o = p) ∧
        ∀ o ∈ objects, w.store.records.size ≤ histogram o ∧ ∀ l : VocabLevel,
          w'.store.get? (histogram o) (.int l.value) = some (.scalar (countOf tallies (id o) l))) ∧
    (objects ≠ [] → ∀ owners : List Int,
      Engine.Serves w.database
        (.raw (bookmarkQuery (distinctIds objects id) owner) (.int user.profile :: distinctIds objects id))
        ["ownerId"] (owners.map fun n => [.int n]) →
      ∃ w' : World δ, Gives (annotateIsBookmarked owner (objects.map .record) ⟨.learner user, true, extra⟩) w ⟨⟩ w' ∧
        Asked w w' (bookmarkQuery (distinctIds objects id) owner) (.int user.profile :: distinctIds objects id) ∧
        w.store.Fills w'.store objects "isBookmarked" fun o => .scalar (.bool (decide (id o ∈ owners)))) ∧
    ∀ context : Context, context.isAuthenticated = false → ∃ w' : World δ,
      Gives (annotateIsBookmarked owner (objects.map .record) context) w ⟨⟩ w' ∧ w'.actions = w.actions ∧
        w.store.Fills w'.store objects "isBookmarked" fun _ => .scalar (.bool false) := by
  refine ⟨?_, ?_, ?_, ?_⟩
  · rintro rfl database
    exact ⟨rfl, rfl⟩
  · intro hne tallies hunique hserves
    exact annotateVocabsByLevel_gives h hne hunique hserves
  · intro hne owners hserves
    exact annotateIsBookmarked_gives h hne hserves
  · intro context hcontext
    obtain ⟨t, hrun, hfills⟩ := annotateIsBookmarked_public owner h hcontext
    exact ⟨_, hrun, rfl, hfills⟩

def shelf : Store := ⟨#[[(.text "id", .scalar (.int 7))], [(.text "id", .scalar (.int 9)), (.text "title", .scalar (.text "B"))],
  [(.text "id", .scalar (.int 7))]]⟩

def shelfIds (o : Nat) : Int := if o = 1 then 9 else 7

def withAnswer (columns : List String) (rows : List (List Value)) : World Script :=
  { World.start ⟨[.ok ⟨columns, .ok rows, 0⟩]⟩ Learning.registry with store := shelf }

def shelfTallies : List Tally := [⟨7, 3, .int 2⟩, ⟨9, -1, .int 1⟩, ⟨7, 0, .int 5⟩]

theorem annotators_fill_shelf :
    (∃ (w' : World Script) (histogram : Nat → Nat),
      Gives (annotateVocabsByLevel .texts ([0, 1, 2, 0].map .record) ⟨.learner ⟨1, "alice", 4⟩, true, []⟩)
        (withAnswer Tally.columns (shelfTallies.map Tally.cells)) ⟨⟩ w' ∧
      w'.actions.size = 5 ∧ histogram 0 ≠ histogram 2 ∧
      w'.store.get? 0 (.text "vocabsByLevel") = some (.record (histogram 0)) ∧
      w'.store.get? (histogram 0) (.int 3) = some (.scalar (.int 2)) ∧
      w'.store.get? (histogram 2) (.int 3) = some (.scalar (.int 2)) ∧
      w'.store.get? (histogram 1) (.int 3) = some (.scalar (.int 0)) ∧
      w'.store.get? 1 (.text "title") = some (.scalar (.text "B"))) ∧
    ∃ w' : World Script,
      Gives (annotateIsBookmarked .texts ([0, 1, 2, 0].map .record) ⟨.learner ⟨1, "alice", 4⟩, true, []⟩)
        (withAnswer ["ownerId"] [[.int 9]]) ⟨⟩ w' ∧
      w'.store.get? 1 (.text "isBookmarked") = some (.scalar (.bool true)) ∧
      w'.store.get? 2 (.text "isBookmarked") = some (.scalar (.bool false)) := by
  have hids : ∀ columns rows, Identified (withAnswer columns rows).store [0, 1, 2, 0] shelfIds := by
    intro columns rows o ho
    simp only [List.mem_cons, List.not_mem_nil, or_false] at ho
    rcases ho with rfl | rfl | rfl | rfl <;> rfl
  have hbreak : (vocabsByLevelQuery (distinctIds [0, 1, 2, 0] shelfIds) .texts).toList.head? = some '\n' := by
    refine head?_append (head?_append (head?_append (head?_append (head?_append (head?_append ?_)))))
    exact congrArg List.head? String.toList_ofList
  constructor
  · obtain ⟨_, hcounted, _⟩ := annotators_fill .texts ⟨1, "alice", 4⟩ []
      (hids Tally.columns (shelfTallies.map Tally.cells))
    obtain ⟨w', histogram, hrun, hasked, hfills, hown, hcounts⟩ :=
      hcounted (List.cons_ne_nil _ _) shelfTallies (by decide) (serves_script (isSetting_eq_false hbreak (by decide)))
    have hget : ∀ i ∈ [0, 1, 2, 0], ∀ name, w'.store.get? i (.text name) =
        lookup? (.text name) (assign (.text "vocabsByLevel") (.record (histogram i)) (shelf.entries i)) := by
      intro i hi name
      rw [Store.get?, hfills.filled i hi]
      rfl
    have hfirst := (hcounts 0 (by decide)).2 .level3
    have hsecond := (hcounts 1 (by decide)).2 .level3
    have hthird := (hcounts 2 (by decide)).2 .level3
    have hsize : w'.actions.size = 5 := congrArg List.length hasked.1
    have happart : histogram 0 ≠ histogram 2 := fun he => absurd (hown 0 (by decide) 2 (by decide) he) (by decide)
    exact ⟨w', histogram, hrun, hsize, happart, hget 0 (by decide) _, hfirst, hthird, hsecond, hget 1 (by decide) _⟩
  · obtain ⟨_, _, hbookmarked, _⟩ := annotators_fill .texts ⟨1, "alice", 4⟩ []
      (hids ["ownerId"] ([9].map fun n => [.int n]))
    obtain ⟨w', hrun, _, hfills⟩ := hbookmarked (List.cons_ne_nil _ _) [9] (serves_script (by decide +kernel))
    have hget : ∀ i ∈ [0, 1, 2, 0], w'.store.get? i (.text "isBookmarked") =
        lookup? (.text "isBookmarked") (assign (.text "isBookmarked") (.scalar (.bool (decide (shelfIds i ∈ [9]))))
          (shelf.entries i)) := by
      intro i hi
      rw [Store.get?, hfills.filled i hi]
      rfl
    exact ⟨w', hrun, hget 1 (by decide), hget 2 (by decide)⟩

end Learning

end EntityViews
