import EntityViews.Proofs.Stacking

/-!
Graphs of records that are alike. Records are compared as maps: by what stands under each key, and neither by their numbers
nor by the order of their keys. Main statement: two stores that carry the same layers have like graphs, wherever the layers
start and in whatever order they were put there.
-/

namespace EntityViews

/-- Whether two values are the same, the order of the keys of maps left out of account. -/
inductive Value.Alike : Value → Value → Prop
  | scalar (a : Scalar) : Alike (.scalar a) (.scalar a)
  | list {items others : List Value} : List.Forall₂ Alike items others → Alike (.list items) (.list others)
  | tuple {items others : List Value} : List.Forall₂ Alike items others → Alike (.tuple items) (.tuple others)
  | set {items others : List Value} : List.Forall₂ Alike items others → Alike (.set items) (.set others)
  | map {entries others : List (Value × Value)} :
    (∀ key, Option.Rel Alike (lookup? key entries) (lookup? key others)) → Alike (.map entries) (.map others)

namespace Store

variable {s t : Store} {layers : Trail → Option Layer} {roots : List Node} {start start' : Trail → Nat}
  {done done' : List Trail}

/-- Whether two stores have the same graph of records below some roots, however deep one looks. -/
def SameGraph (s t : Store) (roots : List Node) : Prop :=
  ∀ depth, ∀ root ∈ roots, (s.snapshot depth root).Alike (t.snapshot depth root)

theorem lookup?_snapshot (s : Store) (depth id : Nat) (key : Value) :
    lookup? key ((s.entries id).map fun e => (e.1, s.snapshot depth e.2)) = (s.get? id key).map (s.snapshot depth) :=
  lookup?_map _ _ _

/-- What is under a key of a record of a layer: what was attached to it, or what it came up with. -/
theorem Stacks.get?_cases (h : s.Stacks layers roots start done) {u : Trail} (hu : u ∈ done) {layer : Layer}
    (hlayer : layers u = some layer) {i : Nat} (hi : i < layer.store.records.size) (key : Value) :
    (∃ name below, name :: u ∈ done ∧ i ∈ layer.ends ∧ (Value.text name).same key = true ∧
      layers (name :: u) = some below ∧ s.get? (start u + i) key = some ((below.lead i).raised (start (name :: u)))) ∨
    (∀ name, name :: u ∈ done → i ∈ layer.ends → (Value.text name).same key = false) ∧
      s.get? (start u + i) key = (layer.store.get? i key).map (Node.raised (start u)) := by
  by_cases hattached : ∃ name, name :: u ∈ done ∧ i ∈ layer.ends ∧ (Value.text name).same key = true
  · obtain ⟨name, hname, hends, hsame⟩ := hattached
    obtain ⟨below, hbelow⟩ := h.present _ hname
    refine .inl ⟨name, below, hname, hends, hsame, hbelow, ?_⟩
    rw [← h.leads name u hname layer below hlayer hbelow i hends, get?, get?, lookup?_congr hsame]
  · have hfree : ∀ name, name :: u ∈ done → i ∈ layer.ends → (Value.text name).same key = false :=
      fun name hname hends => Bool.eq_false_iff.mpr fun hsame => hattached ⟨name, hname, hends, hsame⟩
    exact .inr ⟨hfree, h.own u hu layer hlayer i hi key hfree⟩

/-- A node of a layer stands for like values in two stores that carry it. -/
theorem Stacks.alike (family : Layer.Family layers) (h : s.Stacks layers roots start done)
    (h' : t.Stacks layers roots start' done') (hmem : ∀ u, u ∈ done ↔ u ∈ done') (depth : Nat) {u : Trail}
    (hu : u ∈ done) {layer : Layer} (hlayer : layers u = some layer) {n : Node}
    (hn : n.Within layer.store.records.size) :
    (s.snapshot depth (n.raised (start u))).Alike (t.snapshot depth (n.raised (start' u))) := by
  -- The depth of the snapshot carries the induction: records may lead back to each other.
  induction depth generalizing u layer n with
  | zero =>
    cases n with
    | scalar a => exact .scalar a
    | list | tuple | set | record => exact .scalar .null
  | succ depth ih =>
    have hitems : ∀ items : List Node, (∀ item ∈ items, item.Within layer.store.records.size) →
        List.Forall₂ Value.Alike ((Node.raisedItems (start u) items).map (s.snapshot depth))
          ((Node.raisedItems (start' u) items).map (t.snapshot depth)) := by
      intro items hall
      rw [Node.raisedItems_eq_map, Node.raisedItems_eq_map, List.map_map, List.map_map, List.forall₂_map_left_iff,
        List.forall₂_map_right_iff, List.forall₂_same]
      exact fun item hitem => ih hu hlayer (hall item hitem)
    cases n with
    | scalar a => exact .scalar a
    | list items => exact .list (hitems items (Node.within_mentionsOf.mp hn))
    | tuple items => exact .tuple (hitems items (Node.within_mentionsOf.mp hn))
    | set items => exact .set (hitems items (Node.within_mentionsOf.mp hn))
    | record i =>
      have hi : i < layer.store.records.size := hn i (List.mem_singleton_self i)
      refine .map fun key => ?_
      rw [lookup?_snapshot, lookup?_snapshot]
      rcases h.get?_cases hu hlayer hi key with ⟨name, below, hname, hends, hsame, hbelow, hget⟩ | ⟨hfree, hget⟩
      · -- The same relation has been attached on both sides, and the layer that it leads to is one level further down.
        have hget' : t.get? (start' u + i) key = some ((below.lead i).raised (start' (name :: u))) := by
          rw [← h'.leads name u ((hmem _).mp hname) layer below hlayer hbelow i hends, get?, get?, lookup?_congr hsame]
        rw [hget, hget']
        exact .some (ih hname hbelow ((family.sound hbelow).leads i).within)
      · have hget' := h'.own u ((hmem u).mp hu) layer hlayer i hi key fun name hname => hfree name ((hmem _).mpr hname)
        rw [hget, hget']
        cases hown : layer.store.get? i key with
        | none => exact .none
        | some m => exact .some (ih hu hlayer ((family.sound hlayer).closed.get? hown))

/-- Stores that carry the same layers have the same graph below their roots. -/
theorem Stacks.sameGraph (family : Layer.Family layers) (h : s.Stacks layers roots start done)
    (h' : t.Stacks layers roots start' done') (hmem : ∀ u, u ∈ done ↔ u ∈ done') : s.SameGraph t roots := by
  obtain ⟨layer, hlayer⟩ := h.present [] h.first
  have hroots := (h.roots layer hlayer).symm.trans (h'.roots layer hlayer)
  intro depth root hroot
  rw [h.roots layer hlayer] at hroot
  obtain ⟨i, hi, rfl⟩ := List.mem_map.mp hroot
  have hsame : Node.record (start [] + i) = .record (start' [] + i) := List.map_inj_left.mp hroots i hi
  have hwithin : (Node.record i).Within layer.store.records.size := by
    intro j hj
    rw [List.mem_singleton.mp hj]
    exact (family.sound hlayer).ends i hi
  have halike := h.alike family h' hmem depth h.first hlayer hwithin
  rw [Node.raised, Node.raised, ← hsame] at halike
  exact halike

theorem sameGraph_nil (s t : Store) : s.SameGraph t [] := fun _ _ => nofun

end Store

end EntityViews
