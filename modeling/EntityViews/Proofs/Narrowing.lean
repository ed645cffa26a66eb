import EntityViews.Proofs.Linking
import EntityViews.Proofs.Population

/-!
Two executions that go along the same relation. Main statement: what one of them attaches under a further filter is attached
by another one that has no further filter there, below the same parents.
-/

namespace EntityViews

open Sql

namespace Store

variable {s t : Store}

def SameId (s : Store) (i : Nat) (t : Store) (j : Nat) : Prop := ∃ r : Row, s.ShowsId i r ∧ t.ShowsId j r

theorem ShowsId.keeps {id : Nat} {r : Row} (h : s.ShowsId id r) (hid : id < s.records.size)
    (hk : s.Keeps (fun _ name => name ≠ "id") t) : t.ShowsId id r := by
  obtain ⟨u, ⟨before, hu⟩, hs⟩ := h
  refine ⟨u, ⟨before, ?_⟩, hs⟩
  rw [hk.2 id hid "id" fun hne => hne rfl]
  exact hu

theorem keyAt_id_eq {i : Nat} (hi : i < s.records.size) (hk : s.Keeps (fun _ name => name ≠ "id") t) :
    t.keyAt i "id" = s.keyAt i "id" :=
  keyAt_congr (hk.2 i hi "id" fun hne => hne rfl)

/-- As long as ids are kept, records keep their ids. -/
theorem idsOf_eq {records : List Node} (hr : ∀ i, .record i ∈ records → i < s.records.size)
    (hk : s.Keeps (fun _ name => name ≠ "id") t) : t.idsOf records = s.idsOf records := by
  have hkeys : records.filterMap (Loader.ownKey? t "id") = records.filterMap (Loader.ownKey? s "id") := by
    induction records with
    | nil => rfl
    | cons n rest ih =>
      have hn : Loader.ownKey? t "id" n = Loader.ownKey? s "id" n := by
        cases n with
        | record i => rw [Loader.ownKey?, Loader.ownKey?, keyAt_id_eq (hr i List.mem_cons_self) hk]
        | scalar | list | tuple | set => rfl
      rw [List.filterMap_cons, List.filterMap_cons, hn, ih fun i hi => hr i (List.mem_cons_of_mem _ hi)]
  rw [idsOf, idsOf, hkeys]

end Store

def Schema.ToMany (s : Schema) (entity : String) (key : String) (above : Trail) : Prop :=
  ∃ parent relation, Repository.entityAt s (Trail.path above) entity above.reverse = .ok parent ∧
    s.relation? parent key = some relation ∧ relation.link.isToOne = false

/-- Whether the records that one store has below some parents are among those that another one has below the same parents,
if it has all of them. -/
def Store.Narrower (s t : Store) (roots roots' : List Node) (path key : String) : Prop :=
  ∀ parents parents', s.recordsAt roots path = .ok parents → t.recordsAt roots' path = .ok parents' →
    (∀ v ∈ s.idsOf parents, v ∈ t.idsOf parents') → ∀ i j v, .record i ∈ parents → .record j ∈ parents' →
    s.keyAt i "id" = .ok v → t.keyAt j "id" = .ok v →
    ∀ x, s.LeadsTo i key x → ∃ y, t.LeadsTo j key y ∧ s.SameId x t y

/-- Where nothing is given, a relation is loaded under the filter of the context alone. -/
theorem Leg.meets_loaded {db : Contents} {s : Schema} {entity : String} {t : Row} {leg : Leg}
    (hg : leg.given.isPresent = false) (h : db.Meets s entity t leg.own) : db.Meets s entity t leg.loaded := by
  rw [Leg.loaded]
  rcases leg.filter_cases with ⟨_, hp, _⟩ | ⟨_, _, hf⟩ | ⟨_, hp, _⟩ | ⟨_, _, hf⟩
  · exact absurd (hp.symm.trans hg) nofun
  · rw [hf]
    exact h
  · exact absurd (hp.symm.trans hg) nofun
  · rw [hf]
    exact Contents.meets_of_absent rfl

namespace Repository

variable {δ : Type} [Engine δ] {db : Contents} {s : Schema} {entity key : String} {above : Trail}
  {roots roots' : List Node} {store store' : Store}

/-- Fewer records are attached under two filters than under the first one alone. -/
theorem Attached.narrower (ideal : Ideal δ db) (ids : s.IntegerIds) {leg leg' : Leg}
    (h : Attached δ s entity roots key above leg.loaded store)
    (h' : Attached δ s entity roots' key above leg'.loaded store') (hown : leg'.own = leg.own)
    (hgiven : leg'.given.isPresent = false) (hmany : s.ToMany entity key above) :
    store.Narrower store' roots roots' (Trail.path above) key := by
  intro parents parents' hparents hparents' hasked i j v hi hj hv hv' x hx
  obtain ⟨found, hfound, hload⟩ := h
  obtain ⟨found', hfound', hload'⟩ := h'
  obtain rfl := Except.ok.inj (hfound.symm.trans hparents)
  obtain rfl := Except.ok.inj (hfound'.symm.trans hparents')
  obtain ⟨parent, relation, hentity, hr, hmany⟩ := hmany
  rcases hload with rfl | ⟨m, n, above₁, fields, out, hat, hload, hbefore, hafter, hget⟩
  · cases hi
  rcases hload' with rfl | ⟨m', n', above₂, fields', out', hat', hload', hbefore', hafter', hget'⟩
  · cases hj
  obtain rfl := Except.ok.inj ((hat _).symm.trans hentity)
  obtain rfl := Except.ok.inj ((hat' _).symm.trans hentity)
  obtain ⟨_, target, hr', ht⟩ := Loader.load_known hload
  obtain rfl := Option.some.inj (hr.symm.trans hr')
  have hm : m.store.Keeps (fun _ name => name ≠ "id") store := hbefore.trans hafter
  have hm' : m'.store.Keeps (fun _ name => name ≠ "id") store' := hbefore'.trans hafter'
  have hlt : ∀ k, .record k ∈ found → k < m.store.records.size := fun k hk => (hget k hk).1
  have hlt' : ∀ k, .record k ∈ found' → k < m'.store.records.size := fun k hk => (hget' k hk).1
  rw [Store.keyAt_id_eq (hlt i hi) hm] at hv
  rw [Store.keyAt_id_eq (hlt' j hj) hm'] at hv'
  rw [Store.idsOf_eq hlt hm, Store.idsOf_eq hlt' hm'] at hasked
  have hexact := Loader.load_exact ideal ids hr ht hmany hload hi (hlt i hi) hv
  have hexact' := Loader.load_exact ideal ids hr ht hmany hload' hj (hlt' j hj) hv'
  have hleads : n.store.LeadsTo i key x := by
    obtain ⟨node, hnode, hx⟩ := hx
    exact ⟨node, (hget i hi).2.symm.trans hnode, hx⟩
  -- A record of the narrower load stands for a linked row, and the wider load has a record for each of these.
  obtain ⟨hsize, t, htable, hlinked, hmeets, hshows⟩ := hexact.1 x hleads
  have hown' : db.Meets s target.name t leg'.own := hown ▸ (Leg.meets hmeets).1
  obtain ⟨y, ⟨node, hnode, hy⟩, hsize', hshows'⟩ :=
    hexact'.2 t htable (hlinked.mono hasked) (Leg.meets_loaded hgiven hown').truth
  exact ⟨y, ⟨node, (hget' j hj).2.trans hnode, hy⟩, t, hshows.keeps hsize hafter, hshows'.keeps hsize' hafter'⟩

end Repository

end EntityViews
