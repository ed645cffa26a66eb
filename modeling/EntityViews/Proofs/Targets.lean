import Mathlib.Data.Set.List
import EntityViews.Proofs.Layers
import EntityViews.Proofs.Precedence
import EntityViews.Proofs.Walks

/-!
The records that a path leads to, walked by the relations of entities and by what is under the keys of records. The first
walk is that of annotators, the second one that of loads. Main statement: where the first one succeeds, the second one finds
the same records in the same order, each of them once, and relations are loaded onto just these.
-/

namespace EntityViews

def EntityFields.KeyedAlike (f : EntityFields) : Prop := ∀ name r, (name, Source.relation r) ∈ f.sources → r.populate = name

def EntityFields.eachRelation (check : String → RelationSource → Bool) (f : EntityFields) : Bool :=
  f.sources.all fun p =>
    match p.2 with
    | .relation r => check p.1 r
    | _ => true

def Cardinality.Holds : Cardinality → Node → Prop
  | .toOne, v => v = .null ∨ ∃ id, v = .record id
  | .toMany, v => ∃ ids : List Nat, v = .list (ids.map .record)
  | .other _, _ => True

namespace EntityFields

theorem of_eachRelation {check : String → RelationSource → Bool} {f : EntityFields} (h : f.eachRelation check = true)
    {name : String} {r : RelationSource} (hr : (name, Source.relation r) ∈ f.sources) : check name r = true :=
  List.all_eq_true.mp h _ hr

/-- A segment that is read as a relation is the key of a relation of the entity. -/
theorem relation_of_forSegment? {f : EntityFields} (hf : f.KeyedAlike) {segment : String} {r : RelationSource}
    (h : f.forSegment? segment = some (.relation r)) :
    (segment, Source.relation r) ∈ f.sources ∧ r.populate = segment := by
  -- It is found by its name, or by its key if nothing has this name.
  have hmem : ∃ name, (name, Source.relation r) ∈ f.sources ∧ (name = segment ∨ r.populate = segment) := by
    rw [forSegment?] at h
    cases hs : f.source? segment with
    | some source =>
      rw [hs] at h
      cases h
      exact ⟨segment, mem_of_find?_key hs, Or.inl rfl⟩
    | none =>
      rw [hs] at h
      obtain ⟨r', hr', he⟩ := Option.map_eq_some_iff.mp h
      cases he
      obtain ⟨⟨name, source⟩, hmem, hsource⟩ := List.exists_of_findSome?_eq_some hr'
      cases source with
      | relation r'' =>
        dsimp only at hsource
        split at hsource
        · cases hsource
          exact ⟨name, hmem, Or.inr ‹_›⟩
        · cases hsource
      | column | formula | annotated | «foreign» => cases hsource
  obtain ⟨name, hmem, hor⟩ := hmem
  have hkey := hf name r hmem
  -- Either way the name and the key are one.
  rcases hor with rfl | hpopulate
  · exact ⟨hmem, hkey⟩
  · rw [hkey] at hpopulate
    subst hpopulate
    exact ⟨hmem, hkey⟩

end EntityFields

namespace Store

variable {s : Store} {graph : Graph} {root f : EntityFields} {roots records found : List Node}

/-- Whether a record is come to under the fields of an entity: a root under those of the root, and what a relation leads to
under those of the target of the relation. -/
inductive Met (s : Store) (graph : Graph) (root : EntityFields) (roots : List Node) : EntityFields → Nat → Prop
  | root {id : Nat} : Node.record id ∈ roots → Met s graph root roots root id
  | step {f target : EntityFields} {name : String} {r : RelationSource} {id other : Nat} :
    Met s graph root roots f id → (name, Source.relation r) ∈ f.sources → graph r.target = .ok target →
    s.LeadsTo id r.populate other → Met s graph root roots target other

/-- Whether all records that are come to have under the keys of relations what these may have, if they have anything. -/
def WellShaped (s : Store) (graph : Graph) (root : EntityFields) (roots : List Node) : Prop :=
  ∀ f id name r v, s.Met graph root roots f id → (name, Source.relation r) ∈ f.sources →
    s.get? id (.text r.populate) = some v → r.cardinality.Holds v

/-- What a relation leads to is what is under its key. -/
theorem LeadsOn.reach_eq {r : RelationSource} {id : Nat} {group : List Node} (h : s.LeadsOn r (.record id) group)
    (hholds : ∀ v, s.get? id (.text r.populate) = some v → r.cardinality.Holds v) :
    s.reach r.populate (.record id) = .ok group ∧
      ∃ ids : List Nat, group = ids.map .record ∧ ∀ i ∈ ids, s.LeadsTo id r.populate i := by
  obtain ⟨related, hask, h⟩ := Except.bind_ok (h "" "")
  have hrelated : s.get? id (.text r.populate) = related := Except.ok.inj hask
  rw [reach, hask]
  cases related with
  | none =>
    -- What is not there has not been loaded, whatever the kind of the relation.
    cases hkind : r.cardinality <;> rw [hkind] at h <;> cases h
  | some v =>
    have hv := hholds v hrelated
    cases hkind : r.cardinality with
    | toOne =>
      rw [hkind] at h hv
      dsimp only at h
      rcases hv with rfl | ⟨i, rfl⟩
      · cases h
      · split at h
        · cases h
          refine ⟨rfl, [i], rfl, ?_⟩
          intro j hj
          rw [List.mem_singleton.mp hj]
          exact ⟨_, hrelated, Or.inl rfl⟩
        · cases h
    | toMany =>
      rw [hkind] at h hv
      obtain ⟨ids, rfl⟩ := hv
      cases h
      refine ⟨rfl, ids, rfl, ?_⟩
      intro i hi
      exact ⟨_, hrelated, Or.inr ⟨_, rfl, List.mem_map_of_mem hi⟩⟩
    | other word =>
      rw [hkind] at h
      cases h

/-- One relation after some records: both walks find the same, and all of it is under the relation's key. -/
theorem reach_groups {r : RelationSource} {groups : List (List Node)} (hgroups : List.Forall₂ (s.LeadsOn r) records groups)
    (hrecords : ∀ n ∈ records, ∃ id, n = .record id ∧
      ∀ v, s.get? id (.text r.populate) = some v → r.cardinality.Holds v) :
    records.mapM (s.reach r.populate) = .ok groups ∧ ∀ n ∈ groups.flatten,
      ∃ id i, Node.record id ∈ records ∧ n = .record i ∧ s.LeadsTo id r.populate i := by
  rw [Except.mapM_ok_iff]
  induction hgroups with
  | nil => exact ⟨.nil, nofun⟩
  | @cons record group rest groups hfirst _ ih =>
    obtain ⟨hreach, hrest⟩ := ih fun n hn => hrecords n (List.mem_cons_of_mem _ hn)
    obtain ⟨id, rfl, hholds⟩ := hrecords record List.mem_cons_self
    obtain ⟨hown, ids, rfl, hleads⟩ := hfirst.reach_eq hholds
    refine ⟨.cons hown hreach, ?_⟩
    intro n hn
    rw [List.flatten_cons, List.mem_append] at hn
    rcases hn with hn | hn
    · obtain ⟨i, hi, rfl⟩ := List.mem_map.mp hn
      exact ⟨id, i, List.mem_cons_self, rfl, hleads i hi⟩
    · obtain ⟨id', i, hid', he, hi⟩ := hrest n hn
      exact ⟨id', i, List.mem_cons_of_mem _ hid', he, hi⟩

/-- Walks from records that are come to find the same records, segment by segment. -/
theorem Walked.reachAll_eq (hgraph : ∀ entity f, graph entity = .ok f → f.KeyedAlike)
    (hshaped : s.WellShaped graph root roots) {segments : List String} (hf : f.KeyedAlike)
    (hmet : ∀ n ∈ records, ∃ id, n = .record id ∧ s.Met graph root roots f id)
    (h : s.Walked graph f records segments found) :
    s.reachAll records segments = .ok found ∧ ∀ n ∈ found, ∃ id, n = .record id := by
  induction segments generalizing f records with
  | nil =>
    obtain rfl : found = records := h
    refine ⟨rfl, ?_⟩
    intro n hn
    obtain ⟨id, he, _⟩ := hmet n hn
    exact ⟨id, he⟩
  | cons segment rest ih =>
    obtain ⟨r, groups, target, hr, hgroups, htarget, h⟩ := h
    obtain ⟨hmem, rfl⟩ := EntityFields.relation_of_forSegment? hf hr
    have hheld : ∀ n ∈ records, ∃ id, n = .record id ∧
        ∀ v, s.get? id (.text r.populate) = some v → r.cardinality.Holds v := by
      intro n hn
      obtain ⟨id, he, hid⟩ := hmet n hn
      exact ⟨id, he, fun v hv => hshaped f id r.populate r v hid hmem hv⟩
    obtain ⟨hreach, hleads⟩ := reach_groups hgroups hheld
    have hnext : s.reachAll records (r.populate :: rest) = s.reachAll groups.flatten rest := by
      rw [reachAll, hreach]
      rfl
    rw [hnext]
    cases rest with
    | nil =>
      -- The fields behind the last relation are not asked for, so what is found need not be come to under any.
      obtain rfl : found = groups.flatten := h
      refine ⟨rfl, ?_⟩
      intro n hn
      obtain ⟨_, i, _, he, _⟩ := hleads n hn
      exact ⟨i, he⟩
    | cons next rest =>
      have htarget := htarget (List.cons_ne_nil _ _)
      refine ih (hgraph _ _ htarget) ?_ h
      intro n hn
      obtain ⟨id, i, hid, rfl, hi⟩ := hleads n hn
      obtain ⟨id', he, hmet'⟩ := hmet _ hid
      cases he
      exact ⟨i, rfl, hmet'.step hmem htarget hi⟩

end Store

/-- What a load at a path comes to, once it is known which records its parents are. -/
theorem Repository.populatePath_run {δ : Type} [Engine δ] {w : World δ} {roots parents : List Node} {path : String}
    (h : w.store.recordsAt roots (parentPath path) = .ok parents) (s : Schema) (entity : String)
    (fields : Option (List String)) (filter : Value) :
    (populatePath s entity roots fields filter path : Run δ Unit).run.run w = (do
      let parent ← entityAt s (parentPath path) entity
        (if parentPath path = "" then [] else Text.segments (parentPath path))
      if parents.isEmpty then return
      let _ ← Loader.load s parent parents (Text.splitLast '.' path).2 (fields.map (fieldsUnder · path)) filter :
      Run δ Unit).run.run w := by
  rw [parentPath] at h ⊢
  cases hsplit : Text.splitLast '.' path with
  | mk above name =>
    rw [hsplit] at h
    rw [populatePath, hsplit]
    dsimp only at h ⊢
    rw [Gives.run_bind, Gives.run_bind]
    cases entityAt s above entity (if above = "" then [] else Text.segments above) with
    | error e => rfl
    | ok parent =>
      change (liftM (w.store.recordsAt roots above) >>= fun parents => _ : Run δ Unit).run.run w = _
      rw [h]
      rfl

namespace Store

variable {s : Store} {graph : Graph} {root : EntityFields} {roots found : List Node}

/-- Where a path resolves, the records at its end are those that are found by keys, each of them once, and what is loaded
right below the path is loaded onto these. -/
theorem recordsAt_of_resolve (hgraph : ∀ entity f, graph entity = .ok f → f.KeyedAlike) (hroot : root.KeyedAlike)
    (hrecords : ∀ n ∈ roots, ∃ id, n = .record id) (hshaped : s.WellShaped graph root roots) {path : String}
    (h : s.resolve graph root path roots = .ok found) : ∃ ids : List Nat,
      found = ids.map .record ∧ s.recordsAt roots path = .ok ((distinct ids).map .record) ∧
      ∀ {δ : Type} [Engine δ] (w : World δ), w.store = s → ∀ sch entity fields filter child, parentPath child = path →
        (Repository.populatePath sch entity roots fields filter child : Run δ Unit).run.run w = (do
          let parent ← Repository.entityAt sch path entity (if path = "" then [] else Text.segments path)
          if ((distinct ids).map Node.record).isEmpty then return
          let _ ← Loader.load sch parent ((distinct ids).map .record) (Text.splitLast '.' child).2
            (fields.map (Repository.fieldsUnder · child)) filter : Run δ Unit).run.run w := by
  -- The empty path has no segments to walk, and leads to the roots as they are.
  have hreach : (if path = "" then .ok roots else s.reachAll roots (Text.segments path)) = .ok found ∧
      ∀ n ∈ found, ∃ id, n = .record id := by
    by_cases hpath : path = ""
    · rw [resolve, if_pos hpath] at h
      obtain rfl := Except.ok.inj h
      exact ⟨if_pos hpath, hrecords⟩
    · rw [if_neg hpath]
      refine ((resolve_ok_iff hpath).mp h).reachAll_eq hgraph hshaped hroot ?_
      intro n hn
      obtain ⟨id, rfl⟩ := hrecords n hn
      exact ⟨id, rfl, .root hn⟩
  obtain ⟨hreach, hfound⟩ := hreach
  have hids : found ∈ Set.range (List.map Node.record) := by
    rw [Set.range_list_map]
    intro n hn
    obtain ⟨id, rfl⟩ := hfound n hn
    exact ⟨id, rfl⟩
  obtain ⟨ids, rfl⟩ := hids
  have hat : s.recordsAt roots path = .ok ((distinct ids).map .record) := by
    rw [← distinctRecords_records, recordsAt]
    by_cases hpath : path = ""
    · rw [if_pos hpath] at hreach ⊢
      rw [Except.ok.inj hreach]
      rfl
    · rw [if_neg hpath] at hreach ⊢
      rw [hreach]
      rfl
  refine ⟨ids, rfl, hat, ?_⟩
  rintro δ _ w rfl sch entity fields filter child rfl
  exact Repository.populatePath_run hat sch entity fields filter

/-- The relations of the domain are attached under their own names, and those that texts and collections have to each other
are of the same kind wherever they come. -/
theorem relation_collected {entity : String} {g : EntityFields} (hg : Learning.registry.graph entity = .ok g) {name : String}
    {r : RelationSource} (hr : (name, Source.relation r) ∈ g.sources) : r.populate = name ∧ r.populate ≠ "id" ∧
      (r.populate = "collection" → r.cardinality = .toOne) ∧ (r.populate = "texts" → r.cardinality = .toMany) := by
  have hevery : Learning.registry.every (fun _ g => g.eachRelation fun name r => decide (r.populate = name ∧
      r.populate ≠ "id" ∧ (r.populate = "collection" → r.cardinality = .toOne) ∧
      (r.populate = "texts" → r.cardinality = .toMany))) = true := by decide +kernel
  exact of_decide_eq_true (EntityFields.of_eachRelation (Registry.of_every hevery hg) hr)

theorem entries_collected (id : Nat) : ∀ e ∈ collected.entries id, e.1 = .text "id" ∨
    (e.1 = .text "collection" ∧ e.2 = .record 1) ∨ (e.1 = .text "texts" ∧ e.2 = .list ([0, 2].map .record)) := by
  rcases id with _ | _ | _ | n <;> simp [entries, collected]

/-- The collected records have the shape of their graph. -/
theorem wellShaped_collected {entity : String} (hroot : Learning.registry.graph entity = .ok root) (roots : List Node) :
    collected.WellShaped Learning.registry.graph root roots := by
  intro g id name r v hmet hr hget
  have hg : ∃ entity, Learning.registry.graph entity = .ok g := by
    cases hmet with
    | root _ => exact ⟨_, hroot⟩
    | step _ _ hg _ => exact ⟨_, hg⟩
  obtain ⟨_, hg⟩ := hg
  obtain ⟨_, hid, hcollection, htexts⟩ := relation_collected hg hr
  obtain ⟨e, he, hsame, rfl⟩ := mem_of_lookup? hget
  rcases entries_collected id e he with hkey | ⟨hkey, hv⟩ | ⟨hkey, hv⟩ <;> rw [hkey] at hsame
  · exact absurd (Value.same_texts.mp hsame).symm hid
  · rw [hv, hcollection (Value.same_texts.mp hsame).symm]
    exact Or.inr ⟨1, rfl⟩
  · rw [hv, htexts (Value.same_texts.mp hsame).symm]
    exact ⟨_, rfl⟩

/-- The texts of the collections of two texts, one of which is asked for twice: both are found three times by relations, and
once by keys. -/
theorem recordsAt_of_resolve_collected : ∃ f ids, Learning.registry.graph "Text" = .ok f ∧
    collected.WellShaped Learning.registry.graph f [.record 0, .record 2, .record 0] ∧
    collected.resolve Learning.registry.graph f "collection.texts" [.record 0, .record 2, .record 0] =
      .ok (ids.map .record) ∧ ids = [0, 2, 0, 2, 0, 2] ∧
    collected.recordsAt [.record 0, .record 2, .record 0] "collection.texts" = .ok [.record 0, .record 2] := by
  obtain ⟨f, hf⟩ : ∃ f, Learning.registry.graph "Text" = .ok f := ⟨_, rfl⟩
  have hkeyed : ∀ entity g, Learning.registry.graph entity = .ok g → g.KeyedAlike :=
    fun entity g hg name r hr => (relation_collected hg hr).1
  have hshaped := wellShaped_collected hf [.record 0, .record 2, .record 0]
  have hfound : collected.resolve Learning.registry.graph f "collection.texts" [.record 0, .record 2, .record 0] =
      .ok [.record 0, .record 2, .record 0, .record 2, .record 0, .record 2] := by
    cases hf
    rfl
  obtain ⟨ids, hids, hat, _⟩ := recordsAt_of_resolve hkeyed (hkeyed _ _ hf) (by simp) hshaped hfound
  obtain rfl : [0, 2, 0, 2, 0, 2] = ids := (List.map_inj_right fun _ _ h => Node.record.inj h).mp hids
  exact ⟨f, [0, 2, 0, 2, 0, 2], hf, hshaped, hfound, rfl, hat⟩

end Store

end EntityViews
