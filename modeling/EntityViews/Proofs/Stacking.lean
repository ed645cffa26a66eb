import EntityViews.Proofs.Layers

/-!
Stores that carry layers. Whatever the order of the loads, each puts its layer on top of what is there and attaches it to
the layer above it; nothing else changes. Main statement: what populating a path does to such a store.
-/

namespace EntityViews

open Sql

/-- Whether the relations of a schema have names of their own: no entity has a column or a formula of the name of one of its
relations, and none of its relations is followed by a column of that name. -/
structure Schema.Apart (s : Schema) : Prop where
  unknown : ∀ {entity name : String} {e : Entity} {r : Relation}, s.entity? entity = some e →
    s.relation? entity name = some r → ¬e.Knows name
  keys : ∀ {entity name other : String} {r r' : Relation}, s.relation? entity name = some r →
    s.relation? entity other = some r' → r'.link.ownKey ≠ name

/-- A relation that is found belongs to the entity that it is found for. -/
theorem Schema.mem_relationsOf {s : Schema} {entity name : String} {r : Relation} (h : s.relation? entity name = some r) :
    r.name = name ∧ r ∈ relationsOf s.entities entity ∧ ∃ e ∈ s.entities, e.name = entity := by
  have hname := (Schema.mem_of_relation? h).1
  rw [Schema.relation?, relationOf?, List.findRev?_eq_find?_reverse] at h
  have hmem := List.mem_reverse.mp (List.mem_of_find?_eq_some h)
  obtain ⟨e, he, _⟩ := List.mem_flatMap.mp hmem
  have hentity := List.mem_filter.mp he
  exact ⟨hname, hmem, e, hentity.1, beq_iff_eq.mp hentity.2⟩

/-- Whether the names of relations are apart can be told from the descriptions of the entities. -/
theorem Schema.apart_of_all {s : Schema} (h : ∀ e ∈ s.entities, ∀ r ∈ relationsOf s.entities e.name,
    ¬e.Knows r.name ∧ ∀ r' ∈ relationsOf s.entities e.name, r'.link.ownKey ≠ r.name) : s.Apart where
  unknown := by
    intro entity name e r he hr
    obtain ⟨rfl, hmem, _⟩ := Schema.mem_relationsOf hr
    obtain rfl : e.name = entity := Schema.name_of_entity? he
    exact (h e (Schema.mem_of_entity? he) r hmem).1
  keys := by
    intro entity name other r r' hr hr'
    obtain ⟨rfl, hmem, e, he, rfl⟩ := Schema.mem_relationsOf hr
    exact (h e he r hmem).2 r' (Schema.mem_relationsOf hr').2.1

theorem Except.mapM_eq_ok {ι α β : Type} {f : α → Except Fault β} {x : ι → α} {g : ι → β} {items : List ι}
    (h : ∀ i ∈ items, f (x i) = .ok (g i)) : (items.map x).mapM f = .ok (items.map g) := by
  induction items with
  | nil => rfl
  | cons i items ih =>
    rw [List.map_cons, List.mapM_cons, h i List.mem_cons_self, ih fun j hj => h j (List.mem_cons_of_mem _ hj)]
    rfl

namespace Store

/-- After a field was set, every key that equals its name finds the new value, and every other key what it found. -/
theorem get?_set_key (s : Store) (id i : Nat) (name : String) (key : Value) (v : Node) :
    (s.set id (.text name) v).get? i key =
      if id = i ∧ i < s.records.size ∧ (Value.text name).same key = true then some v else s.get? i key := by
  rw [get?, entries_set]
  by_cases hi : id = i ∧ i < s.records.size
  · rw [if_pos hi, lookup?_assign]
    simp only [hi.1, hi.2, true_and]
    rfl
  · rw [if_neg hi, if_neg fun h => hi ⟨h.1, h.2.1⟩]
    rfl

/-- Whether a store carries the layers of some trails: each with its own records from some number on, which have what they
came up with, and what the layers below have attached to them. -/
structure Stacks (s : Store) (layers : Trail → Option Layer) (roots : List Node) (start : Trail → Nat)
    (done : List Trail) : Prop where
  first : [] ∈ done
  closed : ∀ t ∈ done, t.tail ∈ done
  present : ∀ t ∈ done, ∃ layer, layers t = some layer
  roots : ∀ layer, layers [] = some layer → roots = layer.ends.map fun i => .record (start [] + i)
  fits : ∀ t ∈ done, ∀ layer, layers t = some layer → start t + layer.store.records.size ≤ s.records.size
  apart : ∀ t ∈ done, ∀ u ∈ done, ∀ layer other, layers t = some layer → layers u = some other →
    ∀ i < layer.store.records.size, ∀ j < other.store.records.size, start t + i = start u + j → t = u
  own : ∀ t ∈ done, ∀ layer, layers t = some layer → ∀ i < layer.store.records.size, ∀ key,
    (∀ name, name :: t ∈ done → i ∈ layer.ends → (Value.text name).same key = false) →
      s.get? (start t + i) key = (layer.store.get? i key).map (Node.raised (start t))
  leads : ∀ name t, name :: t ∈ done → ∀ above layer, layers t = some above → layers (name :: t) = some layer →
    ∀ i ∈ above.ends, s.get? (start t + i) (.text name) = some ((layer.lead i).raised (start (name :: t)))

/-- Whether a store has got a layer on top and attached to some records, and nothing else has changed. -/
structure Gains (s t : Store) (b : Nat) (above : Layer) (name : String) (layer : Layer) : Prop where
  size : t.records.size = s.records.size + layer.store.records.size
  kept : ∀ id < s.records.size, ∀ key, ¬((∃ i ∈ above.ends, id = b + i) ∧ (Value.text name).same key = true) →
    t.get? id key = s.get? id key
  fresh : ∀ i < layer.store.records.size, ∀ key,
    t.get? (s.records.size + i) key = (layer.store.get? i key).map (Node.raised s.records.size)
  attached : ∀ i ∈ above.ends, t.get? (b + i) (.text name) = some ((layer.lead i).raised s.records.size)

variable {s t : Store} {layers : Trail → Option Layer} {roots : List Node} {start : Trail → Nat} {done : List Trail}

theorem Stacks.below (h : s.Stacks layers roots start done) {u : Trail} {layer : Layer} (hu : u ∈ done)
    (hlayer : layers u = some layer) {i : Nat} (hi : i < layer.store.records.size) : start u + i < s.records.size := by
  have := h.fits u hu layer hlayer
  omega

/-- The records of the layers below have what they had, but for what a layer on top attaches to those that it hangs from. -/
theorem Stacks.kept (h : s.Stacks layers roots start done) {name : String} {above u : Trail} {upper layer other : Layer}
    (habove : above ∈ done) (hupper : layers above = some upper) (hsound : upper.Sound)
    (hg : s.Gains t (start above) upper name layer) (hu : u ∈ done) (hother : layers u = some other) {i : Nat}
    (hi : i < other.store.records.size) {key : Value}
    (hkey : u = above → i ∈ upper.ends → (Value.text name).same key = false) :
    t.get? (start u + i) key = s.get? (start u + i) key := by
  refine hg.kept _ (h.below hu hother hi) key ?_
  rintro ⟨⟨j, hj, he⟩, hsame⟩
  obtain rfl : u = above := h.apart u hu above habove other upper hother hupper i hi j (hsound.ends j hj) he
  obtain rfl : i = j := by omega
  rw [hkey rfl hj] at hsame
  cases hsame

/-- A layer that is put on top is carried like the others. -/
theorem Stacks.add (h : s.Stacks layers roots start done) {name : String} {above : Trail} {upper layer : Layer}
    (habove : above ∈ done) (hnew : name :: above ∉ done) (hupper : layers above = some upper)
    (hlayer : layers (name :: above) = some layer) (family : Layer.Family layers)
    (hg : s.Gains t (start above) upper name layer) :
    t.Stacks layers roots (fun u => if u = name :: above then s.records.size else start u) ((name :: above) :: done) := by
  -- The trails that were there start where they did; only the new one starts where the store ended.
  have hstart : ∀ u ∈ done, (if u = name :: above then s.records.size else start u) = start u := by
    intro u hu
    refine if_neg ?_
    rintro rfl
    exact hnew hu
  refine ⟨List.mem_cons_of_mem _ h.first, ?_, ?_, ?_, ?_, ?_, ?_, ?_⟩
  · intro u hu
    rcases List.mem_cons.mp hu with rfl | hu
    · exact List.mem_cons_of_mem _ habove
    · exact List.mem_cons_of_mem _ (h.closed u hu)
  · intro u hu
    rcases List.mem_cons.mp hu with rfl | hu
    · exact ⟨layer, hlayer⟩
    · exact h.present u hu
  · intro root hroot
    rw [hstart [] h.first]
    exact h.roots root hroot
  · intro u hu other hother
    rw [hg.size]
    rcases List.mem_cons.mp hu with rfl | hu
    · cases hlayer.symm.trans hother
      exact Nat.le_of_eq (by rw [if_pos rfl])
    · rw [hstart u hu]
      have := h.fits u hu other hother
      omega
  · intro u hu v hv other other' hother hother' i hi j hj he
    rcases List.mem_cons.mp hu with rfl | hu
    · rcases List.mem_cons.mp hv with rfl | hv
      · rfl
      · rw [if_pos rfl, hstart v hv] at he
        have := h.below hv hother' hj
        omega
    · rcases List.mem_cons.mp hv with rfl | hv
      · rw [if_pos rfl, hstart u hu] at he
        have := h.below hu hother hi
        omega
      · rw [hstart u hu, hstart v hv] at he
        exact h.apart u hu v hv other other' hother hother' i hi j hj he
  · intro u hu other hother i hi key hkey
    rcases List.mem_cons.mp hu with rfl | hu
    · cases hlayer.symm.trans hother
      rw [if_pos rfl]
      exact hg.fresh i hi key
    · have hkept : t.get? (start u + i) key = s.get? (start u + i) key := by
        refine h.kept habove hupper (family.sound hupper) hg hu hother hi ?_
        rintro rfl hend
        cases hupper.symm.trans hother
        exact hkey name List.mem_cons_self hend
      rw [hstart u hu, hkept]
      exact h.own u hu other hother i hi key fun k hk => hkey k (List.mem_cons_of_mem _ hk)
  · intro k u hmem other other' hother hother' i hi
    rcases List.mem_cons.mp hmem with he | hu
    · cases he
      cases hupper.symm.trans hother
      cases hlayer.symm.trans hother'
      rw [if_pos rfl, hstart _ habove]
      exact hg.attached i hi
    · have hu' : u ∈ done := h.closed _ hu
      have hkept : t.get? (start u + i) (.text k) = s.get? (start u + i) (.text k) := by
        refine h.kept habove hupper (family.sound hupper) hg hu' hother ((family.sound hother).ends i hi) ?_
        rintro rfl _
        refine Bool.eq_false_iff.mpr fun hsame => hnew ?_
        rwa [Value.same_texts.mp hsame]
      rw [hstart _ hu, hstart u hu', hkept]
      exact h.leads k u hu other other' hother hother' i hi

/-- The records at the end of a trail are those at the ends of its layer. -/
theorem Stacks.reachAll_eq (h : s.Stacks layers roots start done) (family : Layer.Family layers) {u : Trail}
    (hu : u ∈ done) {layer : Layer} (hlayer : layers u = some layer) :
    s.reachAll roots u.reverse = .ok (layer.ends.map fun i => .record (start u + i)) := by
  induction u generalizing layer with
  | nil =>
    rw [h.roots layer hlayer]
    rfl
  | cons name u ih =>
    have hu' : u ∈ done := h.closed _ hu
    obtain ⟨above, habove⟩ := h.present u hu'
    have hreach : ∀ i ∈ above.ends, s.reach name (.record (start u + i)) =
        .ok ((layer.lead i).ends.map fun j => .record (start (name :: u) + j)) := by
      intro i hi
      have hleads := (family.sound hlayer).leads i
      have hget := h.leads name u hu above layer habove hlayer i hi
      rw [reach_eq hget hleads.raised, hleads.ends_raised, List.map_map]
      rfl
    rw [List.reverse_cons, reachAll_concat, ih hu' habove, family.ends habove hlayer]
    change (List.mapM (s.reach name) _ >>= fun found => Except.ok found.flatten) = _
    rw [Except.mapM_eq_ok hreach, List.map_flatMap]
    rfl

/-- What is found at the path of a loaded trail are the ends of its layer, once each. -/
theorem Stacks.recordsAt_eq (h : s.Stacks layers roots start done) (family : Layer.Family layers) {u : Trail}
    (hu : u ∈ done) (hproper : u.Proper) {layer : Layer} (hlayer : layers u = some layer) :
    s.recordsAt roots u.path = .ok ((distinct layer.ends).map fun i => .record (start u + i)) := by
  have hreach := h.reachAll_eq family hu hlayer
  have hdistinct : distinctRecords (layer.ends.map fun i => .record (start u + i)) =
      (distinct layer.ends).map fun i => .record (start u + i) := by
    change distinctRecords (layer.ends.map (Node.record ∘ (start u + ·))) = _
    rw [← List.map_map, distinctRecords_records, distinct_map_add, List.map_map]
    rfl
  rw [recordsAt]
  by_cases hne : u = []
  · subst hne
    cases hreach
    exact congrArg Except.ok hdistinct
  · rw [if_neg fun he => hne ((Trail.path_eq_empty_iff hproper).mp he), Trail.segments_path hproper hne, hreach]
    exact congrArg Except.ok hdistinct

/-- Along a trail that has not been loaded there is nothing, if the records where it leaves the loaded ones are bare. -/
theorem Stacks.recordsAt_none (h : s.Stacks layers roots start done) (family : Layer.Family layers) {u : Trail}
    (hu : u ∉ done) (hproper : u.Proper) (hbare : ∀ name t layer, name :: t <:+ u → layers t = some layer →
      ∀ i ∈ layer.ends, layer.store.get? i (.text name) = none) :
    s.recordsAt roots u.path = .ok [] := by
  have hreach : ∀ t, t <:+ u → t ∉ done → s.reachAll roots t.reverse = .ok [] := by
    intro t
    induction t with
    | nil => exact fun _ hnot => absurd h.first hnot
    | cons name t ih =>
      intro hsuffix hnot
      have ht : t <:+ u := (List.suffix_cons name t).trans hsuffix
      rw [List.reverse_cons, reachAll_concat]
      -- The trail leaves the loaded ones here, where the records are bare, or it has left them before.
      by_cases hdone : t ∈ done
      · obtain ⟨layer, hlayer⟩ := h.present t hdone
        have hnone : ∀ i ∈ layer.ends, s.reach name (.record (start t + i)) = .ok [] := by
          intro i hi
          apply reach_none
          rw [h.own t hdone layer hlayer i ((family.sound hlayer).ends i hi) (.text name),
            hbare name t layer hsuffix hlayer i hi]
          · rfl
          · intro other hother _
            refine Bool.eq_false_iff.mpr fun hsame => hnot ?_
            rwa [← Value.same_texts.mp hsame]
        rw [h.reachAll_eq family hdone hlayer]
        change (List.mapM (s.reach name) _ >>= fun found => Except.ok found.flatten) = _
        rw [Except.mapM_eq_ok hnone]
        change Except.ok (List.flatten _) = _
        rw [List.map_const', List.flatten_replicate_nil]
      · rw [ih ht hdone]
        rfl
  have hne : u ≠ [] := by
    rintro rfl
    exact hu h.first
  rw [recordsAt, if_neg fun he => hne ((Trail.path_eq_empty_iff hproper).mp he), Trail.segments_path hproper hne,
    hreach u List.suffix_rfl hu]
  rfl

/-- The keys of records at the ends of a layer are as they came up. -/
theorem Stacks.keyAt_eq (h : s.Stacks layers roots start done) {u : Trail} (hu : u ∈ done) {layer : Layer}
    (hlayer : layers u = some layer) (hsound : layer.Sound) {field : String}
    (hfield : ∀ name, name :: u ∈ done → name ≠ field) {i : Nat} (hi : i ∈ layer.ends) :
    s.keyAt (start u + i) field = layer.store.keyAt i field := by
  have hget : s.get? (start u + i) (.text field) = (layer.store.get? i (.text field)).map (Node.raised (start u)) := by
    refine h.own u hu layer hlayer i (hsound.ends i hi) (.text field) fun name hname _ => ?_
    exact Bool.eq_false_iff.mpr fun hsame => hfield name hname (Value.same_texts.mp hsame)
  rw [keyAt, keyAt, hget]
  cases layer.store.get? i (.text field) with
  | none => rfl
  | some n => exact n.key_raised

end Store

theorem Gives.unique {σ α : Type} {x : ExceptT Fault (StateM σ) α} {s m m' : σ} {a b : α} (h : Gives x s a m)
    (h' : Gives x s b m') : a = b ∧ m = m' := by
  cases h.symm.trans h'
  exact ⟨rfl, rfl⟩

theorem Layer.keyAt_ok (layer : Layer) {field : String} {i : Nat} (h : (layer.store.keyAt i field).isOk = true) :
    layer.store.keyAt i field = .ok (layer.keyAt field i) := by
  rw [Layer.keyAt]
  cases hk : layer.store.keyAt i field with
  | ok k => rfl
  | error f =>
    rw [hk] at h
    cases h

namespace Loader

variable {δ : Type} {w w' : World δ}

/-- Attaching under a name changes nothing under other keys. -/
theorem attach_frame {records : List Node} {key name : String} {f : Value → Node} {u : PUnit}
    (h : Gives (records.forM fun r => do Run.setField r name (f (← keyOf r key))) w u w') (id : Nat) {other : Value}
    (hother : (Value.text name).same other = false) : w'.store.get? id other = w.store.get? id other := by
  refine Gives.forM_keeps (P := fun m => m.store.get? id other = w.store.get? id other) h ?_ rfl
  intro r _ m m' hm hstep
  obtain ⟨v, m₁, hv, hset⟩ := Gives.bind_iff.mp hstep
  obtain ⟨rfl, _⟩ := keyOf_gives hv
  obtain ⟨i, _, rfl⟩ := Run.setField_gives hset
  rw [Store.get?_set_key, if_neg, hm]
  rintro ⟨_, _, hsame⟩
  rw [hother] at hsame
  cases hsame

variable [Engine δ] {s : Schema} {w₀ : World δ} {layers : Trail → Option Layer} {roots : List Node}
  {start : Trail → Nat} {done : List Trail} {above : Trail} {upper : Layer} {relation : Relation} {target : Entity}
  {fields : Option (List String)} {parent name : String}

omit [Engine δ] in
/-- Attaching what is in hand completes a layer that is on top of the records. -/
theorem gains_of_attach {base : Store} {b : Nat} {layer : Layer} {records : List Node} {key : String} {f : Value → Node}
    {u : PUnit} {w₁ : World δ} (hw₁ : w₁.store = base.topped layer.store)
    (hmem : ∀ i, Node.record i ∈ records ↔ ∃ j ∈ upper.ends, i = b + j)
    (hbound : ∀ j ∈ upper.ends, b + j < base.records.size) (hne : key ≠ name)
    (hf : ∀ j ∈ upper.ends, ∀ v, w₁.store.keyAt (b + j) key = .ok v → f v = (layer.lead j).raised base.records.size)
    (h : Gives (records.forM fun r => do Run.setField r name (f (← keyOf r key))) w₁ u w') :
    base.Gains w'.store b upper name layer := by
  obtain ⟨hkeeps, hsize, _, hall⟩ := attach_gives h
  have hsize₁ : w₁.store.records.size = base.records.size + layer.store.records.size := by rw [hw₁, Store.size_topped]
  -- A record that is not met has the same as before under every key.
  have hothers : ∀ id, .record id ∉ records → id < w₁.store.records.size → ∀ other,
      w'.store.get? id other = w₁.store.get? id other := by
    intro id hid hlt other
    by_cases hsame : (Value.text name).same other = true
    · have hkept := hkeeps.2 id hlt name fun ht => hid ht.2
      rw [Store.get?, Store.get?, ← lookup?_congr hsame, ← lookup?_congr hsame]
      exact hkept
    · exact attach_frame h id (Bool.eq_false_iff.mpr hsame)
  refine ⟨hsize.trans hsize₁, ?_, ?_, ?_⟩
  · intro id hid other hother
    have hkept : w₁.store.get? id other = base.get? id other := by
      rw [hw₁, Store.get?, Store.entries_topped_lt _ _ hid]
      rfl
    rw [← hkept]
    by_cases hsame : (Value.text name).same other = true
    · refine hothers id (fun hin => ?_) (by omega) other
      exact hother ⟨(hmem id).mp hin, hsame⟩
    · exact attach_frame h id (Bool.eq_false_iff.mpr hsame)
  · intro i hi other
    have hnot : Node.record (base.records.size + i) ∉ records := by
      intro hin
      obtain ⟨j, hj, he⟩ := (hmem _).mp hin
      have := hbound j hj
      omega
    rw [hothers _ hnot (by omega), hw₁, Store.get?_topped]
  · intro j hj
    have hlt := hbound j hj
    obtain ⟨v, hv, hkey⟩ := hall (b + j) ((hmem _).mpr ⟨j, hj, rfl⟩) (by omega)
    rw [hv, hf j hj v (hkey hne)]

section Ends

variable {store : Store} {b : Nat} {key : String} (h : ∀ i ∈ upper.ends, store.keyAt (b + i) key = upper.store.keyAt i key)
include h

omit [Engine δ] in
/-- Records that have the keys of the ends of a layer are asked for the keys of the layer. -/
theorem keysAsked_ends :
    distinctKeys (((distinct upper.ends).map fun i => Node.record (b + i)).filterMap (ownKey? store key)) =
      upper.keys key := by
  rw [Layer.keys, List.filterMap_map, List.filterMap_map]
  congr 1
  refine List.filterMap_congr fun i hi => ?_
  have hi' := h i (mem_distinct.mp hi)
  simp only [Function.comp, ownKey?, hi']

omit [Engine δ] in
theorem hasKey_ends (hall : ∀ i ∈ upper.ends, (upper.store.keyAt i key).isOk) :
    ∀ n ∈ (distinct upper.ends).map fun i => Node.record (b + i), HasKey store key n := by
  intro n hn
  obtain ⟨i, hi, rfl⟩ := List.mem_map.mp hn
  have hend := mem_distinct.mp hi
  exact ⟨_, _, rfl, (h i hend).trans (upper.keyAt_ok (hall i hend))⟩

end Ends

/-- Loading a relation onto the records at the end of a trail puts a layer on top, or it fails if there is no such layer. -/
theorem load_gains (reliable : Reliable δ) (w₀ : World δ) (fields : Option (List String))
    (hs : w.store.Stacks layers roots start done) (habove : above ∈ done) (hupper : layers above = some upper)
    (hsound : upper.Sound) (hr : s.relation? parent name = some relation) (ht : s.entity? relation.target = some target)
    (hown : relation.link.ownKey ≠ name)
    (hkeys : ∀ other, other :: above ∈ done → other ≠ relation.link.ownKey) :
    (∃ layer out w', upper.below? w₀ s relation target fields = some layer ∧
      Gives (load s parent ((distinct upper.ends).map fun i => .record (start above + i)) name fields .null) w out w' ∧
      w.store.Gains w'.store (start above) upper name layer) ∨
    (upper.below? w₀ s relation target fields = none ∧ ∀ out w',
      ¬Gives (load s parent ((distinct upper.ends).map fun i => .record (start above + i)) name fields .null) w out w') := by
  obtain ⟨rfl, _⟩ := Schema.mem_of_relation? hr
  have hmem : ∀ id, Node.record id ∈ ((distinct upper.ends).map fun i => Node.record (start above + i)) ↔
      ∃ i ∈ upper.ends, id = start above + i := by
    simp [eq_comm]
  have hkeyAt : ∀ i ∈ upper.ends, w.store.keyAt (start above + i) relation.link.ownKey =
      upper.store.keyAt i relation.link.ownKey := fun i hi => hs.keyAt_eq habove hupper hsound hkeys hi
  have hbound : ∀ i ∈ upper.ends, start above + i < w.store.records.size := by
    intro i hi
    exact hs.below habove hupper (hsound.ends i hi)
  simp only [load_iff hr ht, keysAsked_ends hkeyAt]
  have htracks : Run.Tracks w.store 0 _ _ _ := inHand_tracks reliable s relation target fields
    (upper.keys relation.link.ownKey)
  rcases htracks.alone w₀ (w := w) rfl with ⟨hand, store, hand', w₁, halone, hhand, _, hw₁, hrelated⟩ | ⟨hnone, hfails⟩
  · have hkeyAt₁ : ∀ i ∈ upper.ends, w₁.store.keyAt (start above + i) relation.link.ownKey =
        upper.store.keyAt i relation.link.ownKey := by
      intro i hi
      rw [← hkeyAt i hi]
      apply Store.keyAt_congr
      rw [Store.get?, hw₁, Store.entries_topped_lt _ _ (hbound i hi)]
      rfl
    by_cases hall : ∀ i ∈ upper.ends, (upper.store.keyAt i relation.link.ownKey).isOk
    · -- All keys can be had, so that the records can be given what they lead to.
      have hkeys : Gives (keysOf _ relation.link.ownKey) w _ w := keysOf_runs (hasKey_ends hkeyAt hall)
      rw [keysAsked_ends hkeyAt] at hkeys
      obtain ⟨store', hattach, _⟩ := attach_runs hand'.1 (fun he => absurd he hown) (hasKey_ends hkeyAt₁ hall)
      let lead := fun i => hand.1 (upper.keyAt relation.link.ownKey i)
      refine .inl ⟨⟨store, upper.ends.flatMap fun i => (lead i).ends, lead⟩, hand'.2, { w₁ with store := store' }, ?_,
        ⟨hkeys, hand', w₁, hhand, hattach, rfl⟩, ?_⟩
      · rw [Layer.below?, if_pos hall, halone]
        rfl
      · refine gains_of_attach hw₁ hmem hbound hown (fun j hj v hv => ?_) hattach
        rw [hkeyAt₁ j hj, upper.keyAt_ok (hall j hj)] at hv
        rw [← Except.ok.inj hv]
        exact (hrelated _).2
    · refine .inr ⟨?_, ?_⟩
      · rw [Layer.below?, if_neg hall]
      · rintro out w' ⟨_, hand₁, m₁, hhand₁, hattach, _⟩
        obtain ⟨rfl, rfl⟩ := hhand₁.unique hhand
        refine hall fun i hi => ?_
        have hlt : start above + i < m₁.store.records.size := by
          have := hbound i hi
          rw [hw₁, Store.size_topped]
          omega
        obtain ⟨v, _, hv⟩ := (attach_gives hattach).2.2.2 _ ((hmem _).mpr ⟨i, hi, rfl⟩) hlt
        rw [← hkeyAt₁ i hi, hv hown]
        rfl
  · refine .inr ⟨?_, ?_⟩
    · rw [Layer.below?, hnone]
      split <;> rfl
    · rintro out w' ⟨_, hand, w₁, hhand, _⟩
      exact hfails hand w₁ hhand

end Loader

namespace Repository

variable {δ : Type} [Engine δ] {s : Schema} {e : Entity} {entity : String} {roots : List Node}
  {fields : Option (List String)} {sel : Select} {w₀ w w' : World δ} {start : Trail → Nat} {done : List Trail}
  {name : String} {above : Trail}

/-- What populating a path does: it looks up the records at the path above, and if there are any, loads the relation. -/
theorem populatePath_iff {filter : Value} {u : PUnit} (hproper : Trail.Proper (name :: above)) :
    Gives (populatePath s entity roots fields filter (Trail.path (name :: above))) w u w' ↔
      ∃ parent found, entityAt s (Trail.path above) entity above.reverse = .ok parent ∧
        w.store.recordsAt roots (Trail.path above) = .ok found ∧ ((found = [] ∧ w' = w) ∨ (found ≠ [] ∧
          ∃ out, Gives (Loader.load s parent found name (fields.map (fieldsUnder · (Trail.path (name :: above)))) filter)
            w out w')) := by
  rw [populatePath, Trail.splitLast_path hproper]
  simp only [Trail.keys_path hproper.above, Gives.bind_iff, Gives.lift_iff, Gives.get_iff]
  constructor
  · rintro ⟨parent, _, ⟨hentity, rfl⟩, _, _, ⟨rfl, rfl⟩, found, _, ⟨hfound, rfl⟩, hload⟩
    refine ⟨parent, found, hentity, hfound, ?_⟩
    by_cases hempty : found.isEmpty
    · rw [if_pos hempty] at hload
      exact .inl ⟨List.isEmpty_iff.mp hempty, (Gives.pure_iff.mp hload).2⟩
    · rw [if_neg hempty] at hload
      obtain ⟨out, _, hout, hpure⟩ := Gives.bind_iff.mp hload
      obtain ⟨_, rfl⟩ := Gives.pure_iff.mp hpure
      exact .inr ⟨fun he => hempty (List.isEmpty_iff.mpr he), out, hout⟩
  · rintro ⟨parent, found, hentity, hfound, hload⟩
    refine ⟨parent, w, ⟨hentity, rfl⟩, w, w, ⟨rfl, rfl⟩, found, w, ⟨hfound, rfl⟩, ?_⟩
    rcases hload with ⟨rfl, rfl⟩ | ⟨hne, out, hout⟩
    · exact Gives.pure_iff.mpr ⟨rfl, rfl⟩
    · rw [if_neg fun h => hne (List.isEmpty_iff.mp h)]
      exact Gives.bind_iff.mpr ⟨out, w', hout, Gives.pure_iff.mpr ⟨rfl, rfl⟩⟩

/-- With records at the path above, populating a path is loading its relation onto them. -/
theorem populatePath_loads {filter : Value} {parent : String} {found : List Node} (hproper : Trail.Proper (name :: above))
    (hparent : entityAt s (Trail.path above) entity above.reverse = .ok parent)
    (hfound : w.store.recordsAt roots (Trail.path above) = .ok found) (hne : found ≠ []) :
    Gives (populatePath s entity roots fields filter (Trail.path (name :: above))) w ⟨⟩ w' ↔
      ∃ out, Gives (Loader.load s parent found name (fields.map (fieldsUnder · (Trail.path (name :: above)))) filter)
        w out w' := by
  rw [populatePath_iff hproper]
  constructor
  · rintro ⟨parent', found', hparent', hfound', hload⟩
    cases hparent.symm.trans hparent'
    cases hfound.symm.trans hfound'
    rcases hload with ⟨he, _⟩ | ⟨_, hout⟩
    · exact absurd he hne
    · exact hout
  · exact fun hout => ⟨parent, found, hparent, hfound, .inr ⟨hne, hout⟩⟩

/-- What has been loaded onto the records of a layer has names of relations, and the key of a relation is no such name. -/
theorem Stacks.ne_ownKey (apart : s.Apart) {store : Store}
    (hs : store.Stacks (Layer.at? w₀ s e fields sel) roots start done) {upper : Layer} {parent other : String}
    {relation : Relation} (hupper : Layer.at? w₀ s e fields sel above = some upper) (hends : upper.ends ≠ [])
    (hparent : entityAt s "" e.name above.reverse = .ok parent) (hr : s.relation? parent name = some relation)
    (hother : other :: above ∈ done) : other ≠ relation.link.ownKey := by
  obtain ⟨layer, hlayer⟩ := hs.present _ hother
  obtain ⟨upper', _, hupper', hfollows, _, ⟨he, _⟩ | ⟨_, r, _, hr', _⟩⟩ := Layer.at?_cons hlayer
  · cases hupper.symm.trans hupper'
    exact absurd he hends
  · cases (hfollows "").symm.trans hparent
    exact (apart.keys hr' hr).symm

/-- Populating the path of a trail brings its layer, or fails if there is no such layer. -/
theorem populatePath_layer (reliable : Reliable δ) (apart : s.Apart)
    (hs : w.store.Stacks (Layer.at? w₀ s e fields sel) roots start done) (hproper : Trail.Proper (name :: above))
    (habove : above ∈ done) (hnew : name :: above ∉ done) :
    (∃ w' start', (∃ layer, Layer.at? w₀ s e fields sel (name :: above) = some layer) ∧
      Gives (populatePath s e.name roots fields .null (Trail.path (name :: above))) w ⟨⟩ w' ∧
      w'.store.Stacks (Layer.at? w₀ s e fields sel) roots start' ((name :: above) :: done)) ∨
    (Layer.at? w₀ s e fields sel (name :: above) = none ∧ ∀ w',
      ¬Gives (populatePath s e.name roots fields .null (Trail.path (name :: above))) w ⟨⟩ w') := by
  have family : Layer.Family (Layer.at? w₀ s e fields sel) := Layer.family_at? reliable
  obtain ⟨upper, hupper⟩ := hs.present above habove
  have hrecords := hs.recordsAt_eq family habove hproper.above hupper
  have hlayer := Layer.at?_cons_eq hupper name
  cases hentity : entityAt s "" e.name above.reverse with
  | error f =>
    rw [hentity] at hlayer
    refine .inr ⟨hlayer, fun w' h => ?_⟩
    obtain ⟨parent, _, hparent, _⟩ := (populatePath_iff hproper).mp h
    have hok : entityAt s "" e.name above.reverse = .ok parent := entityAt_path hparent
    rw [hentity] at hok
    cases hok
  | ok parent =>
    rw [hentity] at hlayer
    change _ = if upper.ends.isEmpty then _ else _ at hlayer
    have hparent : entityAt s (Trail.path above) e.name above.reverse = .ok parent := entityAt_path hentity
    by_cases hempty : upper.ends = []
    · -- Nothing is above, so that nothing is loaded, and the layer is blank.
      rw [hempty] at hrecords
      rw [if_pos (List.isEmpty_iff.mpr hempty)] at hlayer
      have hnone : w.store.Gains w.store (start above) upper name .blank := by
        refine ⟨rfl, fun _ _ _ _ => rfl, nofun, ?_⟩
        rw [hempty]
        exact nofun
      refine .inl ⟨w, _, ⟨_, hlayer⟩, ?_, hs.add habove hnew hupper hlayer family hnone⟩
      exact (populatePath_iff hproper).mpr ⟨parent, [], hparent, hrecords, .inl ⟨rfl, rfl⟩⟩
    · have hne : (distinct upper.ends).map (fun i => Node.record (start above + i)) ≠ [] := by
        obtain ⟨i, hi⟩ := List.exists_mem_of_ne_nil _ hempty
        exact List.ne_nil_of_mem (List.mem_map_of_mem (mem_distinct.mpr hi))
      rw [if_neg fun h => hempty (List.isEmpty_iff.mp h)] at hlayer
      simp only [populatePath_loads hproper hparent hrecords hne]
      cases hr : s.relation? parent name with
      | none =>
        rw [hr] at hlayer
        refine .inr ⟨hlayer, ?_⟩
        rintro w' ⟨out, h⟩
        obtain ⟨_, _, hr', _⟩ := Loader.load_known h
        cases hr.symm.trans hr'
      | some relation =>
        rw [hr] at hlayer
        cases ht : s.entity? relation.target with
        | none =>
          change _ = (s.entity? relation.target).bind _ at hlayer
          rw [ht] at hlayer
          refine .inr ⟨hlayer, ?_⟩
          rintro w' ⟨out, h⟩
          obtain ⟨_, _, hr', ht'⟩ := Loader.load_known h
          cases hr.symm.trans hr'
          cases ht.symm.trans ht'
        | some target =>
          change _ = (s.entity? relation.target).bind _ at hlayer
          rw [ht] at hlayer
          have hkeys : ∀ other, other :: above ∈ done → other ≠ relation.link.ownKey := fun other =>
            Stacks.ne_ownKey apart hs hupper hempty hentity hr
          rcases Loader.load_gains reliable w₀ (fields.map (fieldsUnder · (Trail.path (name :: above)))) hs habove hupper
              (family.sound hupper) hr ht (apart.keys hr hr) hkeys with
            ⟨layer, out, w', hbelow, hload, hgains⟩ | ⟨hnone, hfails⟩
          · have hsome := hlayer.trans hbelow
            exact .inl ⟨w', _, ⟨layer, hsome⟩, ⟨out, hload⟩,
              hs.add habove hnew hupper hsome family hgains⟩
          · exact .inr ⟨hlayer.trans hnone, fun w' ⟨out, h⟩ => hfails out w' h⟩

end Repository

end EntityViews
