import EntityViews.Proofs.RecordsInHand
import EntityViews.Proofs.Population

/-!
What each load of a find brings, taken by itself: the records that come up, numbered from zero, and what the records above
lead to. A layer depends on the layers above it alone, and not on the order in which other relations are loaded.
-/

namespace EntityViews

open Sql

namespace Run

variable {δ α β : Type} {base : Store} {R : Nat → α → β → Prop} {x : Run δ α} {y : Run δ β}

def alone? (w : World δ) (x : Run δ α) : Option (α × Store) :=
  match x.run.run { w with store := .empty } with
  | (.ok a, w') => some (a, w'.store)
  | (.error _, _) => none

/-- What is done alone is done in the same world with an empty store. -/
theorem alone?_eq_some {w : World δ} {a : α} {t : Store} :
    alone? w x = some (a, t) ↔ ∃ w', Gives x { w with store := .empty } a w' ∧ w'.store = t := by
  unfold alone? Gives
  cases x.run.run { w with store := .empty } with
  | mk outcome w' =>
    cases outcome with
    | error e => exact ⟨nofun, fun ⟨_, h, _⟩ => nomatch h⟩
    | ok b =>
      constructor
      · intro h
        cases h
        exact ⟨w', rfl, rfl⟩
      · rintro ⟨_, h, rfl⟩
        cases h
        rfl

/-- Work that is done on some records does the same as alone, with its own records on top. -/
theorem Tracks.alone (h : Tracks base 0 x y R) (v : World δ) {w : World δ} (hw : w.store = base) :
    (∃ a t b w', alone? v x = some (a, t) ∧ Gives y w b w' ∧ t.Closed ∧ w'.store = base.topped t ∧
      R t.records.size a b) ∨ (alone? v x = none ∧ ∀ b w', ¬Gives y w b w') := by
  have hbase : w.store = base.topped .empty := hw.trans (Store.topped_empty base).symm
  rcases h { v with store := .empty } w Store.closed_empty (Nat.zero_le _) hbase with
    ⟨a, v', b, w', ha, hb, hclosed, _, hw', hR⟩ | ⟨ha, hb⟩
  · exact .inl ⟨a, v'.store, b, w', alone?_eq_some.mpr ⟨v', ha, rfl⟩, hb, hclosed, hw', hR⟩
  · refine .inr ⟨?_, hb⟩
    refine Option.eq_none_iff_forall_not_mem.mpr ?_
    rintro ⟨a, t⟩ hat
    obtain ⟨v', ha', _⟩ := alone?_eq_some.mp hat
    exact ha a v' ha'

end Run

namespace Node

variable {b k : Nat} {n : Node} {P : Nat → Prop}

def ends : Node → List Nat
  | .record id => [id]
  | .list items => items.filterMap fun | .record id => some id | _ => none
  | _ => []

theorem ends_records (ids : List Nat) : (Node.list (ids.map .record)).ends = ids := by
  simp [ends, List.filterMap_map]

/-- What holds of all that a node leads to holds of each of its ends. -/
theorem Leads.of_mem_ends (h : n.Leads P) {i : Nat} (hi : i ∈ n.ends) : P i := by
  cases h with
  | nothing => cases hi
  | one h =>
    rw [List.mem_singleton.mp hi]
    exact h
  | many h =>
    rw [ends_records] at hi
    exact h i hi

/-- The ends of a raised node are the raised ends. -/
theorem Leads.ends_raised (h : n.Leads P) : (n.raised b).ends = n.ends.map (b + ·) := by
  cases h with
  | nothing => rfl
  | one => rfl
  | @many ids h =>
    have hraised : (Node.list (ids.map .record)).raised b = .list ((ids.map (b + ·)).map .record) := by
      simp [raised, raisedItems_eq_map]
    rw [hraised, ends_records, ends_records]

theorem Leads.raised (h : n.Leads P) : (n.raised b).Leads fun _ => True := by
  cases h with
  | nothing => exact .nothing
  | one => exact .one trivial
  | @many ids h =>
    have hraised : (Node.list (ids.map .record)).raised b = .list ((ids.map (b + ·)).map .record) := by
      simp [Node.raised, raisedItems_eq_map]
    rw [hraised]
    exact .many fun _ _ => trivial

theorem Leads.within (h : n.Leads (· < k)) : n.Within k := by
  cases h with
  | nothing => exact nofun
  | one h =>
    intro i hi
    rw [List.mem_singleton.mp hi]
    exact h
  | many h =>
    refine within_mentionsOf.mpr ?_
    intro item hitem i hi
    obtain ⟨id, hid, rfl⟩ := List.mem_map.mp hitem
    rw [List.mem_singleton.mp hi]
    exact h id hid

end Node

namespace Store

variable {s : Store} {P : Nat → Prop}

/-- Following a key flattens what is there. -/
theorem reach_eq {id : Nat} {key : String} {n : Node} (hget : s.get? id (.text key) = some n) (hn : n.Leads P) :
    s.reach key (.record id) = .ok (n.ends.map .record) := by
  have hask : s.ask (.record id) key = .ok (some n) := congrArg Except.ok hget
  rw [reach, hask]
  cases hn with
  | nothing | one => rfl
  | @many ids _ =>
    rw [Node.ends_records]
    rfl

theorem reach_none {id : Nat} {key : String} (hget : s.get? id (.text key) = none) :
    s.reach key (.record id) = .ok [] := by
  have hask : s.ask (.record id) key = .ok none := congrArg Except.ok hget
  rw [reach, hask]
  rfl

/-- To take records once each is to take their numbers once each. -/
theorem distinctRecords_records (ids : List Nat) : distinctRecords (ids.map .record) = (distinct ids).map .record := by
  suffices hrun : ∀ seen : List Nat, (ids.map Node.record).foldl (fun seen n => match n with
      | .record id => if seen.any (fun m => match m with | .record k => k == id | _ => false) then seen else seen ++ [n]
      | n => seen ++ [n]) (seen.map Node.record) = (addNew seen ids).map .record from hrun []
  induction ids with
  | nil => exact fun _ => rfl
  | cons id rest ih =>
    intro seen
    rw [List.map_cons, List.foldl_cons, addNew_cons]
    have hany : (seen.map Node.record).any (fun m => match m with | .record k => k == id | _ => false) = true ↔
        id ∈ seen := by
      simp [List.any_map]
    dsimp only
    by_cases hid : id ∈ seen
    · rw [if_pos (hany.mpr hid), if_pos hid]
      exact ih seen
    · rw [if_neg fun h => hid (hany.mp h), if_neg hid, ← ih, List.map_append]
      rfl

end Store

theorem distinct_map_add (b : Nat) (ids : List Nat) : distinct (ids.map (b + ·)) = (distinct ids).map (b + ·) := by
  suffices hrun : ∀ seen : List Nat, addNew (seen.map (b + ·)) (ids.map (b + ·)) = (addNew seen ids).map (b + ·) from
    hrun []
  induction ids with
  | nil => exact fun _ => rfl
  | cons id rest ih =>
    intro seen
    rw [List.map_cons, addNew_cons, addNew_cons]
    have hmem : b + id ∈ seen.map (b + ·) ↔ id ∈ seen := by simp
    by_cases hid : id ∈ seen
    · rw [if_pos hid, if_pos (hmem.mpr hid), ih]
    · rw [if_neg hid, if_neg fun h => hid (hmem.mp h), ← ih, List.map_append]
      rfl

/-- The records that a load brings: those of a store, those at the ends of what the records above lead to, and what each
record above leads to. All of them are numbered from zero. -/
structure Layer where
  store : Store
  ends : List Nat
  lead : Nat → Node

namespace Layer

def blank : Layer := ⟨.empty, [], fun _ => .null⟩

def keys (layer : Layer) (field : String) : List Value :=
  distinctKeys (((distinct layer.ends).map Node.record).filterMap (Loader.ownKey? layer.store field))

def keyAt (layer : Layer) (field : String) (id : Nat) : Value := (layer.store.keyAt id field).toOption.getD .null

structure Sound (layer : Layer) : Prop where
  closed : layer.store.Closed
  ends : ∀ i ∈ layer.ends, i < layer.store.records.size
  leads : ∀ i, (layer.lead i).Leads (· < layer.store.records.size)

theorem sound_blank : blank.Sound := ⟨Store.closed_empty, nofun, fun _ => .nothing⟩

section Runs

variable {δ : Type} [Engine δ] (w : World δ) (s : Schema)

def root? (e : Entity) (sel : Select) : Option Layer :=
  (Run.alone? w (fetchRecords e sel)).map fun found => ⟨found.2, (Node.list found.1).ends, fun _ => .null⟩

def below? (relation : Relation) (target : Entity) (fields : Option (List String)) (above : Layer) : Option Layer :=
  if ∀ i ∈ above.ends, (above.store.keyAt i relation.link.ownKey).isOk then
    (Run.alone? w (Loader.inHand s relation target fields .null (above.keys relation.link.ownKey))).map fun found =>
      let lead i := found.1.1 (above.keyAt relation.link.ownKey i)
      ⟨found.2, above.ends.flatMap fun i => (lead i).ends, lead⟩
  else none

/-- The layer along a trail. Where nothing is above there is nothing below. -/
def at? (e : Entity) (fields : Option (List String)) (sel : Select) : Trail → Option Layer
  | [] => root? w e sel
  | name :: above => do
    let layer ← at? e fields sel above
    let parent ← (Repository.entityAt s "" e.name above.reverse).toOption
    if layer.ends.isEmpty then return blank
    let relation ← s.relation? parent name
    let target ← s.entity? relation.target
    layer.below? w s relation target (fields.map (Repository.fieldsUnder · (Trail.path (name :: above))))

variable {w s} {e target : Entity} {fields : Option (List String)} {sel : Select} {relation : Relation}
  {layer above : Layer}

/-- The layer below one is what is loaded alone for the keys of its ends. -/
theorem below?_eq_some (h : above.below? w s relation target fields = some layer) :
    (∀ i ∈ above.ends, above.store.keyAt i relation.link.ownKey = .ok (above.keyAt relation.link.ownKey i)) ∧
      ∃ hand store, Run.alone? w (Loader.inHand s relation target fields .null (above.keys relation.link.ownKey)) =
          some (hand, store) ∧
        layer.store = store ∧ layer.lead = (fun i => hand.1 (above.keyAt relation.link.ownKey i)) ∧
        layer.ends = above.ends.flatMap fun i => (layer.lead i).ends := by
  unfold below? at h
  split at h
  · rename_i hkeys
    obtain ⟨⟨hand, store⟩, hfound, rfl⟩ := Option.map_eq_some_iff.mp h
    refine ⟨?_, hand, store, hfound, rfl, rfl, rfl⟩
    intro i hi
    have hok := hkeys i hi
    rw [keyAt]
    cases hk : above.store.keyAt i relation.link.ownKey with
    | ok k => rfl
    | error f =>
      rw [hk] at hok
      cases hok
  · cases h

theorem at?_cons_eq {t : Trail} (h : at? w s e fields sel t = some above) (name : String) :
    at? w s e fields sel (name :: t) = (Repository.entityAt s "" e.name t.reverse).toOption.bind fun parent =>
      if above.ends.isEmpty then some blank else (s.relation? parent name).bind fun relation =>
        (s.entity? relation.target).bind fun target =>
          above.below? w s relation target (fields.map (Repository.fieldsUnder · (Trail.path (name :: t)))) := by
  rw [at?, h]
  rfl

/-- One more segment leads from the layer above to the ends of all its leads. -/
theorem at?_cons {name : String} {t : Trail} (h : at? w s e fields sel (name :: t) = some layer) :
    ∃ above parent, at? w s e fields sel t = some above ∧
      (∀ path, Repository.entityAt s path e.name t.reverse = .ok parent) ∧
      layer.ends = (above.ends.flatMap fun i => (layer.lead i).ends) ∧
      ((above.ends = [] ∧ layer = blank) ∨ (above.ends ≠ [] ∧ ∃ relation target,
        s.relation? parent name = some relation ∧ s.entity? relation.target = some target ∧
        above.below? w s relation target (fields.map (Repository.fieldsUnder · (Trail.path (name :: t)))) =
          some layer)) := by
  rw [at?] at h
  obtain ⟨above, habove, h⟩ := Option.bind_eq_some_iff.mp h
  obtain ⟨parent, hparent, h⟩ := Option.bind_eq_some_iff.mp h
  have hentity := Except.toOption_eq_some_iff.mp hparent
  refine ⟨above, parent, habove, fun _ => Repository.entityAt_path hentity, ?_⟩
  split at h
  · rename_i hempty
    cases h
    have hends := List.isEmpty_iff.mp hempty
    rw [hends]
    exact ⟨rfl, .inl ⟨rfl, rfl⟩⟩
  · rename_i hends
    obtain ⟨relation, hrelation, h⟩ := Option.bind_eq_some_iff.mp h
    obtain ⟨target, htarget, h⟩ := Option.bind_eq_some_iff.mp h
    obtain ⟨_, _, _, _, _, _, hlayer⟩ := below?_eq_some h
    refine ⟨hlayer, .inr ⟨fun he => hends (List.isEmpty_iff.mpr he), relation, target, hrelation, htarget, h⟩⟩

theorem ends_below {name : String} {t : Trail} {above layer : Layer} (habove : at? w s e fields sel t = some above)
    (h : at? w s e fields sel (name :: t) = some layer) : layer.ends = above.ends.flatMap fun i => (layer.lead i).ends := by
  obtain ⟨other, _, hother, _, hends, _⟩ := at?_cons h
  cases habove.symm.trans hother
  exact hends

/-- Each layer of a trail is sound. -/
theorem at?_sound (reliable : Reliable δ) {t : Trail} (h : at? w s e fields sel t = some layer) : layer.Sound := by
  -- A layer is loaded on no records, so that the numbers in it can only be those of its own.
  cases t with
  | nil =>
    obtain ⟨⟨nodes, store⟩, hfound, rfl⟩ := Option.map_eq_some_iff.mp h
    have htracks : Run.Tracks .empty 0 (fetchRecords e sel : Run δ (List Node)) (fetchRecords e sel) _ :=
      Loader.fetchRecords_tracks reliable e sel
    rcases htracks.alone w (w := { w with store := .empty }) rfl with
      ⟨_, _, others, _, hsome, _, hclosed, _, htwins⟩ | ⟨hnone, _⟩
    · obtain ⟨rfl, rfl⟩ := Prod.mk.inj (Option.some.inj (hfound.symm.trans hsome))
      exact ⟨hclosed, fun i hi => (Node.list_of_twins htwins).1.of_mem_ends hi, fun _ => .nothing⟩
    · rw [hnone] at hfound
      cases hfound
  | cons name t =>
    obtain ⟨above, parent, _, _, hends, hlayer⟩ := at?_cons h
    rcases hlayer with ⟨_, rfl⟩ | ⟨_, relation, target, _, _, hbelow⟩
    · exact sound_blank
    · obtain ⟨_, hand, store, hfound, rfl, hlead, _⟩ := below?_eq_some hbelow
      have htracks : Run.Tracks .empty 0 _ _ _ := Loader.inHand_tracks reliable s relation target
        (fields.map (Repository.fieldsUnder · (Trail.path (name :: t)))) (above.keys relation.link.ownKey)
      rcases htracks.alone w (w := { w with store := .empty }) rfl with
        ⟨_, _, others, _, hsome, _, hclosed, _, hhand⟩ | ⟨hnone, _⟩
      · obtain ⟨rfl, rfl⟩ := Prod.mk.inj (Option.some.inj (hfound.symm.trans hsome))
        have hleads : ∀ i, (layer.lead i).Leads (· < layer.store.records.size) := by
          rw [hlead]
          exact fun i => (hhand _).1
        refine ⟨hclosed, ?_, hleads⟩
        intro i hi
        rw [hends] at hi
        obtain ⟨j, _, hi⟩ := List.mem_flatMap.mp hi
        exact (hleads j).of_mem_ends hi
      · rw [hnone] at hfound
        cases hfound

/-- Whether the layers of some trails are sound, and have at their ends what the records above lead to. -/
structure Family (layers : Trail → Option Layer) : Prop where
  sound : ∀ {t : Trail} {layer : Layer}, layers t = some layer → layer.Sound
  ends : ∀ {name : String} {t : Trail} {above layer : Layer}, layers t = some above → layers (name :: t) = some layer →
    layer.ends = above.ends.flatMap fun i => (layer.lead i).ends

theorem family_at? (reliable : Reliable δ) : Family (at? w s e fields sel) := ⟨at?_sound reliable, ends_below⟩

/-- The records of the root layer hold the columns that were selected. -/
theorem named_root (labelled : Labelled δ) (hsel : ∀ label ∈ sel.outputs.map Output.label, e.Knows label)
    (h : at? w s e fields sel [] = some layer) : ∀ i ∈ layer.ends, layer.store.Familiar e i := by
  obtain ⟨⟨nodes, store⟩, hfound, rfl⟩ := Option.map_eq_some_iff.mp h
  obtain ⟨w', hfetch, rfl⟩ := Run.alone?_eq_some.mp hfound
  obtain ⟨hfresh, _⟩ := fetchRecords_fresh labelled hfetch
  have hleads : (Node.list nodes).Leads (w'.store.Familiar e) := by
    apply Node.leads_list
    intro n hn
    obtain ⟨id, rfl, _, hkeys⟩ := hfresh n hn
    exact ⟨id, rfl, _, hkeys, hsel⟩
  exact fun i hi => hleads.of_mem_ends hi

/-- The records at the ends of a layer have keys that their entity knows. -/
theorem named_ends (labelled : Labelled δ) (he : s.entity? e.name = some e)
    (hsel : ∀ label ∈ sel.outputs.map Output.label, e.Knows label) {t : Trail}
    (h : at? w s e fields sel t = some layer) {i : Nat} (hi : i ∈ layer.ends) : ∃ entity target,
      (∀ path, Repository.entityAt s path e.name t.reverse = .ok entity) ∧ s.entity? entity = some target ∧
      layer.store.Familiar target i := by
  cases t with
  | nil => exact ⟨e.name, e, fun _ => rfl, he, named_root labelled hsel h i hi⟩
  | cons name t =>
    obtain ⟨above, parent, _, hparent, hends, ⟨_, rfl⟩ | ⟨_, relation, target, hrelation, htarget, hbelow⟩⟩ := at?_cons h
    · cases hi
    · obtain ⟨_, hand, store, hfound, rfl, hlead, _⟩ := below?_eq_some hbelow
      obtain ⟨w', hhand, hstore⟩ := Run.alone?_eq_some.mp hfound
      refine ⟨relation.target, target, ?_, htarget, ?_⟩
      · intro path
        rw [List.reverse_cons]
        exact Repository.entityAt_concat (hparent path) hrelation
      · rw [hends] at hi
        obtain ⟨j, _, hi⟩ := List.mem_flatMap.mp hi
        rw [hlead] at hi
        rw [← hstore]
        exact (Loader.inHand_known labelled hhand _).of_mem_ends hi

end Runs

end Layer

end EntityViews
