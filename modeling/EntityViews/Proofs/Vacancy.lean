import EntityViews.Proofs.Absence
import EntityViews.Proofs.Batches
import EntityViews.Proofs.StrictWalks

/-!
What relations to one lead to after they are loaded. Main statement: a record has nothing under such a relation exactly if
its key leads to no row of the target that the filter of the load is true of.
-/

namespace EntityViews

open Sql

def Link.farKey : Link → String
  | .oneToOneInverse key => key
  | .manyToOne _ | .oneToOne _ | .oneToMany _ | .manyToMany _ _ _ => "id"

namespace Contents

variable (db : Contents)

/-- Whether a key leads to a row of the target of a relation to one when all of `asked` are asked for at once. -/
def Meant (target : Entity) (link : Link) (asked : List Value) (v : Value) (t : Row) : Prop :=
  db.member (t link.farKey) asked = .holds ∧ ∃ k, db.keyIn target t link.farKey = some k ∧ k.same v = true

def Vacant (s : Schema) (target : Entity) (link : Link) (filter : Value) (asked : List Value) (v : Value) : Prop :=
  ∀ t ∈ db.rows target.name, db.Meant target link asked v t → Filter.truth db s target.name t filter ≠ .holds

variable {db} {s : Schema} {target : Entity} {link : Link} {filter v : Value} {asked : List Value}

theorem vacant_of_isEmpty (h : asked.isEmpty = true) : db.Vacant s target link filter asked v := by
  rintro t _ ⟨hmember, _⟩ _
  obtain ⟨k, hk, _⟩ := (db.member_eq_holds).mp hmember
  rw [List.isEmpty_iff.mp h] at hk
  cases hk

end Contents

namespace Loader

variable {δ : Type} {db : Contents} {s : Schema} {target : Entity} {link : Link} {filter : Value} {asked : List Value}
  {w w' : World δ}

/-- A key leads nowhere exactly if none of the rows that were found for all keys has it. -/
theorem vacant_iff_made {fields : Option (List String)} {name : Name} {q q₀ : Query} {clauses : List Clause}
    {sorts : List SortKey} {sel : Select} {made : List (Env × Nat)} {source : Env × Nat → Value} (hid : target.IntegerId)
    (hq₀ : selected target fields = .ok q₀)
    (hq : q = { q₀ with clauses := clauses ++ [among q₀.rowAlias name asked], sorts := sorts })
    (hname : name.text = link.farKey) (hr : db.Restricts s target.name filter clauses) (hb : q.build = .ok sel)
    (hfound : (made.map (·.1)).Perm (db.found sel))
    (hkey : ∀ m ∈ made, db.keyIn target (m.1 mainRow) link.farKey = some (source m)) (v : Value) :
    db.Vacant s target link filter asked v ↔ ∀ m ∈ made, (source m).same v = false := by
  -- The statement finds the rows that have one of the keys and that the filter is true of.
  have hfinds := mem_found_plain hid hq₀ hq hr hb
  rw [hname] at hfinds
  constructor
  · intro hvacant m hm
    have henv : m.1 ∈ db.found sel := hfound.mem_iff.mp (List.mem_map_of_mem hm)
    obtain ⟨t, ht, he, hall, hmember⟩ := (hfinds m.1).mp henv
    have hrow : m.1 mainRow = t := by
      rw [he]
      exact rowEnv_main t
    have htruth : Filter.truth db s target.name t filter = .holds := hrow ▸ (hr.meets m.1 hall).truth
    rw [Bool.eq_false_iff]
    intro hsame
    exact hvacant t ht ⟨hmember, source m, hrow ▸ hkey m hm, hsame⟩ htruth
  · rintro hnone t ht ⟨hmember, k, hk, hsame⟩ htruth
    have henv : rowEnv t ∈ db.found sel := by
      rw [← rowEnv_main t] at htruth
      exact (hfinds _).mpr ⟨t, ht, rfl, hr.holds _ htruth, hmember⟩
    obtain ⟨m, hm, he⟩ := List.mem_map.mp (hfound.mem_iff.mpr henv)
    have hrow : m.1 mainRow = t := by
      rw [he]
      exact rowEnv_main t
    have hsource : k = source m := Option.some.inj (hk.symm.trans (hrow ▸ hkey m hm))
    rw [hsource, hnone m hm] at hsame
    cases hsame

/-- Among records, nothing is attached for a key exactly if none is found under it. -/
theorem getD_lookup?_eq_null_iff {related : List (Value × Node)} (h : ∀ p ∈ related, ∃ id, p.2 = .record id) (v : Value) :
    (lookup? v related).getD .null = .null ↔ (lookup? v related).isSome = false := by
  cases hv : lookup? v related with
  | none => exact iff_of_true rfl rfl
  | some n =>
    obtain ⟨p, hp, _, rfl⟩ := mem_of_lookup? hv
    obtain ⟨id, hid⟩ := h p hp
    have hsome : p.2 ≠ .null := by
      rw [hid]
      intro he
      cases he
    exact iff_of_false hsome Bool.noConfusion

/-- The first record of the group of a key is attached, or nothing if the group is empty. -/
theorem theirItems_eq_null_iff {relation : Relation} (hone : relation.link.isToOne = true) (made : List (Env × Nat))
    (source : Env × Nat → Value) (v : Value) :
    theirItems relation (groupsOf (made.map fun m => (source m, Node.record m.2))) v = .null ↔
      ∀ m ∈ made, (source m).same v = false := by
  rw [theirItems, lookup?_groupsOf, if_pos hone, List.filter_map, List.map_map]
  cases hfound : made.filter ((fun p : Value × Node => p.1.same v) ∘ fun m => (source m, Node.record m.2)) with
  | nil =>
    rw [List.filter_eq_nil_iff] at hfound
    refine iff_of_true rfl fun m hm => ?_
    exact Bool.eq_false_iff.mpr (hfound m hm)
  | cons m rest =>
    have hm : m ∈ made.filter ((fun p : Value × Node => p.1.same v) ∘ fun m => (source m, Node.record m.2)) := by
      rw [hfound]
      exact List.mem_cons_self
    obtain ⟨hm, hsame⟩ := List.mem_filter.mp hm
    apply iff_of_false
    · intro he
      cases he
    · intro hall
      have hno : (source m).same v = false := hall m hm
      cases hsame.symm.trans hno

variable [Engine δ] {records out : List Node} {relation : Relation} {keys : List Value} {i : Nat}

/-- By a key of its own a record is given nothing exactly if no related row answers the key. -/
theorem ownRelated_vacant (ideal : Ideal δ db) (hid : target.IntegerId) {fields : Option (List String)}
    {related : List (Value × Node)} (hfar : relation.link.farKey = "id")
    (h : Gives (ownRelated s target fields filter keys) w related w') (v : Value) :
    (lookup? v related).getD .null = .null ↔ db.Vacant s target relation.link filter keys v := by
  rcases ownRelated_gives h with ⟨hk, rfl, rfl⟩ | ⟨_, q, m, sel, rows, hq, hb, hrows, hby⟩
  · -- No record has a key, so there is no statement and nothing to find.
    exact iff_of_true rfl (Contents.vacant_of_isEmpty hk)
  · obtain ⟨q₀, clauses, hq₀, hr, rfl, _⟩ := queryFor_gives db hid hq
    have hready : Ready target ({ q₀ with clauses := clauses }.add (among q₀.rowAlias .id keys)) :=
      ready_of_plain hid hq₀ rfl hr (plain_among _ _ _)
    obtain ⟨made, rfl, hmade, hrowsMade, _⟩ := fetch_gives ideal hready hb hrows
    obtain ⟨_, hmem, hall, hlookup⟩ := byField_gives hby
    -- The records were made of rows, and each has the id of its row.
    let source : Env × Nat → Value := fun m => (w'.store.keyAt m.2 "id").toOption.getD .null
    have hsource : ∀ m ∈ made, w'.store.keyAt m.2 "id" = .ok (source m) := by
      intro m hm
      obtain ⟨id, k, he, hkey⟩ := hall _ (List.mem_map_of_mem hm)
      cases he
      change w'.store.keyAt m.2 "id" = .ok ((w'.store.keyAt m.2 "id").toOption.getD .null)
      rw [hkey]
      rfl
    have hkey : ∀ m ∈ made, db.keyIn target (m.1 mainRow) relation.link.farKey = some (source m) := by
      intro m hm
      rw [hfar]
      have henv : m.1 ∈ db.found sel := hmade.found.mem_iff.mp (List.mem_map_of_mem hm)
      refine (hrowsMade m hm).keyIn_eq ?_ (hsource m hm)
      rw [Contents.field_of_column hid.1]
      exact (hready.found hb henv).2.2
    have hvacant : db.Vacant s target relation.link filter keys v ↔ ∀ m ∈ made, (source m).same v = false :=
      vacant_iff_made hid hq₀ rfl (show Name.id.text = relation.link.farKey from hfar.symm) hr hb hmade.found hkey v
    have hrecords : ∀ p ∈ related, ∃ id, p.2 = .record id := by
      intro p hp
      obtain ⟨m, _, he⟩ := List.mem_map.mp (hmem p hp)
      exact ⟨m.2, he.symm⟩
    rw [getD_lookup?_eq_null_iff hrecords, hvacant, ← Bool.not_eq_true, hlookup]
    constructor
    · intro hno m hm
      rw [Bool.eq_false_iff]
      intro hsame
      exact hno ⟨m.2, source m, List.mem_map_of_mem hm, hsource m hm, hsame⟩
    · rintro hno ⟨id, k, hid, hk, hsame⟩
      obtain ⟨m, hm, he⟩ := List.mem_map.mp hid
      cases he
      rw [Except.ok.inj (hk.symm.trans (hsource m hm)), hno m hm] at hsame
      cases hsame

/-- By a key of the target a record is given nothing exactly if no related row holds its key. -/
theorem theirRows_vacant (ideal : Ideal δ db) (hid : target.IntegerId) {fields : List String} {key : String}
    {rows : List Node} {groups : List (Value × List Node)} (hlink : relation.link = .oneToOneInverse key)
    (h : Gives (theirRows s relation key target (some fields) filter keys) w rows w')
    (hgroups : Gives (rows.foldlM (fun groups row => do return addToGroup groups (← keyOf row key) row) []) w' groups w')
    (v : Value) : theirItems relation groups v = .null ↔ db.Vacant s target relation.link filter keys v := by
  obtain ⟨made, source, rfl, _, hmade, hnone, hsome⟩ := theirRows_made ideal hid h hgroups
  have hone : relation.link.isToOne = true := by
    rw [hlink]
    rfl
  rw [theirItems_eq_null_iff hone]
  cases hk : keys.isEmpty with
  | true =>
    rw [hnone hk]
    exact iff_of_true (List.forall_mem_nil _) (Contents.vacant_of_isEmpty hk)
  | false =>
    obtain ⟨q₀, clauses, name, sel, hq₀, hmake, hr, hb, hfound, hrows⟩ := hsome hk
    have hfar : name.text = relation.link.farKey := by
      rw [hlink]
      exact Name.text_of_ofText? hmake
    have hkey : ∀ m ∈ made, db.keyIn target (m.1 mainRow) relation.link.farKey = some (source m) := by
      intro m hm
      rw [hlink]
      exact keyIn_their hid hq₀ hr hb (hrows m hm) (hmade m hm).2
    exact (vacant_iff_made hid hq₀ rfl hfar hr hb hfound hkey v).symm

/-- A key leads to nothing exactly if it is vacant. -/
theorem inHand_vacant (ideal : Ideal δ db) (hid : target.IntegerId) {fields : List String}
    {hand : (Value → Node) × List Node} (hone : relation.link.isToOne = true)
    (h : Gives (inHand s relation target (some fields) filter keys) w hand w') (v : Value) :
    hand.1 v = .null ↔ db.Vacant s target relation.link filter keys v := by
  rcases inHand_gives h with ⟨key, related, hlink, hrelated, rfl⟩ | ⟨key, rows, groups, hlink, hrows, hgroups, rfl⟩ |
    ⟨table, sourceKey, targetKey, found, hlink, _, _⟩
  · have hfar : relation.link.farKey = "id" := by
      rcases hlink with hl | hl <;> rw [hl] <;> rfl
    exact ownRelated_vacant ideal hid hfar hrelated v
  · rcases hlink with hl | hl
    · rw [hl] at hone
      cases hone
    · exact theirRows_vacant ideal hid hl hrows hgroups v
  · rw [hlink] at hone
    cases hone

/-- After a load of a relation to one a record has nothing exactly if its key leads to no row that the filter is true of. -/
theorem load_vacant (ideal : Ideal δ db) (ids : s.IntegerIds) {entity name : String} {fields : List String}
    (hr : s.relation? entity name = some relation) (hone : relation.link.isToOne = true) (hname : relation.link.ownKey ≠ name)
    (h : Gives (load s entity records name (some fields) filter) w out w') (hi : .record i ∈ records)
    (hlt : i < w.store.records.size) : ∃ target v, s.entity? relation.target = some target ∧
      w.store.keyAt i relation.link.ownKey = .ok v ∧ (w'.store.get? i (.text name) = some .null ↔
        db.Vacant s target relation.link filter (keysAsked w.store relation.link.ownKey records) v) := by
  obtain ⟨_, target, hr', ht⟩ := load_known h
  obtain rfl := Option.some.inj (hr.symm.trans hr')
  obtain ⟨_, hand, w₁, hhand, hattach, _⟩ := (load_iff hr ht).mp h
  obtain ⟨rfl, _⟩ := Schema.mem_of_relation? hr
  have hid : target.IntegerId := ids target (Schema.mem_of_entity? ht)
  obtain ⟨v, hv, hget⟩ := attached_of_loop hname (inHand_admits ideal hid hhand).1 hattach hi hlt
  refine ⟨target, v, ht, hv, ?_⟩
  rw [hget, Option.some.injEq]
  exact inHand_vacant ideal hid hone hhand v

/-- The keys that are asked for depend on one field of the records only. -/
theorem keysAsked_congr {store store' : Store} {field : String}
    (h : ∀ id, .record id ∈ records → store'.get? id (.text field) = store.get? id (.text field)) :
    keysAsked store' field records = keysAsked store field records := by
  rw [keysAsked, keysAsked]
  congr 1
  apply List.filterMap_congr
  intro n hn
  cases n with
  | record id => rw [ownKey?, ownKey?, Store.keyAt_congr (h id hn)]
  | scalar | list | tuple | set => rfl

end Loader

namespace Repository

variable {δ : Type} [Engine δ] {db : Contents} {s : Schema} {entity : String} {roots : List Node} {ts known : List Trail}
  {key : String} {above : Trail} {filter : Value} {store store' : Store} {w w' : World δ}

/-- Whether what the records at a trail have under a relation to one is accounted for by the rows of its target. Of a key
that goes by the name of another relation of these records, among `ts`, nothing is said. -/
def Accounted (db : Contents) (s : Schema) (entity : String) (roots : List Node) (ts : List Trail) (key : String)
    (above : Trail) (filter : Value) (store : Store) : Prop :=
  ∀ parent relation, s.Leads entity above parent → s.relation? parent key = some relation → relation.link.isToOne = true →
    relation.link.ownKey :: above ∉ ts → ∃ parents, store.recordsAt roots (Trail.path above) = .ok parents ∧
      ∀ id, store.Reached roots above id → ∃ target v, s.entity? relation.target = some target ∧
        store.keyAt id relation.link.ownKey = .ok v ∧ (store.get? id (.text key) = some .null ↔
          db.Vacant s target relation.link filter (Loader.keysAsked store relation.link.ownKey parents) v)

/-- The load of another relation changes nothing about it. -/
theorem Accounted.stays {Good : Trail → Nat → Prop} {P : Nat → Prop} {found : List Node} {key' : String} {above' : Trail}
    (h : Accounted db s entity roots ts key above filter store) (hs : store.Settled roots Good known)
    (hknown : key :: above ∈ known) (hproper : Trail.Proper above) (habove : above' ∈ known) (hnew : key' :: above' ∉ known)
    (hmem : key' :: above' ∈ ts) (hkey : key' ≠ "id") (hfound : ∀ id, .record id ∈ found → store.Reached roots above' id)
    (hattaches : store.Attaches store' found key' P) : Accounted db s entity roots ts key above filter store' := by
  intro parent relation hparent hr hone hown
  obtain ⟨parents, hparents, hall⟩ := h parent relation hparent hr hone hown
  have habove₀ : above ∈ known := hs.closed _ hknown
  have hstays := hs.stays habove hnew hfound hkey hattaches
  obtain ⟨nodes, hnodes, _, hreached⟩ := hs.recordsAt_ok habove₀ hproper
  obtain rfl := Except.ok.inj (hnodes.symm.trans hparents)
  -- A record that gets the other relation is at its trail only, so what is set on it has not the name of the key.
  have hsame : ∀ id, store.Reached roots above id →
      store'.get? id (.text relation.link.ownKey) = store.get? id (.text relation.link.ownKey) := by
    intro id hid
    refine hattaches.keeps.2 id (hs.bounded above habove₀ id hid) _ ?_
    rintro ⟨he, hset⟩
    obtain rfl := hs.apart above habove₀ above' habove id hid (hfound id hset)
    exact hown (he ▸ hmem)
  refine ⟨nodes, (hs.recordsAt_eq hstays habove₀ hproper).trans hnodes, ?_⟩
  intro id hid'
  have hid := (hs.reached_iff habove hnew hfound hattaches above habove₀ id).mp hid'
  obtain ⟨target, v, ht, hv, hvacant⟩ := hall id hid
  refine ⟨target, v, ht, (Store.keyAt_congr (hsame id hid)).trans hv, ?_⟩
  rw [Loader.keysAsked_congr fun id hid => hsame id ((hreached id).mp hid), hstays.same key above hknown id hid]
  exact hvacant

/-- To populate a path accounts for every null along its trail, and keeps what was accounted for. -/
theorem populatePath_accounted (ideal : Ideal δ db) (ids : s.IntegerIds) {Good : Trail → Nat → Prop} {fields : List String}
    {u : PUnit} (hproper : Trail.Proper (key :: above)) (habove : above ∈ known) (hnew : key :: above ∉ known)
    (hmem : key :: above ∈ ts) (hs : w.store.Settled roots Good known)
    (h : Gives (populatePath s entity roots (some fields) filter (Trail.path (key :: above))) w u w') :
    (∀ k t f, k :: t ∈ known → Trail.Proper t → Accounted db s entity roots ts k t f w.store →
        Accounted db s entity roots ts k t f w'.store) ∧
      Accounted db s entity roots ts key above filter w'.store := by
  obtain ⟨parent, found, hentity, hfound, hreached, ⟨rfl, rfl⟩ | ⟨out, hout⟩⟩ := populatePath_parts hproper habove hs h
  · refine ⟨fun _ _ _ _ _ hold => hold, fun _ _ _ _ _ _ => ⟨[], hfound, ?_⟩⟩
    intro id hid
    cases (hreached id).mpr hid
  · obtain ⟨relation, hr, hkey, hattaches⟩ := Loader.load_gives ideal ids hout
    have hat : ∀ id, Node.record id ∈ found → w.store.Reached roots above id := fun id => (hreached id).mp
    constructor
    · -- What was accounted for before is so still.
      intro k t f hk hp hold
      exact hold.stays hs hk hp habove hnew hmem hkey hat hattaches
    · -- The load itself accounts for what it attached; the key that it went by is not what it set.
      intro parent' relation' hparent hr' hone hown
      obtain rfl := Schema.Leads.unique hentity hparent
      obtain rfl := Option.some.inj (hr.symm.trans hr')
      have hne : relation.link.ownKey ≠ key := fun he => hown (he ▸ hmem)
      have hlt : ∀ id, Node.record id ∈ found → id < w.store.records.size :=
        fun id hid => hs.bounded above habove id (hat id hid)
      have hsame : ∀ id, Node.record id ∈ found →
          w'.store.get? id (.text relation.link.ownKey) = w.store.get? id (.text relation.link.ownKey) :=
        fun id hid => hattaches.keeps.2 id (hlt id hid) _ fun ht => hne ht.1
      have hstays := hs.stays habove hnew hat hkey hattaches
      refine ⟨found, (hs.recordsAt_eq hstays habove hproper.above).trans hfound, ?_⟩
      intro id hid'
      have hid := (hreached id).mpr ((hs.reached_iff habove hnew hat hattaches above habove id).mp hid')
      obtain ⟨target, v, ht, hv, hvacant⟩ := Loader.load_vacant ideal ids hr hone hne hout hid (hlt id hid)
      refine ⟨target, v, ht, (Store.keyAt_congr (hsame id hid)).trans hv, ?_⟩
      rw [Loader.keysAsked_congr hsame]
      exact hvacant

/-- After loads of trails that come in order, what records have under relations to one is accounted for. -/
theorem Loaded.accounted (labelled : Labelled δ) (ideal : Ideal δ db) (ids : s.IntegerIds) {ls : List Load}
    (hls : ls.map (·.path) = ts.map Trail.path) (hts : Upcoming known ts)
    (hchart : ∀ key above, key :: above ∈ ts → ∃ parent relation, s.Leads entity above parent ∧
      s.relation? parent key = some relation)
    (hs : w.store.Standing s entity roots known) (h : Loaded s entity roots ls w w') :
    ∀ load ∈ ls, ∀ key above, key :: above ∈ ts → load.path = Trail.path (key :: above) →
      Accounted db s entity roots ts key above load.filter w'.store := by
  -- No two loads have one path, so each trail has the filter of one load.
  have hpaths : (ls.map (·.path)).Nodup := by
    rw [hls]
    exact Trail.nodup_map_path hts.nodup fun t ht => (hts.proper t ht).1
  -- The property that is passed on: the trails stand, and those of them that were loaded are accounted for.
  let Q : List Trail → Store → Prop := fun seen store => store.Standing s entity roots seen ∧ ∀ load ∈ ls, ∀ key above,
    key :: above ∈ ts → key :: above ∈ seen → load.path = Trail.path (key :: above) →
      Accounted db s entity roots ts key above load.filter store
  have hstart : Q known w.store := ⟨hs, fun _ _ key above hmem hseen _ => absurd hseen (hts.fresh _ hmem)⟩
  have hend : Q (ts.reverse ++ known) w'.store := by
    refine h.induct ts hls hts ?_ hstart
    rintro load hload key above hmem hpath seen m m' habove hunseen ⟨hstanding, hall⟩ hg
    rw [hpath] at hg
    have hp := (hts.proper _ hmem).1
    obtain ⟨hkept, hthis⟩ := populatePath_accounted ideal ids hp habove hunseen hmem hstanding.settled hg
    refine ⟨populatePath_standing labelled hp habove hunseen (hchart key above hmem) hstanding hg, ?_⟩
    intro other hother k t ht hseen hpath'
    rcases List.mem_cons.mp hseen with he | hseen
    · cases he
      obtain rfl := List.inj_on_of_nodup_map hpaths hother hload (hpath'.trans hpath.symm)
      exact hthis
    · exact hkept k t other.filter hseen (hts.proper _ ht).1.above (hall other hother k t ht hseen hpath')
  intro load hload key above hmem hpath
  exact hend.2 load hload key above hmem (List.mem_append_left _ (List.mem_reverse.mpr hmem)) hpath

end Repository

end EntityViews
