import EntityViews.Proofs.Lockstep
import EntityViews.Proofs.Linkage

/-!
What a load has in hand before it attaches anything: for each key what it leads to. Main statements: that does not depend
on the records there are, up to the numbers of new ones, and the records in hand have the fields that were asked for.
-/

namespace EntityViews

open Sql

def Entity.Knows (e : Entity) (name : String) : Prop := e.hasColumn name = true ∨ (e.formula? name).isSome = true

instance (e : Entity) (name : String) : Decidable (e.Knows name) := inferInstanceAs (Decidable (_ ∨ _))

namespace Sql.Query

/-- Names that are selected in turn without a failure are all known. -/
theorem knows_of_selectEach {q : Query} (names : List String) (h : (q.selectEach names).2 = .ok ⟨⟩)
    (hq : ∀ name, q.selects name = true → q.entity.Knows name) : ∀ name ∈ names, q.entity.Knows name := by
  induction names generalizing q with
  | nil => exact nofun
  | cons name rest ih =>
    rw [selectEach] at h
    cases hone : q.selectOne name with
    | error e =>
      rw [hone] at h
      cases h
    | ok q' =>
      rw [hone] at h
      have hentity : q'.entity = q.entity := by
        obtain ⟨⟨_, _, rfl, _, _⟩, _⟩ := widens_selectOne hone
        rfl
      have hname : q.entity.Knows name := by
        unfold selectOne at hone
        split at hone
        · exact hq name ‹_›
        split at hone
        · rename_i f hf
          exact .inr (by rw [hf]; rfl)
        · split at hone
          · exact .inl ‹_›
          · cases hone
      have hrest := ih h fun other hother => by
        rcases (selects_selectOne hone other).mp hother with hother | rfl
        · exact hentity ▸ hq other hother
        · exact hentity ▸ hname
      rw [hentity] at hrest
      exact List.forall_mem_cons.mpr ⟨hname, hrest⟩

/-- Columns that were selected are known to the entity. -/
theorem knows_of_selecting {e : Entity} {row : String} {q q' : Query} {names : List String}
    (hstart : Query.start e row = .ok q) (h : q.selecting names = .ok q') : ∀ name ∈ "id" :: names, e.Knows name := by
  obtain ⟨table, rowName, _, _, rfl⟩ := start_ok hstart
  rw [selecting] at h
  cases ho : (select ⟨e, table, rowName, [], [], [], [], [], [], none, none⟩ names).2 with
  | error f =>
    simp only [ho] at h
    cases h
  | ok u =>
    refine knows_of_selectEach ("id" :: names) ho ?_
    intro name hname
    simp [selects_iff] at hname

end Sql.Query

def Store.Familiar (s : Store) (e : Entity) (id : Nat) : Prop := ∃ P, s.HasKeys id P ∧ ∀ name, P name → e.Knows name

namespace Node

variable {b n : Nat}

/-- What related items make up is the same up to the numbers of the records. -/
theorem list_of_twins {items others : List Node} (h : List.Forall₂ (Twin b n) items others) :
    (Node.list items).Leads (· < n) ∧ Node.list others = (Node.list items).raised b := by
  constructor
  · apply leads_list
    intro item hitem
    induction h with
    | nil => cases hitem
    | cons hfirst _ ih =>
      rcases List.mem_cons.mp hitem with rfl | hitem
      · obtain ⟨i, hi, rfl, _⟩ := hfirst
        exact ⟨i, rfl, hi⟩
      · exact ih hitem
  · rw [Node.raised, raisedItems_eq_map]
    congr 1
    induction h with
    | nil => rfl
    | cons hfirst _ ih => rw [List.map_cons, ih, hfirst.raised]

theorem head_of_twins {items others : List Node} (h : List.Forall₂ (Twin b n) items others) :
    (items.headD .null).Leads (· < n) ∧ others.headD .null = (items.headD .null).raised b := by
  cases h with
  | nil => exact ⟨.nothing, rfl⟩
  | cons hfirst _ =>
    obtain ⟨i, hi, rfl, rfl⟩ := hfirst
    exact ⟨.one hi, rfl⟩

end Node

namespace Loader

variable {δ : Type}

open Run

theorem group_twins {b n : Nat} {groups groups' : List (Value × List Node)}
    (h : Keyed (List.Forall₂ (Node.Twin b n)) groups groups') (key : Value) :
    List.Forall₂ (Node.Twin b n) ((lookup? key groups).getD []) ((lookup? key groups').getD []) := by
  rcases h.lookup? key with ⟨hnone, hnone'⟩ | ⟨items, items', hsome, hsome', hitems⟩
  · rw [hnone, hnone']
    exact .nil
  · rw [hsome, hsome']
    exact hitems

section Statements

variable [Engine δ] {base : Store} {size : Nat} (reliable : Reliable δ) (s : Schema) (relation : Relation)
  (target : Entity) (fields : Option (List String))

include reliable

omit reliable [Engine δ] in
/-- Without a filter the query does not depend on the sub-selects that there were before. -/
theorem queryFor_null : (queryFor s target fields .null : Run δ Query) = liftM (selected target fields) := by
  unfold queryFor selected
  cases Query.start target mainRow with
  | error e => rfl
  | ok q =>
    change (liftM (q.selecting (target.selection fields)) >>= fun q => Run.compile (q.filtered s .null) : Run δ Query) =
      liftM (q.selecting (target.selection fields))
    cases q.selecting (target.selection fields) <;> rfl

/-- Related rows with a key of the record are loaded alike. -/
theorem ownRelated_tracks (keys : List Value) :
    Tracks base size (ownRelated s target fields .null keys : Run δ (List (Value × Node)))
      (ownRelated s target fields .null keys) fun n => Keyed (Node.Twin base.records.size n) := by
  unfold ownRelated
  split
  · exact Tracks.pure fun _ _ => .nil
  rw [queryFor_null]
  refine (Tracks.lift _).bind fun n₁ _ q q' hq => ?_
  rw [hq.2]
  refine (Tracks.lift _).bind fun n₂ _ sel sel' hsel => ?_
  rw [hsel.2]
  refine (fetchRecords_tracks reliable target sel).bind fun n₃ _ rows rows' hrows => ?_
  exact byField_tracks hrows

/-- Related rows with a key of their own are loaded alike. -/
theorem theirRows_tracks (key : String) (ids : List Value) :
    Tracks base size (theirRows s relation key target fields .null ids : Run δ (List Node))
      (theirRows s relation key target fields .null ids) fun n => List.Forall₂ (Node.Twin base.records.size n) := by
  unfold theirRows
  split
  · exact Tracks.pure fun _ _ => .nil
  rw [queryFor_null]
  refine (Tracks.lift _).bind fun n₁ _ q q' hq => ?_
  rw [hq.2]
  refine (Tracks.lift _).bind fun n₂ _ name name' hname => ?_
  rw [hname.2]
  refine (Tracks.lift _).bind fun n₃ _ sel sel' hsel => ?_
  rw [hsel.2]
  exact fetchRecords_tracks reliable target sel

/-- Rows behind a table are loaded alike. -/
theorem throughRows_tracks (table sourceKey targetKey : String) (ids : List Value) :
    Tracks base size
      (throughRows s relation table sourceKey targetKey target fields .null ids :
        Run δ (List (Value × Node) × List (Value × List Node)))
      (throughRows s relation table sourceKey targetKey target fields .null ids) (GatheredTwins base.records.size) := by
  unfold throughRows
  split
  · exact Tracks.pure fun _ _ => ⟨.nil, .nil⟩
  rw [queryFor_null]
  refine (Tracks.lift _).bind fun n₁ _ q q' hq => ?_
  rw [hq.2]
  refine (Tracks.lift _).bind fun n₂ _ source source' hsource => ?_
  refine (Tracks.lift _).bind fun n₃ _ tableName tableName' htable => ?_
  refine (Tracks.lift _).bind fun n₄ _ column column' hcolumn => ?_
  rw [hsource.2, htable.2, hcolumn.2]
  refine (Tracks.lift _).bind fun n₅ _ sel sel' hsel => ?_
  rw [hsel.2]
  refine (select_tracks reliable sel).bind fun n₆ _ answer answer' hanswer => ?_
  rw [hanswer]
  refine (Tracks.lift _).bind fun n₇ _ rows rows' hrows => ?_
  rw [hrows.2]
  exact gather_tracks target rows

/-- What is in hand before it is attached is the same on any store, up to the numbers of its records. -/
theorem inHand_tracks (keys : List Value) :
    Tracks base size (inHand s relation target fields .null keys : Run δ ((Value → Node) × List Node))
      (inHand s relation target fields .null keys) fun n hand hand' => ∀ v,
        (hand.1 v).Leads (· < n) ∧ hand'.1 v = (hand.1 v).raised base.records.size := by
  unfold inHand
  cases relation.link with
  | manyToOne key | oneToOne key =>
    refine (ownRelated_tracks reliable s target fields keys).bind fun n _ related related' hrelated => ?_
    refine Tracks.pure fun m hm v => ?_
    dsimp only
    rcases hrelated.lookup? v with ⟨hnone, hnone'⟩ | ⟨node, other, hsome, hsome', i, hi, rfl, rfl⟩
    · rw [hnone, hnone']
      exact ⟨.nothing, rfl⟩
    · rw [hsome, hsome']
      exact ⟨.one (Nat.lt_of_lt_of_le hi hm), rfl⟩
  | oneToMany key | oneToOneInverse key =>
    refine (theirRows_tracks reliable s relation target fields key keys).bind fun n _ rows rows' hrows => ?_
    refine (grouped_tracks hrows).bind fun m _ groups groups' hgroups => ?_
    refine Tracks.pure fun k hk v => ?_
    have hitems := group_twins ((lasts_keyed_twins _).up hk hgroups) v
    unfold theirItems
    dsimp only
    split
    · exact Node.head_of_twins hitems
    · exact Node.list_of_twins hitems
  | manyToMany table sourceKey targetKey =>
    refine (throughRows_tracks reliable s relation target fields table sourceKey targetKey keys).bind
      fun n _ found found' hfound => ?_
    exact Tracks.pure fun m hm v => Node.list_of_twins (group_twins ((lasts_keyed_twins _).up hm hfound.2) v)

end Statements

section Names

variable [Engine δ] {s : Schema} {relation : Relation} {target : Entity} {fields : Option (List String)}
  {filter : Value} {keys : List Value} {w w' : World δ}

omit [Engine δ] in
theorem queryFor_knows {q : Query} (h : Gives (queryFor s target fields filter) w q w') {name : String}
    (hname : name = "id" ∨ name ∈ target.selection fields) : target.Knows name := by
  simp only [queryFor, Gives.bind_iff, Gives.lift_iff] at h
  obtain ⟨start, _, ⟨hstart, rfl⟩, q₀, _, ⟨hselecting, rfl⟩, _⟩ := h
  exact Query.knows_of_selecting hstart hselecting name (List.mem_cons.mpr hname)

/-- Where something is in hand, a query was made for it. -/
theorem inHand_queried {hand : (Value → Node) × List Node}
    (h : Gives (inHand s relation target fields filter keys) w hand w') : (∀ v, (hand.1 v).Leads fun _ => False) ∨
      ∃ q m, Gives (queryFor s target (fetched relation.link fields) filter) w q m := by
  rcases inHand_gives h with ⟨key, related, hlink, hrelated, rfl⟩ | ⟨key, rows, groups, hlink, hrows, hgroups, rfl⟩ |
    ⟨table, sourceKey, targetKey, found, hlink, hfound, rfl⟩
  · rcases ownRelated_gives hrelated with ⟨_, _, rfl⟩ | ⟨_, q, m, _, _, hq, _⟩
    · exact .inl fun v => leads_related (List.forall_mem_nil _) v
    · refine .inr ⟨q, m, ?_⟩
      rcases hlink with hl | hl <;> rwa [hl]
  · rcases theirRows_gives hrows with ⟨_, _, rfl⟩ | ⟨_, q, m, _, _, hq, _⟩
    · obtain ⟨rfl, _⟩ := Gives.foldlM_nil_iff.mp hgroups
      exact .inl fun v => leads_theirItems relation (List.forall_mem_nil _)
    · refine .inr ⟨q, m, ?_⟩
      rcases hlink with hl | hl <;> rwa [hl]
  · rcases throughRows_gives hfound with ⟨_, _, rfl⟩ | ⟨_, q, m, _, _, _, _, _, _, _, hq, _⟩
    · exact .inl fun v => Node.leads_list (List.forall_mem_nil _)
    · refine .inr ⟨q, m, ?_⟩
      rwa [hlink]

/-- The keys of the records in hand are names that their entity knows: they were asked for, and a statement that asks for
others cannot be put together. -/
theorem inHand_known (labelled : Labelled δ) {hand : (Value → Node) × List Node}
    (h : Gives (inHand s relation target fields filter keys) w hand w') (v : Value) :
    (hand.1 v).Leads (w'.store.Familiar target) := by
  rcases inHand_queried h with hnothing | ⟨q, m, hq⟩
  · exact (hnothing v).mono fun _ => False.elim
  · refine ((inHand_fresh labelled h).2 v).1.mono ?_
    rintro id ⟨_, hkeys⟩
    exact ⟨_, hkeys, fun name hname => queryFor_knows hq hname.1⟩

end Names

end Loader

end EntityViews
