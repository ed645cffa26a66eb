import EntityViews.Proofs.Attachment
import EntityViews.Proofs.Annotation

/-!
Which keys records have. A record that is fetched has the names of the outputs of its statement; after that keys are only
added, by what is attached to the record. Main statement: what a load of a relation gives the records that it makes and
those that it is for.
-/

namespace EntityViews

open Sql

def HasNames {α : Type} (entries : List (Value × α)) (P : String → Prop) : Prop :=
  ∀ key, key ∈ entries.map (·.1) ↔ ∃ name, key = .text name ∧ P name

namespace HasNames

variable {α : Type} {entries : List (Value × α)} {P P' : String → Prop}

theorem congr (h : HasNames entries P) (hp : ∀ name, P name ↔ P' name) : HasNames entries P' := by
  intro key
  rw [h key]
  simp only [hp]

theorem of_keys {β : Type} {others : List (Value × β)} (h : HasNames entries P)
    (he : others.map (·.1) = entries.map (·.1)) : HasNames others P := by
  intro key
  rw [he]
  exact h key

theorem text_of_same {k : Value} {name : String} (h : HasNames entries P) (hk : k ∈ entries.map (·.1))
    (hs : k.same (.text name) = true) : k = .text name := by
  obtain ⟨other, rfl, _⟩ := (h k).mp hk
  rw [Value.same_texts.mp hs]

/-- A name is found among the entries exactly if it is one of their names. -/
theorem lookup?_isSome (h : HasNames entries P) (name : String) :
    (lookup? (.text name) entries).isSome = true ↔ P name := by
  constructor
  · intro hs
    obtain ⟨v, hv⟩ := Option.isSome_iff_exists.mp hs
    obtain ⟨e, he, hsame, _⟩ := mem_of_lookup? hv
    have hk : e.1 ∈ entries.map (·.1) := List.mem_map_of_mem he
    obtain ⟨other, hother, hp⟩ := (h e.1).mp hk
    rw [h.text_of_same hk hsame] at hother
    cases hother
    exact hp
  · intro hp
    obtain ⟨e, he, hk⟩ := List.mem_map.mp ((h (.text name)).mpr ⟨name, rfl, hp⟩)
    rw [lookup?, Option.isSome_map, List.find?_isSome]
    exact ⟨e, he, by rw [hk]; exact Value.same_texts.mpr rfl⟩

theorem nil : HasNames ([] : List (Value × α)) fun _ => False := by
  intro key
  simp

/-- An assignment adds one name to those that are there. -/
theorem assign {name : String} (v : α) (h : HasNames entries P) :
    HasNames (assign (.text name) v entries) fun other => P other ∨ other = name := by
  -- Keys that are the same as a text are that text, so the keys grow by the name if it is not there.
  have hkeys : ∀ entries : List (Value × α),
      (∀ k ∈ entries.map (·.1), k.same (.text name) = true → k = .text name) →
      ∀ key, key ∈ (EntityViews.assign (.text name) v entries).map (·.1) ↔ key ∈ entries.map (·.1) ∨ key = .text name := by
    intro entries
    induction entries with
    | nil => simp [EntityViews.assign]
    | cons e rest ih =>
      intro htexts key
      obtain ⟨k, x⟩ := e
      rw [EntityViews.assign]
      split
      · rename_i hs
        have hk : k = .text name := htexts k (by simp) hs
        subst hk
        simp only [List.map_cons, List.mem_cons]
        constructor
        · exact Or.inl
        · rintro (h | h)
          · exact h
          · exact Or.inl h
      · have hrest := ih fun k' hk' => htexts k' (List.mem_cons_of_mem _ hk')
        simp only [List.map_cons, List.mem_cons, hrest, or_assoc]
  intro key
  rw [hkeys entries (fun k hk hs => h.text_of_same hk hs), h key]
  constructor
  · rintro (⟨other, rfl, hp⟩ | rfl)
    · exact ⟨other, rfl, Or.inl hp⟩
    · exact ⟨name, rfl, Or.inr rfl⟩
  · rintro ⟨other, rfl, hp | rfl⟩
    · exact Or.inl ⟨other, rfl, hp⟩
    · exact Or.inr rfl

/-- To drop a name leaves all the others. -/
theorem without {name : String} (h : HasNames entries P) :
    HasNames (entries.filter fun e => !e.1.same (.text name)) fun other => P other ∧ other ≠ name := by
  intro key
  have hkeys : key ∈ (entries.filter fun e => !e.1.same (.text name)).map (·.1) ↔
      key ∈ entries.map (·.1) ∧ key.same (.text name) = false := by
    simp only [List.mem_map, List.mem_filter, Bool.not_eq_true']
    constructor
    · rintro ⟨e, ⟨he, hs⟩, rfl⟩
      exact ⟨⟨e, he, rfl⟩, hs⟩
    · rintro ⟨⟨e, he, rfl⟩, hs⟩
      exact ⟨e, ⟨he, hs⟩, rfl⟩
  rw [hkeys, h key]
  constructor
  · rintro ⟨⟨other, rfl, hp⟩, hs⟩
    refine ⟨other, rfl, hp, ?_⟩
    rintro rfl
    rw [Value.same_texts.mpr rfl] at hs
    cases hs
  · rintro ⟨other, rfl, hp, hne⟩
    exact ⟨⟨other, rfl, hp⟩, Bool.eq_false_iff.mpr fun hs => hne (Value.same_texts.mp hs)⟩

/-- A row under the names of its columns has just these names. -/
theorem collect_zip (labels : List String) (row : List α) (h : row.length = labels.length) :
    HasNames (collect ((labels.map Value.text).zip row)) (· ∈ labels) := by
  have hrun : ∀ (labels : List String) (row : List α) (entries : List (Value × α)) (P : String → Prop),
      row.length = labels.length → HasNames entries P →
      HasNames (((labels.map Value.text).zip row).foldl (fun es p => EntityViews.assign p.1 p.2 es) entries)
        fun name => P name ∨ name ∈ labels := by
    intro labels
    induction labels with
    | nil =>
      intro row entries P _ he
      exact he.congr (by simp)
    | cons label labels ih =>
      intro row entries P hl he
      cases row with
      | nil => simp at hl
      | cons cell row =>
        rw [List.map_cons, List.zip_cons_cons, List.foldl_cons]
        have hfirst : HasNames (EntityViews.assign (.text label) cell entries) fun other => P other ∨ other = label :=
          he.assign cell
        have hrest := ih row _ _ (by simpa using hl) hfirst
        exact hrest.congr fun name => by rw [List.mem_cons, or_assoc]
  exact (hrun labels row [] _ h .nil).congr (by simp)

end HasNames

/-- A record has the names of the row that it is made from. -/
theorem Entity.keys_fieldsOfRow {e : Entity} {row fields : List (Value × Value)} (h : e.fieldsOfRow row = .ok fields) :
    fields.map (·.1) = row.map (·.1) := by
  induction row generalizing fields with
  | nil => rw [Except.mapM_nil_ok h]
  | cons c rest ih =>
    obtain ⟨field, fields', hfield, hrest, rfl⟩ := Except.mapM_cons_ok h
    obtain ⟨v, _, rfl⟩ := Except.map_ok hfield
    rw [List.map_cons, List.map_cons, ih hrest]

namespace Store

theorem keys_loadEntries (s : Store) (entries : List (Value × Value)) :
    (s.loadEntries entries).1.map (·.1) = entries.map (·.1) := by
  induction entries generalizing s with
  | nil => rfl
  | cons e rest ih =>
    obtain ⟨key, v⟩ := e
    rw [loadEntries, List.map_cons, List.map_cons, ih]

def HasKeys (s : Store) (id : Nat) (P : String → Prop) : Prop := HasNames (s.entries id) P

theorem Made.hasKeys {s : Store} {e : Entity} {row : List (Value × Value)} {id : Nat} {P : String → Prop}
    (h : s.Made e row id) (hrow : HasNames row P) : s.HasKeys id P := by
  obtain ⟨fields, before, hfields, hentries⟩ := h
  have hkeys : (s.entries id).map (·.1) = row.map (·.1) := by
    rw [hentries, keys_loadEntries, Entity.keys_fieldsOfRow hfields]
  exact hrow.of_keys hkeys

def Extends (touched : Nat → String → Prop) (s t : Store) : Prop :=
  s.records.size ≤ t.records.size ∧ ∀ i < s.records.size, ∃ A : String → Prop, (∀ name, A name → touched i name) ∧
    ∀ P, s.HasKeys i P → t.HasKeys i fun name => P name ∨ A name

variable {touched : Nat → String → Prop}

theorem Extends.refl (s : Store) : s.Extends touched s := by
  refine ⟨Nat.le_refl _, fun i _ => ⟨fun _ => False, nofun, ?_⟩⟩
  intro P h
  exact HasNames.congr h (by simp)

/-- What is extended twice is extended. -/
theorem Extends.trans {s t u : Store} (h : s.Extends touched t) (h' : t.Extends touched u) : s.Extends touched u := by
  refine ⟨Nat.le_trans h.1 h'.1, ?_⟩
  intro i hi
  obtain ⟨A, hA, hkeys⟩ := h.2 i hi
  obtain ⟨A', hA', hkeys'⟩ := h'.2 i (Nat.lt_of_lt_of_le hi h.1)
  refine ⟨fun name => A name ∨ A' name, fun name ha => ha.elim (hA name) (hA' name), ?_⟩
  intro P hp
  exact HasNames.congr (hkeys' _ (hkeys P hp)) fun name => or_assoc

theorem Grows.extends {s t : Store} (h : s.Grows t) : s.Extends touched t := by
  refine ⟨h.1, fun i hi => ⟨fun _ => False, nofun, ?_⟩⟩
  intro P hp
  rw [HasKeys, h.2 i hi]
  exact HasNames.congr hp (by simp)

theorem extends_set (s : Store) {id : Nat} {name : String} (v : Node) (h : touched id name) :
    s.Extends touched (s.set id (.text name) v) := by
  refine ⟨Nat.le_of_eq (s.size_set id _ v).symm, ?_⟩
  intro i hi
  by_cases he : id = i
  · subst he
    refine ⟨(· = name), fun other ho => ho ▸ h, ?_⟩
    intro P hp
    rw [HasKeys, entries_set, if_pos ⟨rfl, hi⟩]
    exact HasNames.assign v hp
  · refine ⟨fun _ => False, nofun, ?_⟩
    intro P hp
    rw [HasKeys, entries_set, if_neg fun hc => he hc.1]
    exact HasNames.congr hp (by simp)

/-- A record of which nothing may be touched keeps its keys. -/
theorem Extends.untouched {s t : Store} (h : s.Extends touched t) {i : Nat} (hi : i < s.records.size)
    (hno : ∀ name, ¬touched i name) {P : String → Prop} (hp : s.HasKeys i P) : t.HasKeys i P := by
  obtain ⟨A, hA, hkeys⟩ := h.2 i hi
  exact HasNames.congr (hkeys P hp) fun name => or_iff_left fun ha => hno name (hA name ha)

/-- A record of which one name alone may be touched, and that has the name then, has got this name and no other. -/
theorem Extends.touched_one {s t : Store} (h : s.Extends touched t) {i : Nat} {key : String} (hi : i < s.records.size)
    (honly : ∀ name, touched i name → name = key) (hkey : (t.get? i (.text key)).isSome = true) {P : String → Prop}
    (hp : s.HasKeys i P) : t.HasKeys i fun name => P name ∨ name = key := by
  obtain ⟨A, hA, hkeys⟩ := h.2 i hi
  have hall := hkeys P hp
  refine HasNames.congr hall ?_
  intro name
  have hhas : P key ∨ A key := (hall.lookup?_isSome key).mp hkey
  constructor
  · rintro (h | h)
    · exact Or.inl h
    · exact Or.inr (honly name (hA name h))
  · rintro (h | rfl)
    · exact Or.inl h
    · exact hhas

/-- Steps that each extend the store extend it together. -/
theorem guarantee_extends {δ : Type} [Engine δ] (touched : Nat → String → Prop) :
    Run.Guarantee (fun _ => True) touched fun w w' : World δ => w.store.Extends touched w'.store where
  refl := fun w _ => .refl w.store
  trans := fun _ h h' => h.trans h'
  issue := fun w _ _ => .refl w.store
  count := fun w _ _ => .refl w.store
  turn := fun w _ _ => .refl w.store
  tell := fun w _ => .refl w.store
  grow := fun _ _ h => h.extends
  set := fun w _ _ v h => extends_set w.store v h
  build := fun w _ => .refl w.store
  use := fun w _ => .refl w.store

end Store

/-- Whether a database gives the rows of each answer under the names of the outputs that were asked for. -/
def Labelled (δ : Type) [Engine δ] : Prop :=
  ∀ (q : Select) (d : δ) (a : Answer), (Engine.perform (.execute (.select q)) d).1 = .ok a →
    a.columns = q.outputs.map Output.label ∧ ∀ rows, a.rows = .ok rows → ∀ row ∈ rows, row.length = q.outputs.length

theorem labelled_snapshot (db : Contents) : Labelled (Snapshot db) := by
  intro q d a h
  cases h
  refine ⟨rfl, ?_⟩
  intro rows hrows row hrow
  cases hrows
  obtain ⟨env, _, rfl⟩ := List.mem_map.mp hrow
  rw [List.length_map]

def Store.Fresh (s t : Store) (P : String → Prop) (n : Node) : Prop := ∃ id, n = .record id ∧ s.New t id ∧ t.HasKeys id P

theorem Store.Fresh.grows {s t u : Store} {P : String → Prop} {n : Node} (h : s.Fresh t P n) (hg : t.Grows u) :
    s.Fresh u P n := by
  obtain ⟨id, rfl, ⟨hge, hlt⟩, hkeys⟩ := h
  refine ⟨id, rfl, ⟨hge, Nat.lt_of_lt_of_le hlt hg.1⟩, ?_⟩
  rw [HasKeys, hg.2 id hlt]
  exact hkeys

theorem Store.Fresh.before {s t u : Store} {P : String → Prop} {n : Node} (h : t.Fresh u P n)
    (hg : s.records.size ≤ t.records.size) : s.Fresh u P n := by
  obtain ⟨id, rfl, ⟨hge, hlt⟩, hkeys⟩ := h
  exact ⟨id, rfl, ⟨Nat.le_trans hg hge, hlt⟩, hkeys⟩

namespace Node

def IsOne (n : Node) : Prop := n = .null ∨ ∃ id, n = .record id

def IsMany (n : Node) : Prop := ∃ ids : List Nat, n = .list (ids.map .record)

end Node

section Fetch

variable {δ : Type} [Engine δ] {w w' : World δ} {e : Entity} {sel : Select}

/-- A row of an answer has the labels of the outputs as its names. -/
theorem namedRows_names (labelled : Labelled δ) {answer : Answer} {rows : List (List (Value × Value))}
    (h : Gives (execute (.select sel)) w answer w') (hrows : answer.namedRows = .ok rows) :
    ∀ row ∈ rows, HasNames row (· ∈ sel.outputs.map Output.label) := by
  obtain ⟨ha, _⟩ := Run.ask_gives h
  obtain ⟨hcolumns, hlengths⟩ := labelled sel w.database answer ha
  obtain ⟨cells, hcells, rfl⟩ := Except.map_ok hrows
  intro row hrow
  obtain ⟨values, hvalues, rfl⟩ := List.mem_map.mp hrow
  rw [hcolumns]
  apply HasNames.collect_zip
  rw [List.length_map]
  exact hlengths cells hcells values hvalues

omit [Engine δ] in
theorem recordOfRow_fresh {row : List (Value × Value)} {n : Node} {P : String → Prop} (hrow : HasNames row P)
    (h : Gives (recordOfRow e row) w n w') : w.store.Fresh w'.store P n ∧ w.store.Grows w'.store := by
  obtain ⟨id, rfl, hnew, hmade, hgrows⟩ := recordOfRow_gives h
  exact ⟨⟨id, rfl, hnew, hmade.hasKeys hrow⟩, hgrows⟩

/-- Fetched records have the names of what was asked for. -/
theorem fetchRecords_fresh (labelled : Labelled δ) {nodes : List Node} (h : Gives (fetchRecords e sel) w nodes w') :
    (∀ n ∈ nodes, w.store.Fresh w'.store (· ∈ sel.outputs.map Output.label) n) ∧ w.store.Grows w'.store := by
  obtain ⟨answer, w₁, hanswer, hnamed⟩ := Gives.bind_iff.mp h
  obtain ⟨rows, w₂, hlift, hmade⟩ := Gives.bind_iff.mp hnamed
  obtain ⟨hrows, rfl⟩ := Gives.lift_iff.mp hlift
  have hnames := namedRows_names labelled hanswer hrows
  rw [← List.map_id rows] at hmade
  obtain ⟨made, hitems, rfl, hall, hgrows, _⟩ := recordsOfRows_gives hmade
  rw [(Run.ask_gives hanswer).2.store_eq] at hgrows hall
  refine ⟨?_, hgrows⟩
  intro n hn
  obtain ⟨m, hm, rfl⟩ := List.mem_map.mp hn
  obtain ⟨hnew, hrow⟩ := hall m hm
  have hmem : m.1 ∈ rows := by
    rw [hitems]
    exact List.mem_map_of_mem hm
  exact ⟨m.2, rfl, hnew, hrow.hasKeys (hnames m.1 hmem)⟩

end Fetch

namespace Loader

def AllFresh (s t : Store) (P : String → Prop) (state : List (Value × Node) × List (Value × List Node)) : Prop :=
  s.Grows t ∧ (∀ p ∈ state.1, s.Fresh t P p.2) ∧ ∀ p ∈ state.2, ∀ n ∈ p.2, s.Fresh t P n

variable {δ : Type} {s : Schema} {target : Entity} {fields : Option (List String)} {filter : Value} {w w' : World δ}

/-- To gather a row keeps all gathered records new, with the names of their rows. -/
theorem gatherRow_fresh {before : Store} {P : String → Prop} {state state' : List (Value × Node) × List (Value × List Node)}
    {row : List (Value × Value)} (hrow : HasNames row P)
    (h₀ : AllFresh before w.store (fun name => P name ∧ name ≠ sourceLabel.text) state)
    (h : Gives (gatherRow target state row) w state' w') :
    AllFresh before w'.store (fun name => P name ∧ name ≠ sourceLabel.text) state' := by
  obtain ⟨known, groups⟩ := state
  obtain ⟨hgrows, hknown, hgroups⟩ := h₀
  obtain ⟨source, m₁, hcell, hrow'⟩ := Gives.bind_iff.mp h
  obtain ⟨_, rfl⟩ := Gives.lift_iff.mp hcell
  obtain ⟨id, m₂, hid, hrecord⟩ := Gives.bind_iff.mp hrow'
  obtain ⟨_, rfl⟩ := Gives.lift_iff.mp hid
  -- Known or new, the record joins the group of its source.
  have hend : ∀ {n : Node} {known₁ : List (Value × Node)} {m : World δ},
      Gives (if source.isKey then return (known₁, addToGroup groups source n) else throw .mistyped :
        Run δ (List (Value × Node) × List (Value × List Node))) m state' w' →
      state' = (known₁, addToGroup groups source n) ∧ w' = m := by
    intro n known₁ m hm
    split at hm
    · exact Gives.pure_iff.mp hm
    · exact (Gives.throw_iff.mp hm).elim
  cases hl : lookup? id known with
  | some n =>
    simp only [hl] at hrecord
    obtain ⟨_, m₃, hpure, hrest⟩ := Gives.bind_iff.mp hrecord
    obtain ⟨rfl, rfl⟩ := Gives.pure_iff.mp hpure
    obtain ⟨hstate, rfl⟩ := hend hrest
    obtain ⟨p, hp, _, rfl⟩ := mem_of_lookup? hl
    rw [hstate]
    exact ⟨hgrows, hknown, all_addToGroup hgroups (hknown p hp)⟩
  | none =>
    simp only [hl] at hrecord
    obtain ⟨n, m₃, hmake, hmore⟩ := Gives.bind_iff.mp hrecord
    obtain ⟨_, m₄, hpure, hrest⟩ := Gives.bind_iff.mp hmore
    obtain ⟨rfl, rfl⟩ := Gives.pure_iff.mp hpure
    obtain ⟨hstate, rfl⟩ := hend hrest
    obtain ⟨hfresh, hmore⟩ := recordOfRow_fresh hrow.without hmake
    have hnew := hfresh.before hgrows.1
    rw [hstate]
    refine ⟨hgrows.trans hmore, ?_, all_addToGroup (fun p hp m hm => (hgroups p hp m hm).grows hmore) hnew⟩
    intro p hp
    rcases mem_of_mem_assign hp with he | hp
    · rwa [he]
    · exact (hknown p hp).grows hmore

theorem gather_fresh {P : String → Prop} {state : List (Value × Node) × List (Value × List Node)}
    {rows : List (List (Value × Value))} (hrows : ∀ row ∈ rows, HasNames row P)
    (h : Gives (gather target rows) w state w') :
    AllFresh w.store w'.store (fun name => P name ∧ name ≠ sourceLabel.text) state := by
  apply Gives.foldlM_keeps (P := fun state m => AllFresh w.store m.store _ state) h
  · intro row hrow state m state' m' h₀ hstep
    exact gatherRow_fresh (hrows row hrow) h₀ hstep
  · exact ⟨.refl _, nofun, nofun⟩

/-- A list of new records leads to new records with these names. -/
theorem Leads.of_fresh {before after : Store} {P : String → Prop} {items : List Node}
    (h : ∀ n ∈ items, before.Fresh after P n) :
    Node.Leads (fun id => before.New after id ∧ after.HasKeys id P) (.list items) ∧ Node.IsMany (.list items) := by
  have hleads : Node.Leads (fun id => before.New after id ∧ after.HasKeys id P) (.list items) := by
    apply Node.leads_list
    intro n hn
    obtain ⟨id, rfl, hnew, hkeys⟩ := h n hn
    exact ⟨id, rfl, hnew, hkeys⟩
  refine ⟨hleads, ?_⟩
  cases hleads with
  | @many ids _ => exact ⟨ids, rfl⟩

theorem Leads.of_fresh_head {before after : Store} {P : String → Prop} {items : List Node}
    (h : ∀ n ∈ items, before.Fresh after P n) :
    Node.Leads (fun id => before.New after id ∧ after.HasKeys id P) (items.headD .null) ∧
      Node.IsOne (items.headD .null) := by
  cases items with
  | nil => exact ⟨.nothing, Or.inl rfl⟩
  | cons n rest =>
    obtain ⟨id, rfl, hnew, hkeys⟩ := h n List.mem_cons_self
    exact ⟨.one ⟨hnew, hkeys⟩, Or.inr ⟨id, rfl⟩⟩

/-- Where all related records are new, what is found for a key leads to a new record or to nothing. -/
theorem Leads.of_fresh_related {before after : Store} {P : String → Prop} {related : List (Value × Node)}
    (h : ∀ p ∈ related, before.Fresh after P p.2) (key : Value) :
    Node.Leads (fun id => before.New after id ∧ after.HasKeys id P) ((lookup? key related).getD .null) ∧
      Node.IsOne ((lookup? key related).getD .null) := by
  cases hkey : lookup? key related with
  | none => exact ⟨.nothing, Or.inl rfl⟩
  | some n =>
    obtain ⟨p, hp, _, rfl⟩ := mem_of_lookup? hkey
    obtain ⟨id, hid, hnew, hkeys⟩ := h p hp
    rw [Option.getD_some, hid]
    exact ⟨.one ⟨hnew, hkeys⟩, Or.inr ⟨id, rfl⟩⟩

variable [Engine δ]

omit [Engine δ] in
theorem queryFor_store {q : Query} (h : Gives (queryFor s target fields filter) w q w') : w'.store = w.store := by
  simp only [queryFor, Gives.bind_iff, Gives.lift_iff, Run.compile_gives] at h
  obtain ⟨_, _, ⟨_, rfl⟩, _, _, ⟨_, rfl⟩, _, _, rfl⟩ := h
  rfl

/-- The records that a relation is loaded with have the fields that were asked for. -/
theorem rows_fresh (labelled : Labelled δ) {q q' : Query} {m : World δ} {sel : Select} {rows : List Node}
    (hq : Gives (queryFor s target fields filter) w q m) (hb : q'.build = .ok sel) (ht : q'.table = q.table)
    (hc : q'.columns = q.columns) (hf : q'.formulas = q.formulas) (he : q'.extraColumns = q.extraColumns)
    (h : Gives (fetchRecords target sel) m rows w') :
    (∀ n ∈ rows, w.store.Fresh w'.store (fun name => name = "id" ∨ name ∈ target.selection fields) n) ∧
      w.store.Grows w'.store := by
  obtain ⟨hchosen, hextra⟩ := queryFor_chosen hq
  have hlists := (hchosen.lists hb ht hc hf).1
  obtain ⟨hrows, hgrows⟩ := fetchRecords_fresh labelled h
  rw [queryFor_store hq] at hrows hgrows
  refine ⟨?_, hgrows⟩
  intro n hn
  obtain ⟨id, hid, hnew, hkeys⟩ := hrows n hn
  refine ⟨id, hid, hnew, HasNames.congr hkeys ?_⟩
  intro name
  rw [hlists.labels, he, hextra]
  simp

end Loader

/-- Whether some records of a store were given new records under a name: values of one kind, the new records with the keys
of a kind, and the records that got them with this name more. -/
structure Store.Provides (s t : Store) (records : List Node) (name : String) (P : String → Prop) (V : Node → Prop) :
    Prop where
  attaches : s.Attaches t records name fun id => s.New t id ∧ t.HasKeys id P
  extended : s.Extends (fun i other => other = name ∧ .record i ∈ records) t
  values : ∀ i, .record i ∈ records → ∃ n, t.get? i (.text name) = some n ∧ V n

def Link.isThrough : Link → Bool
  | .manyToMany _ _ _ => true
  | _ => false

def Link.Holds (link : Link) : Node → Prop := if link.isToOne then Node.IsOne else Node.IsMany

namespace Loader

variable {δ : Type} [Engine δ] {s : Schema} {target : Entity} {fields : Option (List String)} {filter : Value}
  {records out : List Node} {relation : Relation} {keys : List Value} {w w' : World δ}

def Gets (link : Link) (target : Entity) (fields : Option (List String)) (name : String) : Prop :=
  (name = "id" ∨ name ∈ target.selection (fetched link fields)) ∧ ¬(link.isThrough = true ∧ name = sourceLabel.text)

/-- A loop that sets a field provides all given records with it. -/
theorem provides_of_loop {w₁ : World δ} {key name : String} {f : Value → Node} {P : String → Prop} {V : Node → Prop}
    (hbounded : ∀ i, .record i ∈ records → i < w.store.records.size) (hgrows : w.store.Grows w₁.store)
    (hf : ∀ v, (f v).Leads (fun id => w.store.New w₁.store id ∧ w₁.store.HasKeys id P) ∧ V (f v))
    (h : Gives (records.forM fun r => do Run.setField r name (f (← keyOf r key))) w₁ ⟨⟩ w') :
    w.store.Provides w'.store records name P V := by
  obtain ⟨hkeeps, hsize, hrecords, hall⟩ := attach_gives h
  have G := Store.guarantee_extends (δ := δ) fun i other => other = name ∧ Node.record i ∈ records
  have hextends : w₁.store.Extends (fun i other => other = name ∧ .record i ∈ records) w'.store :=
    (G.attach fun id hid => ⟨rfl, hid⟩).of_gives h
  -- New records are none of those that something is attached to, so that they stay as they were fetched.
  have hfresh : ∀ id, w.store.New w₁.store id ∧ w₁.store.HasKeys id P → w.store.New w'.store id ∧ w'.store.HasKeys id P := by
    rintro id ⟨⟨hge, hlt⟩, hkeys⟩
    refine ⟨⟨hge, hsize ▸ hlt⟩, hextends.untouched hlt ?_ hkeys⟩
    rintro other ⟨_, hmem⟩
    have := hbounded id hmem
    omega
  have hvalues : ∀ i, .record i ∈ records → ∃ v, w'.store.get? i (.text name) = some (f v) := by
    intro i hi
    obtain ⟨v, hv, _⟩ := hall i hi (Nat.lt_of_lt_of_le (hbounded i hi) hgrows.1)
    exact ⟨v, hv⟩
  refine ⟨⟨hgrows.keeps.trans hkeeps, hrecords, ?_⟩, hgrows.extends.trans hextends, ?_⟩
  · intro i hi _
    obtain ⟨v, hv⟩ := hvalues i hi
    exact ⟨f v, hv, (hf v).1.mono hfresh⟩
  · intro i hi
    obtain ⟨v, hv⟩ := hvalues i hi
    exact ⟨f v, hv, (hf v).2⟩

theorem ownRelated_fresh (labelled : Labelled δ) {related : List (Value × Node)}
    (h : Gives (ownRelated s target fields filter keys) w related w') :
    (∀ p ∈ related, w.store.Fresh w'.store (fun name => name = "id" ∨ name ∈ target.selection fields) p.2) ∧
      w.store.Grows w'.store := by
  rcases ownRelated_gives h with ⟨_, rfl, rfl⟩ | ⟨_, q, m, sel, rows, hq, hb, hrows, hby⟩
  · exact ⟨nofun, .refl _⟩
  · obtain ⟨_, hmem, _⟩ := byField_gives hby
    obtain ⟨hfresh, hgrows⟩ := rows_fresh labelled hq hb rfl rfl rfl rfl hrows
    exact ⟨fun p hp => hfresh p.2 (hmem p hp), hgrows⟩

theorem theirRows_fresh (labelled : Labelled δ) {key : String} {rows : List Node}
    (h : Gives (theirRows s relation key target fields filter keys) w rows w') :
    (∀ n ∈ rows, w.store.Fresh w'.store
      (fun name => name = "id" ∨ name ∈ target.selection (fields.map (· ++ [key]))) n) ∧ w.store.Grows w'.store := by
  rcases theirRows_gives h with ⟨_, rfl, rfl⟩ | ⟨_, q, m, name, sel, hq, _, hb, hrows⟩
  · exact ⟨nofun, .refl _⟩
  · exact rows_fresh labelled hq hb rfl rfl rfl rfl hrows

/-- The records behind a table are new and have the selected names, without the label of the source. -/
theorem throughRows_fresh (labelled : Labelled δ) {table sourceKey targetKey : String}
    {found : List (Value × Node) × List (Value × List Node)}
    (h : Gives (throughRows s relation table sourceKey targetKey target fields filter keys) w found w') :
    (∀ p ∈ found.2, ∀ n ∈ p.2, w.store.Fresh w'.store
      (fun name => (name = "id" ∨ name ∈ target.selection fields) ∧ name ≠ sourceLabel.text) n) ∧
      w.store.Grows w'.store := by
  rcases throughRows_gives h with ⟨_, rfl, rfl⟩ |
    ⟨_, q, m, m₁, source, tableName, column, sel, answer, rows, hq, _, _, _, hb, hanswer, hrows, hgather⟩
  · exact ⟨nofun, .refl _⟩
  · obtain ⟨hchosen, hextra⟩ := queryFor_chosen hq
    have hlists := (hchosen.lists hb rfl rfl rfl).1
    obtain ⟨hgrows, _, hgroups⟩ := gather_fresh (namedRows_names labelled hanswer hrows) hgather
    rw [(Run.ask_gives hanswer).2.store_eq, queryFor_store hq] at hgrows hgroups
    refine ⟨?_, hgrows⟩
    intro p hp n hn
    obtain ⟨id, hid, hnew, hkeys⟩ := hgroups p hp n hn
    refine ⟨id, hid, hnew, HasNames.congr hkeys ?_⟩
    -- The label of the source is the one output more, and it is taken away from every row.
    intro name
    rw [hlists.labels]
    refine and_congr_left fun hne => or_iff_left ?_
    rw [Query.sorted, Query.add, Query.extended, Query.joined, hextra]
    simpa [Output.label] using hne

/-- What keys lead to is of the kind of the relation, and made up of new records with the keys that were asked for. -/
theorem inHand_fresh (labelled : Labelled δ) {hand : (Value → Node) × List Node}
    (h : Gives (inHand s relation target fields filter keys) w hand w') : w.store.Grows w'.store ∧ ∀ v,
      (hand.1 v).Leads (fun id => w.store.New w'.store id ∧ w'.store.HasKeys id (Gets relation.link target fields)) ∧
        relation.link.Holds (hand.1 v) := by
  unfold Link.Holds
  rcases inHand_gives h with ⟨key, related, hlink, hrelated, rfl⟩ | ⟨key, rows, groups, hlink, hrows, hgroups, rfl⟩ |
    ⟨table, sourceKey, targetKey, found, hlink, hfound, rfl⟩
  · obtain ⟨hfresh, hgrows⟩ := ownRelated_fresh labelled hrelated
    have hgets : Gets relation.link target fields = fun name => name = "id" ∨ name ∈ target.selection fields := by
      funext name
      rcases hlink with hl | hl <;> simp [hl, Gets, fetched, Link.isThrough]
    have hone : relation.link.isToOne = true := by
      rcases hlink with hl | hl <;> rw [hl] <;> rfl
    rw [hgets, if_pos hone]
    exact ⟨hgrows, Leads.of_fresh_related hfresh⟩
  · obtain ⟨hfresh, hgrows⟩ := theirRows_fresh labelled hrows
    have hgets : Gets relation.link target fields =
        fun name => name = "id" ∨ name ∈ target.selection (fields.map (· ++ [key])) := by
      funext name
      rcases hlink with hl | hl <;> simp [hl, Gets, fetched, Link.isThrough]
    rw [hgets]
    refine ⟨hgrows, fun v => ?_⟩
    have hitems := fun n hn => hfresh n (all_group (groups_gives hgroups).2 v n hn)
    unfold theirItems
    dsimp only
    split
    · exact Leads.of_fresh_head hitems
    · exact Leads.of_fresh hitems
  · obtain ⟨hfresh, hgrows⟩ := throughRows_fresh labelled hfound
    -- The label of the source is taken from a row before its record is made.
    have hgets : Gets relation.link target fields =
        fun name => (name = "id" ∨ name ∈ target.selection fields) ∧ name ≠ sourceLabel.text := by
      funext name
      simp [hlink, Gets, fetched, Link.isThrough]
    have hmany : relation.link.isToOne = false := by
      rw [hlink]
      rfl
    rw [hgets, if_neg (Bool.eq_false_iff.mp hmany)]
    exact ⟨hgrows, fun v => Leads.of_fresh (all_group hfresh v)⟩

/-- A load gives the records that it is for new records under the name of the relation. -/
theorem load_provides (labelled : Labelled δ) {entity name : String}
    (hbounded : ∀ i, .record i ∈ records → i < w.store.records.size)
    (h : Gives (load s entity records name fields filter) w out w') :
    ∃ relation target, s.relation? entity name = some relation ∧ s.entity? relation.target = some target ∧
      w.store.Provides w'.store records name (Gets relation.link target fields) relation.link.Holds := by
  obtain ⟨relation, target, hr, ht⟩ := load_known h
  obtain ⟨_, hand, w₁, hhand, hattach, _⟩ := (load_iff hr ht).mp h
  obtain ⟨rfl, _⟩ := Schema.mem_of_relation? hr
  obtain ⟨hgrows, hfresh⟩ := inHand_fresh labelled hhand
  exact ⟨relation, target, hr, ht, provides_of_loop hbounded hgrows hfresh hattach⟩

end Loader

end EntityViews
