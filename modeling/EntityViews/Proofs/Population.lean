import EntityViews.Proofs.Attachment
import EntityViews.Proofs.Effects
import EntityViews.Proofs.Keyed

/-!
Running the loads of a plan. Main statement: after them every record that is reached along the trail of a relation has the
id of a row of its entity that meets the filter which the relation was loaded under.
-/

namespace EntityViews

open Sql

namespace Repository

def Scoped (db : Contents) (s : Schema) (entity : String) (loads : List (Trail × Value)) (store : Store) (t : Trail)
    (id : Nat) : Prop :=
  id < store.records.size ∧ ∃ target filter, (∀ path, entityAt s path entity t.reverse = .ok target) ∧
    (t, filter) ∈ loads ∧ db.Admits s target filter store id

variable {δ : Type} [Engine δ] {db : Contents} {s : Schema} {entity : String} {loads : List (Trail × Value)}
  {roots : List Node} {done : List Trail} {w w' : World δ}

/-- One more segment leads to the target of its relation. -/
theorem entityAt_concat {path path' target key : String} {relation : Relation} {keys : List String}
    (h : entityAt s path entity keys = .ok target) (hr : s.relation? target key = some relation) :
    entityAt s path' entity (keys ++ [key]) = .ok relation.target := by
  induction keys generalizing entity with
  | nil =>
    cases h
    rw [List.nil_append, entityAt, hr]
    rfl
  | cons k keys ih =>
    rw [entityAt] at h
    rw [List.cons_append, entityAt]
    cases hk : s.relation? entity k with
    | none =>
      rw [hk] at h
      cases h
    | some r =>
      simp only [hk] at h ⊢
      exact ih h

theorem entityAt_path {path path' target : String} {keys : List String} (h : entityAt s path entity keys = .ok target) :
    entityAt s path' entity keys = .ok target := by
  induction keys generalizing entity with
  | nil => exact h
  | cons k keys ih =>
    rw [entityAt] at h ⊢
    cases hk : s.relation? entity k with
    | none =>
      rw [hk] at h
      cases h
    | some r =>
      simp only [hk] at h ⊢
      exact ih h

theorem Scoped.keeps {touched : Nat → String → Prop} {store store' : Store} {t : Trail} {id : Nat}
    (h : Scoped db s entity loads store t id) (hk : store.Keeps touched store') (hid : ¬touched id "id") :
    Scoped db s entity loads store' t id := by
  obtain ⟨hlt, target, filter, htarget, hload, r, hr, ⟨before, hshows⟩, hmeets⟩ := h
  refine ⟨Nat.lt_of_lt_of_le hlt hk.1, target, filter, htarget, hload, r, hr, ⟨before, ?_⟩, hmeets⟩
  rw [hk.2 id hlt "id" hid]
  exact hshows

/-- Whether a relation was loaded for all records at a trail at once, and what was attached then is there as it was. -/
def Attached (δ : Type) [Engine δ] (s : Schema) (entity : String) (roots : List Node) (key : String) (above : Trail)
    (filter : Value) (store : Store) : Prop :=
  ∃ parents, store.recordsAt roots (Trail.path above) = .ok parents ∧ (parents = [] ∨
    ∃ (m m' : World δ) (parent : String) (fields : List String) (out : List Node),
      (∀ path, entityAt s path entity above.reverse = .ok parent) ∧
      Gives (Loader.load s parent parents key (some fields) filter) m out m' ∧
      m.store.Keeps (fun _ name => name ≠ "id") m'.store ∧ m'.store.Keeps (fun _ name => name ≠ "id") store ∧
      ∀ i, .record i ∈ parents → i < m.store.records.size ∧ store.get? i (.text key) = m'.store.get? i (.text key))

/-- What was attached along a trail stays attached as long as what was loaded stays. -/
theorem Attached.stays {key : String} {above : Trail} {filter : Value} {store store' : Store}
    {Good : Trail → Nat → Prop} (h : Attached δ s entity roots key above filter store)
    (hs : store.Settled roots Good done) (hstays : store.Stays store' roots done) (hproper : Trail.Proper above)
    (hdone : key :: above ∈ done) : Attached δ s entity roots key above filter store' := by
  have habove : above ∈ done := hs.closed _ hdone
  obtain ⟨parents, hparents, hload⟩ := h
  refine ⟨parents, (hs.recordsAt_eq hstays habove hproper).trans hparents, ?_⟩
  rcases hload with hnone | ⟨m, m', parent, fields, out, hentity, hload, hbefore, hafter, hget⟩
  · exact Or.inl hnone
  · refine Or.inr ⟨m, m', parent, fields, out, hentity, hload, hbefore, hafter.trans hstays.keeps, ?_⟩
    intro i hi
    obtain ⟨hlt, hsame⟩ := hget i hi
    obtain ⟨found, hfound, _, hmem⟩ := hs.recordsAt_ok habove hproper
    obtain rfl := Except.ok.inj (hfound.symm.trans hparents)
    exact ⟨hlt, (hstays.same key above hdone i ((hmem i).mp hi)).trans hsame⟩

/-- What is done at a path: the records at the path above it are looked up, and if there are any, the relation is loaded. -/
theorem populatePath_parts {Good : Trail → Nat → Prop} {fields : List String} {filter : Value} {key : String}
    {above : Trail} {u : PUnit} (hproper : Trail.Proper (key :: above)) (habove : above ∈ done)
    (hs : w.store.Settled roots Good done)
    (h : Gives (populatePath s entity roots (some fields) filter (Trail.path (key :: above))) w u w') :
    ∃ parent found, (∀ path, entityAt s path entity above.reverse = .ok parent) ∧
      w.store.recordsAt roots (Trail.path above) = .ok found ∧
      (∀ id, Node.record id ∈ found ↔ w.store.Reached roots above id) ∧
      ((found = [] ∧ w' = w) ∨ ∃ out, Gives (Loader.load s parent found key
        (some (fieldsUnder fields (Trail.path (key :: above)))) filter) w out w') := by
  rw [populatePath, Trail.splitLast_path hproper] at h
  simp only [Trail.keys_path hproper.above] at h
  obtain ⟨parent, m₁, hparent, hget⟩ := Gives.bind_iff.mp h
  obtain ⟨hentity, rfl⟩ := Gives.lift_iff.mp hparent
  obtain ⟨_, m₂, hworld, hat⟩ := Gives.bind_iff.mp hget
  obtain ⟨rfl, rfl⟩ := Gives.get_iff.mp hworld
  obtain ⟨parents, m₃, hparents, hload⟩ := Gives.bind_iff.mp hat
  obtain ⟨hrecordsAt, rfl⟩ := Gives.lift_iff.mp hparents
  -- The trail above was loaded, so that the look-up finds just what is reached along it.
  obtain ⟨found, hfound, _, hmem⟩ := hs.recordsAt_ok habove hproper.above
  rw [Except.ok.inj (hrecordsAt.symm.trans hfound)] at hload
  refine ⟨parent, found, fun _ => entityAt_path hentity, hfound, hmem, ?_⟩
  by_cases hempty : found.isEmpty
  · rw [if_pos hempty] at hload
    exact Or.inl ⟨List.isEmpty_iff.mp hempty, (Gives.pure_iff.mp hload).2⟩
  · rw [if_neg hempty] at hload
    obtain ⟨out, m₄, hout, hpure⟩ := Gives.bind_iff.mp hload
    obtain ⟨_, rfl⟩ := Gives.pure_iff.mp hpure
    exact Or.inr ⟨out, hout⟩

/-- To populate a path loads its last trail, keeps what was loaded before and attaches what it found. -/
theorem populatePath_gives (ideal : Ideal δ db) (ids : s.IntegerIds) {fields : List String} {filter : Value}
    {key : String} {above : Trail} {u : PUnit} (hproper : Trail.Proper (key :: above)) (habove : above ∈ done)
    (hnew : key :: above ∉ done) (hload : (key :: above, filter) ∈ loads)
    (hs : w.store.Settled roots (Scoped db s entity loads w.store) done)
    (h : Gives (populatePath s entity roots (some fields) filter (Trail.path (key :: above))) w u w') :
    w'.store.Settled roots (Scoped db s entity loads w'.store) ((key :: above) :: done) ∧
      w.store.Stays w'.store roots done ∧ Attached δ s entity roots key above filter w'.store := by
  obtain ⟨parent, found, hentity, hfound, hmem, ⟨rfl, rfl⟩ | ⟨out, hout⟩⟩ := populatePath_parts hproper habove hs h
  · -- Without parents nothing is loaded, and there is nothing along the trail either.
    refine ⟨hs.skip habove ?_, .refl _ _ _, [], hfound, Or.inl rfl⟩
    intro id hid
    cases (hmem id).mpr hid
  · obtain ⟨relation, hrelation, hkey, hattaches⟩ := Loader.load_gives ideal ids hout
    have hstays := hs.stays habove hnew (fun id => (hmem id).mp) hkey hattaches
    refine ⟨hs.load habove hnew hmem hattaches ?_ ?_, hstays, found, ?_, Or.inr ?_⟩
    · rintro id ⟨hid, hadmits⟩
      refine ⟨hid, hid.2, relation.target, filter, ?_, hload, hadmits⟩
      intro path
      rw [List.reverse_cons]
      exact entityAt_concat (hentity path) hrelation
    · intro t id hid
      exact hid.keeps hattaches.keeps fun ht => hkey ht.1.symm
    · exact (hs.recordsAt_eq hstays habove hproper.above).trans hfound
    · refine ⟨_, _, parent, _, out, hentity, hout, hstays.keeps, .refl _, ?_⟩
      intro i hi
      exact ⟨hs.bounded above habove i ((hmem i).mp hi), rfl⟩

/-- Some loads were done in order, and nothing else changed the records. -/
inductive Loaded (s : Schema) (entity : String) (roots : List Node) : List Load → World δ → World δ → Prop
  | done {w w' : World δ} : w'.store = w.store → Loaded s entity roots [] w w'
  | load {l : Load} {rest : List Load} {w w₁ w₂ w' : World δ} :
    w₁.store = w.store → Gives (populatePath s entity roots (some l.fields) l.filter l.path) w₁ ⟨⟩ w₂ →
    Loaded s entity roots rest w₂ w' → Loaded s entity roots (l :: rest) w w'

theorem Loaded.of_store_eq {ls : List Load} {w₀ : World δ} (h : Loaded s entity roots ls w w')
    (he : w.store = w₀.store) : Loaded s entity roots ls w₀ w' := by
  cases h with
  | done h => exact .done (h.trans he)
  | load h hg hr => exact .load (h.trans he) hg hr

theorem Loaded.append {ls ms : List Load} {w'' : World δ} (h : Loaded s entity roots ls w w')
    (h' : Loaded s entity roots ms w' w'') : Loaded s entity roots (ls ++ ms) w w'' := by
  induction h with
  | done he => exact h'.of_store_eq he
  | load he hg _ ih => exact .load he hg (ih h')

/-- What one load of a trail makes of a property of the records, loads of trails that come in order make of it together. -/
theorem Loaded.induct {Q : List Trail → Store → Prop} (ts : List Trail) {ls : List Load}
    (hls : ls.map (·.path) = ts.map Trail.path) (hts : Upcoming done ts)
    (hstep : ∀ load ∈ ls, ∀ key above, key :: above ∈ ts → load.path = Trail.path (key :: above) →
      ∀ (known : List Trail) (m m' : World δ), above ∈ known → key :: above ∉ known → Q known m.store →
      Gives (populatePath s entity roots (some load.fields) load.filter load.path) m ⟨⟩ m' →
      Q ((key :: above) :: known) m'.store)
    (hq : Q done w.store) (h : Loaded s entity roots ls w w') : Q (ts.reverse ++ done) w'.store := by
  induction ts generalizing w done ls with
  | nil =>
    obtain rfl := List.map_eq_nil_iff.mp hls
    cases h with
    | done he =>
      rw [he]
      exact hq
  | cons t rest ih =>
    obtain ⟨first, later, rfl, hfirst, hlater⟩ := List.map_eq_cons_iff.mp hls
    cases t with
    | nil => exact absurd rfl (hts.proper [] List.mem_cons_self).2
    | cons key above =>
      cases h with
      | load he hg hrest =>
        rw [← he] at hq
        have hone := hstep first List.mem_cons_self key above List.mem_cons_self hfirst done _ _ hts.ordered.1
          (hts.fresh _ List.mem_cons_self) hq hg
        rw [List.reverse_cons, List.append_assoc]
        refine ih hlater hts.rest ?_ hone hrest
        exact fun load hload k u hu => hstep load (List.mem_cons_of_mem _ hload) k u (List.mem_cons_of_mem _ hu)

/-- All loads of trails that come in order settle these trails. -/
theorem Loaded.settled (ideal : Ideal δ db) (ids : s.IntegerIds) (ts : List (Trail × Value)) {ls : List Load}
    (hls : ls.map (fun l => (l.path, l.filter)) = ts.map fun l => (l.1.path, l.2))
    (hts : Upcoming done (ts.map (·.1))) (hloads : ∀ l ∈ ts, l ∈ loads)
    (hs : w.store.Settled roots (Scoped db s entity loads w.store) done)
    (h : Loaded s entity roots ls w w') :
    w'.store.Settled roots (Scoped db s entity loads w'.store) ((ts.map (·.1)).reverse ++ done) ∧
      w.store.Stays w'.store roots done ∧
      ∀ key above filter, (key :: above, filter) ∈ ts → Attached δ s entity roots key above filter w'.store := by
  induction ts generalizing w done ls with
  | nil =>
    obtain rfl := List.map_eq_nil_iff.mp hls
    cases h with
    | done he =>
      rw [he]
      exact ⟨hs, .refl _ _ _, nofun⟩
  | cons l rest ih =>
    obtain ⟨⟨t, filter⟩, rfl⟩ : ∃ x, l = x := ⟨l, rfl⟩
    rw [List.map_cons] at hts
    obtain ⟨hp, hne⟩ := hts.proper t List.mem_cons_self
    cases t with
    | nil => exact absurd rfl hne
    | cons key above =>
      obtain ⟨first, later, rfl, hfirst, hlater⟩ := List.map_eq_cons_iff.mp hls
      obtain ⟨hpath, hfilter⟩ := Prod.mk.inj hfirst
      cases h with
      | load he hg hrest =>
        rw [hpath, hfilter] at hg
        rw [← he] at hs ⊢
        obtain ⟨hstep, hstays, hattached⟩ := populatePath_gives ideal ids hp hts.ordered.1
          (hts.fresh _ List.mem_cons_self) (hloads _ List.mem_cons_self) hs hg
        -- The later loads go along other trails, so what this one attached is there at the end.
        obtain ⟨hsettled, hstays', hattached'⟩ := ih hlater hts.rest (fun m hm => hloads m (List.mem_cons_of_mem _ hm))
          hstep hrest
        refine ⟨?_, ?_, ?_⟩
        · rw [List.map_cons, List.reverse_cons, List.append_assoc]
          exact hsettled
        · exact hstays.trans hs.closed (hstays'.mono fun u hu => List.mem_cons_of_mem _ hu)
        · intro k u f hm
          rcases List.mem_cons.mp hm with he' | hm
          · cases he'
            exact hattached.stays hstep hstays' hp.above List.mem_cons_self
          · exact hattached' k u f hm

theorem Loaded.aside {ls : List Load} {w₁ : World δ} (h : Loaded s entity roots ls w w₁) (ha : w₁.Aside w') :
    Loaded s entity roots ls w w' := by
  have hdone := h.append (.done ha.store_eq)
  rwa [List.append_nil] at hdone

/-- To populate paths is to load them one after the other, shorter paths first. -/
theorem populatePaths_gives {paths fields : List String} {filter : Value} {filterPath : Option String} {u : PUnit}
    (h : Gives (populatePaths s entity roots paths (some fields) filter filterPath) w u w') :
    Loaded s entity roots ((parentsFirst paths).map fun path =>
      ⟨path, if filterPath = some path then (Filter.atPath filter path).getD .null else .null, fields⟩) w w' := by
  unfold populatePaths at h
  generalize parentsFirst paths = ordered at h ⊢
  induction ordered generalizing w with
  | nil => exact .done (congrArg World.store (Gives.forM_nil_iff.mp h))
  | cons path rest ih =>
    obtain ⟨m, hpath, hrest⟩ := Gives.forM_cons_iff.mp h
    exact .load rfl hpath (ih hrest)

/-- To populate records under a filter is to make the loads of the filtered relation, one after the other. -/
theorem populate_gives {paths : List String} {fields : List String} {filter : Value} {u : PUnit} (hne : roots ≠ [])
    (h : Gives (populate s entity roots paths filter (some fields)) w u w') :
    Loaded s entity roots (FilteredPopulate.loads ⟨paths, filter, fields⟩) w w' := by
  unfold populate at h
  cases paths with
  | nil =>
    obtain ⟨_, rfl⟩ := Gives.pure_iff.mp h
    have hnil : FilteredPopulate.loads ⟨[], filter, fields⟩ = [] := by
      simp [FilteredPopulate.loads, parentsFirst, distinct]
    rw [hnil]
    exact .done rfl
  | cons first rest =>
    have hroots : roots.isEmpty = false := List.isEmpty_eq_false_iff.mpr hne
    simp only [hroots, Bool.false_eq_true, if_false] at h
    obtain ⟨w₁, w₂, hbefore, hpopulate, hafter⟩ := Run.withConnection_gives h
    exact ((populatePaths_gives hpopulate).of_store_eq hbefore.store_eq).aside hafter

/-- What the first look-up does: the records of one statement, then relations onto them if there are any. -/
theorem find_parts {e : Entity} {filter orderBy : Value} {fields populate : List String} {limit offset : Option Int}
    (h : Gives (find s e filter (some fields) populate orderBy limit offset) w roots w') :
    ∃ (sel : Select) (m w₁ : World δ),
      Run.Yields (rootStatement s e filter (some fields) orderBy limit offset : Run δ Select) sel ∧
      Gives (fetchRecords e sel) m roots w₁ ∧
      (roots ≠ [] → Loaded s e.name roots ((parentsFirst populate).map fun path => ⟨path, .null, fields⟩) w₁ w') := by
  rw [find_eq] at h
  obtain ⟨sel, m₁, hsel, hconnect⟩ := Gives.bind_iff.mp h
  obtain ⟨m₂, m₃, _, hbody, hafter⟩ := Run.withConnection_gives hconnect
  obtain ⟨records, m₄, hfetch, hmore⟩ := Gives.bind_iff.mp hbody
  dsimp only at hmore
  -- With records but no relations to load there is nothing left to do; without records nothing is claimed.
  by_cases hp : (!populate.isEmpty && !records.isEmpty) = true
  · rw [if_pos hp] at hmore
    obtain ⟨_, m₅, hpopulate, hpure⟩ := Gives.bind_iff.mp hmore
    obtain ⟨rfl, rfl⟩ := Gives.pure_iff.mp hpure
    exact ⟨sel, m₂, m₄, ⟨_, _, hsel⟩, hfetch, fun _ => (populatePaths_gives hpopulate).aside hafter⟩
  · rw [if_neg hp] at hmore
    obtain ⟨rfl, rfl⟩ := Gives.pure_iff.mp hmore
    refine ⟨sel, m₂, m₃, ⟨_, _, hsel⟩, hfetch, ?_⟩
    intro hne
    have hnil : populate = [] := by
      have hroots : roots.isEmpty = false := List.isEmpty_eq_false_iff.mpr hne
      simpa [hroots] using hp
    subst hnil
    have hloads : ((parentsFirst []).map fun path => Load.mk path .null fields) = [] := by
      simp [parentsFirst, distinct]
    rw [hloads]
    exact (Loaded.done rfl).aside hafter

end Repository

end EntityViews
