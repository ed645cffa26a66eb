import EntityViews.Proofs.Levels

/-!
The keys of records while the relations of a view are loaded and its annotators run. A load gives the records at one trail
one key more, and an annotator does so too; all other records stay as they are. Main statement: after the loads of a plan
the records along each trail have the keys of the level there.
-/

namespace EntityViews

open Sql

/-- Whether the records along the loaded trails have what the levels of a view get, and under the known trails one key more,
the last of the trail; and whether relations lead to what they should. -/
structure Store.Shaped (s : Store) (roots : List Node) (levels : Trail → Option Level) (done known : List Trail) :
    Prop where
  settled : s.Settled roots (fun _ _ => True) done
  keys : ∀ t ∈ done, ∀ l, levels t = some l → ∀ id, s.Reached roots t id →
    s.HasKeys id fun name => l.Gets name ∨ name :: t ∈ known
  values : ∀ key t, key :: t ∈ done → ∀ l link, levels (key :: t) = some l → l.link = some link →
    ∀ id, s.Reached roots t id → ∃ n, s.get? id (.text key) = some n ∧ link.Holds n

namespace Store

variable {s t : Store} {roots found : List Node} {levels : Trail → Option Level} {done known : List Trail} {key : String}
  {above : Trail} {P : String → Prop} {V : Node → Prop}

/-- One more load: the records at the trail above it get the key, and the records that are new have those of their level. -/
theorem Shaped.load (h : s.Shaped roots levels done done) (habove : above ∈ done) (hnew : key :: above ∉ done)
    (hfound : ∀ id, Node.record id ∈ found ↔ s.Reached roots above id) (hprovides : s.Provides t found key P V)
    (hP : ∀ l, levels (key :: above) = some l → ∀ name, P name ↔ l.Gets name)
    (hV : ∀ l link, levels (key :: above) = some l → l.link = some link → ∀ n, V n → link.Holds n) :
    t.Shaped roots levels ((key :: above) :: done) ((key :: above) :: done) := by
  have hs := h.settled
  have hattaches := hprovides.attaches
  have hreached := hs.reached_iff habove hnew (fun id => (hfound id).mp) hattaches
  -- Of the records that were there nothing has to be shown again, so that they are settled for whatever is said of the new trail.
  have hsettled : t.Settled roots (fun u id => u = key :: above → s.New t id ∧ t.HasKeys id P) ((key :: above) :: done) := by
    have hs' : s.Settled roots (fun u _ => u ≠ key :: above) done := by
      refine ⟨hs.records, hs.start, hs.closed, hs.bounded, hs.apart, ?_⟩
      intro k u hu id hid
      obtain ⟨n, hn, hl⟩ := hs.leads k u hu id hid
      exact ⟨n, hn, hl.mono fun _ _ he => hnew (he ▸ hu)⟩
    exact hs'.load habove hnew hfound hattaches (fun id hid => ⟨hid.1, fun _ => hid⟩) fun u id hne he => absurd he hne
  refine ⟨hsettled.of_same (Nat.le_refl _) (fun _ _ _ _ _ => rfl) fun _ _ _ => trivial, ?_, ?_⟩
  · intro u hu l hl id hid
    by_cases hlast : u = key :: above
    · -- The new records have what they were loaded with; nothing was loaded onto them yet.
      subst hlast
      obtain ⟨_, hkeys⟩ := hsettled.good List.mem_cons_self hid rfl
      refine HasNames.congr hkeys fun name => ?_
      rw [hP l hl]
      refine (or_iff_left ?_).symm
      intro hm
      rcases List.mem_cons.mp hm with he | hm
      · have hlen := congrArg List.length he
        simp at hlen
      · exact hnew (hs.closed _ hm)
    · have hold : u ∈ done := (List.mem_cons.mp hu).resolve_left hlast
      have hid' := (hreached u hold id).mp hid
      have hlt := hs.bounded u hold id hid'
      have hkeys := h.keys u hold l hl id hid'
      by_cases habove' : u = above
      · subst habove'
        have hin : Node.record id ∈ found := (hfound id).mpr hid'
        obtain ⟨n, hn, _⟩ := hprovides.values id hin
        have hmore := hprovides.extended.touched_one hlt (fun name ht => ht.1) (by rw [hn]; rfl) hkeys
        refine HasNames.congr hmore fun name => ?_
        rw [or_assoc, List.mem_cons, List.cons.injEq]
        simp [or_comm]
      · -- Records along other trails are none of those that the load is for.
        have hout : Node.record id ∉ found := fun hin => habove' (hs.apart u hold above habove id hid' ((hfound id).mp hin))
        refine HasNames.congr (hprovides.extended.untouched hlt (fun name ht => hout ht.2) hkeys) fun name => ?_
        rw [List.mem_cons, List.cons.injEq]
        simp [habove']
  · intro k u hu l link hl hlink id hid
    rcases List.mem_cons.mp hu with he | hu
    · cases he
      obtain ⟨n, hn, hv⟩ := hprovides.values id ((hfound id).mpr ((hreached above habove id).mp hid))
      exact ⟨n, hn, hV l link hl hlink n hv⟩
    · have hid' := (hreached u (hs.closed _ hu) id).mp hid
      obtain ⟨n, hn, hv⟩ := h.values k u hu l link hl hlink id hid'
      exact ⟨n, (hs.get?_eq habove hnew (fun id => (hfound id).mp) hattaches hu hid').trans hn, hv⟩

/-- A trail that starts where nothing is has nothing to be loaded. -/
theorem Shaped.skip (h : s.Shaped roots levels done done) (habove : above ∈ done)
    (hnone : ∀ id, ¬s.Reached roots above id) : s.Shaped roots levels ((key :: above) :: done) ((key :: above) :: done) := by
  have hempty : ∀ id, ¬s.Reached roots (key :: above) id := by
    intro id hid
    obtain ⟨parent, hparent, _⟩ := reached_cons.mp hid
    exact hnone parent hparent
  refine ⟨h.settled.skip habove hnone, ?_, ?_⟩
  · intro u hu l hl id hid
    rcases List.mem_cons.mp hu with rfl | hu
    · exact absurd hid (hempty id)
    · refine HasNames.congr (h.keys u hu l hl id hid) fun name => or_congr_right ?_
      refine (List.mem_cons.trans (or_iff_right ?_)).symm
      intro he
      cases he
      exact hnone id hid
  · intro k u hu l link hl hlink id hid
    rcases List.mem_cons.mp hu with he | hu
    · cases he
      exact absurd hid (hnone id)
    · exact h.values k u hu l link hl hlink id hid

/-- An annotator gives the records at one trail its field, which no relation has there. -/
theorem Shaped.annotate {field : String} {u : Trail} (h : s.Shaped roots levels done known) (hu : u ∈ done)
    (hfield : field :: u ∉ done) (hfound : ∀ id, Node.record id ∈ found ↔ s.Reached roots u id)
    (hkeeps : s.Keeps (fun i other => other = field ∧ .record i ∈ found) t)
    (hextends : s.Extends (fun i other => other = field ∧ .record i ∈ found) t)
    (hset : ∀ id, Node.record id ∈ found → id < s.records.size → (t.get? id (.text field)).isSome = true) :
    t.Shaped roots levels done ((field :: u) :: known) := by
  have hs := h.settled
  have hsame : ∀ k v, k :: v ∈ done → ∀ id, s.Reached roots v id → t.get? id (.text k) = s.get? id (.text k) := by
    intro k v hv id hid
    have hv' : v ∈ done := hs.closed _ hv
    refine hkeeps.2 id (hs.bounded v hv' id hid) k ?_
    rintro ⟨rfl, hin⟩
    exact hfield (hs.apart v hv' u hu id hid ((hfound id).mp hin) ▸ hv)
  -- No relation was loaded under the name of the field there, so that everything is reached as before.
  have hreached := reached_congr hs.closed hsame
  refine ⟨hs.of_same hkeeps.1 hsame fun _ _ _ => trivial, ?_, ?_⟩
  · intro v hv l hl id hid
    have hid' := (hreached v hv id).mp hid
    have hlt := hs.bounded v hv id hid'
    have hkeys := h.keys v hv l hl id hid'
    by_cases hvu : v = u
    · subst hvu
      have hin := (hfound id).mpr hid'
      refine HasNames.congr (hextends.touched_one hlt (fun name ht => ht.1) (hset id hin hlt) hkeys) fun name => ?_
      rw [or_assoc, List.mem_cons, List.cons.injEq]
      simp [or_comm]
    · have hout : Node.record id ∉ found := fun hin => hvu (hs.apart v hv u hu id hid' ((hfound id).mp hin))
      refine HasNames.congr (hextends.untouched hlt (fun name ht => hout ht.2) hkeys) fun name => ?_
      rw [List.mem_cons, List.cons.injEq]
      simp [hvu]
  · intro k v hv l link hl hlink id hid
    have hid' := (hreached v (hs.closed _ hv) id).mp hid
    obtain ⟨n, hn, hholds⟩ := h.values k v hv l link hl hlink id hid'
    exact ⟨n, (hsame k v hv id hid').trans hn, hholds⟩

end Store

namespace Repository

variable {δ : Type} [Engine δ] {s : Schema} {graph : Graph} {root : Level} {roots : List Node} {done : List Trail}
  {w w' : World δ}

/-- Whether a load is for the level at a trail, with the fields that this wants. -/
def Serves (s : Schema) (graph : Graph) (root : Level) (load : Load) (t : Trail) : Prop :=
  load.path = t.path ∧ ∃ l, Level.at? s graph root t = some l ∧
    ∀ name, name ∈ fieldsUnder load.fields load.path ↔ l.Wants name

/-- To populate a path gives its records the shape of their level and keeps the shape of all others. -/
theorem populatePath_shaped (labelled : Labelled δ) {load : Load} {key : String} {above : Trail} {u : PUnit}
    (hproper : Trail.Proper (key :: above)) (hload : Serves s graph root load (key :: above)) (habove : above ∈ done)
    (hnew : key :: above ∉ done) (hs : w.store.Shaped roots (Level.at? s graph root) done done)
    (h : Gives (populatePath s root.entity.name roots (some load.fields) load.filter load.path) w u w') :
    w'.store.Shaped roots (Level.at? s graph root) ((key :: above) :: done) ((key :: above) :: done) := by
  obtain ⟨hpath, l, hl, hwants⟩ := hload
  rw [hpath] at h hwants
  obtain ⟨parent, found, hentity, _, hmem, ⟨rfl, rfl⟩ | ⟨out, hout⟩⟩ := populatePath_parts hproper habove hs.settled h
  · refine hs.skip habove ?_
    intro id hid
    cases (hmem id).mpr hid
  · have hbounded : ∀ i, .record i ∈ found → i < w.store.records.size :=
      fun i hi => hs.settled.bounded above habove i ((hmem i).mp hi)
    obtain ⟨relation, target, hrelation, htarget, hprovides⟩ := Loader.load_provides labelled hbounded hout
    obtain ⟨sources, view, rfl⟩ := Level.eq_of_relation hl (hentity "") hrelation htarget
    refine hs.load habove hnew hmem hprovides ?_ ?_
    · intro l' hl' name
      obtain rfl := Option.some.inj (hl.symm.trans hl')
      exact Level.gets_iff hwants name
    · intro l' link hl' hlink n hn
      obtain rfl := Option.some.inj (hl.symm.trans hl')
      obtain rfl := Option.some.inj hlink
      exact hn

/-- Loads for levels of a view, each after the one above it, give the records along each trail the keys of its level. -/
theorem Loaded.shaped (labelled : Labelled δ) (ts : List Trail) {ls : List Load}
    (hls : ls.map (·.path) = ts.map Trail.path) (hts : Upcoming done ts)
    (hserves : ∀ load ∈ ls, ∃ t, Trail.Proper t ∧ Serves s graph root load t) (hs : w.store.Shaped roots (Level.at? s graph root) done done)
    (h : Loaded s root.entity.name roots ls w w') :
    w'.store.Shaped roots (Level.at? s graph root) (ts.reverse ++ done) (ts.reverse ++ done) := by
  refine h.induct (Q := fun known store => store.Shaped roots (Level.at? s graph root) known known) ts hls hts ?_ hs
  intro load hload key above hmem hpath known m m' habove hunknown hknown hg
  obtain ⟨hp, _⟩ := hts.proper _ hmem
  obtain ⟨t, ht, hserve⟩ := hserves load hload
  obtain rfl := Trail.path_injective hp ht (hpath.symm.trans hserve.1)
  exact populatePath_shaped labelled hp hserve habove hunknown hknown hg

end Repository

end EntityViews
