import EntityViews.Proofs.Loading
import EntityViews.Proofs.Schedule

/-!
The records that are reached from some roots. Loads are done one after the other, each onto records that earlier ones
attached; what was attached under one trail stays as it is when another one is loaded.
-/

namespace EntityViews

namespace Store

def LeadsTo (s : Store) (id : Nat) (key : String) (other : Nat) : Prop :=
  ∃ n, s.get? id (.text key) = some n ∧ (n = .record other ∨ ∃ items, n = .list items ∧ Node.record other ∈ items)

inductive Reached (s : Store) (roots : List Node) : Trail → Nat → Prop
  | root {id : Nat} : Node.record id ∈ roots → Reached s roots [] id
  | step {t : Trail} {key : String} {id other : Nat} :
    Reached s roots t id → s.LeadsTo id key other → Reached s roots (key :: t) other

theorem reached_nil {s : Store} {roots : List Node} {id : Nat} : s.Reached roots [] id ↔ Node.record id ∈ roots := by
  constructor
  · intro h
    cases h
    assumption
  · exact .root

/-- What is reached along a longer trail is led to by what is reached along the shorter one. -/
theorem reached_cons {s : Store} {roots : List Node} {t : Trail} {key : String} {other : Nat} :
    s.Reached roots (key :: t) other ↔ ∃ id, s.Reached roots t id ∧ s.LeadsTo id key other := by
  constructor
  · intro h
    cases h with
    | step h hl => exact ⟨_, h, hl⟩
  · rintro ⟨id, h, hl⟩
    exact .step h hl

/-- Without roots nothing is reached. -/
theorem not_reached_nil (s : Store) (t : Trail) (id : Nat) : ¬s.Reached [] t id := by
  induction t generalizing id with
  | nil => exact fun h => List.not_mem_nil (reached_nil.mp h)
  | cons key above ih =>
    intro h
    obtain ⟨parent, hparent, _⟩ := reached_cons.mp h
    exact ih parent hparent

end Store

theorem Node.Leads.of_leadsTo {P : Nat → Prop} {s : Store} {id other : Nat} {key : String} {n : Node} (hn : n.Leads P)
    (hget : s.get? id (.text key) = some n) (h : s.LeadsTo id key other) : P other := by
  obtain ⟨m, hm, hleads⟩ := h
  cases hget.symm.trans hm
  rcases hleads with rfl | ⟨items, rfl, hmem⟩
  · cases hn
    assumption
  · cases hn with
    | many h =>
      obtain ⟨i, hi, he⟩ := List.mem_map.mp hmem
      exact Node.record.inj he ▸ h i hi

/-- Some trails have been loaded: each record on the way leads to records of a kind of its own, and no record is reached
along two of the trails. -/
structure Store.Settled (s : Store) (roots : List Node) (Good : Trail → Nat → Prop) (done : List Trail) : Prop where
  records : ∀ n ∈ roots, ∃ id, n = .record id
  start : [] ∈ done
  closed : ∀ t ∈ done, t.tail ∈ done
  bounded : ∀ t ∈ done, ∀ id, s.Reached roots t id → id < s.records.size
  apart : ∀ t ∈ done, ∀ u ∈ done, ∀ id, s.Reached roots t id → s.Reached roots u id → t = u
  leads : ∀ key t, key :: t ∈ done → ∀ id, s.Reached roots t id →
    ∃ n, s.get? id (.text key) = some n ∧ n.Leads (Good (key :: t))

theorem Store.Settled.good {s : Store} {roots : List Node} {Good : Trail → Nat → Prop} {done : List Trail}
    (h : s.Settled roots Good done) {key : String} {t : Trail} {id : Nat} (hdone : key :: t ∈ done)
    (hid : s.Reached roots (key :: t) id) : Good (key :: t) id := by
  obtain ⟨parent, hparent, hleads⟩ := Store.reached_cons.mp hid
  obtain ⟨n, hget, hn⟩ := h.leads key t hdone parent hparent
  exact hn.of_leadsTo hget hleads

section Load

variable {s t : Store} {roots found : List Node} {Good Good' : Trail → Nat → Prop} {done : List Trail} {P : Nat → Prop}
  {key : String} {above : Trail}

theorem Trail.mem_of_append (hclosed : ∀ u ∈ done, u.tail ∈ done) (keys : List String) {t : Trail}
    (h : keys ++ t ∈ done) : t ∈ done := by
  induction keys with
  | nil => exact h
  | cons key keys ih => exact ih (hclosed _ h)

/-- When the keys on the way lead where they led, the same records are reached. -/
theorem Store.reached_congr (hclosed : ∀ u ∈ done, u.tail ∈ done)
    (hget : ∀ k u, k :: u ∈ done → ∀ id, s.Reached roots u id → t.get? id (.text k) = s.get? id (.text k)) :
    ∀ u ∈ done, ∀ id, t.Reached roots u id ↔ s.Reached roots u id := by
  intro u
  induction u with
  | nil =>
    intro _ id
    rw [reached_nil, reached_nil]
  | cons k u ih =>
    intro hu id
    have hu' : u ∈ done := hclosed _ hu
    rw [reached_cons, reached_cons]
    constructor
    · rintro ⟨parent, hparent, n, hn, hleads⟩
      have hp := (ih hu' parent).mp hparent
      exact ⟨parent, hp, n, (hget k u hu parent hp).symm.trans hn, hleads⟩
    · rintro ⟨parent, hparent, n, hn, hleads⟩
      exact ⟨parent, (ih hu' parent).mpr hparent, n, (hget k u hu parent hparent).trans hn, hleads⟩

/-- The key of a load is set at the end of its own trail only. -/
theorem Store.Settled.get?_eq (h : s.Settled roots Good done) (habove : above ∈ done) (hnew : key :: above ∉ done)
    (hfound : ∀ id, Node.record id ∈ found → s.Reached roots above id) (hattaches : s.Attaches t found key P)
    {k : String} {u : Trail} (hu : k :: u ∈ done) {id : Nat} (hid : s.Reached roots u id) :
    t.get? id (.text k) = s.get? id (.text k) := by
  have hu' : u ∈ done := h.closed _ hu
  refine hattaches.keeps.2 id (h.bounded u hu' id hid) k ?_
  rintro ⟨rfl, hmem⟩
  -- A record that gets the key is reached along the trail of the load, hence along no other one.
  have he := h.apart u hu' above habove id hid (hfound id hmem)
  exact hnew (he ▸ hu)

/-- What is reached along the loaded trails is not changed by loading a further one. -/
theorem Store.Settled.reached_iff (h : s.Settled roots Good done) (habove : above ∈ done) (hnew : key :: above ∉ done)
    (hfound : ∀ id, Node.record id ∈ found → s.Reached roots above id) (hattaches : s.Attaches t found key P) :
    ∀ u ∈ done, ∀ id, t.Reached roots u id ↔ s.Reached roots u id :=
  reached_congr h.closed fun _ _ hu _ hid => h.get?_eq habove hnew hfound hattaches hu hid

structure Store.Stays (s t : Store) (roots : List Node) (done : List Trail) : Prop where
  keeps : s.Keeps (fun _ name => name ≠ "id") t
  same : ∀ k u, k :: u ∈ done → ∀ id, s.Reached roots u id → t.get? id (.text k) = s.get? id (.text k)

theorem Store.Stays.refl (s : Store) (roots : List Node) (done : List Trail) : s.Stays s roots done :=
  ⟨.refl s, fun _ _ _ _ _ => rfl⟩

theorem Store.Stays.mono {done' : List Trail} (h : s.Stays t roots done) (hd : ∀ u ∈ done', u ∈ done) :
    s.Stays t roots done' :=
  ⟨h.keeps, fun k u hu => h.same k u (hd _ hu)⟩

theorem Store.Stays.trans {r : Store} (hclosed : ∀ u ∈ done, u.tail ∈ done) (h : s.Stays t roots done)
    (h' : t.Stays r roots done) : s.Stays r roots done := by
  refine ⟨h.keeps.trans h'.keeps, ?_⟩
  intro k u hu id hid
  have hreached := (reached_congr hclosed h.same u (hclosed _ hu) id).mpr hid
  rw [h'.same k u hu id hreached, h.same k u hu id hid]

theorem Store.Settled.stays (h : s.Settled roots Good done) (habove : above ∈ done) (hnew : key :: above ∉ done)
    (hfound : ∀ id, Node.record id ∈ found → s.Reached roots above id) (hkey : key ≠ "id")
    (hattaches : s.Attaches t found key P) : s.Stays t roots done := by
  refine ⟨hattaches.keeps.mono ?_, fun k u hu id hid => h.get?_eq habove hnew hfound hattaches hu hid⟩
  rintro i name ⟨rfl, _⟩
  exact hkey

/-- Loading one more relation below a trail that was loaded settles the new trail too. -/
theorem Store.Settled.load (h : s.Settled roots Good done) (habove : above ∈ done) (hnew : key :: above ∉ done)
    (hfound : ∀ id, Node.record id ∈ found ↔ s.Reached roots above id) (hattaches : s.Attaches t found key P)
    (hP : ∀ id, P id → s.New t id ∧ Good' (key :: above) id) (hkept : ∀ u id, Good u id → Good' u id) :
    t.Settled roots Good' ((key :: above) :: done) := by
  -- Nothing changes along the trails that were loaded before; the new trail leads to new records only.
  have hreached := h.reached_iff habove hnew (fun id => (hfound id).mp) hattaches
  have hleads : ∀ id, t.Reached roots above id → ∃ n, t.get? id (.text key) = some n ∧ n.Leads P := by
    intro id hid
    have hs := (hreached above habove id).mp hid
    exact hattaches.leads id ((hfound id).mpr hs) (h.bounded above habove id hs)
  have hfresh : ∀ id, t.Reached roots (key :: above) id → P id := by
    intro id hid
    obtain ⟨parent, hparent, hl⟩ := reached_cons.mp hid
    obtain ⟨n, hn, hP⟩ := hleads parent hparent
    exact hP.of_leadsTo hn hl
  have hold : ∀ u ∈ done, ∀ id, t.Reached roots u id → id < s.records.size := by
    intro u hu id hid
    exact h.bounded u hu id ((hreached u hu id).mp hid)
  -- New records have ids from the end of the old store on, which no trail before leads to.
  have hapart : ∀ u ∈ done, ∀ id, t.Reached roots u id → ¬t.Reached roots (key :: above) id := by
    intro u hu id hid hid'
    have hlt := hold u hu id hid
    have hge := (hP id (hfresh id hid')).1.1
    omega
  refine ⟨h.records, List.mem_cons_of_mem _ h.start, ?_, ?_, ?_, ?_⟩
  · intro u hu
    rcases List.mem_cons.mp hu with rfl | hu
    · exact List.mem_cons_of_mem _ habove
    · exact List.mem_cons_of_mem _ (h.closed u hu)
  · intro u hu id hid
    rcases List.mem_cons.mp hu with rfl | hu
    · exact (hP id (hfresh id hid)).1.2
    · exact Nat.lt_of_lt_of_le (hold u hu id hid) hattaches.keeps.1
  · intro u hu v hv id hid hid'
    rcases List.mem_cons.mp hu with rfl | hu
    · rcases List.mem_cons.mp hv with rfl | hv
      · rfl
      · exact absurd hid (hapart v hv id hid')
    · rcases List.mem_cons.mp hv with rfl | hv
      · exact absurd hid' (hapart u hu id hid)
      · exact h.apart u hu v hv id ((hreached u hu id).mp hid) ((hreached v hv id).mp hid')
  · intro k u hu id hid
    rcases List.mem_cons.mp hu with he | hu
    · cases he
      obtain ⟨n, hn, hl⟩ := hleads id hid
      exact ⟨n, hn, hl.mono fun j hj => (hP j hj).2⟩
    · have hs := (hreached u (h.closed _ hu) id).mp hid
      obtain ⟨n, hn, hl⟩ := h.leads k u hu id hs
      rw [h.get?_eq habove hnew (fun id => (hfound id).mp) hattaches hu hs]
      exact ⟨n, hn, hl.mono (hkept _)⟩

/-- A trail that starts where nothing is has nothing to be loaded. -/
theorem Store.Settled.skip (h : s.Settled roots Good done) (habove : above ∈ done)
    (hnone : ∀ id, ¬s.Reached roots above id) : s.Settled roots Good ((key :: above) :: done) := by
  have hempty : ∀ id, ¬s.Reached roots (key :: above) id := by
    intro id hid
    obtain ⟨parent, hparent, _⟩ := reached_cons.mp hid
    exact hnone parent hparent
  -- Nothing is reached along the new trail, so that what has to be shown of its records is shown of none.
  refine ⟨h.records, List.mem_cons_of_mem _ h.start, ?_, ?_, ?_, ?_⟩
  · intro u hu
    rcases List.mem_cons.mp hu with rfl | hu
    · exact List.mem_cons_of_mem _ habove
    · exact List.mem_cons_of_mem _ (h.closed u hu)
  · intro u hu id hid
    rcases List.mem_cons.mp hu with rfl | hu
    · exact absurd hid (hempty id)
    · exact h.bounded u hu id hid
  · intro u hu v hv id hid hid'
    rcases List.mem_cons.mp hu with rfl | hu
    · exact absurd hid (hempty id)
    rcases List.mem_cons.mp hv with rfl | hv
    · exact absurd hid' (hempty id)
    · exact h.apart u hu v hv id hid hid'
  · intro k u hu id hid
    rcases List.mem_cons.mp hu with he | hu
    · cases he
      exact absurd hid (hnone id)
    · exact h.leads k u hu id hid

/-- Work that touches neither ids nor the keys on the way leaves these as they are. -/
theorem Store.Settled.stays_of_keeps {touched : Nat → String → Prop} (h : s.Settled roots Good done)
    (hk : s.Keeps touched t) (hid : ∀ i, ¬touched i "id") (hkeys : ∀ k u, k :: u ∈ done → ∀ i, ¬touched i k) :
    s.Stays t roots done := by
  refine ⟨hk.mono ?_, fun k u hu id hr => hk.2 id (h.bounded u (h.closed _ hu) id hr) k (hkeys k u hu id)⟩
  rintro i name ht rfl
  exact hid i ht

/-- What is settled stays so as long as the keys on the way lead where they led. -/
theorem Store.Settled.of_same (h : s.Settled roots Good done) (hsize : s.records.size ≤ t.records.size)
    (hsame : ∀ k u, k :: u ∈ done → ∀ id, s.Reached roots u id → t.get? id (.text k) = s.get? id (.text k))
    (hkept : ∀ u id, Good u id → Good' u id) : t.Settled roots Good' done := by
  have hreached := Store.reached_congr h.closed hsame
  refine ⟨h.records, h.start, h.closed, ?_, ?_, ?_⟩
  · intro u hu id hid
    exact Nat.lt_of_lt_of_le (h.bounded u hu id ((hreached u hu id).mp hid)) hsize
  · intro u hu v hv id hid hid'
    exact h.apart u hu v hv id ((hreached u hu id).mp hid) ((hreached v hv id).mp hid')
  · intro k u hu id hid
    have hr := (hreached u (h.closed _ hu) id).mp hid
    obtain ⟨n, hn, hl⟩ := h.leads k u hu id hr
    exact ⟨n, (hsame k u hu id hr).trans hn, hl.mono (hkept _)⟩

theorem Store.Settled.of_stays (h : s.Settled roots Good done) (hs : s.Stays t roots done)
    (hkept : ∀ u id, Good u id → Good' u id) : t.Settled roots Good' done :=
  h.of_same hs.keeps.1 hs.same hkept

end Load

namespace Store

variable {s : Store}

/-- To go along one more key is to go along it from everything reached so far. -/
theorem reachAll_concat (s : Store) (records : List Node) (keys : List String) (key : String) :
    s.reachAll records (keys ++ [key]) =
      (s.reachAll records keys >>= fun nodes => nodes.mapM (s.reach key) >>= fun found => .ok found.flatten) := by
  induction keys generalizing records with
  | nil => rfl
  | cons k keys ih =>
    rw [List.cons_append, reachAll, reachAll]
    cases records.mapM (s.reach k) with
    | error e => rfl
    | ok found => exact ih found.flatten

theorem mem_foldl_of_step {f : List Node → Node → List Node} {P : Node → Prop}
    (hfrom : ∀ seen m, ∀ n ∈ f seen m, n ∈ seen ∨ n = m) (hkeep : ∀ seen m, ∀ n ∈ seen, n ∈ f seen m)
    (hadd : ∀ seen m, P m → m ∈ f seen m) (nodes : List Node) (n : Node) :
    ∀ seen, (n ∈ nodes.foldl f seen → n ∈ seen ∨ n ∈ nodes) ∧ (n ∈ seen ∨ P n ∧ n ∈ nodes → n ∈ nodes.foldl f seen) := by
  induction nodes with
  | nil =>
    intro seen
    refine ⟨Or.inl, ?_⟩
    rintro (h | ⟨_, h⟩)
    · exact h
    · cases h
  | cons m rest ih =>
    intro seen
    obtain ⟨hto, hof⟩ := ih (f seen m)
    constructor
    · intro h
      rcases hto h with h | h
      · rcases hfrom seen m n h with h | rfl
        · exact Or.inl h
        · exact Or.inr List.mem_cons_self
      · exact Or.inr (List.mem_cons_of_mem _ h)
    · rintro (h | ⟨hP, h⟩)
      · exact hof (Or.inl (hkeep seen m n h))
      · rcases List.mem_cons.mp h with rfl | h
        · exact hof (Or.inl (hadd seen n hP))
        · exact hof (Or.inr ⟨hP, h⟩)

/-- Taking records once each loses none of them. -/
theorem mem_distinctRecords (nodes : List Node) (n : Node) :
    (n ∈ distinctRecords nodes → n ∈ nodes) ∧ ((∃ id, n = .record id) → n ∈ nodes → n ∈ distinctRecords nodes) := by
  suffices hrun : (n ∈ distinctRecords nodes → n ∈ [] ∨ n ∈ nodes) ∧
      (n ∈ [] ∨ (∃ id, n = .record id) ∧ n ∈ nodes → n ∈ distinctRecords nodes) by
    refine ⟨fun h => (hrun.1 h).resolve_left List.not_mem_nil, ?_⟩
    intro hid h
    exact hrun.2 (Or.inr ⟨hid, h⟩)
  refine mem_foldl_of_step (P := fun n => ∃ id, n = .record id) ?_ ?_ ?_ nodes n []
  · intro seen m n hn
    have happend : n ∈ seen ++ [m] → n ∈ seen ∨ n = m := by
      rw [List.mem_append, List.mem_singleton]
      exact id
    split at hn
    · split at hn
      · exact Or.inl hn
      · exact happend hn
    · exact happend hn
  · intro seen m n hn
    split
    · split
      · exact hn
      · exact List.mem_append_left _ hn
    · exact List.mem_append_left _ hn
  · rintro seen _ ⟨id, rfl⟩
    dsimp only
    split
    · rename_i hany
      obtain ⟨m, hm, he⟩ := List.any_eq_true.mp hany
      cases m with
      | record k => rwa [← beq_iff_eq.mp he]
      | _ => cases he
    · exact List.mem_append_right _ (List.mem_singleton_self _)

/-- From a record that leads somewhere by a key exactly what it leads to is reached. -/
theorem reach_ok {P : Nat → Prop} {id : Nat} {key : String} {n : Node} (hget : s.get? id (.text key) = some n)
    (hn : n.Leads P) : ∃ found, s.reach key (.record id) = .ok found ∧ (∀ m ∈ found, ∃ other, m = .record other) ∧
      ∀ other, Node.record other ∈ found ↔ s.LeadsTo id key other := by
  have hask : s.ask (.record id) key = .ok (some n) := congrArg Except.ok hget
  -- Following a key flattens what is there; by kind that is nothing, one record, or the items of a list.
  have hleads : ∀ other, s.LeadsTo id key other ↔
      n = .record other ∨ ∃ items, n = .list items ∧ Node.record other ∈ items := by
    intro other
    constructor
    · rintro ⟨m, hm, h⟩
      cases hget.symm.trans hm
      exact h
    · exact fun h => ⟨n, hget, h⟩
  cases hn with
  | nothing =>
    refine ⟨[], ?_, nofun, ?_⟩
    · rw [reach, hask]
      rfl
    · intro other
      rw [hleads]
      simp
  | one h =>
    rename_i other
    refine ⟨[.record other], ?_, ?_, ?_⟩
    · rw [reach, hask]
      rfl
    · intro m hm
      exact ⟨other, List.mem_singleton.mp hm⟩
    · intro i
      rw [hleads, List.mem_singleton]
      simp [eq_comm]
  | many h =>
    rename_i ids
    refine ⟨ids.map .record, ?_, ?_, ?_⟩
    · rw [reach, hask]
      rfl
    · intro m hm
      obtain ⟨i, _, rfl⟩ := List.mem_map.mp hm
      exact ⟨i, rfl⟩
    · intro i
      rw [hleads]
      simp

/-- From several records just what one of them leads to is reached. -/
theorem mapM_reach_ok {P : Nat → Prop} {key : String} (nodes : List Node)
    (h : ∀ n ∈ nodes, ∃ id m, n = .record id ∧ s.get? id (.text key) = some m ∧ m.Leads P) :
    ∃ found, nodes.mapM (s.reach key) = .ok found ∧ (∀ m ∈ found.flatten, ∃ other, m = .record other) ∧
      ∀ other, Node.record other ∈ found.flatten ↔ ∃ id, Node.record id ∈ nodes ∧ s.LeadsTo id key other := by
  induction nodes with
  | nil => exact ⟨[], rfl, nofun, by simp⟩
  | cons n rest ih =>
    obtain ⟨id, m, rfl, hget, hm⟩ := h n List.mem_cons_self
    obtain ⟨first, hfirst, hrecords, hmem⟩ := reach_ok hget hm
    obtain ⟨found, hfound, hrecords', hmem'⟩ := ih fun k hk => h k (List.mem_cons_of_mem _ hk)
    refine ⟨first :: found, ?_, ?_, ?_⟩
    · rw [List.mapM_cons, hfirst, hfound]
      rfl
    · intro k hk
      rcases List.mem_append.mp hk with hk | hk
      · exact hrecords k hk
      · exact hrecords' k hk
    · intro other
      rw [List.flatten_cons, List.mem_append, hmem, hmem']
      constructor
      · rintro (h | ⟨i, hi, h⟩)
        · exact ⟨id, List.mem_cons_self, h⟩
        · exact ⟨i, List.mem_cons_of_mem _ hi, h⟩
      · rintro ⟨i, hi, h⟩
        rcases List.mem_cons.mp hi with he | hi
        · exact Or.inl (Node.record.inj he ▸ h)
        · exact Or.inr ⟨i, hi, h⟩

/-- Along a settled trail records are reached, and exactly those that are reached by the definition. -/
theorem Settled.reachAll_ok {roots : List Node} {Good : Trail → Nat → Prop} {done : List Trail}
    (h : s.Settled roots Good done) : ∀ t ∈ done, ∃ nodes, s.reachAll roots t.reverse = .ok nodes ∧
      (∀ n ∈ nodes, ∃ id, n = .record id) ∧ ∀ id, Node.record id ∈ nodes ↔ s.Reached roots t id := by
  intro t
  induction t with
  | nil =>
    intro _
    exact ⟨roots, rfl, h.records, fun id => reached_nil.symm⟩
  | cons key t ih =>
    intro ht
    obtain ⟨nodes, hnodes, hrecords, hmem⟩ := ih (h.closed _ ht)
    -- What is reached along the shorter trail has the key, since the longer one was loaded.
    have hleads : ∀ n ∈ nodes, ∃ id m, n = .record id ∧ s.get? id (.text key) = some m ∧ m.Leads (Good (key :: t)) := by
      intro n hn
      obtain ⟨id, rfl⟩ := hrecords n hn
      obtain ⟨m, hget, hm⟩ := h.leads key t ht id ((hmem id).mp hn)
      exact ⟨id, m, rfl, hget, hm⟩
    obtain ⟨found, hfound, hrecords', hmem'⟩ := mapM_reach_ok nodes hleads
    refine ⟨found.flatten, ?_, hrecords', ?_⟩
    · rw [List.reverse_cons, reachAll_concat, hnodes]
      change (nodes.mapM (s.reach key) >>= _) = _
      rw [hfound]
      rfl
    · intro id
      rw [hmem', reached_cons]
      constructor
      · rintro ⟨i, hi, hl⟩
        exact ⟨i, (hmem i).mp hi, hl⟩
      · rintro ⟨i, hi, hl⟩
        exact ⟨i, (hmem i).mpr hi, hl⟩

/-- The records at the path of a loaded trail are those that are reached along it. -/
theorem Settled.recordsAt_ok {roots : List Node} {Good : Trail → Nat → Prop} {done : List Trail}
    (h : s.Settled roots Good done) {t : Trail} (ht : t ∈ done) (hproper : t.Proper) :
    ∃ found, s.recordsAt roots t.path = .ok found ∧ (∀ n ∈ found, ∃ id, n = .record id) ∧
      ∀ id, Node.record id ∈ found ↔ s.Reached roots t id := by
  obtain ⟨nodes, hnodes, hrecords, hmem⟩ := h.reachAll_ok t ht
  refine ⟨distinctRecords nodes, ?_, ?_, ?_⟩
  · rw [recordsAt]
    by_cases hne : t = []
    · subst hne
      cases hnodes
      rfl
    · rw [if_neg fun he => hne ((Trail.path_eq_empty_iff hproper).mp he), Trail.segments_path hproper hne, hnodes]
      rfl
  · intro n hn
    exact hrecords n ((mem_distinctRecords nodes n).1 hn)
  · intro id
    rw [← hmem]
    exact ⟨(mem_distinctRecords nodes _).1, (mem_distinctRecords nodes _).2 ⟨id, rfl⟩⟩

theorem mapM_congr_of_mem {α β : Type} {f g : α → Except Fault β} {xs : List α} (h : ∀ x ∈ xs, f x = g x) :
    xs.mapM f = xs.mapM g := by
  induction xs with
  | nil => rfl
  | cons x xs ih =>
    rw [List.mapM_cons, List.mapM_cons, h x List.mem_cons_self, ih fun y hy => h y (List.mem_cons_of_mem _ hy)]

/-- What is found at the path of a settled trail is the same as long as the keys on the way stay. -/
theorem Settled.recordsAt_eq {r : Store} {roots : List Node} {Good : Trail → Nat → Prop} {done : List Trail}
    (h : s.Settled roots Good done) (hs : s.Stays r roots done) {t : Trail} (ht : t ∈ done) (hproper : t.Proper) :
    r.recordsAt roots t.path = s.recordsAt roots t.path := by
  -- By induction on the trail: the same records on the way lead by the same keys to the same records.
  have hreach : ∀ u ∈ done, r.reachAll roots u.reverse = s.reachAll roots u.reverse := by
    intro u
    induction u with
    | nil => exact fun _ => rfl
    | cons key above ih =>
      intro hu
      have habove : above ∈ done := h.closed _ hu
      obtain ⟨nodes, hnodes, hrecords, hmem⟩ := h.reachAll_ok above habove
      have hstep : nodes.mapM (r.reach key) = nodes.mapM (s.reach key) := by
        refine mapM_congr_of_mem ?_
        intro n hn
        obtain ⟨id, rfl⟩ := hrecords n hn
        rw [reach, reach, ask, ask, hs.same key above hu id ((hmem id).mp hn)]
      rw [List.reverse_cons, reachAll_concat, reachAll_concat, ih habove, hnodes]
      change (nodes.mapM (r.reach key) >>= _) = (nodes.mapM (s.reach key) >>= _)
      rw [hstep]
  rw [recordsAt, recordsAt]
  by_cases hne : t = []
  · subst hne
    rfl
  · have hpath : Trail.path t ≠ "" := fun he => hne ((Trail.path_eq_empty_iff hproper).mp he)
    rw [if_neg hpath, if_neg hpath, Trail.segments_path hproper hne, hreach t ht]

end Store

end EntityViews
