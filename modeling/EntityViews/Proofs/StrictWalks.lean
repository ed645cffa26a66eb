import EntityViews.Proofs.Descent
import EntityViews.Proofs.Exposure

/-!
What a strict walk finds under its feet after the loads of a plan. Along a trail that was loaded, a relation to many leads to
a list of records and a relation to one to a record or to nothing, and no record that is led to is empty. Main statement: a
walk along such a trail succeeds unless some record on the way holds nothing under a relation to one.
-/

namespace EntityViews

def Schema.Leads (s : Schema) (entity : String) (t : Trail) (target : String) : Prop :=
  ∀ path, Repository.entityAt s path entity t.reverse = .ok target

def Schema.ToOne (s : Schema) (entity : String) (key : String) (above : Trail) : Prop :=
  ∃ parent relation, s.Leads entity above parent ∧ s.relation? parent key = some relation ∧ relation.link.isToOne = true

namespace Schema

variable {s : Schema} {entity parent parent' key : String} {t : Trail} {relation : Relation}

theorem leads_nil : s.Leads entity [] entity := fun _ => rfl

theorem Leads.step (h : s.Leads entity t parent) (hr : s.relation? parent key = some relation) :
    s.Leads entity (key :: t) relation.target := by
  intro path
  rw [List.reverse_cons]
  exact Repository.entityAt_concat (h path) hr

theorem Leads.unique (h : s.Leads entity t parent) (h' : s.Leads entity t parent') : parent = parent' := by
  have hsame := h' ""
  rw [h ""] at hsame
  exact Except.ok.inj hsame

/-- A trail goes on to one record at most if its relation is to-one. -/
theorem toOne_iff (h : s.Leads entity t parent) (hr : s.relation? parent key = some relation) :
    s.ToOne entity key t ↔ relation.link.isToOne = true := by
  constructor
  · rintro ⟨parent', relation', h', hr', hone⟩
    obtain rfl := h.unique h'
    obtain rfl := Option.some.inj (hr.symm.trans hr')
    exact hone
  · exact fun hone => ⟨parent, relation, h, hr, hone⟩

end Schema

/-- Whether the relations of an entity are keyed by the names of their fields, and lead where the schema has them lead, to
as many records. -/
structure EntityFields.Matches (s : Schema) (e : Entity) (f : EntityFields) : Prop where
  keyed : f.Keyed
  relations : ∀ name r, f.source? name = some (.relation r) → ∃ relation, s.relation? e.name name = some relation ∧
    relation.target = r.target ∧ r.cardinality = if relation.link.isToOne then .toOne else .toMany

def Schema.Backs (s : Schema) (graph : Graph) : Prop :=
  ∀ entity f, graph entity = .ok f → ∃ e, s.entity? entity = some e ∧ f.Matches s e

theorem EntityFields.Fits.matches {s : Schema} {e : Entity} {f : EntityFields} (h : f.Fits s e) : f.Matches s e where
  keyed := h.keyed
  relations name r hr := (h.relations name r hr).2

theorem Schema.Covers.backs {s : Schema} {graph : Graph} (h : s.Covers graph) : s.Backs graph := by
  intro entity f hf
  obtain ⟨e, he, hfits⟩ := h entity f hf
  exact ⟨e, he, hfits.matches⟩

namespace Crossing

def Charted (s : Schema) (graph : Graph) : EntityFields → String → List Crossing → Prop
  | _, _, [] => True
  | f, parent, c :: cs => f.source? c.key = some (.relation c.source) ∧ graph c.source.target = .ok c.nested ∧
    ∃ relation, s.relation? parent c.key = some relation ∧
      c.source.cardinality = (if relation.link.isToOne then .toOne else .toMany) ∧
      Charted s graph c.nested relation.target cs

/-- Every crossing on the way is along a relation of the entity that the ones before it lead to. -/
theorem Charted.relation {s : Schema} {graph : Graph} {f : EntityFields} {entity parent : String} {cs before after : List Crossing}
    {c : Crossing} {t : Trail} (h : Charted s graph f parent cs) (ht : s.Leads entity t parent)
    (hcs : cs = before ++ c :: after) : ∃ target relation,
      s.Leads entity ((before.map key).reverse ++ t) target ∧ s.relation? target c.key = some relation := by
  induction before generalizing f parent cs t with
  | nil =>
    subst hcs
    obtain ⟨_, _, relation, hr, _⟩ := h
    exact ⟨parent, relation, ht, hr⟩
  | cons first rest ih =>
    subst hcs
    obtain ⟨_, _, relation, hr, _, hrest⟩ := h
    obtain ⟨target, found, hleads, hfound⟩ := ih hrest (ht.step hr) rfl
    refine ⟨target, found, ?_, hfound⟩
    rw [List.map_cons, List.reverse_cons, List.append_assoc]
    exact hleads

end Crossing

/-- The compiler descends along relations that the schema has. -/
theorem Descends.charted {s : Schema} {graph graph' : Graph} {e : Entity} {f last : EntityFields} {view below : NormalView}
    {cs : List Crossing} (h : Descends graph f view cs last below) (hf : f.Matches s e) (backs : s.Backs graph)
    (hkept : ∀ entity g, graph entity = .ok g → graph' entity = .ok g) : Crossing.Charted s graph' f e.name cs := by
  induction h generalizing e with
  | here => trivial
  | @down f target last names relations field below view r cs _ hr htarget _ ih =>
    obtain ⟨relation, hrelation, htarget', hkind⟩ := hf.relations field r hr
    have hkey : r.populate = field := (hf.keyed field r hr).1
    obtain ⟨e', he', hmatches⟩ := backs r.target target htarget
    have hrest := ih hmatches
    rw [Schema.name_of_entity? he', ← htarget'] at hrest
    subst hkey
    exact ⟨hr, hkept _ _ htarget, relation, hrelation, hkind, hrest⟩

namespace Store

def Named (s : Store) (id : Nat) : Prop := id < s.records.size ∧ ∃ name, (s.get? id (.text name)).isSome = true

theorem Named.isPresent {s : Store} {id : Nat} (h : s.Named id) : s.isPresent (.record id) = true := by
  obtain ⟨_, name, hname⟩ := h
  rw [Store.isPresent, Bool.not_eq_true', List.isEmpty_eq_false_iff]
  intro hnil
  rw [get?, hnil] at hname
  cases hname

/-- Some trails have been loaded: a record on the way has under each key what the relation of this key leads to, records
that are not empty. -/
structure Standing (s : Store) (sch : Schema) (entity : String) (roots : List Node) (done : List Trail) : Prop where
  settled : s.Settled roots (fun _ id => s.Named id) done
  values : ∀ key t, key :: t ∈ done → ∃ parent relation, sch.Leads entity t parent ∧ sch.relation? parent key = some relation ∧
    ∀ id, s.Reached roots t id → ∃ n, s.get? id (.text key) = some n ∧ relation.link.Holds n

variable {s t : Store} {sch : Schema} {entity parent : String} {roots found nodes : List Node} {done : List Trail}
  {key : String} {above : Trail} {relation : Relation} {P : String → Prop}

theorem standing_start (h : ∀ n ∈ roots, ∃ id, n = .record id ∧ id < s.records.size) :
    s.Standing sch entity roots [[]] := by
  refine ⟨Repository.settled_start h, ?_⟩
  intro key t ht
  cases List.mem_singleton.mp ht

/-- Where nothing is reached, one more segment changes nothing. -/
theorem Standing.skip (h : s.Standing sch entity roots done) (habove : above ∈ done)
    (hparent : sch.Leads entity above parent) (hr : sch.relation? parent key = some relation)
    (hnone : ∀ id, ¬s.Reached roots above id) : s.Standing sch entity roots ((key :: above) :: done) := by
  refine ⟨h.settled.skip habove hnone, ?_⟩
  intro k u hu
  rcases List.mem_cons.mp hu with he | hu
  · cases he
    exact ⟨parent, relation, hparent, hr, fun id hid => absurd hid (hnone id)⟩
  · exact h.values k u hu

/-- From no records nothing is reached, so that all trails stand that are closed under going up. -/
theorem standing_nil (ts : List Trail) (hordered : Ordered done ts) (h : s.Standing sch entity [] done)
    (hchart : ∀ key above, key :: above ∈ ts → ∃ parent relation, sch.Leads entity above parent ∧
      sch.relation? parent key = some relation) (hne : ∀ u ∈ ts, u ≠ []) :
    s.Standing sch entity [] (ts.reverse ++ done) := by
  induction ts generalizing done with
  | nil => exact h
  | cons u rest ih =>
    cases u with
    | nil => exact absurd rfl (hne [] List.mem_cons_self)
    | cons key above =>
      obtain ⟨parent, relation, hparent, hr⟩ := hchart key above List.mem_cons_self
      have hstep : s.Standing sch entity [] ((key :: above) :: done) :=
        h.skip hordered.1 hparent hr (s.not_reached_nil above)
      rw [List.reverse_cons, List.append_assoc]
      exact ih hordered.2 hstep (fun k a hm => hchart k a (List.mem_cons_of_mem _ hm))
        fun v hv => hne v (List.mem_cons_of_mem _ hv)

/-- One more loaded relation leaves every trail with what it has to stand for. -/
theorem Standing.load (h : s.Standing sch entity roots done) (habove : above ∈ done) (hnew : key :: above ∉ done)
    (hparent : sch.Leads entity above parent) (hr : sch.relation? parent key = some relation)
    (hfound : ∀ id, Node.record id ∈ found ↔ s.Reached roots above id)
    (hprovides : s.Provides t found key P relation.link.Holds) (hP : P "id") :
    t.Standing sch entity roots ((key :: above) :: done) := by
  have hs := h.settled
  have hattaches := hprovides.attaches
  have hreached := hs.reached_iff habove hnew (fun id => (hfound id).mp) hattaches
  -- Records that had a name have it still, or have got the key of the load.
  have hnamed : ∀ id, s.Named id → t.Named id := by
    rintro id ⟨hlt, name, hname⟩
    refine ⟨Nat.lt_of_lt_of_le hlt hattaches.keeps.1, ?_⟩
    by_cases htouched : name = key ∧ Node.record id ∈ found
    · obtain ⟨n, hn, _⟩ := hprovides.values id htouched.2
      refine ⟨key, ?_⟩
      rw [hn]
      rfl
    · refine ⟨name, ?_⟩
      rw [hattaches.keeps.2 id hlt name htouched]
      exact hname
  have hfresh : ∀ id, s.New t id ∧ t.HasKeys id P → s.New t id ∧ t.Named id := by
    rintro id ⟨hid, hkeys⟩
    exact ⟨hid, hid.2, "id", (hkeys.lookup?_isSome "id").mpr hP⟩
  refine ⟨hs.load habove hnew hfound hattaches hfresh fun _ => hnamed, ?_⟩
  intro k u hu
  rcases List.mem_cons.mp hu with he | hu
  · cases he
    refine ⟨parent, relation, hparent, hr, ?_⟩
    intro id hid
    exact hprovides.values id ((hfound id).mpr ((hreached above habove id).mp hid))
  · obtain ⟨parent', relation', hparent', hr', hall⟩ := h.values k u hu
    refine ⟨parent', relation', hparent', hr', ?_⟩
    intro id hid
    have hid' := (hreached u (hs.closed _ hu) id).mp hid
    obtain ⟨n, hn, hholds⟩ := hall id hid'
    have hsame := hs.get?_eq habove hnew (fun id => (hfound id).mp) hattaches hu hid'
    exact ⟨n, hsame.trans hn, hholds⟩

/-- Trails stand as long as the keys on the way lead where they led and no record is emptied. -/
theorem Standing.of_same (h : s.Standing sch entity roots done) (hsize : s.records.size ≤ t.records.size)
    (hnamed : ∀ id, s.Named id → t.Named id)
    (hsame : ∀ k u, k :: u ∈ done → ∀ id, s.Reached roots u id → t.get? id (.text k) = s.get? id (.text k)) :
    t.Standing sch entity roots done := by
  refine ⟨h.settled.of_same hsize hsame fun _ => hnamed, ?_⟩
  have hreached := reached_congr h.settled.closed hsame
  intro k u hu
  obtain ⟨parent, relation, hparent, hr, hall⟩ := h.values k u hu
  refine ⟨parent, relation, hparent, hr, ?_⟩
  intro id hid
  have hid' := (hreached u (h.settled.closed _ hu) id).mp hid
  obtain ⟨n, hn, hholds⟩ := hall id hid'
  exact ⟨n, (hsame k u hu id hid').trans hn, hholds⟩

/-! Walks. -/

/-- Whether a walk from the end of a trail on is blocked: at some segment to one, a record that is reached through the
segments before it holds nothing. -/
def Blocked (s : Store) (sch : Schema) (entity : String) (roots : List Node) (t : Trail) (keys : List String) : Prop :=
  ∃ before key after, keys = before ++ key :: after ∧ sch.ToOne entity key (before.reverse ++ t) ∧
    ∃ id, s.Reached roots (before.reverse ++ t) id ∧ s.get? id (.text key) = some .null

theorem not_blocked_nil {u : Trail} : ¬s.Blocked sch entity roots u [] := by
  rintro ⟨before, key, after, hkeys, _⟩
  have hlength := congrArg List.length hkeys
  simp at hlength

/-- A walk is blocked at its first key, or by the rest of its keys. -/
theorem blocked_cons {u : Trail} {rest : List String} : s.Blocked sch entity roots u (key :: rest) ↔
    (sch.ToOne entity key u ∧ ∃ id, s.Reached roots u id ∧ s.get? id (.text key) = some .null) ∨
      s.Blocked sch entity roots (key :: u) rest := by
  constructor
  · rintro ⟨before, k, after, hkeys, hone, hid⟩
    cases before with
    | nil =>
      cases hkeys
      exact Or.inl ⟨hone, hid⟩
    | cons first before =>
      cases hkeys
      rw [List.reverse_cons, List.append_assoc] at hone hid
      exact Or.inr ⟨before, k, after, rfl, hone, hid⟩
  · rintro (⟨hone, hid⟩ | ⟨before, k, after, rfl, hone, hid⟩)
    · exact ⟨[], key, rest, rfl, hone, hid⟩
    · refine ⟨key :: before, k, after, rfl, ?_⟩
      rw [List.reverse_cons, List.append_assoc]
      exact ⟨hone, hid⟩

/-- Whether a walk is blocked does not depend on more than what the keys on the way lead to. -/
theorem blocked_congr (hclosed : ∀ u ∈ done, u.tail ∈ done)
    (hsame : ∀ k u, k :: u ∈ done → ∀ id, s.Reached roots u id → t.get? id (.text k) = s.get? id (.text k))
    {u : Trail} {keys : List String} (hdone : keys.reverse ++ u ∈ done) :
    t.Blocked sch entity roots u keys ↔ s.Blocked sch entity roots u keys := by
  have hreached := reached_congr hclosed hsame
  induction keys generalizing u with
  | nil => exact iff_of_false not_blocked_nil not_blocked_nil
  | cons key rest ih =>
    rw [List.reverse_cons, List.append_assoc] at hdone
    change rest.reverse ++ (key :: u) ∈ done at hdone
    have hkey : key :: u ∈ done := Trail.mem_of_append hclosed rest.reverse hdone
    rw [blocked_cons, blocked_cons]
    refine or_congr (and_congr_right fun _ => ?_) (ih hdone)
    constructor
    · rintro ⟨id, hid, hget⟩
      have hid' := (hreached u (hclosed _ hkey) id).mp hid
      exact ⟨id, hid', (hsame key u hkey id hid').symm.trans hget⟩
    · rintro ⟨id, hid, hget⟩
      exact ⟨id, (hreached u (hclosed _ hkey) id).mpr hid, (hsame key u hkey id hid).trans hget⟩

section Walk

variable (path here : String) {r : RelationSource} {link : Link}

/-- A record that holds nothing under a relation to one stops a walk there, and nothing else does. -/
theorem follow_outcome {id : Nat} {v : Node} (hget : s.get? id (.text r.populate) = some v) (hleads : v.Leads s.Named)
    (hholds : link.Holds v) (hkind : r.cardinality = if link.isToOne then .toOne else .toMany) :
    ((∃ found, s.follow path here r (.record id) = .ok found) ∧ ¬(link.isToOne = true ∧ v = .null)) ∨
      (s.follow path here r (.record id) = .error (.path (.notPopulated here) path) ∧ link.isToOne = true ∧ v = .null) := by
  have hask : s.ask (.record id) r.populate = .ok (some v) := congrArg Except.ok hget
  unfold Link.Holds at hholds
  rw [follow, hask, hkind]
  by_cases hone : link.isToOne = true
  · -- A record that is led to has a name, so it does not count as absent.
    rw [if_pos hone] at hholds
    rw [if_pos hone]
    rcases hholds with rfl | ⟨i, rfl⟩
    · exact Or.inr ⟨rfl, hone, rfl⟩
    · have hnamed : s.Named i := by
        cases hleads
        assumption
      have hsome : Node.record i ≠ .null := by
        intro he
        cases he
      refine Or.inl ⟨⟨[.record i], ?_⟩, fun h => hsome h.2⟩
      have hpresent : s.isPresent (.record i) = true := hnamed.isPresent
      simp only [bind, Except.bind, hpresent, if_true]
      rfl
  · -- A list of records is followed, also if it has none.
    rw [if_neg hone] at hholds
    rw [if_neg hone]
    obtain ⟨ids, rfl⟩ := hholds
    exact Or.inl ⟨⟨ids.map .record, rfl⟩, fun h => hone h.1⟩

/-- A strict walk goes along a relation unless it meets nothing where one record may be, and then it tells where. -/
theorem followAll_outcome (hnodes : ∀ n ∈ nodes, ∃ id v, n = .record id ∧ s.get? id (.text r.populate) = some v ∧
      v.Leads s.Named ∧ link.Holds v) (hkind : r.cardinality = if link.isToOne then .toOne else .toMany) :
    ((∃ found, s.followAll path here r nodes = .ok found) ∧
        ¬(link.isToOne = true ∧ ∃ id, Node.record id ∈ nodes ∧ s.get? id (.text r.populate) = some .null)) ∨
      (s.followAll path here r nodes = .error (.path (.notPopulated here) path) ∧ link.isToOne = true ∧
        ∃ id, Node.record id ∈ nodes ∧ s.get? id (.text r.populate) = some .null) := by
  rw [followAll]
  cases hfound : nodes.mapM (s.follow path here r) with
  | error e =>
    -- The fault is that of some record, which holds nothing.
    obtain ⟨n, hn, he⟩ := Except.mapM_error hfound
    obtain ⟨id, v, rfl, hv, hleads, hholds⟩ := hnodes n hn
    rcases follow_outcome path here hv hleads hholds hkind with ⟨⟨found, hok⟩, _⟩ | ⟨herror, hone, rfl⟩
    · cases hok.symm.trans he
    · cases herror.symm.trans he
      exact Or.inr ⟨rfl, hone, id, hn, hv⟩
  | ok lists =>
    refine Or.inl ⟨⟨lists.flatten, rfl⟩, ?_⟩
    rintro ⟨hone, id, hid, hnull⟩
    obtain ⟨ms, _, hms⟩ := (Except.mem_of_mapM_ok hfound).2 _ hid
    obtain ⟨id', v, he, hv, hleads, hholds⟩ := hnodes _ hid
    cases he
    rcases follow_outcome path here hv hleads hholds hkind with ⟨_, hno⟩ | ⟨herror, _, _⟩
    · exact hno ⟨hone, Option.some.inj (hv.symm.trans hnull)⟩
    · cases herror.symm.trans hms

/-- A walk along crossings whose trails stand: it succeeds and is not blocked, or fails since it is. -/
theorem Standing.walk_outcome (h : s.Standing sch entity roots done) {graph : Graph} (cs : List Crossing) {f : EntityFields}
    {u : Trail} {walked : List String} (hcharted : Crossing.Charted sch graph f parent cs)
    (hparent : sch.Leads entity u parent) (hdone : (cs.map Crossing.key).reverse ++ u ∈ done)
    (hrecords : ∀ n ∈ nodes, ∃ id, n = .record id) (hmem : ∀ id, Node.record id ∈ nodes ↔ s.Reached roots u id) :
    ((∃ targets, s.walk graph path f walked nodes (cs.map Crossing.key) = .ok targets) ∧
        ¬s.Blocked sch entity roots u (cs.map Crossing.key)) ∨
      ((∃ here, s.walk graph path f walked nodes (cs.map Crossing.key) = .error (.path (.notPopulated here) path)) ∧
        s.Blocked sch entity roots u (cs.map Crossing.key)) := by
  induction cs generalizing f parent u walked nodes with
  | nil => exact Or.inl ⟨⟨nodes, rfl⟩, not_blocked_nil⟩
  | cons c rest ih =>
    obtain ⟨hsource, hnested, relation, hr, hkind, hrest⟩ := hcharted
    rw [List.map_cons, List.reverse_cons, List.append_assoc] at hdone
    change (rest.map Crossing.key).reverse ++ (c.key :: u) ∈ done at hdone
    have hkey : c.key :: u ∈ done := Trail.mem_of_append h.settled.closed _ hdone
    -- What the records here hold under the key is what the schema has for the relation.
    obtain ⟨parent', relation', hparent', hr', hvalues⟩ := h.values c.key u hkey
    obtain rfl := hparent.unique hparent'
    obtain rfl := Option.some.inj (hr.symm.trans hr')
    have hnodes : ∀ n ∈ nodes, ∃ id v, n = .record id ∧ s.get? id (.text c.key) = some v ∧ v.Leads s.Named ∧
        relation.link.Holds v := by
      intro n hn
      obtain ⟨id, rfl⟩ := hrecords n hn
      have hid := (hmem id).mp hn
      obtain ⟨v, hv, hholds⟩ := hvalues id hid
      obtain ⟨v', hv', hleads⟩ := h.settled.leads c.key u hkey id hid
      obtain rfl := Option.some.inj (hv.symm.trans hv')
      exact ⟨id, v, rfl, hv, hleads, hholds⟩
    have hsegment : f.forSegment? c.key = some (.relation c.source) := by rw [EntityFields.forSegment?, hsource]
    rw [List.map_cons, walk, hsegment, blocked_cons, Schema.toOne_iff hparent hr]
    simp only [← hmem]
    rcases followAll_outcome path (Text.joinDots (walked ++ [c.key])) hnodes hkind with
      ⟨⟨found, hfound⟩, hfree⟩ | ⟨herror, hone, hnull⟩
    · -- Nobody holds nothing here, so the walk goes on with what the records lead to.
      have hnodes' : ∀ n ∈ nodes, ∃ id v, n = .record id ∧ s.get? id (.text c.source.populate) = some v ∧
          relation.link.Holds v := by
        intro n hn
        obtain ⟨id, v, hid, hv, _, hholds⟩ := hnodes n hn
        exact ⟨id, v, hid, hv, hholds⟩
      obtain ⟨hrecords', hto⟩ := Store.followAll_ok hnodes' hkind hfound
      have hmem' : ∀ id, Node.record id ∈ found ↔ s.Reached roots (c.key :: u) id := by
        intro id
        rw [hto, reached_cons]
        simp only [hmem]
        exact Iff.rfl
      change ¬(_ ∧ ∃ id, Node.record id ∈ nodes ∧ s.get? id (.text c.key) = some .null) at hfree
      rw [or_iff_right hfree, hfound]
      cases rest with
      | nil => exact Or.inl ⟨⟨found, rfl⟩, not_blocked_nil⟩
      | cons c' rest =>
        simp only [bind, Except.bind, hnested]
        exact ih hrest (hparent.step hr) hdone hrecords' hmem'
    · rw [herror]
      exact Or.inr ⟨⟨_, rfl⟩, Or.inl ⟨hone, hnull⟩⟩

theorem resolve_eq_walk (s : Store) (graph : Graph) (f : EntityFields) (path : String) (roots : List Node) :
    s.resolve graph f path roots = s.walk graph path f [] roots (Text.steps path) := by
  rw [resolve, Text.steps]
  split
  · rfl
  · rfl

theorem Standing.resolve_outcome (h : s.Standing sch entity roots done) {graph : Graph} {cs : List Crossing} {f : EntityFields}
    (hcharted : Crossing.Charted sch graph f entity cs) (hproper : Trail.Proper (cs.map Crossing.key).reverse)
    (hdone : (cs.map Crossing.key).reverse ∈ done) :
    ((∃ targets, s.resolve graph f (Crossing.path cs) roots = .ok targets) ∧
        ¬s.Blocked sch entity roots [] (Text.steps (Crossing.path cs))) ∨
      ((∃ here, s.resolve graph f (Crossing.path cs) roots = .error (.path (.notPopulated here) (Crossing.path cs))) ∧
        s.Blocked sch entity roots [] (Text.steps (Crossing.path cs))) := by
  rw [resolve_eq_walk, Crossing.steps_path hproper]
  have hstart : (cs.map Crossing.key).reverse ++ [] ∈ done := by rwa [List.append_nil]
  exact h.walk_outcome _ cs hcharted Schema.leads_nil hstart h.settled.records fun id => reached_nil.symm

end Walk

end Store

namespace Repository

variable {δ : Type} [Engine δ] {s : Schema} {entity : String} {roots : List Node} {done : List Trail} {w w' : World δ}

/-- To populate a path lets one more trail stand and keeps all others. -/
theorem populatePath_standing (labelled : Labelled δ) {fields : List String} {filter : Value} {key : String} {above : Trail}
    {u : PUnit} (hproper : Trail.Proper (key :: above)) (habove : above ∈ done) (hnew : key :: above ∉ done)
    (hchart : ∃ parent relation, s.Leads entity above parent ∧ s.relation? parent key = some relation)
    (hs : w.store.Standing s entity roots done)
    (h : Gives (populatePath s entity roots (some fields) filter (Trail.path (key :: above))) w u w') :
    w'.store.Standing s entity roots ((key :: above) :: done) := by
  obtain ⟨parent, found, hentity, _, hmem, ⟨rfl, rfl⟩ | ⟨out, hout⟩⟩ := populatePath_parts hproper habove hs.settled h
  · -- There are no parents, so nothing was loaded and nothing is missing.
    obtain ⟨parent', relation, hparent, hr⟩ := hchart
    refine hs.skip habove hparent hr ?_
    intro id hid
    cases (hmem id).mpr hid
  · have hbounded : ∀ i, .record i ∈ found → i < w.store.records.size :=
      fun i hi => hs.settled.bounded above habove i ((hmem i).mp hi)
    obtain ⟨relation, target, hr, _, hprovides⟩ := Loader.load_provides labelled hbounded hout
    have hid : Loader.Gets relation.link target (some (fieldsUnder fields (Trail.path (key :: above)))) "id" := by
      refine ⟨Or.inl rfl, ?_⟩
      rintro ⟨_, hlabel⟩
      revert hlabel
      decide
    exact hs.load habove hnew hentity hr hmem hprovides hid

/-- Trails that come in order stand after their loads. -/
theorem Loaded.standing (labelled : Labelled δ) (ts : List Trail) {ls : List Load}
    (hls : ls.map (·.path) = ts.map Trail.path) (hts : Upcoming done ts)
    (hchart : ∀ key above, key :: above ∈ ts → ∃ parent relation, s.Leads entity above parent ∧
      s.relation? parent key = some relation)
    (hs : w.store.Standing s entity roots done) (h : Loaded s entity roots ls w w') :
    w'.store.Standing s entity roots (ts.reverse ++ done) := by
  refine h.induct (Q := fun known store => store.Standing s entity roots known) ts hls hts ?_ hs
  intro load _ key above hmem hpath known m m' habove hunknown hknown hg
  rw [hpath] at hg
  exact populatePath_standing labelled (hts.proper _ hmem).1 habove hunknown (hchart key above hmem) hknown hg

end Repository

end EntityViews
