import EntityViews.Proofs.Effects
import EntityViews.Proofs.RecordsInHand
import EntityViews.Proofs.Tallies

/-!
Loads that fail half-way. Whatever can go wrong goes wrong before anything is attached, since the keys that records are
looked up by have all been read by then. Main statement: a load either fails and leaves all records as they were, or sets
the one field of its relation on each record that it is for, and changes nothing else.
-/

namespace EntityViews

open Sql Run

variable {δ : Type}

/-- Work that sets no fields leaves the records that there are as they were. -/
theorem Run.discipline_grows [Engine δ] :
    Discipline (fun _ => True) (fun _ _ => False) fun (w : World δ) _ w' => w.store.Grows w'.store where
  refl := fun w _ => .refl w.store
  trans := fun _ h h' => h.trans h'
  issue := fun w _ _ => .refl w.store
  count := fun w _ _ => .refl w.store
  grow := fun _ _ h => h
  set := fun _ _ _ _ h => h.elim

inductive Run.Ends {α : Type} (failed : World δ → Prop) (done : α → World δ → Prop) : Except Fault α × World δ → Prop
  | error {e : Fault} {w : World δ} : failed w → Ends failed done (.error e, w)
  | ok {a : α} {w : World δ} : done a w → Ends failed done (.ok a, w)

theorem Run.ends_of_gives {α : Type} {x : Run δ α} {w w' : World δ} {a : α} {failed : World δ → Prop}
    {done : α → World δ → Prop} (h : Gives x w a w') (hd : done a w') : Ends failed done (x.run.run w) := by
  have hx : x.run.run w = (.ok a, w') := h
  rw [hx]
  exact .ok hd

/-- Work in two parts ends well if the first part does, and the second one from wherever the first has led to. -/
theorem Run.ends_bind {α β : Type} {x : Run δ α} {f : α → Run δ β} {w : World δ} {failed : World δ → Prop}
    {between : α → World δ → Prop} {done : β → World δ → Prop} (hx : Ends failed between (x.run.run w))
    (hf : ∀ a m, Gives x w a m → between a m → Ends failed done ((f a).run.run m)) :
    Ends failed done ((x >>= f).run.run w) := by
  rw [Gives.run_bind]
  generalize h : x.run.run w = outcome at hx
  cases hx with
  | error he => exact .error he
  | ok ha => exact hf _ _ h ha

theorem Run.Abides.ends {α : Type} {R : World δ → World δ → Prop} {x : Run δ α} (h : Within R x) (w : World δ) :
    Ends (R w) (fun _ => R w) (x.run.run w) := by
  have hw := h w
  generalize x.run.run w = outcome at hw
  obtain ⟨e | a, m⟩ := outcome
  · exact .error hw
  · exact .ok hw

/-- Where a loop that only reads gives a result, it could be done for each of the items. -/
theorem Gives.filterMapM_each {σ α β : Type} {f : α → ExceptT Fault (StateM σ) (Option β)} {P : α → Prop} {xs : List α}
    {ys : List β} {m m' : σ} (h : Gives (xs.filterMapM f) m ys m')
    (hf : ∀ x y m', Gives (f x) m y m' → m' = m ∧ P x) : ∀ x ∈ xs, P x := by
  induction xs generalizing ys m' with
  | nil => exact nofun
  | cons x xs ih =>
    rw [List.filterMapM_cons] at h
    obtain ⟨y, m₁, hx, h⟩ := Gives.bind_iff.mp h
    obtain ⟨rfl, hpx⟩ := hf x y m₁ hx
    cases y with
    | none => exact List.forall_mem_cons.mpr ⟨hpx, ih h⟩
    | some y =>
      obtain ⟨ys', m₂, hxs, _⟩ := Gives.bind_iff.mp h
      exact List.forall_mem_cons.mpr ⟨hpx, ih hxs⟩

namespace Loader

variable {s : Schema} {relation : Relation} {target : Entity} {fields : Option (List String)} {filter : Value}
  {w w' : World δ} {objects : List Nat}

/-- Keys are only collected if each of the records has one. -/
theorem hasKey_of_keysOf {records : List Node} {field : String} {keys : List Value}
    (h : Gives (keysOf records field) w keys w') : ∀ n ∈ records, HasKey w.store field n := by
  obtain ⟨found, m, hfound, _⟩ := Gives.bind_iff.mp h
  refine Gives.filterMapM_each hfound ?_
  intro n v m hn
  obtain ⟨found, m₁, hfield, hkey⟩ := Gives.bind_iff.mp hn
  obtain ⟨rfl, id, rfl, rfl⟩ := Run.field?_gives hfield
  cases hget : m₁.store.get? id (.text field) with
  | none =>
    rw [hget] at hkey
    obtain ⟨_, rfl⟩ := Gives.pure_iff.mp hkey
    exact ⟨rfl, id, .null, rfl, by rw [Store.keyAt, hget]⟩
  | some n =>
    rw [hget] at hkey
    split at hkey
    · cases ‹some n = none›
    · obtain ⟨_, rfl⟩ := Gives.pure_iff.mp hkey
      cases ‹some n = some Node.null›
      exact ⟨rfl, id, .null, rfl, by rw [Store.keyAt, hget]; rfl⟩
    · cases ‹some n = some _›
      obtain ⟨k, m₂, hlift, hpure⟩ := Gives.bind_iff.mp hkey
      obtain ⟨hk, rfl⟩ := Gives.lift_iff.mp hlift
      obtain ⟨_, rfl⟩ := Gives.pure_iff.mp hpure
      exact ⟨rfl, id, k, rfl, by rw [Store.keyAt, hget]; exact hk⟩

/-- Attaching to records that all have a key cannot fail, if it does not touch the keys: each record is filled in with what
its key leads to. -/
theorem attach_fills {key name : String} (f : Value → Node) (hne : name ≠ key)
    (hobjects : ∀ o ∈ objects, o < w.store.records.size) (hkeys : ∀ o ∈ objects, HasKey w.store key (.record o)) :
    ∃ store value, Gives ((objects.map Node.record).forM fun r => do Run.setField r name (f (← keyOf r key))) w ⟨⟩
      { w with store := store } ∧ w.store.Fills store objects name value := by
  -- The keys are those before the loop, as the field that it sets is another one.
  let own : Nat → Value := fun o => ((w.store.keyAt o key).toOption).getD .null
  have hstep : ∀ o ∈ objects, ∀ m : World δ,
      (∀ other, name ≠ other → m.store.get? o (.text other) = w.store.get? o (.text other)) →
      Gives (do Run.setField (.record o) name (f (← keyOf (.record o) key))) m ⟨⟩
        { m with store := m.store.set o (.text name) (f (own o)) } := by
    intro o ho m hkept
    obtain ⟨_, k, hid, hk⟩ := hkeys o ho
    obtain rfl := Node.record.inj hid
    have hm : m.store.keyAt o key = .ok k := (Store.keyAt_congr (hkept key hne)).trans hk
    have hown : own o = k := by
      simp only [own, hk]
      rfl
    rw [hown]
    exact Gives.bind_iff.mpr ⟨k, m, keyOf_runs hm, Run.setField_runs m o name (f k)⟩
  obtain ⟨store, hrun, hfills⟩ := Run.forM_fills (fun r => do Run.setField r name (f (← keyOf r key))) name
    (fun o => f (own o)) objects hobjects hstep
  exact ⟨store, _, hrun, hfills⟩

/-- Whatever a database answers, and wherever a load fails: if it fails, all records are as they were, those it was for
included, and if it does not, each record that it was for, be it given once or several times, has something under the
name of the relation and is otherwise as it was, and so are all other records. The name must not be that of the field by
which the records are looked up, which is the id, or the key of a relation whose key they hold. -/
theorem load_atomic [Engine δ] (fields : Option (List String)) (filter : Value) {entity name : String}
    (hr : s.relation? entity name = some relation) (hname : name ≠ relation.link.ownKey)
    (hobjects : ∀ o ∈ objects, o < w.store.records.size) :
    Ends (fun w' => w.store.Grows w'.store) (fun _ w' => ∃ value, w.store.Fills w'.store objects name value)
      ((load s entity (objects.map .record) name fields filter).run.run w) := by
  obtain ⟨rfl, _⟩ := Schema.mem_of_relation? hr
  have D := discipline_grows (δ := δ)
  cases ht : s.entity? relation.target with
  | none =>
    rw [load_of_absent hr ht]
    exact .error (.refl w.store)
  | some target =>
    rw [load_eq hr ht]
    refine ends_bind (Abides.ends (D.keysOf _ _) w) ?_
    intro keys w₁ hkeys _
    obtain ⟨rfl, _⟩ := keysOf_gives hkeys
    refine ends_bind (Abides.ends (D.inHand (fun _ _ => trivial) keys) w₁) ?_
    intro hand w₂ _ hgrown
    -- From here on nothing can fail: the keys are as they were when they were collected.
    have hhas : ∀ o ∈ objects, HasKey w₂.store relation.link.ownKey (.record o) := by
      intro o ho
      obtain ⟨_, k, hid, hk⟩ := hasKey_of_keysOf hkeys _ (List.mem_map_of_mem ho)
      obtain rfl := Node.record.inj hid
      refine ⟨o, k, rfl, (Store.keyAt_congr ?_).trans hk⟩
      rw [Store.get?, hgrown.2 o (hobjects o ho)]
      rfl
    have hthere : ∀ o ∈ objects, o < w₂.store.records.size :=
      fun o ho => Nat.lt_of_lt_of_le (hobjects o ho) hgrown.1
    obtain ⟨store, value, hattach, hfills⟩ := attach_fills hand.1 hname hthere hhas
    refine ends_of_gives (Gives.bind_iff.mpr ⟨⟨⟩, _, hattach, Gives.pure_iff.mpr ⟨rfl, rfl⟩⟩) ?_
    exact ⟨value, .of_grows hgrown hfills hobjects⟩

def shelved : Store := ⟨#[[(.text "id", .scalar (.int 1)), (.text "collectionId", .scalar (.int 3))],
  [(.text "id", .scalar (.int 2)), (.text "collectionId", .scalar (.int 4))]]⟩

def shelving (madeOn : String) : World Script :=
  { World.start ⟨[.ok ⟨["id", "addedOn"], .ok [[.int 3, .text "2024-03-01"], [.int 4, .text madeOn]], 0⟩]⟩
      Learning.registry with store := shelved }

def loadCollections : Run Script (List Node) :=
  load Learning.schema "Text" ([0, 1, 0].map .record) "collection" (some ["addedOn"]) .null

/-- If a row turns out to be bad after others have been read, nothing is attached to any of the texts. -/
theorem load_atomic_badDate :
    (∃ e w', loadCollections.run.run (shelving "soon") = (.error e, w') ∧ shelved.Grows w'.store) ∧
    ∃ out w' value, Gives loadCollections (shelving "2024-03-02") out w' ∧
      shelved.Fills w'.store [0, 1, 0] "collection" value := by
  have hrelation : Learning.schema.relation? "Text" "collection" = some (Learning.toOne "collection" "Collection") := rfl
  have hname : "collection" ≠ (Learning.toOne "collection" "Collection").link.ownKey := by decide
  have hobjects : ∀ o ∈ [0, 1, 0], o < shelved.records.size := by decide
  -- What is left behind is told by the theorem; whether the load fails is computed.
  have hends : ∀ madeOn, Ends (fun w' => shelved.Grows w'.store)
      (fun _ w' => ∃ value, shelved.Fills w'.store [0, 1, 0] "collection" value)
      (loadCollections.run.run (shelving madeOn)) :=
    fun madeOn => load_atomic (w := shelving madeOn) (some ["addedOn"]) .null hrelation hname hobjects
  constructor
  · have hfails : (loadCollections.run.run (shelving "soon")).1.isOk = false := by decide +kernel
    have hsoon := hends "soon"
    generalize hrun : loadCollections.run.run (shelving "soon") = outcome at hsoon hfails
    cases hsoon with
    | error hkept => exact ⟨_, _, rfl, hkept⟩
    | ok _ => cases hfails
  · have hworks : (loadCollections.run.run (shelving "2024-03-02")).1.isOk = true := by decide +kernel
    have hlater := hends "2024-03-02"
    unfold Gives
    generalize loadCollections.run.run (shelving "2024-03-02") = outcome at hlater hworks
    cases hlater with
    | error _ => cases hworks
    | ok hfilled =>
      obtain ⟨value, hfills⟩ := hfilled
      exact ⟨_, _, value, rfl, hfills⟩

end Loader

end EntityViews
