import EntityViews.Proofs.Effects

/-!
What annotators do to the state. Each of them asks for no rows of an entity, and sets one field of the records that it
gets; every other field and every other record stays as it is.
-/

namespace EntityViews

def Annotator.field : Annotator → String
  | vocabsByLevel _ => "vocabsByLevel"
  | isBookmarked _ => "isBookmarked"
  | scripted name => name

variable {δ : Type} [Engine δ] {asks : Sql.Select → Prop} {touched : Nat → String → Prop}
  {R : World δ → World δ → Prop} {records : List Node} {context : Context}

/-- Every step of work keeps the fields that it may not touch. -/
theorem Run.guarantee_keeps (touched : Nat → String → Prop) :
    Run.Guarantee (fun _ => True) touched fun w w' : World δ => w.store.Keeps touched w'.store where
  refl := fun w _ => .refl w.store
  trans := fun _ h h' => h.trans h'
  issue := fun w _ _ => .refl w.store
  count := fun w _ _ => .refl w.store
  turn := fun w _ _ => .refl w.store
  tell := fun w _ => .refl w.store
  grow := fun _ _ h => h.keeps
  set := fun w _ _ v h => Store.keeps_set w.store v h
  build := fun w _ => .refl w.store
  use := fun w _ => .refl w.store

namespace Learning

open Run

theorem within_recordIds (G : Guarantee asks touched R) : Within R (recordIds records : Run δ (List Value)) :=
  G.bind (G.mapM _ fun _ => G.bind (G.item _ _) fun _ _ => G.lift _) fun _ _ => G.pure _

theorem within_addCount (G : Guarantee asks touched R) (counts : List (Value × List (Value × Node))) (row : Node) :
    Within R (addCount counts row : Run δ (List (Value × List (Value × Node)))) :=
  G.bind (G.item _ _) fun _ _ => G.bind (G.item _ _) fun _ _ => G.bind (G.lift _) fun _ _ => G.bind (G.item _ _) fun _ _ =>
    G.bind G.get fun _ _ => G.bind (G.lift _) fun _ _ => G.pure _

theorem within_query (G : Guarantee asks touched R) {user : User} {ids : List Value} {sql : String} :
    Within R (query context user ids sql : Run δ (List Node)) := by
  unfold query
  split
  · exact G.bind (G.throw _) fun _ _ => G.fetchAll _ _
  · exact G.fetchAll _ _

/-- Counting words by level touches its own field of the given records only. -/
theorem within_annotateVocabsByLevel (G : Guarantee asks touched R) {owner : Owner}
    (h : ∀ id, Node.record id ∈ records → touched id "vocabsByLevel") :
    Within R (annotateVocabsByLevel owner records context : Run δ Unit) := by
  refine G.bind (G.lift _) ?_
  intro user _
  split
  · exact G.pure _
  · refine G.bind (within_recordIds G) fun ids _ => G.bind (within_query G) fun rows _ =>
      G.bind (G.foldlM _ _ (within_addCount G)) fun counts _ => G.forM _ ?_
    intro record hrecord
    refine G.bind (G.item _ _) fun _ _ => G.bind (G.lift _) fun _ _ => G.bind (G.newRecord _) fun _ _ => G.setField _ _ ?_
    rintro id rfl
    exact h id hrecord

/-- Marking bookmarks touches its own field of the given records only. -/
theorem within_annotateIsBookmarked (G : Guarantee asks touched R) {owner : Owner}
    (h : ∀ id, Node.record id ∈ records → touched id "isBookmarked") :
    Within R (annotateIsBookmarked owner records context : Run δ Unit) := by
  unfold annotateIsBookmarked
  split
  · exact G.pure _
  split
  · refine G.bind (within_recordIds G) fun ids _ => G.bind (within_query G) fun rows _ => G.bind (G.mapM _ ?_) ?_
    · intro row
      exact G.bind (G.item _ _) fun _ _ => G.lift _
    · intro bookmarked _
      refine G.forM _ ?_
      intro record hrecord
      refine G.bind (G.item _ _) fun _ _ => G.bind (G.lift _) fun _ _ => G.setField _ _ ?_
      rintro id rfl
      exact h id hrecord
  · refine G.forM _ ?_
    intro record hrecord
    refine G.setField _ _ ?_
    rintro id rfl
    exact h id hrecord

end Learning

namespace Execution

open Run

def concludeScripted (name : String) (records : List Node) (fails : Option String) (ids : List Value)
    (saw : Option (List Value)) : Run δ Unit := do
  -- It is told of, and fails or sets its field.
  Run.tell (.annotated name ids saw)
  match fails with
  | some message => throw (.annotator message)
  | none => pure ()
  let n := annotationCount (← get).events
  records.forM fun record => Run.setField record name (.scalar (.int n))

/-- The end of a scripted annotator touches its own field of the given records only. -/
theorem within_concludeScripted (G : Guarantee asks touched R) {name : String} {fails : Option String} {ids : List Value}
    {saw : Option (List Value)} (h : ∀ id, Node.record id ∈ records → touched id name) :
    Within R (concludeScripted name records fails ids saw : Run δ Unit) := by
  have hset : Within R (get >>= fun w => records.forM fun record =>
      setField record name (.scalar (.int (annotationCount w.events))) : Run δ Unit) := by
    refine G.bind G.get fun _ _ => G.forM _ ?_
    intro record hrecord
    refine G.setField _ _ ?_
    rintro id rfl
    exact h id hrecord
  refine G.bind (G.tellEvent _) fun _ _ => ?_
  split
  · exact G.bind (G.throw _) fun _ _ => hset
  · exact hset

/-- A scripted annotator touches its own field of the given records only. -/
theorem within_annotateScripted (G : Guarantee asks touched R) {name : String}
    (h : ∀ id, Node.record id ∈ records → touched id name) :
    Within R (annotateScripted name records context : Run δ Unit) := by
  unfold annotateScripted
  refine G.bind G.get fun w _ => ?_
  dsimp only
  generalize (w.registry.behaviour? name).getD ⟨none, none, none, none⟩ = behaviour
  have hids : Within R (records.mapM (fun r => currentField r "id") : Run δ (List Value)) :=
    G.mapM _ fun r => G.currentField r _
  -- Whatever is asked of the context and of the records only reads, up to the fields that are set at the end.
  split
  · refine G.bind (G.lift _) fun _ _ => G.bind hids fun ids _ => ?_
    split
    · exact G.bind (G.mapM _ fun r => G.currentField r _) fun _ _ => G.bind (G.pure _) fun _ _ => within_concludeScripted G h
    · exact G.bind (G.pure _) fun _ _ => within_concludeScripted G h
  · refine G.bind hids fun ids _ => ?_
    split
    · exact G.bind (G.mapM _ fun r => G.currentField r _) fun _ _ => G.bind (G.pure _) fun _ _ => within_concludeScripted G h
    · exact G.bind (G.pure _) fun _ _ => within_concludeScripted G h

/-- An annotator touches its own field only, and that of the records that it gets only. -/
theorem within_annotate (G : Guarantee asks touched R) {a : Annotator}
    (h : ∀ id, Node.record id ∈ records → touched id a.field) :
    Within R (annotate a records context : Run δ Unit) := by
  cases a with
  | vocabsByLevel owner => exact Learning.within_annotateVocabsByLevel G h
  | isBookmarked owner => exact Learning.within_annotateIsBookmarked G h
  | scripted name => exact within_annotateScripted G h

theorem within_recordsAt (G : Guarantee asks touched R) {sources : EntityFields} {path : String} {roots : List Node} :
    Within R (recordsAt sources path roots : Run δ (List Node)) :=
  fun w => G.visit w _

end Execution

/-! Annotators that succeed set their field. -/

def Store.Retains (s t : Store) : Prop :=
  s.records.size ≤ t.records.size ∧ ∀ i < s.records.size, ∀ name, (s.get? i (.text name)).isSome = true →
    (t.get? i (.text name)).isSome = true

theorem Store.Retains.refl (s : Store) : s.Retains s := ⟨Nat.le_refl _, fun _ _ _ h => h⟩

theorem Store.Retains.trans {s t u : Store} (h : s.Retains t) (h' : t.Retains u) : s.Retains u :=
  ⟨Nat.le_trans h.1 h'.1, fun i hi name hn => h'.2 i (Nat.lt_of_lt_of_le hi h.1) name (h.2 i hi name hn)⟩

theorem Store.isSome_set (s : Store) {id : Nat} (name : String) (v : Node) (h : id < s.records.size) :
    ((s.set id (.text name) v).get? id (.text name)).isSome = true := by
  rw [Store.get?_set, if_pos ⟨rfl, h, rfl⟩]
  rfl

/-- Setting a field keeps all records and all their names. -/
theorem Store.retains_set (s : Store) (id : Nat) (name : String) (v : Node) : s.Retains (s.set id (.text name) v) := by
  refine ⟨Nat.le_of_eq (s.size_set id _ v).symm, ?_⟩
  intro i hi other hother
  rw [Store.get?_set]
  split
  · rfl
  · exact hother

namespace Run

/-- No step of work takes a record or the name of a field away. -/
theorem guarantee_retains : Guarantee (fun _ => True) (fun _ _ => True) fun w w' : World δ => w.store.Retains w'.store where
  refl := fun w _ => .refl w.store
  trans := fun _ h h' => h.trans h'
  issue := fun w _ _ => .refl w.store
  count := fun w _ _ => .refl w.store
  turn := fun w _ _ => .refl w.store
  tell := fun w _ => .refl w.store
  grow := by
    intro w store h
    refine ⟨h.1, ?_⟩
    intro i hi name hname
    rwa [Store.get?, h.2 i hi]
  set := fun w id name v _ => w.store.retains_set id name v
  build := fun w _ => .refl w.store
  use := fun w _ => .refl w.store

def Sets (records : List Node) (field : String) (x : Run δ Unit) : Prop :=
  ∀ w w', Gives x w ⟨⟩ w' → ∀ id, Node.record id ∈ records → id < w.store.records.size →
    (w'.store.get? id (.text field)).isSome = true

variable {α : Type} {field : String}

omit [Engine δ] in
theorem Sets.after {x : Run δ α} {f : α → Run δ Unit} (hx : Within (fun w w' => w.store.Retains w'.store) x)
    (hf : ∀ a, Sets records field (f a)) : Sets records field (x >>= f) := by
  intro w w' h id hid hlt
  obtain ⟨a, m, ha, hrest⟩ := Gives.bind_iff.mp h
  exact hf a m w' hrest id hid (Nat.lt_of_lt_of_le hlt (hx.of_gives ha).1)

omit [Engine δ] in
theorem Sets.none {x : Run δ Unit} (h : records.isEmpty = true) : Sets records field x := by
  intro w w' _ id hid
  rw [List.isEmpty_iff.mp h] at hid
  cases hid

omit [Engine δ] in
theorem Sets.setField (n v : Node) : Sets [n] field (setField n field v : Run δ Unit) := by
  intro w w' h id hid hlt
  obtain ⟨i, rfl, rfl⟩ := setField_gives h
  cases List.mem_singleton.mp hid
  exact w.store.isSome_set field v hlt

omit [Engine δ] in
/-- A loop sets a field of all records if every step sets that of its own and takes no field from any other. -/
theorem Sets.forM {g : Node → Run δ Unit} (records : List Node)
    (hg : ∀ n ∈ records, Within (fun w w' => w.store.Retains w'.store) (g n)) (hset : ∀ n ∈ records, Sets [n] field (g n)) :
    Sets records field (records.forM g) := by
  induction records with
  | nil => exact .none rfl
  | cons n rest ih =>
    intro w w' h id hid hlt
    obtain ⟨m, hn, hrest⟩ := Gives.forM_cons_iff.mp h
    have hfirst := (hg n List.mem_cons_self).of_gives hn
    have hlt' := Nat.lt_of_lt_of_le hlt hfirst.1
    have hlater : m.store.Retains w'.store := by
      apply Gives.forM_keeps (P := fun m' => m.store.Retains m'.store) hrest ?_ (.refl _)
      intro x hx m₁ m₂ h₁ hx'
      exact h₁.trans ((hg x (List.mem_cons_of_mem _ hx)).of_gives hx')
    rcases List.mem_cons.mp hid with rfl | hid
    · exact hlater.2 id hlt' field (hset _ List.mem_cons_self w m hn id (List.mem_singleton_self _) hlt)
    · exact ih (fun x hx => hg x (List.mem_cons_of_mem _ hx)) (fun x hx => hset x (List.mem_cons_of_mem _ hx)) m w' hrest id
        hid hlt'

end Run

open Run

/-- Where counting words by level succeeds, every given record has its field. -/
theorem Learning.sets_annotateVocabsByLevel {owner : Owner} :
    Sets records "vocabsByLevel" (annotateVocabsByLevel owner records context : Run δ Unit) := by
  have G := guarantee_retains (δ := δ)
  refine .after (G.lift _) ?_
  intro user
  dsimp only
  split
  · exact .none ‹_›
  · refine .after (within_recordIds G) fun ids => .after (within_query G) fun rows =>
      .after (G.foldlM _ _ (within_addCount G)) fun counts => .forM _ ?_ ?_
    · exact fun record _ => G.bind (G.item _ _) fun _ _ => G.bind (G.lift _) fun _ _ => G.bind (G.newRecord _) fun _ _ =>
        G.setField _ _ fun _ _ => trivial
    · exact fun record _ => .after (G.item _ _) fun _ => .after (G.lift _) fun _ => .after (G.newRecord _) fun _ =>
        .setField _ _

/-- Where marking bookmarks succeeds, every given record has its field. -/
theorem Learning.sets_annotateIsBookmarked {owner : Owner} :
    Sets records "isBookmarked" (annotateIsBookmarked owner records context : Run δ Unit) := by
  have G := guarantee_retains (δ := δ)
  unfold annotateIsBookmarked
  split
  · exact .none ‹_›
  split
  · refine .after (within_recordIds G) fun ids => .after (within_query G) fun rows => .after (G.mapM _ ?_) fun marked =>
      .forM _ ?_ ?_
    · exact fun row => G.bind (G.item _ _) fun _ _ => G.lift _
    · exact fun record _ => G.bind (G.item _ _) fun _ _ => G.bind (G.lift _) fun _ _ => G.setField _ _ fun _ _ => trivial
    · exact fun record _ => .after (G.item _ _) fun _ => .after (G.lift _) fun _ => .setField _ _
  · refine .forM _ ?_ ?_
    · exact fun record _ => G.setField _ _ fun _ _ => trivial
    · exact fun record _ => .setField _ _

theorem Execution.sets_concludeScripted {name : String} {fails : Option String} {ids : List Value}
    {saw : Option (List Value)} : Sets records name (concludeScripted name records fails ids saw : Run δ Unit) := by
  have G := guarantee_retains (δ := δ)
  have hset : Sets records name (get >>= fun w => records.forM fun record =>
      setField record name (.scalar (.int (annotationCount w.events))) : Run δ Unit) := by
    refine .after G.get fun _ => .forM _ ?_ ?_
    · exact fun record _ => G.setField _ _ fun _ _ => trivial
    · exact fun record _ => .setField _ _
  refine .after (G.tellEvent _) fun _ => ?_
  split
  · exact .after (G.throw _) fun _ => hset
  · exact hset

/-- Where a scripted annotator succeeds, every given record has its field. -/
theorem Execution.sets_annotateScripted {name : String} :
    Sets records name (annotateScripted name records context : Run δ Unit) := by
  have G := guarantee_retains (δ := δ)
  unfold annotateScripted
  refine .after G.get fun w => ?_
  dsimp only
  generalize (w.registry.behaviour? name).getD ⟨none, none, none, none⟩ = behaviour
  have hids : Within (fun w w' => w.store.Retains w'.store)
      (records.mapM (fun r => currentField r "id") : Run δ (List Value)) := G.mapM _ fun r => G.currentField r _
  split
  · refine .after (G.lift _) fun _ => .after hids fun ids => ?_
    split
    · exact .after (G.mapM _ fun r => G.currentField r _) fun _ => .after (G.pure _) fun _ => sets_concludeScripted
    · exact .after (G.pure _) fun _ => sets_concludeScripted
  · refine .after hids fun ids => ?_
    split
    · exact .after (G.mapM _ fun r => G.currentField r _) fun _ => .after (G.pure _) fun _ => sets_concludeScripted
    · exact .after (G.pure _) fun _ => sets_concludeScripted

/-- An annotator that succeeds sets its field on all records that it gets. -/
theorem Execution.sets_annotate (a : Annotator) : Sets records a.field (annotate a records context : Run δ Unit) := by
  cases a with
  | vocabsByLevel owner => exact Learning.sets_annotateVocabsByLevel
  | isBookmarked owner => exact Learning.sets_annotateIsBookmarked
  | scripted name => exact sets_annotateScripted

end EntityViews
