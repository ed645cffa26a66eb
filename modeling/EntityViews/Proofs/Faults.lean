import EntityViews.Proofs.Computations
import EntityViews.Storage.Repository

/-!
What does not fail at a path that cannot be walked: names, operands, filters, queries, stored values and the loose walk to
records all have faults of other kinds.
-/

namespace EntityViews

open Sql

def Fault.Pathless : Fault → Prop
  | .path _ _ => False
  | _ => True

namespace Except

def Pathless {α : Type} (x : Except Fault α) : Prop := ∀ e, x = .error e → e.Pathless

namespace Pathless

variable {α β : Type}

theorem ok (a : α) : Pathless (.ok a) := by
  intro e h
  cases h

theorem error {e : Fault} (h : e.Pathless) : Pathless (.error e : Except Fault α) := by
  intro e' he
  cases he
  exact h

theorem bind {x : Except Fault α} {f : α → Except Fault β} (hx : Pathless x) (hf : ∀ a, Pathless (f a)) :
    Pathless (x >>= f) := by
  cases x with
  | error e => exact error (hx e rfl)
  | ok a => exact hf a

theorem map {x : Except Fault α} (hx : Pathless x) (f : α → β) : Pathless (x.map f) := by
  cases x with
  | error e => exact error (hx e rfl)
  | ok a => exact ok _

theorem mapError {ε : Type} {x : Except ε α} {f : ε → Fault} (hf : ∀ e, (f e).Pathless) : Pathless (x.mapError f) := by
  cases x with
  | error e => exact error (hf e)
  | ok a => exact ok a

/-- If no step fails by a fault of a path, neither do the steps along a list. -/
theorem mapM {f : α → Except Fault β} (xs : List α) (hf : ∀ a, Pathless (f a)) : Pathless (xs.mapM f) := by
  intro e h
  obtain ⟨a, _, ha⟩ := mapM_error h
  exact hf a e ha

end Pathless

end Except

/-! Names, terms and operands. -/

namespace Sql

theorem Name.ofText?_pathless (role text : String) : Except.Pathless (Name.ofText? role text) := by
  unfold Name.ofText?
  split
  · exact .error trivial
  · split
    · exact .ok _
    · exact .error trivial

theorem Name.ofLabel?_pathless (l : Label) : Except.Pathless (Name.ofLabel? l) := by
  cases l with
  | word s => exact Name.ofText?_pathless _ s
  | kind k => exact .ok _

theorem Term.ofFormula_pathless (f : Formula) (row : Alias) : Except.Pathless (Term.ofFormula f row) := by
  refine .map (.mapError ?_) _
  intro e
  trivial

theorem scalarOperand_pathless (a : Scalar) : Except.Pathless (scalarOperand a) := by
  cases a with
  | decimal d =>
    refine .map ?_ _
    unfold floatOf
    split
    · exact .error trivial
    · exact .ok _
  | _ => exact .ok _

mutual

/-- To bind a value fails by no fault of a path. -/
theorem operand_pathless : (v : Value) → Except.Pathless (operand v)
  | .scalar a => by
    rw [operand]
    exact .map (scalarOperand_pathless a) _
  | .list items | .tuple items | .set items => by
    rw [operand]
    exact .map (operands_pathless items) _
  | .map entries => by
    rw [operand]
    exact .ok _

theorem operands_pathless : (items : List Value) → Except.Pathless (operands items)
  | [] => by
    rw [operands]
    exact .ok _
  | item :: rest => by
    rw [operands]
    exact .bind (operand_pathless item) fun _ => .bind (operands_pathless rest) fun _ => .ok _

end

theorem operatorCondition_pathless (term : Term) (op : Operator) (v : Value) :
    Except.Pathless (operatorCondition term op v) := by
  refine .bind (operand_pathless v) ?_
  intro converted
  split <;> exact .ok _

/-- A comparison fails by no fault of a path. -/
theorem comparisonCondition_pathless (term : Term) (v : Value) : Except.Pathless (comparisonCondition term v) := by
  unfold comparisonCondition
  split
  · exact .ok _
  · refine .map (.mapM _ ?_) _
    rintro ⟨key, value⟩
    dsimp only
    split
    · exact operatorCondition_pathless _ _ _
    · exact .error trivial
  all_goals exact operatorCondition_pathless _ _ _

/-- To read a key of a filter fails by no fault of a path. -/
theorem Key.of_pathless (e : Entity) (whole key : Value) : Except.Pathless (Key.of e whole key) := by
  unfold Key.of
  split
  · exact .error trivial
  · dsimp only
    -- Each further test ends in what the key is or in a fault about the filter.
    repeat' split
    all_goals first | exact .ok _ | exact .error trivial

/-! Queries. -/

namespace Query

theorem start_pathless (entity : Entity) (row : String) : Except.Pathless (start entity row) :=
  .bind (Name.ofText?_pathless _ _) fun _ => .bind (Name.ofText?_pathless _ _) fun _ => .ok _

theorem selectOne_pathless (q : Query) (name : String) : Except.Pathless (q.selectOne name) := by
  unfold selectOne
  repeat' split
  all_goals first | exact .ok _ | exact .error trivial

/-- To select columns one after the other fails by no fault of a path. -/
theorem selectEach_pathless (q : Query) (names : List String) : Except.Pathless (q.selectEach names).2 := by
  induction names generalizing q with
  | nil => exact .ok _
  | cons name rest ih =>
    rw [selectEach]
    have hone := q.selectOne_pathless name
    split
    · exact ih _
    · rename_i e h
      exact .error (hone e h)

theorem selecting_pathless (q : Query) (names : List String) : Except.Pathless (q.selecting names) :=
  .map (q.selectEach_pathless ("id" :: names)) fun _ => (q.select names).1

theorem term_pathless (q : Query) (name : Label) : Except.Pathless (q.term name) := by
  unfold term
  split
  · exact Term.ofFormula_pathless _ _
  · exact .map (Name.ofLabel?_pathless name) _

theorem outputs_pathless (q : Query) : Except.Pathless q.outputs :=
  .bind (.mapM _ fun _ => .map (Name.ofText?_pathless _ _) _) fun _ =>
    .bind (.mapM _ fun _ => .bind (Term.ofFormula_pathless _ _) fun _ => .bind (Name.ofText?_pathless _ _) fun _ => .ok _)
      fun _ => .ok _

theorem build_pathless (q : Query) : Except.Pathless q.build :=
  .bind (outputs_pathless _) fun _ => .bind (.mapM _ fun _ => .map (q.term_pathless _) _) fun _ => .ok _

end Query

end Sql

/-! Stored values. -/

section Cells

theorem timeOf_pathless {α : Type} (read : String → Except CalendarFault α) (v : Value) :
    Except.Pathless (timeOf read v) := by
  unfold timeOf
  split
  · exact .mapError fun _ => trivial
  · exact .error trivial
  · exact .error trivial

theorem Fault.pathless_ofJson (f : Json.ReadFault) : (Fault.ofJson f).Pathless := by
  cases f <;> trivial

theorem ColumnKind.ofCell_pathless (kind : ColumnKind) (cell : Value) : Except.Pathless (kind.ofCell cell) := by
  cases kind with
  | datetime | date => exact .map (timeOf_pathless _ cell) _
  | decimal =>
    unfold ofCell
    dsimp only
    split
    · exact .ok _
    · exact .error trivial
  | json =>
    unfold ofCell
    dsimp only
    split
    · split
      · exact .mapError Fault.pathless_ofJson
      · exact .error trivial
    · exact .ok _
  | _ => exact .ok _

theorem ColumnType.ofCell_pathless (type : ColumnType) (cell : Value) : Except.Pathless (type.ofCell cell) := by
  unfold ColumnType.ofCell
  split
  · exact .ok _
  · exact ColumnKind.ofCell_pathless _ _
  · exact .ok _

theorem Entity.ofCell_pathless (e : Entity) (name cell : Value) : Except.Pathless (e.ofCell name cell) := by
  unfold Entity.ofCell
  repeat' split
  all_goals first | exact .ok _ | exact ColumnType.ofCell_pathless _ _

theorem Entity.fieldsOfRow_pathless (e : Entity) (row : List (Value × Value)) : Except.Pathless (e.fieldsOfRow row) :=
  .mapM _ fun _ => .map (e.ofCell_pathless _ _) _

theorem Node.key_pathless (n : Node) : Except.Pathless n.key := by
  unfold Node.key
  split
  · exact .ok _
  · exact .error trivial

theorem Loader.cell_pathless (row : List (Value × Value)) (name : String) : Except.Pathless (Loader.cell row name) := by
  unfold Loader.cell
  split
  · exact .ok _
  · exact .error trivial

theorem Loader.keyCell_pathless (row : List (Value × Value)) (name : String) :
    Except.Pathless (Loader.keyCell row name) := by
  refine .bind (Loader.cell_pathless row name) ?_
  intro v
  split
  · exact .ok _
  · exact .error trivial

/-! The loose walk to the records at a path finds what there is. -/

theorem Store.ask_pathless (s : Store) (n : Node) (key : String) : Except.Pathless (s.ask n key) := by
  unfold Store.ask
  split
  · exact .ok _
  · exact .error trivial

/-- To go from records along keys fails by no fault of a path. -/
theorem Store.reachAll_pathless (s : Store) (keys : List String) (records : List Node) :
    Except.Pathless (s.reachAll records keys) := by
  induction keys generalizing records with
  | nil => exact .ok _
  | cons key rest ih =>
    refine .bind (.mapM _ ?_) fun _ => ih _
    intro n
    refine .bind (s.ask_pathless n key) ?_
    intro found
    split <;> exact .ok _

theorem Store.recordsAt_pathless (s : Store) (roots : List Node) (path : String) :
    Except.Pathless (s.recordsAt roots path) := by
  unfold Store.recordsAt
  split
  · exact .ok _
  · exact .bind (s.reachAll_pathless _ _) fun _ => .ok _

/-- To find the entity at the end of some segments fails by no fault of a path. -/
theorem Repository.entityAt_pathless (s : Schema) (path entity : String) (segments : List String) :
    Except.Pathless (Repository.entityAt s path entity segments) := by
  induction segments generalizing entity with
  | nil => exact .ok _
  | cons segment rest ih =>
    unfold Repository.entityAt
    split
    · exact ih _
    · exact .error trivial

theorem Repository.sortKeys_pathless (orderBy : Value) : Except.Pathless (Repository.sortKeys orderBy) := by
  have hkey : ∀ v, Except.Pathless (Repository.sortKeys.key v) := by
    intro v
    unfold Repository.sortKeys.key
    split
    · exact .ok _
    · exact .error trivial
  unfold Repository.sortKeys
  repeat' split
  all_goals first | exact .ok _ | exact .error trivial | exact .mapM _ fun _ => hkey _

end Cells

/-! Work on a state. -/

section Work

variable {σ α β : Type}

def Pathless (x : ExceptT Fault (StateM σ) α) : Prop := ∀ s, Except.Pathless (x.run.run s).1

namespace Pathless

protected theorem pure (a : α) : Pathless (pure a : ExceptT Fault (StateM σ) α) := fun _ => .ok a

protected theorem throw {e : Fault} (h : e.Pathless) : Pathless (throw e : ExceptT Fault (StateM σ) α) := fun _ => .error h

protected theorem lift {x : Except Fault α} (h : Except.Pathless x) : Pathless (liftM x : ExceptT Fault (StateM σ) α) :=
  fun _ => h

protected theorem get : Pathless (get : ExceptT Fault (StateM σ) σ) := fun _ => .ok _

protected theorem modify (f : σ → σ) : Pathless (modify f : ExceptT Fault (StateM σ) PUnit) := fun _ => .ok _

/-- The second part of some work is looked at only for what the first part can give. -/
theorem bind_of_gives {x : ExceptT Fault (StateM σ) α} {f : α → ExceptT Fault (StateM σ) β} (hx : Pathless x)
    (hf : ∀ s a s', Gives x s a s' → Pathless (f a)) : Pathless (x >>= f) := by
  intro s
  have hs := hx s
  rw [Gives.run_bind]
  cases h : x.run.run s with
  | mk outcome m =>
    rw [h] at hs
    cases outcome with
    | error e => exact .error (hs e rfl)
    | ok a => exact hf s a m h m

protected theorem bind {x : ExceptT Fault (StateM σ) α} {f : α → ExceptT Fault (StateM σ) β} (hx : Pathless x)
    (hf : ∀ a, Pathless (f a)) : Pathless (x >>= f) := hx.bind_of_gives fun _ a _ _ => hf a

protected theorem forM {g : α → ExceptT Fault (StateM σ) PUnit} (xs : List α) (hg : ∀ a, Pathless (g a)) :
    Pathless (xs.forM g) := by
  induction xs with
  | nil => exact .pure _
  | cons x xs ih =>
    rw [List.forM]
    exact .bind (hg x) fun _ => ih

protected theorem mapM {f : α → ExceptT Fault (StateM σ) β} (xs : List α) (hf : ∀ a, Pathless (f a)) :
    Pathless (xs.mapM f) := by
  induction xs with
  | nil =>
    rw [List.mapM_nil]
    exact .pure _
  | cons x xs ih =>
    rw [List.mapM_cons]
    exact .bind (hf x) fun _ => .bind ih fun _ => .pure _

protected theorem filterMapM {f : α → ExceptT Fault (StateM σ) (Option β)} (xs : List α) (hf : ∀ a, Pathless (f a)) :
    Pathless (xs.filterMapM f) := by
  induction xs with
  | nil =>
    rw [List.filterMapM_nil]
    exact .pure _
  | cons x xs ih =>
    rw [List.filterMapM_cons]
    refine .bind (hf x) ?_
    intro y
    cases y with
    | none => exact ih
    | some y => exact .bind ih fun _ => .pure _

protected theorem foldlM {f : β → α → ExceptT Fault (StateM σ) β} (xs : List α) (b : β) (hf : ∀ b a, Pathless (f b a)) :
    Pathless (xs.foldlM f b) := by
  induction xs generalizing b with
  | nil => exact .pure _
  | cons x xs ih =>
    rw [List.foldlM_cons]
    exact .bind (hf b x) fun _ => ih _

end Pathless

end Work

/-! Filters. -/

namespace Sql

theorem columnTerm_pathless (row : Alias) (name : Label) : Pathless (columnTerm row name) :=
  .bind (.lift (Name.ofLabel?_pathless name)) fun _ => .pure _

theorem entityNamed_pathless (s : Schema) (name : String) : Pathless (entityNamed s name) := by
  unfold entityNamed
  split
  · exact .pure _
  · exact .throw trivial

theorem freshAlias_pathless : Pathless freshAlias := fun _ => .ok _

/-- If the filter on related rows fails by no fault of a path, neither does the relation. -/
theorem relationCondition_pathless (target : Entity) (row : Alias) (link : Link) (value : Value)
    {nested : Alias → Compile Condition} (hnested : ∀ sub, Pathless (nested sub)) :
    Pathless (relationCondition target row link value nested) := by
  have hname : ∀ text, Pathless (liftM (Name.make? text) : Compile Name) :=
    fun text => .lift (Name.ofText?_pathless _ text)
  have hcompared : ∀ term, Pathless (liftM (comparisonCondition term value) : Compile Condition) :=
    fun term => .lift (comparisonCondition_pathless term value)
  unfold relationCondition
  dsimp only
  cases link with
  | manyToOne key | oneToOne key =>
    refine .bind (columnTerm_pathless _ _) fun term => ?_
    split
    · exact hcompared term
    · exact .bind freshAlias_pathless fun sub => .bind (hnested sub) fun _ => .bind (hname _) fun _ => .pure _
  | manyToMany table sourceKey targetKey =>
    refine .bind freshAlias_pathless fun join => .bind (hname _) fun _ => .bind (columnTerm_pathless _ _) fun term => ?_
    split
    · exact .bind (hcompared term) fun _ => .bind (hname _) fun _ => .pure _
    · exact .bind freshAlias_pathless fun sub => .bind (hnested sub) fun _ => .bind (hname _) fun _ =>
        .bind (.pure _) fun _ => .bind (hname _) fun _ => .pure _
  | oneToMany key | oneToOneInverse key =>
    refine .bind freshAlias_pathless fun sub => .bind (hname _) fun back => ?_
    split
    · exact .bind (hname _) fun _ => .pure _
    · split
      · exact .bind (hcompared _) fun _ => .bind (hname _) fun _ => .pure _
      · exact .bind (hnested sub) fun _ => .bind (hname _) fun _ => .pure _

namespace Condition

mutual

/-- No filter fails by a fault of a path, by induction on what is nested in it. -/
theorem ofFilter_pathless (s : Schema) : (filter : Value) → ∀ (entity : String) (row : Alias),
    Pathless (ofFilter s entity row filter)
  | .map [] => by
    intro entity row
    rw [ofFilter]
    exact .pure _
  | .map (entry :: rest) => by
    intro entity row
    rw [ofFilter.eq_def]
    exact .bind (entityNamed_pathless s entity) fun e => .bind (ofEntries_pathless s (entry :: rest) e row _) fun _ => .pure _
  | .scalar _ | .list _ | .tuple _ | .set _ => by
    intro entity row
    rw [ofFilter.eq_def]
    dsimp only
    split
    · exact .throw trivial
    · exact .pure _

/-- No entries of a filter fail by a fault of a path. -/
theorem ofEntries_pathless (s : Schema) : (entries : List (Value × Value)) → ∀ (e : Entity) (row : Alias) (whole : Value),
    Pathless (ofEntries s e row whole entries)
  | [] => by
    intro e row whole
    rw [ofEntries]
    exact .pure _
  | (key, value) :: rest => by
    intro e row whole
    have hrest : ∀ part, Pathless (ofEntries s e row whole rest >>= fun parts => pure (part :: parts)) :=
      fun part => .bind (ofEntries_pathless s rest e row whole) fun _ => .pure _
    rw [ofEntries]
    refine .bind (.lift (Key.of_pathless e whole key)) ?_
    intro k
    cases k with
    | negation => exact .bind (ofFilter_pathless s value _ row) fun _ => .bind (.pure _) hrest
    | group disjunctive =>
      have hmembers : ∀ items, value = .list items ∨ value = .tuple items → Pathless (ofMembers s e.name row items) :=
        fun items hv => ofGroup_pathless s value items hv e.name row
      dsimp only
      split
      · exact .bind (.pure _) hrest
      · exact .bind (.pure _) hrest
      · exact .bind (hmembers _ (Or.inl rfl)) fun _ => .bind (.pure _) hrest
      · exact .bind (hmembers _ (Or.inr rfl)) fun _ => .bind (.pure _) hrest
      · exact .bind (.throw trivial) hrest
    | relation r =>
      refine .bind (entityNamed_pathless s r.target) fun target => .bind ?_ hrest
      exact relationCondition_pathless target row r.link value fun sub => ofFilter_pathless s value target.name sub
    | column name =>
      exact .bind (columnTerm_pathless row name) fun term => .bind (.lift (comparisonCondition_pathless term value)) hrest
    | formula f =>
      exact .bind (.lift (Term.ofFormula_pathless f row)) fun term =>
        .bind (.lift (comparisonCondition_pathless term value)) hrest

/-- No members of a group fail by a fault of a path. -/
theorem ofMembers_pathless (s : Schema) : (filters : List Value) → ∀ (entity : String) (row : Alias),
    Pathless (ofMembers s entity row filters)
  | [] => by
    intro entity row
    rw [ofMembers]
    exact .pure _
  | filter :: rest => by
    intro entity row
    rw [ofMembers]
    exact .bind (ofFilter_pathless s filter entity row) fun _ => .bind (ofMembers_pathless s rest entity row) fun _ => .pure _

theorem ofGroup_pathless (s : Schema) : (value : Value) → ∀ items, value = .list items ∨ value = .tuple items →
    ∀ (entity : String) (row : Alias), Pathless (ofMembers s entity row items)
  | .list own | .tuple own => by
    intro items hv entity row
    have hi : items = own := by
      rcases hv with hv | hv <;> cases hv
      rfl
    rw [hi]
    exact ofMembers_pathless s own entity row
  | .map _ | .set _ | .scalar _ => by
    intro items hv
    rcases hv with hv | hv <;> cases hv

end

end Condition

theorem Query.filtered_pathless (s : Schema) (q : Query) (filter : Value) : Pathless (q.filtered s filter) := by
  unfold Query.filtered
  split
  · exact .bind (Condition.ofFilter_pathless s filter _ _) fun _ => .pure _
  · exact .pure _

end Sql

end EntityViews
