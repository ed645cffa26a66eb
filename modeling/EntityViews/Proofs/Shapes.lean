import EntityViews.Learning.Entities
import EntityViews.Proofs.Negation
import EntityViews.Proofs.Operands

/-!
Filters of one shape, which differ in literals only. Main statement: from the same counter they compile to the same text or
fail alike, as long as what stands in the places of filters counts as absent in both of them or in neither.
-/

namespace EntityViews

open Sql
open Text (NoMark noMark_literal)

def Scalar.isLiteral : Scalar → Bool
  | .bool _ | .int _ | .float _ | .text _ | .date _ | .datetime _ | .decimal (.finite _ _ _) => true
  | _ => false

mutual

/-- Values of one shape: the same keys in the same order, collections of the same kind and size, and other scalars only
where both are literals. -/
inductive Value.SameShape : Value → Value → Prop
  | same (a : Scalar) : SameShape (.scalar a) (.scalar a)
  | literals {a b : Scalar} (ha : a.isLiteral) (hb : b.isLiteral) : SameShape (.scalar a) (.scalar b)
  | list {vs ws : List Value} (h : List.Forall₂ SameShape vs ws) : SameShape (.list vs) (.list ws)
  | tuple {vs ws : List Value} (h : List.Forall₂ SameShape vs ws) : SameShape (.tuple vs) (.tuple ws)
  | set {vs ws : List Value} (h : List.Forall₂ SameShape vs ws) : SameShape (.set vs) (.set ws)
  | map {es fs : List (Value × Value)} (h : SameEntries es fs) : SameShape (.map es) (.map fs)

inductive Value.SameEntries : List (Value × Value) → List (Value × Value) → Prop
  | nil : SameEntries [] []
  | cons (key : Value) {v w : Value} {es fs : List (Value × Value)} (h : SameShape v w) (hrest : SameEntries es fs) :
    SameEntries ((key, v) :: es) ((key, w) :: fs)

end

inductive Fault.Alike : Fault → Fault → Prop
  | same (f : Fault) : Alike f f
  | filter (p q : FilterProblem) (v w : Value) : Alike (.filter p v) (.filter q w)

/-- Outcomes of two computations: both results, related to each other, or faults that are alike. -/
inductive Outcomes {α β : Type} (R : α → β → Prop) : Except Fault α → Except Fault β → Prop
  | ok {a : α} {b : β} (h : R a b) : Outcomes R (.ok a) (.ok b)
  | error {f g : Fault} (h : f.Alike g) : Outcomes R (.error f) (.error g)

namespace Outcomes

variable {α β γ δ : Type} {R : α → β → Prop} {S : γ → δ → Prop}

theorem refl (x : Except Fault α) : Outcomes Eq x x := by
  cases x with
  | ok a => exact .ok rfl
  | error f => exact .error (.same f)

/-- Steps that go alike, one after the other, go alike. -/
theorem bind {x : Except Fault α} {y : Except Fault β} {f : α → Except Fault γ} {g : β → Except Fault δ}
    (h : Outcomes R x y) (hf : ∀ a b, R a b → Outcomes S (f a) (g b)) : Outcomes S (x >>= f) (y >>= g) := by
  cases h with
  | ok h => exact hf _ _ h
  | error h => exact .error h

theorem map {x : Except Fault α} {y : Except Fault β} {f : α → γ} {g : β → δ} (h : Outcomes R x y)
    (hf : ∀ a b, R a b → S (f a) (g b)) : Outcomes S (x.map f) (y.map g) := by
  cases h with
  | ok h => exact .ok (hf _ _ h)
  | error h => exact .error h

/-- The first result is that of the first computation. -/
theorem left {x : Except Fault α} {y : Except Fault β} (h : Outcomes R x y) :
    Outcomes (fun a b => R a b ∧ x = .ok a) x y := by
  cases h with
  | ok h => exact .ok ⟨h, rfl⟩
  | error h => exact .error h

end Outcomes

namespace Sql

def Compile.Alike {α β : Type} (R : α → β → Prop) (x : Compile α) (y : Compile β) : Prop :=
  ∀ n, Outcomes R (x.run.run n).1 (y.run.run n).1 ∧ (x.run.run n).2 = (y.run.run n).2

namespace Compile.Alike

variable {α β γ δ : Type} {R : α → β → Prop} {S : γ → δ → Prop}

theorem refl (x : Compile α) : Alike Eq x x := fun _ => ⟨.refl _, rfl⟩

theorem pure {a : α} {b : β} (h : R a b) : Alike R (Pure.pure a) (Pure.pure b) := fun _ => ⟨.ok h, rfl⟩

theorem throw {f g : Fault} (h : f.Alike g) :
    Alike R (MonadExcept.throw f : Compile α) (MonadExcept.throw g : Compile β) := fun _ => ⟨.error h, rfl⟩

theorem lift {x : Except Fault α} {y : Except Fault β} (h : Outcomes R x y) :
    Alike R (liftM x : Compile α) (liftM y : Compile β) := fun _ => ⟨h, rfl⟩

theorem bind {x : Compile α} {y : Compile β} {f : α → Compile γ} {g : β → Compile δ} (h : Alike R x y)
    (hf : ∀ a b, R a b → Alike S (f a) (g b)) : Alike S (x >>= f) (y >>= g) := by
  intro n
  rw [Gives.run_bind, Gives.run_bind]
  have hn := h n
  generalize x.run.run n = p at hn
  generalize y.run.run n = q at hn
  obtain ⟨a, m⟩ := p
  obtain ⟨b, m'⟩ := q
  obtain ⟨houtcomes, rfl⟩ := hn
  cases houtcomes with
  | ok h => exact hf _ _ h m
  | error h => exact ⟨.error h, rfl⟩

/-- Where the first step is the same work, the second is compared on the same result. -/
theorem andThen {x : Compile α} {f : α → Compile γ} {g : α → Compile δ} (hf : ∀ a, Alike S (f a) (g a)) :
    Alike S (x >>= f) (x >>= g) := by
  refine (refl x).bind fun a b h => ?_
  rw [h]
  exact hf b

/-- If one of them gives a result, so does the other. -/
theorem gives {x : Compile α} {y : Compile β} (h : Alike R x y) {n m : Nat} {a : α} (hx : Gives x n a m) :
    ∃ b, Gives y n b m ∧ R a b := by
  have hn := h n
  rw [hx] at hn
  generalize hy : y.run.run n = q at hn
  obtain ⟨outcome, m'⟩ := q
  obtain ⟨houtcomes, rfl⟩ := hn
  cases houtcomes with
  | ok h => exact ⟨_, hy, h⟩

end Compile.Alike

end Sql

namespace Filter

open Condition

def SameText (c d : Condition) : Prop := c.text = d.text

theorem SameText.refl (c : Condition) : SameText c c := rfl

def SameTexts (cs ds : List Condition) : Prop := texts cs = texts ds

theorem SameTexts.cons {c d : Condition} {cs ds : List Condition} (h : SameText c d) (hrest : SameTexts cs ds) :
    SameTexts (c :: cs) (d :: ds) := by
  unfold SameTexts
  rw [texts, texts, h, hrest]

/-- The text of a conjunction is that of its only part, or its parts with AND between them. -/
theorem text_conjunction (parts : List Condition) :
    (Condition.conjunction parts).text = match texts parts with
      | [t] => t
      | ts => "(" ++ " AND ".intercalate ts ++ ")" := by
  match parts with
  | [] => rfl
  | [part] => rfl
  | first :: second :: rest =>
    rw [Condition.conjunction, text]
    · rfl
    · intro part h
      cases h

theorem SameTexts.conjunction {cs ds : List Condition} (h : SameTexts cs ds) :
    SameText (Condition.conjunction cs) (Condition.conjunction ds) := by
  unfold SameText
  rw [text_conjunction, text_conjunction, h]

structure SameForm (p q : Value) : Prop where
  isNull : p.isNull = q.isNull
  members : (Sql.members p).length = (Sql.members q).length

/-- A literal is bound as a scalar that is not null. -/
theorem operand_literal {a : Scalar} (h : a.isLiteral) :
    ∃ b : Scalar, operand (.scalar a) = .ok (.scalar b) ∧ b ≠ .null := by
  cases a with
  | decimal d =>
    cases d with
    | finite negative coefficient exponent => exact ⟨_, rfl, nofun⟩
    | _ => cases h
  | null | level | columnKind => cases h
  | _ => exact ⟨_, rfl, nofun⟩

mutual

/-- Values of one shape are bound as operands of one form. -/
theorem operand_sameForm : (v : Value) → ∀ w, v.SameShape w → Outcomes SameForm (operand v) (operand w)
  | .scalar a => by
    intro w h
    cases h with
    | same =>
      cases hp : operand (.scalar a) with
      | ok p => exact .ok ⟨rfl, rfl⟩
      | error f => exact .error (.same f)
    | literals ha hb =>
      obtain ⟨a', ha', hna⟩ := operand_literal ha
      obtain ⟨b', hb', hnb⟩ := operand_literal hb
      rw [ha', hb']
      refine .ok ⟨?_, rfl⟩
      cases a' <;> cases b' <;> first | rfl | exact absurd rfl hna | exact absurd rfl hnb
  | .map entries => by
    intro w h
    cases h with
    | map h =>
      rw [operand, operand]
      exact .ok ⟨rfl, rfl⟩
  | .list items => by
    intro w h
    cases h with
    | list h =>
      rw [operand, operand]
      exact (operands_sameLength items _ h).map fun _ _ hlength => ⟨rfl, hlength⟩
  | .tuple items => by
    intro w h
    cases h with
    | tuple h =>
      rw [operand, operand]
      exact (operands_sameLength items _ h).map fun _ _ hlength => ⟨rfl, hlength⟩
  | .set items => by
    intro w h
    cases h with
    | set h =>
      rw [operand, operand]
      exact (operands_sameLength items _ h).map fun _ _ hlength => ⟨rfl, hlength⟩

/-- Lists of one shape are bound as equally many operands. -/
theorem operands_sameLength : (vs : List Value) → ∀ ws, List.Forall₂ Value.SameShape vs ws →
    Outcomes (fun ps qs => ps.length = qs.length) (Sql.operands vs) (Sql.operands ws)
  | [] => by
    intro ws h
    cases h
    exact .ok rfl
  | v :: vs => by
    intro ws h
    cases h with
    | cons h hrest =>
      rw [Sql.operands, Sql.operands]
      refine (operand_sameForm v _ h).bind fun p q _ => ?_
      refine (operands_sameLength vs _ hrest).bind fun ps qs hlength => ?_
      exact .ok (congrArg Nat.succ hlength)

end

/-- What is something is compared with by a placeholder, whatever the comparison. -/
theorem operatorCondition_compare {t : Term} {k : Comparison} {v p : Value} (h : operand v = .ok p)
    (hp : p.isNull = false) : operatorCondition t (.comparison k) v = .ok (.compare k t p) := by
  unfold operatorCondition
  simp only [h, bind, Except.bind, pure, Except.pure]
  split
  · cases hp
  · cases hp
  · cases ‹Operator.comparison k = .comparison _›
    rfl
  · cases ‹Operator.comparison k = .isIn›
  · cases ‹Operator.comparison k = .notIn›

/-- Operands of one shape make conditions with the same text. -/
theorem operatorCondition_sameText (t : Term) (op : Operator) {v w : Value} (h : Value.SameShape v w) :
    Outcomes SameText (operatorCondition t op v) (operatorCondition t op w) := by
  have hforms := operand_sameForm v w h
  generalize hv : operand v = x at hforms
  generalize hw : operand w = y at hforms
  cases hforms with
  | error hfault =>
    unfold operatorCondition
    rw [hv, hw]
    exact .error hfault
  | @ok p q hform =>
    have hempty : (Sql.members p).isEmpty = (Sql.members q).isEmpty := by
      rw [Bool.eq_iff_iff, List.isEmpty_iff_length_eq_zero, List.isEmpty_iff_length_eq_zero, hform.members]
    have hplaceholders : placeholders (Sql.members p) = placeholders (Sql.members q) := by
      rw [placeholders, placeholders, List.map_const', List.map_const', hform.members]
    cases op with
    | comparison k =>
      cases hp : p.isNull with
      | false =>
        have hq : q.isNull = false := hform.isNull ▸ hp
        rw [operatorCondition_compare hv hp, operatorCondition_compare hw hq]
        exact .ok (show text _ = text _ by rw [text, text])
      | true =>
        -- Only nothing is converted to nothing, so both are the same.
        have hq : q.isNull = true := hform.isNull ▸ hp
        rw [Value.isNull_eq_true.mp hp, operand_eq_null] at hv
        rw [Value.isNull_eq_true.mp hq, operand_eq_null] at hw
        rw [hv, hw]
        cases k <;> exact .ok rfl
    | isIn =>
      unfold operatorCondition
      rw [hv, hw]
      refine .ok ?_
      show SameText (if _ then _ else _) (if _ then _ else _)
      rw [hempty]
      split
      · rfl
      · show text _ = text _
        rw [text, text, hplaceholders]
    | notIn =>
      unfold operatorCondition
      rw [hv, hw]
      refine .ok ?_
      show SameText (if _ then _ else _) (if _ then _ else _)
      rw [hempty]
      split
      · rfl
      · show text _ = text _
        rw [text, text, hplaceholders]

/-- Operators with operands of one shape make conditions with the same texts. -/
theorem operatorConditions_sameTexts (t : Term) (whole other : Value) {es fs : List (Value × Value)}
    (h : Value.SameEntries es fs) :
    Outcomes SameTexts (operatorConditions t whole es) (operatorConditions t other fs) := by
  induction es generalizing fs with
  | nil =>
    cases h
    exact .ok rfl
  | cons e es ih =>
    cases h with
    | @cons key v w _ fs h hrest =>
      unfold operatorConditions
      rw [List.mapM_cons, List.mapM_cons]
      refine Outcomes.bind (R := SameText) ?_ fun c d hc => ?_
      · simp only
        split
        · exact operatorCondition_sameText t _ h
        · exact .error (.filter _ _ _ _)
      refine (ih hrest).bind fun cs ds hcs => ?_
      exact .ok (SameTexts.cons hc hcs)

/-- Comparisons of one shape make conditions with the same text. -/
theorem comparisonCondition_sameText (t : Term) {v w : Value} (h : Value.SameShape v w) :
    Outcomes SameText (comparisonCondition t v) (comparisonCondition t w) := by
  cases h with
  | same a => exact operatorCondition_sameText t (.comparison .eq) (.same a)
  | literals ha hb => exact operatorCondition_sameText t (.comparison .eq) (.literals ha hb)
  | list h => exact operatorCondition_sameText t .isIn (.list h)
  | tuple h => exact operatorCondition_sameText t .isIn (.tuple h)
  | set h => exact operatorCondition_sameText t .isIn (.set h)
  | map h =>
    cases h with
    | nil => exact .ok rfl
    | cons key hv hrest =>
      exact (operatorConditions_sameTexts t _ _ (.cons key hv hrest)).map fun _ _ hcs => hcs.conjunction

/-- Whether a filter is an id comparison is a matter of its shape. -/
theorem isIdComparison_eq {v w : Value} (h : Value.SameShape v w) : isIdComparison v = isIdComparison w := by
  have hall : ∀ {es fs : List (Value × Value)}, Value.SameEntries es fs →
      (es.all fun e => (Operator.ofKey? e.1).isSome) = fs.all fun e => (Operator.ofKey? e.1).isSome := by
    intro es
    induction es with
    | nil =>
      intro fs h
      cases h
      rfl
    | cons e es ih =>
      intro fs h
      cases h with
      | cons key hv hrest => rw [List.all_cons, List.all_cons, ih hrest]
  cases h with
  | map h =>
    have hsame := hall h
    cases h with
    | nil => rfl
    | cons key hv hrest => exact hsame
  | _ => rfl

theorem SameText.not {c d : Condition} (h : SameText c d) : SameText (.not c) (.not d) := by
  show text _ = text _
  rw [text, text, h]

theorem SameTexts.group {cs ds : List Condition} (h : SameTexts cs ds) (disjunctive : Bool) :
    SameText (if disjunctive then .any cs else .all cs) (if disjunctive then .any ds else .all ds) := by
  cases disjunctive
  · show text (.all cs) = text (.all ds)
    rw [text, text, h]
  · show text (.any cs) = text (.any ds)
    rw [text, text, h]

theorem SameText.within {c d : Condition} (h : SameText c d) (negated : Bool) (t : Term) (column table : Name)
    (row : Alias) : SameText (.within negated t column table row c) (.within negated t column table row d) := by
  show text _ = text _
  rw [text, text, h]

theorem isNull_literal {a : Scalar} (h : a.isLiteral = true) : (Value.scalar a).isNull = false := by
  cases a with
  | null => cases h
  | _ => rfl

theorem isNull_eq {v w : Value} (h : Value.SameShape v w) : v.isNull = w.isNull := by
  cases h with
  | literals ha hb => exact (isNull_literal ha).trans (isNull_literal hb).symm
  | _ => rfl

section Relation

variable {v w : Value} (h : Value.SameShape v w) {nested nested' : Alias → Compile Condition}
  (hn : isIdComparison v = false → ∀ sub, Compile.Alike SameText (nested sub) (nested' sub)) (target : Entity)

include h hn

/-- What is said of a key has the same text for filters of one shape. -/
theorem keyCondition_alike (t : Term) :
    Compile.Alike SameText (keyCondition target t v nested) (keyCondition target t w nested') := by
  unfold keyCondition
  rw [← isIdComparison_eq h]
  split
  · exact .lift (comparisonCondition_sameText t h)
  · rename_i hv
    refine .andThen fun sub => (hn (Bool.eq_false_iff.mpr hv) sub).bind fun c d hc => ?_
    exact .andThen fun table => .pure (SameText.within hc _ _ _ _ _)

/-- What is said of a related row has the same text for filters of one shape. -/
theorem targetCondition_alike (sub : Alias) (back : Name) :
    Compile.Alike SameText (targetCondition sub back v nested) (targetCondition sub back w nested') := by
  unfold targetCondition
  rw [← isNull_eq h, ← isIdComparison_eq h]
  split
  · exact .pure rfl
  split
  · exact .lift (comparisonCondition_sameText _ h)
  · rename_i hv
    exact hn (Bool.eq_false_iff.mpr hv) sub

/-- A relation compiles to the same text for filters of one shape. -/
theorem relationCondition_alike (row : Alias) (link : Link) :
    Compile.Alike SameText (relationCondition target row link v nested) (relationCondition target row link w nested') := by
  cases link with
  | manyToOne key | oneToOne key =>
    rw [relationCondition_held target row key (by simp), relationCondition_held target row key (by simp)]
    exact .andThen fun t => keyCondition_alike h hn target t
  | manyToMany table sourceKey targetKey =>
    rw [relationCondition_through, relationCondition_through]
    refine .andThen fun join => .andThen fun source => .andThen fun t => ?_
    refine (keyCondition_alike h hn target t).bind fun c d hc => ?_
    exact .andThen fun table => .pure (SameText.within hc _ _ _ _ _)
  | oneToMany key | oneToOneInverse key =>
    rw [relationCondition_back target row key (by simp), relationCondition_back target row key (by simp), ← isNull_eq h]
    refine .andThen fun sub => .andThen fun back => (targetCondition_alike h hn sub back).bind fun c d hc => ?_
    exact .andThen fun table => .pure (SameText.within hc _ _ _ _ _)

end Relation

/-! What stands in the places of filters. -/

mutual

/-- Whether what stands in the place of a filter, and is no map, counts as absent in both of two filters or in neither. -/
def Agree : Value → Value → Prop
  | .map es, .map fs => AgreeEntries es fs
  | v, w => v.isPresent = w.isPresent

def AgreeEntries : List (Value × Value) → List (Value × Value) → Prop
  | (key, v) :: es, (_, w) :: fs =>
    (match key.asText? with
    | some "$not" => Agree v w
    | some "$and" | some "$or" => AgreeGroup v w
    -- Only what is no comparison may be a filter on related rows.
    | _ => isIdComparison v = true ∨ Agree v w) ∧ AgreeEntries es fs
  | _, _ => True

def AgreeGroup : Value → Value → Prop
  | .list vs, .list ws | .tuple vs, .tuple ws => AgreeMembers vs ws
  | _, _ => True

def AgreeMembers : List Value → List Value → Prop
  | v :: vs, w :: ws => Agree v w ∧ AgreeMembers vs ws
  | _, _ => True

end

theorem agreeEntries_cons {e : Entity} {whole key v w : Value} {k : Key} (hk : Key.of e whole key = .ok k)
    {other : Value} {es fs : List (Value × Value)} :
    AgreeEntries ((key, v) :: es) ((other, w) :: fs) ↔
      pick (Agree v w) (AgreeGroup v w) (isIdComparison v = true ∨ Agree v w) k ∧ AgreeEntries es fs := by
  have hname := pick_of_name hk (Agree v w) (AgreeGroup v w) (isIdComparison v = true ∨ Agree v w)
  rw [AgreeEntries]
  exact and_congr (iff_of_eq hname) Iff.rfl

/-- What a key is does not depend on the filter that it stands in, and its faults are about the filter. -/
theorem key_alike (e : Entity) (whole other key : Value) : Outcomes Eq (Key.of e whole key) (Key.of e other key) := by
  unfold Key.of
  split
  · exact .error (.same _)
  simp only
  repeat
    split
    · exact .ok rfl
  split
  · exact .error (.filter _ _ _ _)
  split
  · exact .ok rfl
  split
  · exact .ok rfl
  split
  · exact .ok rfl
  · exact .error (.filter _ _ _ _)

theorem isEmpty_eq {vs ws : List Value} (h : List.Forall₂ Value.SameShape vs ws) : (!vs.isEmpty) = !ws.isEmpty := by
  cases h <;> rfl

/-- Values that are no maps fail both, or both stand for no filter. -/
theorem absent_alike {p q : Bool} {a b : FilterProblem} {v w : Value} (h : p = q) :
    Compile.Alike SameText (if p then throw (.filter a v) else pure .always : Compile Condition)
      (if q then throw (.filter b w) else pure .always) := by
  rw [h]
  split
  · exact .throw (.filter _ _ _ _)
  · exact .pure rfl

variable (s : Schema)

mutual

/-- Filters of one shape compile alike. -/
theorem ofFilter_alike : (v : Value) → ∀ w, Value.SameShape v w → Agree v w → ∀ (entity : String) (row : Alias),
    Compile.Alike SameText (ofFilter s entity row v) (ofFilter s entity row w)
  | .map es => by
    intro w h ha entity row
    cases h with
    | map h =>
      cases h with
      | nil =>
        rw [ofFilter]
        exact .pure rfl
      | @cons key v w es fs hv hrest =>
        rw [Agree] at ha
        rw [ofFilter, ofFilter]
        · refine .andThen fun e => ?_
          have hparts := ofEntries_alike ((key, v) :: es) _ (.cons key hv hrest) ha e row
          exact (hparts _ _).bind fun cs ds hcs => .pure hcs.conjunction
        · exact List.cons_ne_nil _ _
        · exact List.cons_ne_nil _ _
  | .scalar a => by
    intro w h ha entity row
    obtain ⟨b, rfl⟩ : ∃ b, w = .scalar b := by
      cases h with
      | same => exact ⟨a, rfl⟩
      | @literals _ b => exact ⟨b, rfl⟩
    rw [Agree] at ha
    · exact absent_alike ha
    · nofun
  -- What is no map counts as absent if it is empty, and else fails, whatever is in it.
  | .list vs => by
    intro w h ha entity row
    cases h with
    | list h => exact absent_alike (isEmpty_eq h)
  | .tuple vs => by
    intro w h ha entity row
    cases h with
    | tuple h => exact absent_alike (isEmpty_eq h)
  | .set vs => by
    intro w h ha entity row
    cases h with
    | set h => exact absent_alike (isEmpty_eq h)

/-- Entries of one shape compile to the same texts. -/
theorem ofEntries_alike : (es : List (Value × Value)) → ∀ fs, Value.SameEntries es fs → AgreeEntries es fs →
    ∀ (e : Entity) (row : Alias) (whole other : Value),
    Compile.Alike SameTexts (ofEntries s e row whole es) (ofEntries s e row other fs)
  | [] => by
    intro fs h _ e row whole other
    cases h
    rw [ofEntries, ofEntries]
    exact .pure rfl
  | (key, v) :: es => by
    intro fs h ha e row whole other
    cases h with
    | @cons _ _ w _ fs hv hrest =>
      rw [ofEntries, ofEntries]
      refine (Compile.Alike.lift (key_alike e whole other key).left).bind ?_
      rintro k _ ⟨rfl, hk⟩
      obtain ⟨ha, hagree⟩ := (agreeEntries_cons hk).mp ha
      extract_lets next next'
      have hnext : ∀ c d, SameText c d → Compile.Alike SameTexts (next c) (next' d) := by
        intro c d hc
        refine (ofEntries_alike es fs hrest hagree e row whole other).bind fun cs ds hcs => ?_
        exact .pure (SameTexts.cons hc hcs)
      cases k with
      | negation =>
        refine (ofFilter_alike v w hv ha e.name row).bind fun c d hc => ?_
        exact (Compile.Alike.pure (SameText.not hc)).bind hnext
      | group disjunctive =>
        have hgroup : ∀ items others, v = .list items ∨ v = .tuple items → List.Forall₂ Value.SameShape items others →
            AgreeMembers items others → Compile.Alike SameTexts (do
              let parts ← ofMembers s e.name row items
              let part ← pure (if disjunctive then any parts else all parts)
              next part) (do
              let parts ← ofMembers s e.name row others
              let part ← pure (if disjunctive then any parts else all parts)
              next' part) := by
          intro items others hv hitems ha
          refine (ofGroup_alike v items hv others hitems ha e.name row).bind fun cs ds hcs => ?_
          exact (Compile.Alike.pure (hcs.group disjunctive)).bind hnext
        -- Its value is a list or a tuple of filters, or else a fault.
        cases hv with
        | @list items others h =>
          have hmembers : AgreeMembers items others := by
            unfold pick at ha
            rwa [AgreeGroup] at ha
          cases h with
          | nil => exact (Compile.Alike.pure (SameText.refl _)).bind hnext
          | cons h hrest => exact hgroup _ _ (Or.inl rfl) (.cons h hrest) hmembers
        | @tuple items others h =>
          have hmembers : AgreeMembers items others := by
            unfold pick at ha
            rwa [AgreeGroup] at ha
          cases h with
          | nil => exact (Compile.Alike.pure (SameText.refl _)).bind hnext
          | cons h hrest => exact hgroup _ _ (Or.inr rfl) (.cons h hrest) hmembers
        | _ => exact (Compile.Alike.throw (.filter _ _ _ _)).bind hnext
      | relation r =>
        refine .andThen fun target => ?_
        refine (relationCondition_alike hv ?_ target row r.link).bind hnext
        intro hi sub
        rcases ha with hi' | ha
        · exact absurd hi' (Bool.eq_false_iff.mp hi)
        · exact ofFilter_alike v w hv ha target.name sub
      | column name => exact .andThen fun t => (Compile.Alike.lift (comparisonCondition_sameText t hv)).bind hnext
      | formula f => exact .andThen fun t => (Compile.Alike.lift (comparisonCondition_sameText t hv)).bind hnext

/-- Members of one shape compile to the same texts. -/
theorem ofMembers_alike : (vs : List Value) → ∀ ws, List.Forall₂ Value.SameShape vs ws → AgreeMembers vs ws →
    ∀ (entity : String) (row : Alias), Compile.Alike SameTexts (ofMembers s entity row vs) (ofMembers s entity row ws)
  | [] => by
    intro ws h _ entity row
    cases h
    rw [ofMembers]
    exact .pure rfl
  | v :: vs => by
    intro ws h ha entity row
    cases h with
    | cons hv hrest =>
      rw [AgreeMembers] at ha
      rw [ofMembers, ofMembers]
      refine (ofFilter_alike v _ hv ha.1 entity row).bind fun c d hc => ?_
      refine (ofMembers_alike vs _ hrest ha.2 entity row).bind fun cs ds hcs => ?_
      exact .pure (SameTexts.cons hc hcs)

theorem ofGroup_alike : (v : Value) → ∀ items, v = .list items ∨ v = .tuple items →
    ∀ others, List.Forall₂ Value.SameShape items others → AgreeMembers items others →
    ∀ (entity : String) (row : Alias), Compile.Alike SameTexts (ofMembers s entity row items) (ofMembers s entity row others)
  | .list own | .tuple own => by
    intro items hv others h ha entity row
    have hi : items = own := by
      rcases hv with hv | hv <;> cases hv
      rfl
    subst hi
    exact ofMembers_alike items others h ha entity row
  | .map _ | .set _ | .scalar _ => by
    intro items hv
    rcases hv with hv | hv <;> cases hv

end

/-- Two compiled filters that no text and no number of operands tells apart. -/
def SamePlaces (c d : Condition) : Prop := c.text = d.text ∧ c.params.length = d.params.length

/-- An accepted filter compiles to a text with one question mark for each of its operands, which are bound in its order. Two
filters of one shape compile to the same text with as many operands, or both fail, whatever the literals in them. -/
theorem compile_insensitive {s : Schema} (hs : s.Unmarked) {row : Alias} (hrow : NoMark row.text) (entity : String) :
    (∀ v c n n', Gives (ofFilter s entity row v) n c n' → c.Binds (operands v)) ∧
      ∀ v w, Value.SameShape v w → Agree v w →
        Compile.Alike SamePlaces (ofFilter s entity row v) (ofFilter s entity row w) := by
  have hbinds : ∀ v c n n', Gives (ofFilter s entity row v) n c n' → c.Binds (operands v) :=
    fun v c n n' h => binds_ofFilter s hs v entity row c n n' hrow h
  refine ⟨hbinds, ?_⟩
  intro v w hshape hagree n
  obtain ⟨houtcomes, hcounter⟩ := ofFilter_alike s v w hshape hagree entity row n
  refine ⟨?_, hcounter⟩
  generalize hx : (ofFilter s entity row v).run.run n = x at houtcomes
  generalize hy : (ofFilter s entity row w).run.run n = y at houtcomes
  obtain ⟨x, m⟩ := x
  obtain ⟨y, m'⟩ := y
  cases houtcomes with
  | error h => exact .error h
  | @ok c d h =>
    refine .ok ⟨h, ?_⟩
    -- Both texts have as many question marks, one for each operand.
    calc c.params.length = Text.marks c.text := (hbinds v c n m hx).marks_text.symm
      _ = Text.marks d.text := congrArg Text.marks h
      _ = d.params.length := (hbinds w d n m' hy).marks_text

end Filter

theorem Learning.entities_schema : schema.entities = entities := rfl

theorem Learning.unmarked_schema : schema.Unmarked := by
  unfold Schema.Unmarked
  rw [entities_schema]
  simp only [entities, language, user, profile, collection, text, textHistoryEntry, textBookmark, collectionBookmark,
    vocab, meaning, mapTextVocab, mapLearnerVocab, mapLearnerLanguage, mapLearnerMeaning, dictionary, counting,
    List.forall_mem_cons, List.not_mem_nil, false_imp_iff, implies_true, and_true, true_and]
  repeat'
    with_reducible
      first
      | apply And.intro
      | apply NoMark.append
      | exact noMark_literal (by decide)

namespace Filter

open Condition

def titledIn (language : String) (titles : List String) : Value := .map
  [(.text "language", .map [(.text "code", .text language)]), (.text "title", .ofTexts titles)]

/-- Question marks in a literal stay out of the text, and so does everything else that it says. -/
theorem compile_insensitive_titles :
    ∃ c d n, Gives (ofFilter Learning.schema "Text" (.row "t0") (titledIn "en" ["Who?", "Why?"])) 1 c n ∧
      Gives (ofFilter Learning.schema "Text" (.row "t0") (titledIn "fr" ["Qui", ""])) 1 d n ∧
      c.text = d.text ∧ Text.marks c.text = 3 := by
  have hrow : NoMark (Alias.row "t0").text := noMark_literal (by decide)
  obtain ⟨hbinds, halike⟩ := compile_insensitive Learning.unmarked_schema hrow "Text"
  have hen : ∃ c n, Gives (ofFilter Learning.schema "Text" (.row "t0") (titledIn "en" ["Who?", "Why?"])) 1 c n ∧
      (fun _ _ => true) c n = true := Gives.of_check (by decide +kernel)
  obtain ⟨c, n, hc, _⟩ := hen
  have hshape : Value.SameShape (titledIn "en" ["Who?", "Why?"]) (titledIn "fr" ["Qui", ""]) := by
    refine .map (.cons _ (.map (.cons _ (.literals rfl rfl) .nil)) (.cons _ (.list ?_) .nil))
    exact .cons (.literals rfl rfl) (.cons (.literals rfl rfl) .nil)
  have hagree : Agree (titledIn "en" ["Who?", "Why?"]) (titledIn "fr" ["Qui", ""]) := by
    simp [titledIn, Agree, AgreeEntries, Value.asText?, Value.label?, Label.text, isIdComparison, Value.ofTexts]
  obtain ⟨d, hd, htext, _⟩ := (halike _ _ hshape hagree).gives hc
  have hb := hbinds _ c 1 n hc
  refine ⟨c, d, n, hc, hd, htext, ?_⟩
  calc Text.marks c.text = c.params.length := hb.marks_text
    _ = (operands (titledIn "en" ["Who?", "Why?"])).length := hb.converts.length_eq.symm
    _ = 3 := by decide +kernel

/-- Under a negation no filter but a map is accepted, unless it counts as absent: of two literals one fails, and the other
stands for every row. -/
theorem compile_sensitive_negatedLiterals :
    Value.SameShape (negated (.bool true)) (negated (.bool false)) ∧
      ¬Compile.Alike SamePlaces (ofFilter Learning.schema "Text" (.row "t0") (negated (.bool true)))
        (ofFilter Learning.schema "Text" (.row "t0") (negated (.bool false))) := by
  refine ⟨.map (.cons _ (.literals rfl rfl) .nil), ?_⟩
  intro h
  cases (h 1).1

end Filter

end EntityViews
