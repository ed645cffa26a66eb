import EntityViews.Proofs.Negation
import EntityViews.Proofs.Satisfaction

/-!
Filters for rows that a relation leads nowhere from: nothing in the place of the related id, and that the id equals
nothing. Main statement: which rows either of them selects, by where the keys of the relation are held.
-/

namespace EntityViews

open Sql

def Link.mentions (target : String) : Link → List String
  | .manyToOne key | .oneToOne key => [key]
  | .oneToMany key | .oneToOneInverse key => [key, target]
  | .manyToMany table sourceKey targetKey => [table, sourceKey, targetKey]

def Relation.Writable (r : Relation) (s : Schema) : Prop :=
  (∃ target, s.entity? r.target = some target) ∧ ∀ name ∈ r.link.mentions r.target, ∃ n, Name.make? name = .ok n

namespace Contents

variable (db : Contents)

def Identified (entity : String) : Prop := ∀ row ∈ db.rows entity, (row "id").isNull = false

/-- Referential integrity: a key of a relation holds nothing, or the id of a row. -/
def Refers (entity : String) (r : Relation) : Prop :=
  match r.link with
  | .manyToOne key | .oneToOne key =>
    ∀ row ∈ db.rows entity, (row key).isNull ∨ ∃ t ∈ db.rows r.target, db.Joins (row key) (t "id")
  | .oneToMany key | .oneToOneInverse key =>
    ∀ t ∈ db.rows r.target, (t key).isNull ∨ ∃ row ∈ db.rows entity, db.Joins (row "id") (t key)
  | .manyToMany table sourceKey targetKey => ∀ j ∈ db.rows table,
    ((j sourceKey).isNull ∨ ∃ row ∈ db.rows entity, db.Joins (row "id") (j sourceKey)) ∧
    ((j targetKey).isNull ∨ ∃ t ∈ db.rows r.target, db.Joins (j targetKey) (t "id"))

def Lone (row : Row) (r : Relation) : Prop := ¬∃ t ∈ db.rows r.target, db.Links row r.link t

/-- What a filter for the absence of related rows says of a row. On a joining table it asks for a row of the table that
leads nowhere, and on a key of the target only one of its spellings asks for anything that there can be. -/
def Misses (row : Row) (r : Relation) (spelled : Value) : Prop :=
  match r.link with
  | .manyToOne _ | .oneToOne _ => db.Lone row r
  | .oneToMany _ | .oneToOneInverse _ => spelled = .null ∧ db.Lone row r
  | .manyToMany table sourceKey targetKey =>
    ∃ j ∈ db.rows table, db.Joins (row "id") (j sourceKey) ∧ (j targetKey).isNull = true

theorem not_isNull_of_joins {a b : Value} (h : db.Joins a b) : a.isNull = false ∧ b.isNull = false := by
  rw [Joins, compare] at h
  split at h
  · cases h
  · rename_i hn
    simpa using hn

end Contents

namespace Filter

/-- The two ways to ask that there is no related row: by nothing, and by the equality of its id with nothing. -/
inductive Absence : Value → Prop
  | nothing : Absence .null
  | equalsNothing : Absence (.map [(.text "$eq", .null)])

namespace Absence

variable {v : Value} (h : Absence v)

include h

theorem isIdComparison_eq : isIdComparison v = true := by cases h <;> rfl

theorem comparisonCondition_eq (t : Term) : comparisonCondition t v = .ok (.isNull false t) := by cases h <;> rfl

theorem compared_eq (db : Contents) (a : Value) : db.compared a v = .ofBool a.isNull := by
  cases h with
  | nothing => rfl
  | equalsNothing => exact Truth.all_singleton _

end Absence

end Filter

namespace Sql

open EntityViews.Filter

/-- A new row takes the number that the counter stands at. -/
theorem freshAlias_gives_iff {row : Alias} {n n' : Nat} : Gives freshAlias n row n' ↔ row = .sub n ∧ n' = n + 1 := by
  simp only [freshAlias, Gives.bind_iff, Gives.get_iff, Gives.set_iff, Gives.pure_iff]
  constructor
  · rintro ⟨_, _, ⟨rfl, rfl⟩, _, _, rfl, rfl, rfl⟩
    exact ⟨rfl, rfl⟩
  · rintro ⟨rfl, rfl⟩
    exact ⟨n, n, ⟨rfl, rfl⟩, ⟨⟩, n + 1, rfl, rfl, rfl⟩

/-- A column can be named exactly if its name can be quoted, and no number is taken for it. -/
theorem columnTerm_gives_iff {row : Alias} {key : String} {t : Term} {n n' : Nat} :
    Gives (columnTerm row (.word key)) n t n' ↔ ∃ name, Name.make? key = .ok name ∧ t = .column row name ∧ n' = n := by
  simp only [columnTerm, Gives.bind_iff, Gives.lift_iff, Gives.pure_iff, Name.ofLabel?]
  constructor
  · rintro ⟨name, _, ⟨hname, rfl⟩, rfl, rfl⟩
    exact ⟨name, hname, rfl, rfl⟩
  · rintro ⟨name, hname, rfl, rfl⟩
    exact ⟨name, _, ⟨hname, rfl⟩, rfl, rfl⟩

section

variable {v : Value} (hv : Absence v)

include hv

/-- A relation compiles exactly if all names that its sub-select mentions can be quoted. -/
theorem relationCondition_gives_iff (target : Entity) (row : Alias) (link : Link) (nested : Alias → Compile Condition)
    (n : Nat) : (∃ c n', Gives (relationCondition target row link v nested) n c n') ↔
      ∀ name ∈ link.mentions target.name, ∃ m, Name.make? name = .ok m := by
  have hid := hv.isIdComparison_eq
  -- By what the sub-select names: nothing but the key, the joining table and its keys, or the target and its key.
  cases link with
  | manyToOne key | oneToOne key =>
    simp only [relationCondition, hid, if_true, hv.comparisonCondition_eq, Gives.bind_iff, Gives.lift_iff,
      columnTerm_gives_iff, Link.mentions, List.forall_mem_singleton]
    constructor
    · rintro ⟨c, n', t, _, ⟨name, hname, -⟩, -⟩
      exact ⟨name, hname⟩
    · rintro ⟨name, hname⟩
      exact ⟨_, n, _, n, ⟨name, hname, rfl, rfl⟩, rfl, rfl⟩
  | manyToMany table sourceKey targetKey =>
    simp only [relationCondition, hid, if_true, hv.comparisonCondition_eq, Gives.bind_iff, Gives.lift_iff,
      Gives.pure_iff, freshAlias_gives_iff, columnTerm_gives_iff, Link.mentions, List.forall_mem_cons, List.not_mem_nil,
      false_implies, implies_true, and_true]
    constructor
    · rintro ⟨_, _, _, _, _, source, _, ⟨hsource, -⟩, _, _, ⟨term, hterm, -⟩, _, _, -, name, _, ⟨hname, -⟩, -⟩
      exact ⟨⟨name, hname⟩, ⟨source, hsource⟩, term, hterm⟩
    · rintro ⟨⟨name, hname⟩, ⟨source, hsource⟩, ⟨term, hterm⟩⟩
      exact ⟨_, _, _, _, ⟨rfl, rfl⟩, source, _, ⟨hsource, rfl⟩, _, _, ⟨term, hterm, rfl, rfl⟩, _, _, ⟨rfl, rfl⟩,
        name, _, ⟨hname, rfl⟩, rfl, rfl⟩
  | oneToMany key | oneToOneInverse key =>
    simp only [relationCondition, Gives.bind_iff, Gives.lift_iff, freshAlias_gives_iff, Link.mentions,
      List.forall_mem_cons, List.not_mem_nil,
      false_implies, implies_true, and_true]
    -- The two spellings put the sub-select together differently, though from the same names.
    cases hv with
    | nothing =>
      simp only [Gives.bind_iff, Gives.lift_iff, Gives.pure_iff]
      constructor
      · rintro ⟨_, _, _, _, _, back, _, ⟨hback, -⟩, name, _, ⟨hname, -⟩, -⟩
        exact ⟨⟨back, hback⟩, ⟨name, hname⟩⟩
      · rintro ⟨⟨back, hback⟩, ⟨name, hname⟩⟩
        exact ⟨_, _, _, _, ⟨rfl, rfl⟩, back, _, ⟨hback, rfl⟩, name, _, ⟨hname, rfl⟩, rfl, rfl⟩
    | equalsNothing =>
      simp only [hid, if_true, Absence.equalsNothing.comparisonCondition_eq, Gives.bind_iff, Gives.lift_iff,
        Gives.pure_iff]
      constructor
      · rintro ⟨_, _, _, _, _, back, _, ⟨hback, -⟩, _, _, -, name, _, ⟨hname, -⟩, -⟩
        exact ⟨⟨back, hback⟩, ⟨name, hname⟩⟩
      · rintro ⟨⟨back, hback⟩, ⟨name, hname⟩⟩
        exact ⟨_, _, _, _, ⟨rfl, rfl⟩, back, _, ⟨hback, rfl⟩, _, _, ⟨rfl, rfl⟩, name, _, ⟨hname, rfl⟩, rfl, rfl⟩

end

end Sql

namespace Filter

variable {s : Schema} {entity : String} {key v : Value} {r : Relation}

/-- A filter of one relation stands for the condition of that relation. -/
theorem single_gives_iff (hk : s.key? entity key = some (.relation r)) {row : Alias} {c : Condition} {n n' : Nat} :
    Gives (Condition.ofFilter s entity row (single key v)) n c n' ↔ ∃ target, s.entity? r.target = some target ∧
      Gives (relationCondition target row r.link v fun sub => Condition.ofFilter s target.name sub v) n c n' := by
  obtain ⟨e, he, hof⟩ := Option.bind_eq_some_iff.mp hk
  have hof : Key.of e .null key = .ok (.relation r) := Except.toOption_eq_some_iff.mp hof
  constructor
  · intro h
    obtain ⟨e', cs, he', hcs, rfl⟩ := ofFilter_map_gives h
    obtain rfl : e' = e := Option.some.inj (he'.symm.trans he)
    obtain ⟨k, c, m, rest, hk', hc, hrest, rfl⟩ := ofEntries_cons_gives hcs
    obtain rfl : k = .relation r := Except.ok.inj ((Key.of_eq_ok hk').symm.trans hof)
    -- There is no other entry.
    rw [Condition.ofEntries] at hrest
    obtain ⟨rfl, rfl⟩ := Gives.pure_iff.mp hrest
    exact hc
  · rintro ⟨target, ht, hc⟩
    rw [single, Condition.ofFilter]
    · refine Gives.bind_iff.mpr ⟨e, n, entityNamed_gives.mpr ⟨he, rfl⟩, ?_⟩
      refine Gives.bind_iff.mpr ⟨[c], n', ?_, Gives.pure_iff.mpr ⟨rfl, rfl⟩⟩
      rw [Condition.ofEntries]
      refine Gives.bind_iff.mpr ⟨.relation r, n, Gives.lift_iff.mpr ⟨Key.of_eq_ok hof, rfl⟩, ?_⟩
      refine Gives.bind_iff.mpr ⟨target, n, entityNamed_gives.mpr ⟨ht, rfl⟩, ?_⟩
      refine Gives.bind_iff.mpr ⟨c, n', hc, ?_⟩
      rw [Condition.ofEntries]
      exact Gives.bind_iff.mpr ⟨[], n', Gives.pure_iff.mpr ⟨rfl, rfl⟩, Gives.pure_iff.mpr ⟨rfl, rfl⟩⟩
    · intro he
      cases he

end Filter

namespace Contents

variable (db : Contents) {entity : String} {r : Relation}

/-- On a key of the filtered row, both spellings ask whether the key is there; if it is, it is the id of a row. -/
theorem isNull_iff_lone {row : Row} {key : String} (hrow : row ∈ db.rows entity)
    (hlink : r.link = .manyToOne key ∨ r.link = .oneToOne key) (href : db.Refers entity r) :
    (row key).isNull = true ↔ db.Lone row r := by
  have hlinks (t : Row) : db.Links row r.link t ↔ db.Joins (row key) (t "id") := by
    rcases hlink with hlink | hlink <;> rw [hlink] <;> exact Iff.rfl
  have hkey : (row key).isNull ∨ ∃ t ∈ db.rows r.target, db.Joins (row key) (t "id") := by
    rcases hlink with hlink | hlink <;> rw [Refers, hlink] at href <;> exact href row hrow
  simp only [Lone, hlinks]
  constructor
  · rintro hnull ⟨t, _, hjoin⟩
    -- Nothing joins nothing.
    rw [(db.not_isNull_of_joins hjoin).1] at hnull
    cases hnull
  · intro hlone
    exact hkey.resolve_right hlone

/-- On a key of the target, a row is missing among the keys that are there exactly when no row leads to it. -/
theorem not_member_keys_iff {row : Row} {target key : String} (hid : (row "id").isNull = false) :
    (db.member (row "id") (db.column target key fun t => .ofBool !(t key).isNull)).not = .holds ↔
      ¬∃ t ∈ db.rows target, db.Joins (row "id") (t key) := by
  have hmember : db.member (row "id") (db.column target key fun t => .ofBool !(t key).isNull) = .holds ↔
      ∃ t ∈ db.rows target, db.Joins (row "id") (t key) := by
    rw [db.member_column_eq_holds]
    constructor
    · rintro ⟨t, ht, _, hjoin⟩
      exact ⟨t, ht, hjoin⟩
    · rintro ⟨t, ht, hjoin⟩
      refine ⟨t, ht, ?_, hjoin⟩
      rw [(db.not_isNull_of_joins hjoin).2]
      rfl
  rw [Truth.not_eq_holds, ← hmember]
  constructor
  · intro hf hh
    rw [hf] at hh
    cases hh
  · intro hh
    -- The sub-select gives no key that is nothing, so the membership is not unknown.
    have hknown : db.member (row "id") (db.column target key fun t => .ofBool !(t key).isNull) ≠ .unknown := by
      intro hu
      obtain ⟨v, hv, hnull⟩ := (db.member_eq_unknown hid hh).mp hu
      obtain ⟨t, _, hkept, rfl⟩ := db.mem_column.mp hv
      rw [hnull] at hkept
      cases hkept
    cases hm : db.member (row "id") (db.column target key fun t => .ofBool !(t key).isNull) with
    | holds => exact absurd hm hh
    | fails => rfl
    | unknown => exact absurd hm hknown

/-- The truth of a filter for the absence of related rows is what it says of the row. -/
theorem linked_absence_eq_holds {row : Row} {v : Value} {nested : Row → Truth} (hv : Filter.Absence v)
    (hids : db.Identified entity) (htargets : db.Identified r.target) (href : db.Refers entity r)
    (hrow : row ∈ db.rows entity) : db.linked row r.target r.link v nested = .holds ↔ db.Misses row r v := by
  have hid := hids row hrow
  rw [Misses]
  cases hlink : r.link with
  | manyToOne key =>
    rw [linked, if_pos hv.isIdComparison_eq, hv.compared_eq, Truth.ofBool_eq_holds]
    exact db.isNull_iff_lone hrow (Or.inl hlink) href
  | oneToOne key =>
    rw [linked, if_pos hv.isIdComparison_eq, hv.compared_eq, Truth.ofBool_eq_holds]
    exact db.isNull_iff_lone hrow (Or.inr hlink) href
  | manyToMany table sourceKey targetKey =>
    -- What is compared is the key in the joining table, not whether there is a row in it.
    simp only [linked, related, hv.isIdComparison_eq, if_true, member_column_eq_holds, hv.compared_eq,
      Truth.ofBool_eq_holds]
    constructor
    · rintro ⟨j, hj, hnull, hjoin⟩
      exact ⟨j, hj, hjoin, hnull⟩
    · rintro ⟨j, hj, hjoin, hnull⟩
      exact ⟨j, hj, hnull, hjoin⟩
  | oneToMany key | oneToOneInverse key =>
    have hlone : db.Lone row r ↔ ¬∃ t ∈ db.rows r.target, db.Joins (row "id") (t key) := by
      rw [Lone, hlink]
      exact Iff.rfl
    cases hv with
    | nothing =>
      rw [linked, db.not_member_keys_iff hid, hlone]
      exact (and_iff_right rfl).symm
    | equalsNothing =>
      -- The sub-select keeps the rows of the target whose id is nothing, and there are none.
      have hnone : ¬∃ t ∈ db.rows r.target, (t "id").isNull = true ∧ db.Joins (row "id") (t key) := by
        rintro ⟨t, ht, hnull, _⟩
        rw [htargets t ht] at hnull
        cases hnull
      rw [db.linked_eq_member rfl rfl, related, member_column_eq_holds]
      simp only [Filter.Absence.equalsNothing.isIdComparison_eq, if_true, Filter.Absence.equalsNothing.compared_eq,
        Truth.ofBool_eq_holds]
      constructor
      · intro h
        exact absurd h hnone
      · rintro ⟨h, _⟩
        cases h

end Contents

namespace Sql.Condition

open EntityViews.Filter

/-- A filter for the absence of related rows compiles exactly if the relation is one that a statement can be written
for. It then selects the rows that are related to none if the filtered row holds the key, and, spelled by nothing, if the
target holds it; on a joining table it selects the rows that a row of the table leads nowhere from. -/
theorem selects_iff_misses (s : Schema) (entity : String) (key : Value) (r : Relation) (v : Value) (row : Alias) (n : Nat)
    (hk : s.key? entity key = some (.relation r)) (hv : Absence v) :
    ((∃ c n', Gives (ofFilter s entity row (single key v)) n c n') ↔ r.Writable s) ∧
    ∀ c n', Gives (ofFilter s entity row (single key v)) n c n' → ∀ (db : Contents) (env : Env),
      db.Identified entity → db.Identified r.target → db.Refers entity r → env row.text ∈ db.rows entity →
      (db.truth env c = .holds ↔ db.Misses (env row.text) r v) := by
  constructor
  · -- The filter compiles as the condition of its relation does.
    simp only [single_gives_iff hk, Relation.Writable]
    constructor
    · rintro ⟨c, n', target, ht, hc⟩
      have hname := Schema.name_of_entity? ht
      have hnames := (relationCondition_gives_iff hv target row r.link _ n).mp ⟨c, n', hc⟩
      exact ⟨⟨target, ht⟩, hname ▸ hnames⟩
    · rintro ⟨⟨target, ht⟩, hnames⟩
      have hname := Schema.name_of_entity? ht
      obtain ⟨c, n', hc⟩ := (relationCondition_gives_iff hv target row r.link
        (fun sub => ofFilter s target.name sub v) n).mpr (hname.symm ▸ hnames)
      exact ⟨c, n', target, ht, hc⟩
  · -- The condition is as true as the filter, and the filter has one entry, for the relation.
    intro c n' hc db env hids htargets href hrow
    rw [Filter.truth_ofFilter db s _ entity row c n n' hc env, Filter.truth_single db s entity _ key v r hk]
    exact db.linked_absence_eq_holds hv hids htargets href hrow

/-- The texts and collections of `markedTexts` have ids, and the text that is in a collection is in one that there is. -/
theorem markedTexts_refers : markedTexts.Identified "Text" ∧ markedTexts.Identified "Collection" ∧
    markedTexts.Refers "Text" (Learning.toOne "collection" "Collection") ∧
    markedTexts.Refers "Collection" (Learning.toMany "texts" "Text" "collectionId" ["orderInCollection", "id"]) ∧
    markedTexts.Refers "Collection"
      (Learning.through "bookmarkers" "Profile" "CollectionBookmark" "collectionId" "bookmarkerId") := by
  refine ⟨?_, ?_, ?_, ?_, ?_⟩
  · rintro row (_ | ⟨_, _ | ⟨_, ⟨⟩⟩⟩) <;> rfl
  · rintro row (_ | ⟨_, _ | ⟨_, ⟨⟩⟩⟩) <;> rfl
  · rintro row (_ | ⟨_, _ | ⟨_, ⟨⟩⟩⟩)
    · exact Or.inr ⟨_, .head _, rfl⟩
    · exact Or.inl rfl
  · rintro t (_ | ⟨_, _ | ⟨_, ⟨⟩⟩⟩)
    · exact Or.inr ⟨_, .head _, rfl⟩
    · exact Or.inl rfl
  · rintro j ⟨⟩

/-- Of two texts, the one in no collection is selected, and the other is not. -/
theorem selects_iff_misses_collection :
    ∃ c n', Gives (ofFilter Learning.schema "Text" (.row "t0") (single (.text "collection") .null)) 1 c n' ∧
      markedTexts.truth (fun _ => .ofCells [("id", .int 11), ("isPublic", .int 1), ("languageId", .int 3)]) c = .holds ∧
      ¬markedTexts.truth (fun _ => .ofCells [("id", .int 10), ("isPublic", .int 1), ("languageId", .int 4),
        ("collectionId", .int 1)]) c = .holds := by
  obtain ⟨htexts, hcollections, href, -⟩ := markedTexts_refers
  have hselects := (selects_iff_misses Learning.schema "Text" (.text "collection")
    (Learning.toOne "collection" "Collection") .null (.row "t0") 1 rfl .nothing).2
  refine ⟨_, _, rfl, ?_, ?_⟩
  · refine (hselects _ _ rfl markedTexts _ htexts hcollections href (.tail _ (.head _))).mpr ?_
    rintro ⟨t, _, hjoin⟩
    have hkey := (markedTexts.not_isNull_of_joins hjoin).1
    cases hkey
  · intro h
    refine (hselects _ _ rfl markedTexts _ htexts hcollections href (.head _)).mp h ?_
    exact ⟨_, .head _, rfl⟩

/-- The second collection has no text and no one has bookmarked it, yet it is selected neither by that its bookmarkers are
nothing nor by that the id of its text equals nothing. -/
theorem not_selects_lone_collection :
    ∃ c d n' m' row r q,
      Gives (ofFilter Learning.schema "Collection" (.row "t0") (single (.text "bookmarkers") .null)) 1 c n' ∧
      Gives (ofFilter Learning.schema "Collection" (.row "t0")
        (single (.text "texts") (.map [(.text "$eq", .null)]))) n' d m' ∧
      Learning.schema.key? "Collection" (.text "bookmarkers") = some (.relation r) ∧
      Learning.schema.key? "Collection" (.text "texts") = some (.relation q) ∧
      row ∈ markedTexts.rows "Collection" ∧ markedTexts.Refers "Collection" r ∧ markedTexts.Refers "Collection" q ∧
      (markedTexts.Lone row r ∧ ¬markedTexts.truth (fun _ => row) c = .holds) ∧
      (markedTexts.Lone row q ∧ ¬markedTexts.truth (fun _ => row) d = .holds) := by
  obtain ⟨-, -, -, htexts, hbookmarkers⟩ := markedTexts_refers
  refine ⟨_, _, _, _, .ofCells [("id", .int 2)], _, _, rfl, rfl, rfl, rfl, .tail _ (.head _), hbookmarkers, htexts,
    ⟨?_, ?_⟩, ?_, ?_⟩
  · rintro ⟨t, ⟨⟩, _⟩
  · decide
  · rintro ⟨t, _ | ⟨_, _ | ⟨_, ⟨⟩⟩⟩, hjoin⟩
    · cases hjoin
    · cases hjoin
  · decide

end Sql.Condition

end EntityViews
