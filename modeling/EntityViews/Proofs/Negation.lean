import EntityViews.Proofs.Meaning
import EntityViews.Learning.Entities

/-!
Negated relation filters. The sub-select of a relation whose key is not on the filtered row may give a key that is
nothing, and then a row that is not found among the keys is not known to be missing either. Main statement: a filter on
such a relation and its negation are complementary for a row exactly when the row is selected or no such key is given.
-/

namespace EntityViews

open Sql

namespace Truth

theorem all_singleton (t : Truth) : all [t] = t := and_holds t

theorem not_eq_holds_iff {t : Truth} : (t.not = holds ↔ t ≠ holds) ↔ t ≠ unknown := by
  cases t <;> simp [not]

/-- A disjunction without a true part is unknown if some part is. -/
theorem any_eq_unknown {ts : List Truth} (h : ∀ t ∈ ts, t ≠ holds) : any ts = unknown ↔ unknown ∈ ts := by
  have hnot : any ts ≠ holds := by
    intro hany
    obtain ⟨t, ht, rfl⟩ := any_eq_holds.mp hany
    exact h holds ht rfl
  constructor
  · intro hu
    -- None holds and not all fail, so one of them is unknown.
    have hsome : ¬∀ t ∈ ts, t = fails := by
      rw [← any_eq_fails, hu]
      exact nofun
    simp only [Classical.not_forall] at hsome
    obtain ⟨t, ht, hf⟩ := hsome
    cases t with
    | holds => exact absurd rfl (h holds ht)
    | fails => exact absurd rfl hf
    | unknown => exact ht
  · intro hu
    have hf : any ts ≠ fails := fun hany => nomatch any_eq_fails.mp hany unknown hu
    cases hany : any ts with
    | holds => exact absurd hany hnot
    | fails => exact absurd hany hf
    | unknown => rfl

end Truth

namespace Contents

variable (db : Contents)

/-- Whether some related row for which something holds belongs to no row at all, since its key is nothing. -/
def Strays (target : String) (link : Link) (nested : Row → Truth) : Prop :=
  match link with
  | .manyToOne _ | .oneToOne _ => False
  | .oneToMany key | .oneToOneInverse key => ∃ t ∈ db.rows target, nested t = .holds ∧ (t key).isNull = true
  | .manyToMany table sourceKey targetKey =>
    ∃ j ∈ db.rows table, (j sourceKey).isNull = true ∧
      ∃ t ∈ db.rows target, nested t = .holds ∧ db.Joins (j targetKey) (t "id")

/-- A value that is not null compares to unknown with null only. -/
theorem compare_eq_unknown {c : Comparison} {a b : Value} (ha : a.isNull = false) :
    db.compare c a b = .unknown ↔ b.isNull = true := by
  unfold compare
  rw [ha, Bool.false_or]
  by_cases hb : b.isNull
  · rw [if_pos hb]
    exact ⟨fun _ => hb, fun _ => rfl⟩
  · rw [if_neg hb]
    cases db.compares c a b <;> simp [Truth.ofBool, hb]

theorem member_eq_unknown {a : Value} {values : List Value} (ha : a.isNull = false) (h : db.member a values ≠ .holds) :
    db.member a values = .unknown ↔ ∃ v ∈ values, v.isNull = true := by
  have hnone : ∀ t ∈ values.map (db.compare .eq a), t ≠ .holds := by
    intro t ht he
    exact h (Truth.any_eq_holds.mpr ⟨t, ht, he⟩)
  rw [member, Truth.any_eq_unknown hnone, List.mem_map]
  simp only [db.compare_eq_unknown ha]

/-- The keys that lead back to the filtered rows hold nothing exactly when a related row strays. -/
theorem null_mem_related {target : String} {link : Link} {value : Value} {nested : Row → Truth}
    (hk : link.sourceKey? = none) (hi : isIdComparison value = false) :
    (∃ v ∈ db.related target link value nested, v.isNull = true) ↔ db.Strays target link nested := by
  cases link with
  | manyToOne key | oneToOne key => cases hk
  | oneToMany key | oneToOneInverse key =>
    simp only [related, Strays, mem_column, hi, Bool.false_eq_true, if_false]
    constructor
    · rintro ⟨v, ⟨t, ht, hn, rfl⟩, hv⟩
      exact ⟨t, ht, hn, hv⟩
    · rintro ⟨t, ht, hn, hv⟩
      exact ⟨_, ⟨t, ht, hn, rfl⟩, hv⟩
  | manyToMany table sourceKey targetKey =>
    simp only [related, Strays, mem_column, member_column_eq_holds, hi, Bool.false_eq_true, if_false]
    constructor
    · rintro ⟨v, ⟨j, hj, ⟨t, ht, hn, hl⟩, rfl⟩, hv⟩
      exact ⟨j, hj, hv, t, ht, hn, hl⟩
    · rintro ⟨j, hj, hv, t, ht, hn, hl⟩
      exact ⟨_, ⟨j, hj, ⟨t, ht, hn, hl⟩, rfl⟩, hv⟩

end Contents

namespace Filter

def single (key value : Value) : Value := .map [(key, value)]

def negated (filter : Value) : Value := single (.text "$not") filter

variable (db : Contents) (s : Schema)

theorem truth_single (entity : String) (row : Row) (key value : Value) (r : Relation)
    (hk : s.key? entity key = some (.relation r)) :
    truth db s entity row (single key value) =
      db.linked row r.target r.link value fun t => truth db s r.target t value := by
  rw [single, truth, entryTruths, hk, entryTruths, Truth.all_singleton]

theorem truth_negated (entity : String) (row : Row) (filter : Value) (hs : (s.entity? entity).isSome) :
    truth db s entity row (negated filter) = (truth db s entity row filter).not := by
  obtain ⟨e, he⟩ := Option.isSome_iff_exists.mp hs
  have hkey : s.key? entity (.text "$not") = some .negation := by
    rw [Schema.key?, he]
    rfl
  rw [negated, single, truth, entryTruths, hkey, entryTruths, Truth.all_singleton]

end Filter

namespace Sql.Condition

/-- A filter on the rows that a relation leads to and its negation are complementary for a row, of which one of both is
then selected, exactly when the filter selects the row or no related row that meets the filter is without its key. -/
theorem complementary_iff (db : Contents) (s : Schema) (entity : String) (key : Value) (r : Relation) (g : Value)
    (row : Alias) (c d : Condition) (n n' m m' : Nat) (env : Env)
    (hk : s.key? entity key = some (.relation r)) (hlink : r.link.sourceKey? = none)
    (hg : isIdComparison g = false) (hid : (env row.text "id").isNull = false)
    (hc : Gives (ofFilter s entity row (Filter.single key g)) n c n')
    (hd : Gives (ofFilter s entity row (Filter.negated (Filter.single key g))) m d m') :
    (db.truth env d = .holds ↔ db.truth env c ≠ .holds) ↔
      db.truth env c = .holds ∨ ¬db.Strays r.target r.link fun t => Filter.truth db s r.target t g := by
  have hs : (s.entity? entity).isSome := by
    cases he : s.entity? entity with
    | none =>
      rw [Schema.key?, he] at hk
      cases hk
    | some e => rfl
  have hv := Contents.isNull_of_nested hg
  rw [Filter.truth_ofFilter db s _ entity row c n n' hc env, Filter.truth_ofFilter db s _ entity row d m m' hd env,
    Filter.truth_negated db s entity _ _ hs, Filter.truth_single db s entity _ key g r hk, Truth.not_eq_holds_iff,
    db.linked_eq_member hlink hv]
  -- A row that is selected is not selected by the negation; any other one is, unless the membership is unknown.
  by_cases hh : db.member (env row.text "id")
      (db.related r.target r.link g fun t => Filter.truth db s r.target t g) = .holds
  · rw [hh]
    refine ⟨fun _ => Or.inl rfl, fun _ h => ?_⟩
    cases h
  · have hu := db.member_eq_unknown hid hh
    rw [db.null_mem_related hlink hg] at hu
    rw [Ne, hu]
    exact ⟨Or.inr, fun h => h.resolve_left hh⟩

def withPublicText : Value := Filter.single (.text "texts") (Filter.single (.text "isPublic") (.bool true))

def publicTexts (stray : Bool) : Contents := .ofTables [
  ("Collection", [.ofCells [("id", .int 1)], .ofCells [("id", .int 2)]]),
  ("Text", .ofCells [("id", .int 10), ("isPublic", .int 1), ("collectionId", .int 1)] ::
    if stray then [.ofCells [("id", .int 11), ("isPublic", .int 1)]] else [])]

/-- Without the text in no collection, filter and negation are complementary for the second collection. -/
theorem complementary_withPublicText :
    ∃ c d n' m', Gives (ofFilter Learning.schema "Collection" (.row "t0") withPublicText) 1 c n' ∧
      Gives (ofFilter Learning.schema "Collection" (.row "t0") (Filter.negated withPublicText)) 1 d m' ∧
      ((publicTexts false).truth (fun _ => .ofCells [("id", .int 2)]) d = .holds ↔
        (publicTexts false).truth (fun _ => .ofCells [("id", .int 2)]) c ≠ .holds) := by
  refine ⟨_, _, _, _, rfl, rfl, ?_⟩
  apply (complementary_iff (publicTexts false) Learning.schema "Collection" (.text "texts") _
    (Filter.single (.text "isPublic") (.bool true)) (.row "t0") _ _ 1 _ 1 _ (fun _ => .ofCells [("id", .int 2)])
    rfl rfl rfl rfl rfl rfl).mpr
  -- The only public text is in the first collection, so no key is without a value.
  right
  rintro ⟨t, ht, _, hn⟩
  revert hn
  rw [List.mem_singleton.mp ht]
  decide

/-- With it, the second collection is selected neither by the filter nor by its negation, although the filter on texts is
true of every text. -/
theorem not_complementary_withPublicText :
    ∃ c d n' m', Gives (ofFilter Learning.schema "Collection" (.row "t0") withPublicText) 1 c n' ∧
      Gives (ofFilter Learning.schema "Collection" (.row "t0") (Filter.negated withPublicText)) 1 d m' ∧
      (∀ t ∈ (publicTexts true).rows "Text",
        Filter.truth (publicTexts true) Learning.schema "Text" t (Filter.single (.text "isPublic") (.bool true)) = .holds) ∧
      ¬((publicTexts true).truth (fun _ => .ofCells [("id", .int 2)]) d = .holds ↔
        (publicTexts true).truth (fun _ => .ofCells [("id", .int 2)]) c ≠ .holds) := by
  refine ⟨_, _, _, _, rfl, rfl, ?_, ?_⟩
  · decide
  · decide

end Sql.Condition

end EntityViews
