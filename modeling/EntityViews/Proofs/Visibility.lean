import EntityViews.Proofs.Negation
import EntityViews.Learning.Visibility

/-!
Which texts a viewer gets to see. Main statement: the visibility filter compiles, alone and among further conditions, to a
condition that is true of just the texts that are public and in no collection, those of public collections, and those of the
viewer, whatever of the keys and flags is nothing.
-/

namespace EntityViews

open Sql

namespace Contents

variable (db : Contents)

def Public (t : Row) : Prop := db.Joins (t "isPublic") (.int 1)

/-- Whether a text is public and in no collection, or in a public collection. -/
def Shared (t : Row) : Prop :=
  (t "collectionId").isNull = true ∧ db.Public t ∨
    ∃ c ∈ db.rows "Collection", db.Joins (t "collectionId") (c "id") ∧ db.Public c

def Own (viewer : Viewer) (t : Row) : Prop :=
  ∃ user, viewer = .learner user ∧ db.Joins (t "addedById") (.int user.profile)

def Visible (viewer : Viewer) (t : Row) : Prop := db.Shared t ∨ db.Own viewer t

end Contents

namespace Learning

open EntityViews.Filter Condition

variable (db : Contents)

theorem truth_public {entity : String} (t : Row)
    (hkey : schema.key? entity (.text "isPublic") = some (.column (.word "isPublic"))) :
    truth db schema entity t (equalTo "isPublic" (.bool true)) = .holds ↔ db.Public t := by
  rw [equalTo, truth, entryTruths, hkey, entryTruths, Truth.all_singleton]
  rfl

/-- A key of a text is a relation to one whose id the text has. -/
theorem truth_toOne (t : Row) {key target column : String} {v : Value}
    (hkey : ∃ r, schema.key? "Text" (.text key) = some (.relation r) ∧ r.target = target ∧ r.link = .manyToOne column) :
    truth db schema "Text" t (equalTo key v) = if isIdComparison v then db.compared (t column) v
      else db.member (t column) (db.column target "id" fun other => truth db schema target other v) := by
  obtain ⟨r, hkey, rfl, hlink⟩ := hkey
  rw [equalTo, ← single, truth_single db schema "Text" t (.text key) v r hkey, hlink]
  rfl

/-- Texts in no collection: a comparison of the key with nothing is a test for its absence. -/
theorem truth_standalone (t : Row) : truth db schema "Text" t (equalTo "collection" (equalTo "$eq" .null)) = .holds ↔
    (t "collectionId").isNull = true := by
  rw [truth_toOne db t ⟨_, rfl, rfl, rfl⟩]
  change Truth.all [Truth.ofBool (t "collectionId").isNull] = .holds ↔ _
  rw [Truth.all_singleton, Truth.ofBool_eq_holds]

/-- To lie in a public collection is to have a collection that is public. -/
theorem truth_inPublic (t : Row) :
    truth db schema "Text" t (equalTo "collection" (equalTo "isPublic" (.bool true))) = .holds ↔
      ∃ c ∈ db.rows "Collection", db.Joins (t "collectionId") (c "id") ∧ db.Public c := by
  rw [truth_toOne db t ⟨_, rfl, rfl, rfl⟩]
  change db.member (t "collectionId") (db.column "Collection" "id" fun c =>
    truth db schema "Collection" c (equalTo "isPublic" (.bool true))) = .holds ↔ _
  rw [Contents.member_column_eq_holds]
  refine exists_congr fun c => and_congr_right fun _ => ?_
  rw [truth_public db c rfl, and_comm]

theorem truth_own (t : Row) (user : User) :
    truth db schema "Text" t (equalTo "addedBy" (.int user.profile)) = .holds ↔
      db.Joins (t "addedById") (.int user.profile) := by
  rw [truth_toOne db t ⟨_, rfl, rfl, rfl⟩]
  rfl

theorem truth_group (t : Row) {key : String} {disjunctive : Bool} (members : List Value)
    (hkey : schema.key? "Text" (.text key) = some (.group disjunctive)) :
    truth db schema "Text" t (equalTo key (.list members)) =
      if disjunctive then .any (memberTruths db schema "Text" t members)
      else .all (memberTruths db schema "Text" t members) := by
  rw [equalTo, truth, entryTruths, hkey, entryTruths, Truth.all_singleton]
  rfl

theorem memberTruths_eq_map (s : Schema) (entity : String) (t : Row) (members : List Value) :
    memberTruths db s entity t members = members.map (truth db s entity t) := by
  induction members with
  | nil => rfl
  | cons f rest ih => rw [memberTruths, ih, List.map_cons]

/-- The visibility filter is true of just the texts that the viewer gets to see. -/
theorem truth_visibility (viewer : Viewer) (t : Row) :
    truth db schema "Text" t (textVisibility viewer) = .holds ↔ db.Visible viewer t := by
  have hshared : truth db schema "Text" t (equalTo "$and"
        (.list [equalTo "collection" (equalTo "$eq" .null), equalTo "isPublic" (.bool true)])) = .holds ↔
      (t "collectionId").isNull = true ∧ db.Public t := by
    have hpublic : truth db schema "Text" t (equalTo "isPublic" (.bool true)) = .holds ↔ db.Public t :=
      truth_public db t rfl
    rw [truth_group db t _ rfl, if_neg Bool.false_ne_true, Truth.all_eq_holds, memberTruths_eq_map]
    simp [truth_standalone, hpublic]
  have hvisibility : ∃ own, textVisibility viewer = equalTo "$or" (.list (
        equalTo "$and" (.list [equalTo "collection" (equalTo "$eq" .null), equalTo "isPublic" (.bool true)]) ::
        equalTo "collection" (equalTo "isPublic" (.bool true)) :: own)) ∧
      ((∃ f ∈ own, truth db schema "Text" t f = .holds) ↔ db.Own viewer t) := by
    cases viewer with
    | nobody | anonymous => exact ⟨[], rfl, by simp [Contents.Own]⟩
    | learner user => exact ⟨[_], rfl, by simp [Contents.Own, truth_own]⟩
  obtain ⟨own, heq, hown⟩ := hvisibility
  rw [heq, truth_group db t _ rfl, if_pos rfl, Truth.any_eq_holds, memberTruths_eq_map]
  simp only [List.map_cons, List.mem_cons, exists_eq_or_imp, hshared, truth_inPublic]
  rw [Contents.Visible, Contents.Shared, or_assoc, ← hown]
  simp

def Compiles (row : Alias) (f : Value) : Prop := ∀ n, ∃ c n', Gives (ofFilter schema "Text" row f) n c n'

theorem compiles_visibility (viewer : Viewer) (row : Alias) : Compiles row (textVisibility viewer) := by
  intro n
  cases viewer with
  | nobody => exact ⟨_, _, rfl⟩
  | anonymous => exact ⟨_, _, rfl⟩
  | learner user => exact ⟨_, _, rfl⟩

/-- A group compiles if its members do. -/
theorem ofMembers_gives {row : Alias} {members : List Value} (h : ∀ f ∈ members, Compiles row f) (n : Nat) :
    ∃ ds n', Gives (ofMembers schema "Text" row members) n ds n' := by
  induction members generalizing n with
  | nil => exact ⟨[], n, rfl⟩
  | cons f rest ih =>
    obtain ⟨d, m, hd⟩ := h f List.mem_cons_self n
    obtain ⟨ds, n', hds⟩ := ih (fun g hg => h g (List.mem_cons_of_mem _ hg)) m
    refine ⟨d :: ds, n', ?_⟩
    simp only [ofMembers, Gives.bind_iff, Gives.pure_iff]
    exact ⟨d, m, hd, ds, n', hds, rfl, rfl⟩

/-- A conjunction of filters compiles if each of them does. -/
theorem compiles_group_and {row : Alias} {f : Value} {rest : List Value} (h : ∀ g ∈ f :: rest, Compiles row g) :
    Compiles row (equalTo "$and" (.list (f :: rest))) := by
  intro n
  obtain ⟨ds, n', hds⟩ := ofMembers_gives h n
  obtain ⟨e, he⟩ : ∃ e, schema.entity? "Text" = some e := ⟨_, rfl⟩
  have hname : e.name = "Text" := Schema.name_of_entity? he
  have hkey : Key.of e (equalTo "$and" (.list (f :: rest))) (.text "$and") = .ok (.group false) := rfl
  refine ⟨conjunction [.all ds], n', ?_⟩
  rw [equalTo] at hkey ⊢
  simp only [ofFilter, ofEntries, Gives.bind_iff, Gives.pure_iff, Gives.lift_iff, entityNamed_gives]
  refine ⟨e, n, ⟨he, rfl⟩, [.all ds], n', ⟨.group false, n, ⟨hkey, rfl⟩, ?_⟩, rfl, rfl⟩
  simp only [Gives.bind_iff, Gives.pure_iff]
  exact ⟨ds, n', hname ▸ hds, _, _, ⟨rfl, rfl⟩, [], n', ⟨rfl, rfl⟩, rfl, rfl⟩

/-- What compiles goes on to do so beside the visibility filter. -/
theorem compiles_among {row : Alias} {before after : List Value} (viewer : Viewer)
    (h : ∀ g ∈ before ++ after, Compiles row g) :
    Compiles row (equalTo "$and" (.list (before ++ textVisibility viewer :: after))) := by
  have hall : ∀ g ∈ before ++ textVisibility viewer :: after, Compiles row g := by
    intro g hg
    rcases List.mem_append.mp hg with hg | hg
    · exact h g (List.mem_append_left _ hg)
    · rcases List.mem_cons.mp hg with rfl | hg
      · exact compiles_visibility viewer row
      · exact h g (List.mem_append_right _ hg)
  -- The list is not empty, so the combinator goes through its members.
  obtain ⟨f, rest, heq⟩ : ∃ f rest, before ++ textVisibility viewer :: after = f :: rest := by
    cases before with
    | nil => exact ⟨_, _, rfl⟩
    | cons f rest => exact ⟨_, _, rfl⟩
  rw [heq] at hall ⊢
  exact compiles_group_and hall

theorem entryTruths_append (s : Schema) (entity : String) (t : Row) (es fs : List (Value × Value)) :
    entryTruths db s entity t (es ++ fs) = entryTruths db s entity t es ++ entryTruths db s entity t fs := by
  induction es with
  | nil => rfl
  | cons e rest ih =>
    obtain ⟨key, value⟩ := e
    rw [List.cons_append, entryTruths, ih, entryTruths, List.cons_append]

/-- Among further conditions a member of a conjunction is one more condition. -/
theorem truth_among (t : Row) (es fs : List (Value × Value)) (before after : List Value) (f : Value) :
    truth db schema "Text" t (.map (es ++ (.text "$and", .list (before ++ f :: after)) :: fs)) = .holds ↔
      truth db schema "Text" t f = .holds ∧ (∀ g ∈ before ++ after, truth db schema "Text" t g = .holds) ∧
        ∀ u ∈ entryTruths db schema "Text" t (es ++ fs), u = .holds := by
  have hkey : schema.key? "Text" (.text "$and") = some (.group false) := rfl
  rw [truth, Truth.all_eq_holds, entryTruths_append, entryTruths_append, entryTruths, hkey]
  change (∀ u ∈ _ ++ Truth.all (memberTruths db schema "Text" t (before ++ f :: after)) :: _, u = .holds) ↔ _
  simp only [List.forall_mem_append, List.forall_mem_cons, Truth.all_eq_holds, memberTruths_eq_map, List.forall_mem_map]
  constructor
  · rintro ⟨hes, ⟨hbefore, hf, hafter⟩, hfs⟩
    exact ⟨hf, ⟨hbefore, hafter⟩, hes, hfs⟩
  · rintro ⟨hf, ⟨hbefore, hafter⟩, hes, hfs⟩
    exact ⟨hes, ⟨hbefore, hf, hafter⟩, hfs⟩

/-- For every viewer the visibility filter compiles, to a condition that is true of just the texts that the viewer gets to
see: all that anonymous viewers get to see, and no other texts but own ones. Among further conditions it stays as strict, and
they compile with it. -/
theorem visibility_authorises (viewer : Viewer) (row : Alias) (n : Nat) :
    ∃ c n', Gives (ofFilter schema "Text" row (textVisibility viewer)) n c n' ∧
      (∀ (db : Contents) env, db.truth env c = .holds ↔ db.Visible viewer (env row.text)) ∧
      (∀ k d k', Gives (ofFilter schema "Text" row (textVisibility .anonymous)) k d k' →
        ∀ (db : Contents) env, db.truth env d = .holds → db.truth env c = .holds) ∧
      (∀ (db : Contents) env, ¬ db.Shared (env row.text) → db.truth env c = .holds → db.Own viewer (env row.text)) ∧
      ∀ before after : List Value,
        ((∀ g ∈ before ++ after, Compiles row g) →
          Compiles row (equalTo "$and" (.list (before ++ textVisibility viewer :: after)))) ∧
        ∀ es fs k d k', Gives (ofFilter schema "Text" row
            (.map (es ++ (.text "$and", .list (before ++ textVisibility viewer :: after)) :: fs))) k d k' →
          ∀ (db : Contents) env, db.truth env d = .holds ↔ db.truth env c = .holds ∧
            (∀ g ∈ before ++ after, truth db schema "Text" (env row.text) g = .holds) ∧
              ∀ u ∈ entryTruths db schema "Text" (env row.text) (es ++ fs), u = .holds := by
  obtain ⟨c, n', hc⟩ := compiles_visibility viewer row n
  have hvisible : ∀ (db : Contents) env, db.truth env c = .holds ↔ db.Visible viewer (env row.text) := by
    intro db env
    rw [truth_ofFilter db schema _ "Text" row c n n' hc env, truth_visibility]
  refine ⟨c, n', hc, hvisible, ?_, ?_, ?_⟩
  · intro k d k' hd db env h
    rw [truth_ofFilter db schema _ "Text" row d k k' hd env, truth_visibility] at h
    obtain hshared | ⟨user, hviewer, _⟩ := h
    · exact (hvisible db env).mpr (.inl hshared)
    · cases hviewer
  · intro db env hshared h
    exact ((hvisible db env).mp h).resolve_left hshared
  · intro before after
    refine ⟨compiles_among viewer, ?_⟩
    intro es fs k d k' hd db env
    rw [truth_ofFilter db schema _ "Text" row d k k' hd env, truth_among, hvisible, truth_visibility]

end Learning

end EntityViews
