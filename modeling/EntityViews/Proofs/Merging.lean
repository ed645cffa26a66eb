import EntityViews.Proofs.Keyed
import EntityViews.Proofs.Lookup
import EntityViews.View.Reader

/-!
Merged views. Main statement: merging is associative, order included; on every level that both views have, the fields and
the relations of the second follow those of the first; and a view merged with itself is that view tidied.
-/

namespace EntityViews

namespace View

/-! Relations by name. -/

theorem find?_cons (key name : String) (view : View) (rest : List (String × View)) :
    find? key ((name, view) :: rest) = if name = key then some view else find? key rest := by
  rw [find?, find?]
  by_cases h : name = key
  · rw [List.find?_cons_of_pos (by simpa using h), if_pos h, Option.map_some]
  · rw [List.find?_cons_of_neg (by simpa using h), if_neg h]

/-- A key is found unless it is not among the keys. -/
theorem find?_eq_none_iff {key : String} {relations : List (String × View)} :
    find? key relations = none ↔ key ∉ relations.map (·.1) := by
  induction relations with
  | nil => simp [find?]
  | cons r rest ih =>
    obtain ⟨name, view⟩ := r
    rw [find?_cons, List.map_cons, List.mem_cons]
    by_cases h : name = key
    · simp [h]
    · rw [if_neg h, ih]
      simp [Ne.symm h]

theorem mem_of_find? {key : String} {view : View} {relations : List (String × View)} (h : find? key relations = some view) :
    (key, view) ∈ relations := by
  obtain ⟨⟨name, v⟩, hr, rfl⟩ := Option.map_eq_some_iff.mp h
  have hname : name = key := by simpa using List.find?_some hr
  exact hname ▸ List.mem_of_find?_eq_some hr

theorem find?_map (f : View → View) (key : String) (relations : List (String × View)) :
    find? key (relations.map fun r => (r.1, f r.2)) = (find? key relations).map f := by
  induction relations with
  | nil => rfl
  | cons r rest ih =>
    rw [List.map_cons, find?_cons, ih, find?_cons]
    split <;> rfl

/-- Relations are told by their names, in order, and what is found under each. -/
theorem relations_ext {relations others : List (String × View)} (hnodup : (relations.map (·.1)).Nodup)
    (hkeys : relations.map (·.1) = others.map (·.1)) (hfind : ∀ key, find? key relations = find? key others) :
    relations = others := by
  induction relations generalizing others with
  | nil => exact (List.map_eq_nil_iff.mp hkeys.symm).symm
  | cons r rest ih =>
    obtain ⟨name, view⟩ := r
    obtain ⟨⟨name', view'⟩, rest', rfl, rfl, hrest⟩ := List.map_eq_cons_iff.mp hkeys.symm
    obtain ⟨hnew, hnodup⟩ := List.nodup_cons.mp hnodup
    have hview : view = view' := by simpa [find?_cons] using hfind name'
    have htail : rest = rest' := by
      refine ih hnodup hrest.symm fun key => ?_
      by_cases hk : name' = key
      · -- The first name is found no more.
        subst hk
        have hnew' : name' ∉ rest'.map (·.1) := hrest ▸ hnew
        rw [find?_eq_none_iff.mpr hnew, find?_eq_none_iff.mpr hnew']
      · simpa only [find?_cons, if_neg hk] using hfind key
    rw [hview, htail]

/-- After a view was put under a name the name finds this view and every other name what it found. -/
theorem find?_put (key name : String) (view : View) (relations : List (String × View)) :
    find? key (put name view relations) = if name = key then some view else find? key relations := by
  induction relations with
  | nil => rw [put, find?_cons]
  | cons r rest ih =>
    obtain ⟨n, v⟩ := r
    rw [put]
    by_cases hn : n = name
    · subst hn
      rw [if_pos rfl, find?_cons, find?_cons]
      split <;> rfl
    · rw [if_neg hn, find?_cons, find?_cons, ih]
      by_cases hk : n = key
      · have hne : name ≠ key := fun he => hn (hk.trans he.symm)
        rw [if_pos hk, if_neg hne, if_pos hk]
      · rw [if_neg hk, if_neg hk]

/-- To put a view under a name adds the name at the end if it is new. -/
theorem keys_put (name : String) (view : View) (relations : List (String × View)) :
    (put name view relations).map (·.1) = addNew (relations.map (·.1)) [name] := by
  rw [addNew_cons, addNew_nil]
  induction relations with
  | nil => rfl
  | cons r rest ih =>
    obtain ⟨n, v⟩ := r
    rw [put]
    by_cases hn : n = name
    · simp [hn]
    · rw [if_neg hn, List.map_cons, ih, List.map_cons]
      by_cases hmem : name ∈ rest.map (·.1)
      · rw [if_pos hmem, if_pos (List.mem_cons_of_mem _ hmem)]
      · rw [if_neg hmem, if_neg, List.cons_append]
        exact fun h => hmem ((List.mem_cons.mp h).resolve_left (Ne.symm hn))

/-! Merged relations. -/

@[simp] theorem expanded_expanded (v : View) : v.expanded.expanded = v.expanded := by cases v <;> rfl

/-- How the right view is spelled makes no difference. -/
theorem merge_expanded (a b : View) : a.merge b.expanded = a.merge b := by
  cases b with
  | names fs => rw [expanded, merge, merge, mergeRelations]
  | full fs relations => rfl

@[simp] theorem expanded_merged (a b : View) : (a.merge b).expanded = a.merge b := by cases b <;> rfl

/-- Merged relations have the keys of the first, then the new keys of the second. -/
theorem keys_mergeRelations (merged relations : List (String × View)) :
    (mergeRelations merged relations).map (·.1) = addNew (merged.map (·.1)) (relations.map (·.1)) := by
  induction relations generalizing merged with
  | nil => rfl
  | cons r rest ih =>
    obtain ⟨name, view⟩ := r
    have hstep (v : View) : (mergeRelations (put name v merged) rest).map (·.1) =
        addNew (merged.map (·.1)) (((name, view) :: rest).map (·.1)) := by
      rw [ih, keys_put, ← addNew_append]
      rfl
    rw [mergeRelations]
    cases find? name merged with
    | none => exact hstep _
    | some known => exact hstep _

def either : Option View → Option View → Option View
  | some u, some v => some (u.merge v)
  | some u, none => some u
  | none, v => v

theorem either_none (u : Option View) : either u none = u := by cases u <;> rfl

/-- A merged relation is the merge of what both have under its key, or what one of them has. -/
theorem find?_mergeRelations (key : String) (merged : List (String × View)) {relations : List (String × View)}
    (hnodup : (relations.map (·.1)).Nodup) : find? key (mergeRelations merged relations) =
      either (find? key merged) ((find? key relations).map expanded) := by
  induction relations generalizing merged with
  | nil =>
    have hnone : find? key [] = none := rfl
    rw [mergeRelations, hnone, Option.map_none, either_none]
  | cons r rest ih =>
    obtain ⟨name, view⟩ := r
    obtain ⟨hnew, hnodup⟩ := List.nodup_cons.mp hnodup
    have hrest : find? name rest = none := find?_eq_none_iff.mpr hnew
    rw [mergeRelations, find?_cons]
    by_cases hk : name = key
    · -- Nothing more is under this name.
      subst hk
      cases hknown : find? name merged with
      | none =>
        simp only [ih _ hnodup, find?_put, if_true, hrest, Option.map_none, Option.map_some, either]
      | some known =>
        simp only [ih _ hnodup, find?_put, if_true, hrest, Option.map_none, Option.map_some, either,
          merge_expanded]
    · cases find? name merged with
      | none => simp only [ih _ hnodup, find?_put, if_neg hk]
      | some known => simp only [ih _ hnodup, find?_put, if_neg hk]

/-! Merged views. -/

def relation? (key : String) (v : View) : Option View := find? key v.relationViews

def keys (v : View) : List String := v.relationViews.map (·.1)

theorem keys_full (fs : List String) (relations : List (String × View)) :
    (full fs relations).keys = relations.map (·.1) := by
  rw [keys, relationViews, List.map_map]
  rfl

theorem relation?_full (key : String) (fs : List String) (relations : List (String × View)) :
    (full fs relations).relation? key = (find? key relations).map expanded := find?_map expanded key relations

theorem expanded_relation? (key : String) (v : View) : (v.relation? key).map expanded = v.relation? key := by
  cases v with
  | names => rfl
  | full fs relations =>
    rw [relation?_full, Option.map_map]
    congr 1
    exact funext expanded_expanded

/-- It makes no difference for a merge whether what is merged in was expanded before. -/
theorem mergeRelations_expanded (merged relations : List (String × View)) :
    mergeRelations merged (relations.map fun r => (r.1, r.2.expanded)) = mergeRelations merged relations := by
  induction relations generalizing merged with
  | nil => rfl
  | cons r rest ih =>
    obtain ⟨name, view⟩ := r
    rw [List.map_cons, mergeRelations, mergeRelations]
    simp only [expanded_expanded, merge_expanded, ih]

theorem merge_eq (a b : View) :
    a.merge b = .full (distinct (a.fields ++ b.fields)) (mergeRelations a.relationViews b.relationViews) := by
  cases b with
  | names => rfl
  | full fs relations => rw [merge, relationViews.eq_2, mergeRelations_expanded, fields]

theorem mem_put {name : String} {view : View} {relations : List (String × View)} {r : String × View}
    (h : r ∈ put name view relations) : r = (name, view) ∨ r ∈ relations := by
  induction relations with
  | nil => exact Or.inl (List.mem_singleton.mp h)
  | cons first rest ih =>
    obtain ⟨n, v⟩ := first
    rw [put] at h
    split at h
    · rename_i hn
      rcases List.mem_cons.mp h with rfl | h
      · exact Or.inl (by rw [hn])
      · exact Or.inr (List.mem_cons_of_mem _ h)
    · rcases List.mem_cons.mp h with rfl | h
      · exact Or.inr List.mem_cons_self
      · exact (ih h).imp_right (List.mem_cons_of_mem _)

/-- Merging leaves no relation in short form. -/
theorem expanded_of_mem_mergeRelations {merged relations : List (String × View)} (h : ∀ r ∈ merged, r.2.expanded = r.2)
    {r : String × View} (hr : r ∈ mergeRelations merged relations) : r.2.expanded = r.2 := by
  induction relations generalizing merged with
  | nil => exact h r hr
  | cons first rest ih =>
    obtain ⟨name, view⟩ := first
    have hstep : ∀ v : View, v.expanded = v → ∀ r ∈ put name v merged, r.2.expanded = r.2 := by
      intro v hv r hr
      rcases mem_put hr with rfl | hr
      · exact hv
      · exact h r hr
    rw [mergeRelations] at hr
    split at hr
    · exact ih (hstep _ (expanded_expanded view)) hr
    · exact ih (hstep _ (expanded_merged _ view)) hr

theorem expanded_of_mem_relationViews {v : View} {r : String × View} (hr : r ∈ v.relationViews) : r.2.expanded = r.2 := by
  cases v with
  | names => cases hr
  | full fs relations =>
    obtain ⟨⟨name, view⟩, _, rfl⟩ := List.mem_map.mp hr
    exact expanded_expanded view

theorem fields_merge (a b : View) : (a.merge b).fields = distinct (a.fields ++ b.fields) := by
  rw [merge_eq, fields]

theorem relationViews_merge (a b : View) : (a.merge b).relationViews = mergeRelations a.relationViews b.relationViews := by
  rw [merge_eq, relationViews]
  conv_rhs => rw [← List.map_id (mergeRelations _ _)]
  refine List.map_congr_left fun r hr => ?_
  rw [expanded_of_mem_mergeRelations (fun _ => expanded_of_mem_relationViews) hr, id]

theorem keys_merge (a b : View) : (a.merge b).keys = addNew a.keys b.keys := by
  rw [keys, relationViews_merge, keys_mergeRelations, keys, keys]

theorem relation?_merge (key : String) (a : View) {b : View} (hb : b.keys.Nodup) :
    (a.merge b).relation? key = either (a.relation? key) (b.relation? key) := by
  rw [relation?, relationViews_merge, find?_mergeRelations key _ hb, ← relation?, ← relation?, expanded_relation?]

/-- Merged views are told by their fields, by the names of their relations, and by what is found under each. -/
theorem merge_ext {a b c d : View} (hnodup : (a.merge b).keys.Nodup) (hfields : (a.merge b).fields = (c.merge d).fields)
    (hkeys : (a.merge b).keys = (c.merge d).keys) (h : ∀ key, (a.merge b).relation? key = (c.merge d).relation? key) :
    a.merge b = c.merge d := by
  have hrelations : (a.merge b).relationViews = (c.merge d).relationViews := relations_ext hnodup hkeys h
  rw [merge_eq a b, merge_eq c d, ← fields_merge, ← fields_merge, hfields, ← relationViews_merge, hrelations,
    relationViews_merge]

/-! Views that name no relation twice on any level. -/

theorem normalRelations_eq_map (relations : List (String × View)) :
    normalRelations relations = relations.map fun r => (r.1, r.2.normal) := by
  induction relations with
  | nil => rfl
  | cons r rest ih => rw [normalRelations, ih, List.map_cons]

/-- No key is repeated in a view if none is among its relations and none in the views below. -/
theorem distinct_full_iff {fs : List String} {relations : List (String × View)} :
    (full fs relations).normal.Distinct ↔ (relations.map (·.1)).Nodup ∧ ∀ r ∈ relations, r.2.normal.Distinct := by
  rw [normal, NormalView.Distinct]
  induction relations with
  | nil => simp [normalRelations, NormalView.DistinctIn]
  | cons r rest ih =>
    obtain ⟨name, view⟩ := r
    have hnew : (∀ r ∈ normalRelations rest, r.1 ≠ name) ↔ name ∉ rest.map (·.1) := by
      rw [normalRelations_eq_map, List.forall_mem_map]
      simp only [List.mem_map, not_exists, not_and, ne_eq]
    rw [normalRelations, NormalView.DistinctIn, hnew, ih, List.map_cons, List.nodup_cons, List.forall_mem_cons]
    tauto

theorem nodup_keys {v : View} (h : v.normal.Distinct) : v.keys.Nodup := by
  cases v with
  | names => exact List.nodup_nil
  | full fs relations => exact keys_full fs relations ▸ (distinct_full_iff.mp h).1

/-- Where a view repeats no key, the views below repeat none. -/
theorem distinct_relation? {v below : View} {key : String} (h : v.normal.Distinct) (hr : v.relation? key = some below) :
    below.normal.Distinct := by
  cases v with
  | names => cases hr
  | full fs relations =>
    rw [relation?_full] at hr
    obtain ⟨view, hview, rfl⟩ := Option.map_eq_some_iff.mp hr
    have hdistinct : view.normal.Distinct := (distinct_full_iff.mp h).2 _ (mem_of_find? hview)
    cases view <;> exact hdistinct

mutual

/-- Induction on views: what holds of a view if it holds of all below it holds of every view and of its expansion. -/
theorem both_of_relations {P : View → Prop} (h : ∀ v : View, (∀ key below, v.relation? key = some below → P below) → P v) :
    ∀ v : View, P v ∧ P v.expanded
  | .names fs => ⟨h _ nofun, h _ nofun⟩
  | .full fs relations => by
    -- What is under a relation is found in full form, however it is spelled, so both forms are shown at once.
    have hfull : P (.full fs relations) := by
      apply h
      intro key below hr
      rw [relation?_full] at hr
      obtain ⟨view, hview, rfl⟩ := Option.map_eq_some_iff.mp hr
      exact all_of_relations h relations _ (mem_of_find? hview)
    exact ⟨hfull, hfull⟩

theorem all_of_relations {P : View → Prop} (h : ∀ v : View, (∀ key below, v.relation? key = some below → P below) → P v) :
    ∀ relations : List (String × View), ∀ r ∈ relations, P r.2.expanded
  | [] => nofun
  | (name, view) :: rest => by
    intro r hr
    rcases List.mem_cons.mp hr with rfl | hr
    · exact (both_of_relations h view).2
    · exact all_of_relations h rest r hr

end

/-- What holds of a view if it holds of the views of its relations holds of all views. -/
@[elab_as_elim]
theorem relation_induction {motive : View → Prop}
    (step : ∀ v : View, (∀ key below, v.relation? key = some below → motive below) → motive v) (v : View) : motive v :=
  (both_of_relations step v).1

/-! Merging three views. -/

/-- Merging is associative on expanded views that repeat no key. -/
theorem merge_merge {a b c : View} (ha : a.normal.Distinct) (hb : b.normal.Distinct) (hc : c.normal.Distinct) :
    (a.merge b).merge c = a.merge (b.merge c) := by
  -- On the view in the middle: it has every relation below which all three views are merged.
  induction b using relation_induction generalizing a c with
  | step b ih =>
    have hbc : (b.merge c).keys.Nodup := keys_merge b c ▸ nodup_addNew (nodup_keys hb) _
    apply merge_ext
    · rw [keys_merge, keys_merge]
      exact nodup_addNew (nodup_addNew (nodup_keys ha) _) _
    · rw [fields_merge, fields_merge, fields_merge, fields_merge, distinct_distinct_append, distinct_append_distinct,
        List.append_assoc]
    · rw [keys_merge, keys_merge, keys_merge, keys_merge, addNew_addNew]
    · intro key
      rw [relation?_merge key _ (nodup_keys hc), relation?_merge key _ (nodup_keys hb), relation?_merge key _ hbc,
        relation?_merge key _ (nodup_keys hc)]
      -- Only a relation that all three views have is merged twice; else one of the views passes the others through.
      cases hu : a.relation? key with
      | none => rfl
      | some u =>
        cases hv : b.relation? key with
        | none => rfl
        | some v =>
          cases hw : c.relation? key with
          | none => rfl
          | some w =>
            have hbelow : (u.merge v).merge w = u.merge (v.merge w) :=
              ih key v hv (distinct_relation? ha hu) (distinct_relation? hb hv) (distinct_relation? hc hw)
            exact congrArg some hbelow

/-! Levels of merged views. -/

def at? : View → List String → Option View
  | v, [] => some v
  | v, key :: rest => (v.relation? key).bind fun below => below.at? rest

theorem distinct_at? {v u : View} {path : List String} (h : v.normal.Distinct) (hu : v.at? path = some u) :
    u.normal.Distinct := by
  induction path generalizing v with
  | nil => exact Option.some.inj hu ▸ h
  | cons key rest ih =>
    obtain ⟨below, hbelow, hu⟩ := Option.bind_eq_some_iff.mp hu
    exact ih (distinct_relation? h hbelow) hu

/-- A level of merged views is merged from the levels that the views have there. -/
theorem at?_merge (path : List String) (a : View) {b : View} (hb : b.normal.Distinct) :
    (a.merge b).at? path = either (a.at? path) (b.at? path) := by
  induction path generalizing a b with
  | nil => rfl
  | cons key rest ih =>
    rw [at?, at?, at?, relation?_merge key a (nodup_keys hb)]
    cases a.relation? key with
    | none => cases b.relation? key <;> rfl
    | some u =>
      cases hv : b.relation? key with
      | none => exact (either_none _).symm
      | some v => exact ih u (distinct_relation? hb hv)

/-! A view merged with itself. -/

mutual

/-- A view with no field named twice on any level and with all its relations in full form. -/
def tidied : View → View
  | names fs => .full (distinct fs) []
  | full fs relations => .full (distinct fs) (tidiedRelations relations)

def tidiedRelations : List (String × View) → List (String × View)
  | [] => []
  | (name, view) :: rest => (name, view.tidied) :: tidiedRelations rest

end

theorem tidiedRelations_eq_map (relations : List (String × View)) :
    tidiedRelations relations = relations.map fun r => (r.1, r.2.tidied) := by
  induction relations with
  | nil => rfl
  | cons r rest ih => rw [tidiedRelations, ih, List.map_cons]

theorem tidied_expanded (v : View) : v.expanded.tidied = v.tidied := by cases v <;> rfl

theorem tidied_eq (v : View) :
    v.tidied = .full (distinct v.fields) (v.relationViews.map fun r => (r.1, r.2.tidied)) := by
  cases v with
  | names => rfl
  | full fs relations =>
    rw [tidied, tidiedRelations_eq_map, relationViews, List.map_map, fields]
    simp only [Function.comp_def, tidied_expanded]

/-- A view merged with itself is the tidied view. -/
theorem merge_self {v : View} (h : v.normal.Distinct) : v.merge v = v.tidied := by
  induction v using relation_induction with
  | step v ih =>
    have hfields : distinct (v.fields ++ v.fields) = distinct v.fields := by
      rw [distinct_eq_addNew, addNew_append, addNew_of_subset fun x hx => mem_addNew.mpr (Or.inr hx), ← distinct_eq_addNew]
    have hnodup : (v.relationViews.map (·.1)).Nodup := nodup_keys h
    have hkeys : (mergeRelations v.relationViews v.relationViews).map (·.1) = v.relationViews.map (·.1) := by
      rw [keys_mergeRelations, addNew_of_subset fun _ hk => hk]
    -- No name is new, so the relations keep their order and differ only in what is under them.
    rw [merge_eq, tidied_eq, hfields]
    congr 1
    apply relations_ext
    · rwa [hkeys]
    · rw [hkeys, List.map_map]
      rfl
    · intro key
      rw [find?_mergeRelations key _ hnodup, find?_map]
      cases hr : find? key v.relationViews with
      | none => rfl
      | some below =>
        have hbelow : below.merge below.expanded = below.tidied := by
          rw [merge_expanded, ih key below hr (distinct_relation? h hr)]
        exact congrArg some hbelow

/-! Views read from values. -/

end View

mutual

def Value.Unrepeated : Value → Prop
  | .map entries => (entries.Pairwise fun p q => p.1.same q.1 = false) ∧ Value.UnrepeatedIn entries
  | _ => True

def Value.UnrepeatedIn : List (Value × Value) → Prop
  | [] => True
  | (_, value) :: rest => value.Unrepeated ∧ Value.UnrepeatedIn rest

end

namespace View

theorem same_of_asText? {key other : Value} {name : String} (h : key.asText? = some name) (h' : other.asText? = some name) :
    key.same other = true :=
  Value.same_trans (Value.same_text_iff.mpr h) (Value.same_symm (Value.same_text_iff.mpr h'))

/-- The first entry of a mapping of relations is a text with a view in one of the two spellings. -/
theorem relationEntries?_cons {key value : Value} {rest : List (Value × Value)} {relations : List (String × View)}
    (h : relationEntries? ((key, value) :: rest) = some relations) : ∃ name view views, key.asText? = some name ∧
      relationEntries? rest = some views ∧ relations = (name, view) :: views ∧
      ((∃ entries fs below, value = .map entries ∧ relationsIn? entries = some below ∧ view = .full fs below) ∨
        ∃ fs, view = .names fs) := by
  have hnames : ∀ v : Value, (do
      let name ← key.asText?
      let view ← (namesOf? v).map View.names
      let views ← relationEntries? rest
      return (name, view) :: views) = some relations → ∃ name view views, key.asText? = some name ∧
        relationEntries? rest = some views ∧ relations = (name, view) :: views ∧ ∃ fs, view = .names fs := by
    intro v h
    simp only [bind, Option.bind_eq_some_iff, pure, Option.some.injEq, Option.map_eq_some_iff] at h
    obtain ⟨name, hname, view, ⟨fs, _, hview⟩, views, hviews, hall⟩ := h
    exact ⟨name, view, views, hname, hviews, hall.symm, fs, hview.symm⟩
  rw [relationEntries?] at h
  split at h
  · rename_i entries
    simp only [bind, Option.bind_eq_some_iff, pure, Option.some.injEq] at h
    obtain ⟨name, hname, fs, _, below, hbelow, _, rfl, views, hviews, rfl⟩ := h
    exact ⟨name, _, views, hname, hviews, rfl, Or.inl ⟨entries, fs, below, rfl, hbelow, rfl⟩⟩
  · obtain ⟨name, view, views, hname, hviews, hall, hview⟩ := hnames _ h
    exact ⟨name, view, views, hname, hviews, hall, Or.inr hview⟩

/-- Every relation that is read stands among the entries. -/
theorem exists_key_of_relationEntries? {entries : List (Value × Value)} {relations : List (String × View)}
    (h : relationEntries? entries = some relations) {r : String × View} (hr : r ∈ relations) :
    ∃ e ∈ entries, e.1.asText? = some r.1 := by
  induction entries generalizing relations with
  | nil =>
    rw [relationEntries?, Option.some.injEq] at h
    subst h
    cases hr
  | cons e rest ih =>
    obtain ⟨key, value⟩ := e
    obtain ⟨name, view, views, hname, hviews, rfl, _⟩ := relationEntries?_cons h
    rcases List.mem_cons.mp hr with rfl | hr
    · exact ⟨_, List.mem_cons_self, hname⟩
    · obtain ⟨e, he, hkey⟩ := ih hviews hr
      exact ⟨e, List.mem_cons_of_mem _ he, hkey⟩

mutual

/-- A view that is read from a mapping without repeated keys repeats none. -/
theorem distinct_relationsIn? : ∀ {entries : List (Value × Value)} {relations : List (String × View)},
    Value.UnrepeatedIn entries → relationsIn? entries = some relations → ∀ fs, (full fs relations).normal.Distinct
  | [], relations => by
    intro _ h fs
    rw [relationsIn?, Option.some.injEq] at h
    subst h
    trivial
  | (key, value) :: rest, relations => by
    intro hu h fs
    unfold relationsIn? at h
    split at h
    · split at h
      · cases h
        trivial
      · exact distinct_relationEntries? hu.1.1 hu.1.2 h fs
      · cases h
    · exact distinct_relationsIn? hu.2 h fs

theorem distinct_relationEntries? : ∀ {entries : List (Value × Value)} {relations : List (String × View)},
    (entries.Pairwise fun p q => p.1.same q.1 = false) → Value.UnrepeatedIn entries →
    relationEntries? entries = some relations → ∀ fs, (full fs relations).normal.Distinct
  | [], relations => by
    intro _ _ h fs
    rw [relationEntries?, Option.some.injEq] at h
    subst h
    trivial
  | (key, value) :: rest, relations => by
    intro hkeys hu h fs
    obtain ⟨hnew, hkeys⟩ := List.pairwise_cons.mp hkeys
    obtain ⟨name, view, views, hname, hviews, rfl, hview⟩ := relationEntries?_cons h
    have hrest := distinct_full_iff.mp (distinct_relationEntries? hkeys hu.2 hviews fs)
    have hfirst : view.normal.Distinct := by
      rcases hview with ⟨entries, fs', below, rfl, hbelow, rfl⟩ | ⟨fs', rfl⟩
      · exact distinct_relationsIn? hu.1.2 hbelow fs'
      · trivial
    refine distinct_full_iff.mpr ⟨List.nodup_cons.mpr ⟨?_, hrest.1⟩, List.forall_mem_cons.mpr ⟨hfirst, hrest.2⟩⟩
    -- Keys that are read as one name are the same key.
    intro hmem
    obtain ⟨r, hr, rfl⟩ := List.mem_map.mp hmem
    obtain ⟨e, he, hkey⟩ := exists_key_of_relationEntries? hviews hr
    exact Bool.false_ne_true ((hnew e he).symm.trans (same_of_asText? hname hkey))

end

/-- A view read from a value that repeats no key names no relation twice. -/
theorem distinct_of_ofValue {value : Value} {v : View} (hu : value.Unrepeated) (h : ofValue value = .ok v) :
    v.normal.Distinct := by
  cases value with
  | scalar | set => cases h
  | list items | tuple items =>
    rw [ofValue] at h
    split at h
    · cases h
      trivial
    · cases h
  | map entries =>
    rw [ofValue] at h
    split at h
    · rename_i view hview
      cases h
      simp only [ofMap?, bind, Option.bind_eq_some_iff, pure, Option.some.injEq] at hview
      obtain ⟨fs, _, relations, hrelations, rfl⟩ := hview
      exact distinct_relationsIn? hu.2 hrelations fs
    · cases h

/-! The laws of merging. -/

/-- Merging is associative, and the order in which fields and relations are named is the same either way. On a level that
both views have, the fields are those of the first and then of the second, each where it comes first, and the relations are
those of the first, then the new ones of the second. A view merged with itself is tidied. The views that are merged are
values, so they stay what they are. -/
theorem merge_assoc (x y z : DistinctView) :
    (x.view.merge y.view).merge z.view = x.view.merge (y.view.merge z.view) ∧
    (∀ path u v, x.view.at? path = some u → y.view.at? path = some v → ∃ m, (x.view.merge y.view).at? path = some m ∧
      m.fields = distinct (u.fields ++ v.fields) ∧ m.keys = u.keys ++ v.keys.filter (· ∉ u.keys)) ∧
    x.view.merge x.view = x.view.tidied := by
  refine ⟨merge_merge x.distinct y.distinct z.distinct, ?_, merge_self x.distinct⟩
  intro path u v hu hv
  refine ⟨u.merge v, ?_, fields_merge u v, ?_⟩
  · rw [at?_merge path x.view y.distinct, hu, hv, either]
  · rw [keys_merge, addNew_eq_append _ (nodup_keys (distinct_at? y.distinct hv))]

def repeatedTexts : Value :=
  .ofFields [("fields", .ofTexts ["id", "title", "id"]), ("relations", .ofFields [("texts", .ofTexts ["id", "id"])])]

def languages : Value :=
  .ofFields [("fields", .ofTexts ["title"]), ("relations", .ofFields [("language", .ofTexts ["code"]),
    ("texts", .ofFields [("fields", .ofTexts ["level"]), ("relations", .ofFields [("language", .ofTexts ["code"])])])])]

/-- Three spellings merged either way: the texts come first and in full form, and only where more than one view has them are
their fields gathered. -/
theorem merge_assoc_spellings : ∃ a b c : View, ofValue repeatedTexts = .ok a ∧ ofValue languages = .ok b ∧
    ofValue (.ofTexts ["isPublic", "id"]) = .ok c ∧ (a.merge b).merge c = a.merge (b.merge c) ∧
    (a.merge b).merge c = .full ["id", "title", "isPublic"]
      [("texts", .full ["id", "level"] [("language", .full ["code"] [])]), ("language", .full ["code"] [])] ∧
    (∃ m, (a.merge b).at? ["texts"] = some m ∧ m.fields = ["id", "level"] ∧ m.keys = ["language"]) ∧
    a.merge a = .full ["id", "title"] [("texts", .full ["id"] [])] := by
  have ha : ofValue repeatedTexts = .ok (.full ["id", "title", "id"] [("texts", .names ["id", "id"])]) := by
    with_unfolding_all rfl
  have hb : ofValue languages = .ok (.full ["title"]
      [("language", .names ["code"]), ("texts", .full ["level"] [("language", .names ["code"])])]) := by
    with_unfolding_all rfl
  have hc : ofValue (.ofTexts ["isPublic", "id"]) = .ok (.full ["isPublic", "id"] []) := rfl
  have hrepeated : repeatedTexts.Unrepeated := ⟨by decide, trivial, ⟨by decide, trivial, trivial⟩, trivial⟩
  have hlanguages : languages.Unrepeated :=
    ⟨by decide, trivial, ⟨by decide, trivial, ⟨by decide, trivial, ⟨by decide, trivial, trivial⟩, trivial⟩, trivial⟩, trivial⟩
  have hlist : (Value.ofTexts ["isPublic", "id"]).Unrepeated := trivial
  obtain ⟨hassoc, hlevels, hself⟩ := merge_assoc ⟨_, distinct_of_ofValue hrepeated ha⟩
    ⟨_, distinct_of_ofValue hlanguages hb⟩ ⟨_, distinct_of_ofValue hlist hc⟩
  exact ⟨_, _, _, ha, hb, hc, hassoc, hassoc.trans rfl, hlevels ["texts"] _ _ rfl rfl, hself⟩

end View

end EntityViews
