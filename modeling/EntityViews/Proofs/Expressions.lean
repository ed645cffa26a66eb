import EntityViews.Proofs.Columns
import EntityViews.Proofs.Combination
import EntityViews.Proofs.RecordsInHand
import Mathlib.Data.List.Nodup

/-!
What a name of an entity stands for, in the outputs and the order of a query, in filters, and where relations are loaded. Main
statement: outputs and order always read a name alike, a filter does too as long as the name stands for one thing only, and a
filter and a load go by the same relation unless several have its name.
-/

namespace EntityViews

open Sql

/-! Schemas in which the last description of a name holds. -/

namespace Schema

theorem names_put (e : Entity) (known : List Entity) : (put e known).map (·.name) =
    if e.name ∈ known.map (·.name) then known.map (·.name) else known.map (·.name) ++ [e.name] := by
  induction known with
  | nil => rfl
  | cons first rest ih =>
    rw [put]
    by_cases h : first.name = e.name
    · simp [h]
    · rw [if_neg h, List.map_cons, ih, List.map_cons]
      have hne : e.name ≠ first.name := Ne.symm h
      by_cases hmem : e.name ∈ rest.map (·.name)
      · rw [if_pos hmem, if_pos (List.mem_cons_of_mem _ hmem)]
      · rw [if_neg hmem, if_neg (by simp [hne, hmem]), List.cons_append]

/-- A schema holds one entity for each name. -/
theorem nodup_ofEntities (entities : List Entity) : ((ofEntities entities).entities.map (·.name)).Nodup := by
  have hgo : ∀ known : List Entity, (known.map (·.name)).Nodup →
      ((entities.foldl (fun known e => put e known) known).map (·.name)).Nodup := by
    induction entities with
    | nil => exact fun _ h => h
    | cons e rest ih =>
      intro known h
      refine ih _ ?_
      rw [names_put]
      split
      · exact h
      · exact List.nodup_append.mpr ⟨h, List.pairwise_singleton _ _, by simp_all⟩
  exact hgo [] List.nodup_nil

/-- Among entities with names of their own, only the one of a name declares relations for it. -/
theorem relationsOf_eq {entities : List Entity} (h : (entities.map (·.name)).Nodup) {name : String} {e : Entity}
    (he : entities.find? (·.name == name) = some e) : relationsOf entities name = e.relations := by
  have hfilter : entities.filter (·.name == name) = [e] := by
    induction entities with
    | nil => cases he
    | cons first rest ih =>
      rw [List.map_cons, List.nodup_cons] at h
      rw [List.find?_cons] at he
      split at he
      · rename_i hname
        obtain rfl := Option.some.inj he
        -- The entity that is found first is the only one of its name.
        have hnone : rest.filter (·.name == name) = [] := by
          refine List.filter_eq_nil_iff.mpr fun other hother hsame => h.1 ?_
          rw [beq_iff_eq] at hname hsame
          rw [hname, ← hsame]
          exact List.mem_map_of_mem hother
        rw [List.filter_cons_of_pos (by exact hname), hnone]
      · rename_i hname
        rw [List.filter_cons_of_neg (by rw [hname]; exact Bool.false_ne_true)]
        exact ih h.2 he
  rw [relationsOf, hfilter, List.flatMap_singleton]

/-- Whether a filter on an entity reads a name as outputs and order do: it is no operator, if it is a column it is no formula,
and a relation of this name has the column as its key. -/
structure Unmistakable (s : Schema) (e : Entity) (name : String) : Prop where
  noOperator : name.toList.head? ≠ some '$'
  once : e.hasColumn name = true → e.formula? name = none
  key : ∀ r, e.relation? name = some r →
    e.formula? name = none ∧ r.link.sourceKey? = some name ∧ (s.entity? r.target).isSome

end Schema

namespace Sql

def Output.expression? : Output → Option Term
  | .term t => some t
  | .labelled t _ => some t
  | .raw _ => none

namespace Query

/-- The outputs of a query are of the expressions by which it would be sorted. -/
theorem Chosen.terms {q : Query} {e : Entity} {names : List String} {outputs : List Output} (hq : q.Chosen e names)
    (he : q.entity = e) (hextra : q.extraColumns = []) (h : q.outputs = .ok outputs) :
    (∀ name, q.selects name = true → ∃ o ∈ outputs, o.label = name) ∧
    ∀ o ∈ outputs, ∃ t, o.expression? = some t ∧ q.term (.word o.label) = .ok t := by
  subst he
  rw [Query.outputs] at h
  obtain ⟨columns, hcolumns, h⟩ := Except.bind_ok h
  obtain ⟨formulas, hformulas, h⟩ := Except.bind_ok h
  cases h
  -- Columns and formulas both keep the name that they were selected by as their label.
  have hcolumn : ∀ c ∈ q.columns, ∀ o, ((Name.make? c).map fun n => Output.term (.column q.rowAlias n)) = .ok o →
      o.label = c ∧ ∃ t, o.expression? = some t ∧ q.term (.word o.label) = .ok t := by
    intro c hc o ho
    obtain ⟨n, hn, rfl⟩ := Except.map_ok ho
    have hname : n.text = c := Name.text_of_ofText? hn
    refine ⟨hname, _, rfl, ?_⟩
    rw [show (Output.term (.column q.rowAlias n)).label = c from hname]
    simp only [term, Label.text, hq.columns c hc, Name.ofLabel?, hn]
    rfl
  have hformula : ∀ f ∈ q.formulas, ∀ o, (do
      return Output.labelled (← Term.ofFormula f q.rowAlias) (← Name.make? f.name) : Except Fault Output) = .ok o →
      o.label = f.name ∧ ∃ t, o.expression? = some t ∧ q.term (.word o.label) = .ok t := by
    intro f hf o ho
    obtain ⟨t, ht, ho⟩ := Except.bind_ok ho
    obtain ⟨n, hn, ho⟩ := Except.bind_ok ho
    cases ho
    have hname : n.text = f.name := Name.text_of_ofText? hn
    refine ⟨hname, t, rfl, ?_⟩
    rw [show (Output.labelled t n).label = f.name from hname]
    simp only [term, Label.text, hq.formulas f hf, ht]
  obtain ⟨hfrom, hto⟩ := Except.mem_of_mapM_ok hcolumns
  obtain ⟨hfrom', hto'⟩ := Except.mem_of_mapM_ok hformulas
  rw [hextra, List.append_nil]
  constructor
  · intro name hname
    rcases selects_iff.mp hname with hc | ⟨f, hf, rfl⟩
    · obtain ⟨o, ho, he⟩ := hto name hc
      exact ⟨o, List.mem_append_left _ ho, (hcolumn name hc o he).1⟩
    · obtain ⟨o, ho, he⟩ := hto' f hf
      exact ⟨o, List.mem_append_right _ ho, (hformula f hf o he).1⟩
  · intro o ho
    rcases List.mem_append.mp ho with ho | ho
    · obtain ⟨c, hc, he⟩ := hfrom o ho
      exact (hcolumn c hc o he).2
    · obtain ⟨f, hf, he⟩ := hfrom' o ho
      exact (hformula f hf o he).2

/-- The order of a statement has the term and the direction of each key that is sorted by. -/
theorem order_terms {q : Query} {order : List (Term × Bool)} (h : q.order = .ok order) :
    List.Forall₂ (fun (key : SortKey) o => q.term key.field = .ok o.1 ∧ o.2 = key.descending) q.sorts order := by
  rw [Query.order] at h
  generalize q.sorts = keys at h
  induction keys generalizing order with
  | nil =>
    rw [Except.mapM_nil_ok h]
    exact .nil
  | cons key rest ih =>
    obtain ⟨o, order', ho, hrest, rfl⟩ := Except.mapM_cons_ok h
    obtain ⟨t, ht, rfl⟩ := Except.map_ok ho
    exact .cons ⟨ht, rfl⟩ (ih hrest)

end Query

end Sql

namespace Filter

open Condition

variable {s : Schema} {entity name : String} {e : Entity} {row : Alias} {v : Value} {c : Condition} {n n' : Nat}

/-- A name that is no operator is looked up among relations, then columns, then formulas. -/
theorem keyOf_text (whole : Value) (h : name.toList.head? ≠ some '$') : Key.of e whole (.text name) =
    match e.relation? name with
    | some r => .ok (.relation r)
    | none =>
      if e.hasColumn name then .ok (.column (.word name))
      else match e.formula? name with
        | some f => .ok (.formula f)
        | none => .error (.filter (.unknownField (Value.text name).plain e.name) whole) := by
  have hne : ∀ op : String, op.toList.head? = some '$' → name ≠ op := by
    rintro op hop rfl
    exact h hop
  dsimp only [Key.of, Value.label?, Value.text, Label.text]
  rewrite [if_neg (hne "$not" (by decide)), if_neg (hne "$and" (by decide)), if_neg (hne "$or" (by decide)), if_neg h]
  rfl

/-- A filter of one key that is a column or formula stands for the condition of that key. -/
theorem single_gives_iff_entry (he : s.entity? entity = some e) {k : Key} (hk : Key.of e .null (.text name) = .ok k)
    (hnamed : (∃ column, k = .column column) ∨ ∃ f, k = .formula f) :
    Gives (ofFilter s entity row (single (.text name) v)) n c n' ↔ EntryGives s e row v c n n' k := by
  constructor
  · intro h
    obtain ⟨e', cs, he', hcs, rfl⟩ := ofFilter_map_gives h
    obtain rfl : e' = e := Option.some.inj (he'.symm.trans he)
    obtain ⟨k', c, m, rest, hk', hc, hrest, rfl⟩ := ofEntries_cons_gives hcs
    obtain rfl : k' = k := Except.ok.inj ((Key.of_eq_ok hk').symm.trans hk)
    rw [ofEntries] at hrest
    obtain ⟨rfl, rfl⟩ := Gives.pure_iff.mp hrest
    exact hc
  · intro hc
    rw [single, ofFilter]
    · refine Gives.bind_iff.mpr ⟨e, n, entityNamed_gives.mpr ⟨he, rfl⟩, ?_⟩
      refine Gives.bind_iff.mpr ⟨[c], n', ?_, Gives.pure_iff.mpr ⟨rfl, rfl⟩⟩
      rw [ofEntries]
      refine Gives.bind_iff.mpr ⟨k, n, Gives.lift_iff.mpr ⟨Key.of_eq_ok hk, rfl⟩, ?_⟩
      have hrest : Gives (ofEntries s e row (.map [(.text name, v)]) [] >>= fun parts => pure (c :: parts)) n' [c] n' := by
        rw [ofEntries]
        exact Gives.bind_iff.mpr ⟨[], n', Gives.pure_iff.mpr ⟨rfl, rfl⟩, Gives.pure_iff.mpr ⟨rfl, rfl⟩⟩
      obtain ⟨column, rfl⟩ | ⟨f, rfl⟩ := hnamed
      · obtain ⟨t, m, ht, hc, rfl⟩ := hc
        exact Gives.bind_iff.mpr ⟨t, _, ht, Gives.bind_iff.mpr ⟨c, _, Gives.lift_iff.mpr ⟨hc, rfl⟩, hrest⟩⟩
      · obtain ⟨t, ht, hc, rfl⟩ := hc
        refine Gives.bind_iff.mpr ⟨t, _, Gives.lift_iff.mpr ⟨ht, rfl⟩, ?_⟩
        exact Gives.bind_iff.mpr ⟨c, _, Gives.lift_iff.mpr ⟨hc, rfl⟩, hrest⟩
    · intro he
      cases he

/-- A name that no formula has is read as a column. -/
theorem columnTerm_gives_iff_term {q : Query} (h : q.entity.formula? name = none) {t : Term} :
    Gives (columnTerm q.rowAlias (.word name)) n t n' ↔ q.term (.word name) = .ok t ∧ n' = n := by
  have hterm : q.term (.word name) = (Name.make? name).map (.column q.rowAlias) := by
    simp only [Query.term, Label.text, h, Name.ofLabel?]
  rw [columnTerm_gives_iff, hterm]
  constructor
  · rintro ⟨column, hcolumn, rfl, rfl⟩
    exact ⟨by rw [hcolumn]; rfl, rfl⟩
  · rintro ⟨ht, rfl⟩
    obtain ⟨column, hcolumn, rfl⟩ := Except.map_ok ht
    exact ⟨column, hcolumn, rfl, rfl⟩

/-- Neither the term nor the comparison takes numbers for sub-selects. -/
theorem compared_iff {x : Except Fault Term} :
    (∃ t m, (x = .ok t ∧ m = n) ∧ comparisonCondition t v = .ok c ∧ n' = m) ↔
      n' = n ∧ ∃ t, x = .ok t ∧ comparisonCondition t v = .ok c := by
  constructor
  · rintro ⟨t, _, ⟨ht, rfl⟩, hc, rfl⟩
    exact ⟨rfl, t, ht, hc⟩
  · rintro ⟨rfl, t, ht, hc⟩
    exact ⟨t, _, ⟨ht, rfl⟩, hc, rfl⟩

/-- A filter compares what a name stands for, if it can be selected and mistaken for nothing else. -/
theorem single_gives_iff_compared {q : Query} (hq : q.entity = e) (he : s.entity? entity = some e)
    (hname : e.Knows name) (h : s.Unmistakable e name) (hv : isIdComparison v = true) :
    Gives (ofFilter s entity q.rowAlias (single (.text name) v)) n c n' ↔
      n' = n ∧ ∃ t, q.term (.word name) = .ok t ∧ comparisonCondition t v = .ok c := by
  subst hq
  have hk := keyOf_text (e := q.entity) .null h.noOperator
  cases hr : q.entity.relation? name with
  | some r =>
    obtain ⟨hformula, hkey, htarget⟩ := h.key r hr
    obtain ⟨target, htarget⟩ := Option.isSome_iff_exists.mp htarget
    rw [hr] at hk
    -- The key of the relation is the column of its name, so ids are compared with the column after all.
    have hlink : r.link = .manyToOne name ∨ r.link = .oneToOne name := by
      cases hl : r.link <;> simp_all [Link.sourceKey?]
    have hrelation : s.key? entity (.text name) = some (.relation r) := by
      rw [Schema.key?, he, Option.bind_some, hk]
      rfl
    rw [single_gives_iff hrelation]
    simp only [htarget, Option.some.injEq, exists_eq_left', relationCondition_held target q.rowAlias name hlink,
      Gives.bind_iff, columnTerm_gives_iff_term hformula, keyCondition, hv, if_true, Gives.lift_iff]
    exact compared_iff
  | none =>
    rw [hr] at hk
    by_cases hcolumn : q.entity.hasColumn name = true
    · have hformula := h.once hcolumn
      simp only [if_pos hcolumn] at hk
      rw [single_gives_iff_entry he hk (.inl ⟨_, rfl⟩)]
      simp only [EntryGives, columnTerm_gives_iff_term hformula]
      exact compared_iff
    · obtain ⟨f, hf⟩ := Option.isSome_iff_exists.mp (hname.resolve_left hcolumn)
      simp only [if_neg hcolumn, hf] at hk
      have hterm : q.term (.word name) = Term.ofFormula f q.rowAlias := by
        simp only [Query.term, Label.text, hf]
      rw [single_gives_iff_entry he hk (.inr ⟨_, rfl⟩), hterm]
      constructor
      · rintro ⟨t, ht, hc, rfl⟩
        exact ⟨rfl, t, ht, hc⟩
      · rintro ⟨rfl, t, ht, hc⟩
        exact ⟨t, ht, hc, rfl⟩

end Filter

/-- The relation that records are loaded by is the one that a filter goes by, if no other one has its name. -/
theorem Schema.relation?_eq {entities : List Entity} {entity name : String} {e : Entity} {r : Relation}
    (he : (Schema.ofEntities entities).entity? entity = some e) (hr : e.relation? name = some r)
    (hone : ∀ r' ∈ e.relations, r'.name = name → r' = r) : (Schema.ofEntities entities).relation? entity name = some r := by
  have hrelations := relationsOf_eq (nodup_ofEntities entities) he
  rw [Schema.relation?, relationOf?, hrelations, List.findRev?_eq_find?_reverse]
  -- Loads look from the back, filters from the front: both meet a relation of this name, and there is just one.
  cases hlast : e.relations.reverse.find? (·.name == name) with
  | none =>
    have hmem := List.mem_of_find?_eq_some hr
    have hnone := List.find?_eq_none.mp hlast r (List.mem_reverse.mpr hmem)
    exact absurd (List.find?_some hr) hnone
  | some r' =>
    have hmem := List.mem_reverse.mp (List.mem_of_find?_eq_some hlast)
    rw [hone r' hmem (by simpa using List.find?_some hlast)]

namespace Sql.Query

open EntityViews.Filter

variable {entities : List Entity} {entity row : String} {e : Entity} {q : Query}

/-- A name that can be selected stands for one expression of the row: the outputs of a query and its order read it alike, and
so does a filter if the name is no operator, not both a column and a formula, and no relation but one by the column of its own
name. A relation is the same in a filter and where it is loaded, if no other relation of the entity has its name. -/
theorem named_alike (he : (Schema.ofEntities entities).entity? entity = some e) (hstart : Query.start e row = .ok q)
    (name : String) :
    (∀ names q', name ∈ names → q.selecting names = .ok q' →
      (∀ keys sel, (q'.sorted keys).build = .ok sel →
        (∃ o ∈ sel.outputs, o.label = name) ∧
        (∀ o ∈ sel.outputs, o.label = name → ∃ t, o.expression? = some t ∧ q.term (.word name) = .ok t) ∧
        List.Forall₂ (fun (key : SortKey) o => q.term key.field = .ok o.1 ∧ o.2 = key.descending) keys sel.order) ∧
      ((Schema.ofEntities entities).Unmistakable e name → ∀ v, isIdComparison v = true → ∀ c n n',
        Gives (Condition.ofFilter (.ofEntities entities) entity (.row row) (single (.text name) v)) n c n' ↔
          n' = n ∧ ∃ t, q.term (.word name) = .ok t ∧ comparisonCondition t v = .ok c)) ∧
    ∀ r, e.relation? name = some r → name.toList.head? ≠ some '$' → (∀ r' ∈ e.relations, r'.name = name → r' = r) →
      (Schema.ofEntities entities).relation? entity name = some r ∧ ∀ v c n n',
        Gives (Condition.ofFilter (.ofEntities entities) entity (.row row) (single (.text name) v)) n c n' ↔
          ∃ target, (Schema.ofEntities entities).entity? r.target = some target ∧
            Gives (relationCondition target (.row row) r.link v fun sub =>
              Condition.ofFilter (.ofEntities entities) target.name sub v) n c n' := by
  have hrow : q.rowAlias = .row row := by
    obtain ⟨_, _, _, hname, rfl⟩ := start_ok hstart
    exact congrArg Alias.row hname
  have hentity : q.entity = e := by
    obtain ⟨_, _, _, _, rfl⟩ := start_ok hstart
    rfl
  refine ⟨?_, ?_⟩
  · intro names q' hname hselect
    obtain ⟨hchosen, columns, formulas, rfl⟩ := selecting_chosen hstart hselect
    refine ⟨?_, ?_⟩
    · intro keys sel hsel
      -- An order changes neither what is selected nor how a name is read, so that both can be told from the query without it.
      generalize hq' : Query.sorted { q with columns := columns, formulas := formulas } keys = q' at hsel
      have hchosen' : q'.Chosen e names := by
        rw [← hq']
        exact ⟨hchosen.table, hchosen.selects, hchosen.columns, hchosen.formulas⟩
      have hterm : ∀ label, q'.term label = q.term label := by
        rw [← hq']
        exact fun _ => rfl
      rw [build, settled_of_selects ((hchosen'.selects "id").mpr (.inl rfl))] at hsel
      obtain ⟨outputs, houtputs, hsel⟩ := Except.bind_ok hsel
      obtain ⟨order, horder, hsel⟩ := Except.bind_ok hsel
      cases hsel
      have hplain : q'.entity = e ∧ q'.extraColumns = [] ∧ q'.sorts = keys := by
        obtain ⟨_, _, _, _, rfl⟩ := start_ok hstart
        rw [← hq']
        exact ⟨rfl, rfl, rfl⟩
      obtain ⟨hlisted, hterms⟩ := hchosen'.terms hplain.1 hplain.2.1 houtputs
      refine ⟨hlisted name ((hchosen'.selects name).mpr (.inr hname)), ?_, ?_⟩
      · rintro o ho rfl
        obtain ⟨t, hexpression, ht⟩ := hterms o ho
        exact ⟨t, hexpression, by rwa [← hterm]⟩
      · have hkeys := order_terms horder
        simp only [hterm] at hkeys
        rwa [hplain.2.2] at hkeys
    · intro hsingle v hv c n n'
      rw [← hrow]
      -- What was selected is known to the entity, which is what a filter needs to come to the same expression.
      exact single_gives_iff_compared hentity he (knows_of_selecting hstart hselect name (List.mem_cons_of_mem _ hname))
        hsingle hv
  · intro r hr hoperator hone
    refine ⟨Schema.relation?_eq he hr hone, ?_⟩
    intro v c n n'
    refine single_gives_iff ?_
    rw [Schema.key?, he, Option.bind_some, keyOf_text .null hoperator, hr]
    rfl

/-- The name of the formula is that of no relation and no column. -/
theorem unmistakable_pastViewersCount : Learning.schema.Unmistakable Learning.text "pastViewersCount" := by
  refine ⟨by decide, ?_, ?_⟩
  · intro h
    exact absurd h (by decide)
  · intro r h
    have hnone : Learning.text.relation? "pastViewersCount" = none := by decide
    rw [hnone] at h
    cases h

/-- The number of viewers of a text is one expression in all places, and the collection of a text is one relation. -/
theorem named_alike_texts : ∃ q q' sel, Query.start Learning.text "t0" = .ok q ∧
    q.selecting ["title", "pastViewersCount"] = .ok q' ∧ (q'.sorted [.ofText "-pastViewersCount"]).build = .ok sel ∧
    (∃ o ∈ sel.outputs, o.label = "pastViewersCount" ∧ ∃ t, o.expression? = some t ∧ q.term (.word "pastViewersCount") = .ok t ∧
      sel.order = [(t, true)] ∧ ∀ c n n',
        Gives (Condition.ofFilter Learning.schema "Text" (.row "t0")
          (single (.text "pastViewersCount") (single (.text "$gt") (.int 0)))) n c n' ↔
          n' = n ∧ comparisonCondition t (single (.text "$gt") (.int 0)) = .ok c) ∧
    ∃ r, Learning.text.relation? "collection" = some r ∧ Learning.schema.relation? "Text" "collection" = some r := by
  obtain ⟨q, q', sel, hstart, hselect, hsel⟩ : ∃ q q' sel, Query.start Learning.text "t0" = .ok q ∧
      q.selecting ["title", "pastViewersCount"] = .ok q' ∧ (q'.sorted [.ofText "-pastViewersCount"]).build = .ok sel :=
    ⟨_, _, _, rfl, rfl, rfl⟩
  have he : (Schema.ofEntities Learning.entities).entity? "Text" = some Learning.text := rfl
  obtain ⟨hsame, _⟩ := named_alike he hstart "pastViewersCount"
  obtain ⟨hbuilt, hfilter⟩ := hsame ["title", "pastViewersCount"] q' (by simp) hselect
  obtain ⟨⟨o, ho, hlabel⟩, hterms, horder⟩ := hbuilt _ sel hsel
  obtain ⟨t, hexpression, ht⟩ := hterms o ho hlabel
  obtain ⟨_, hrelation⟩ := named_alike he hstart "collection"
  refine ⟨q, q', sel, hstart, hselect, hsel, ⟨o, ho, hlabel, t, hexpression, ht, ?_, ?_⟩, _, rfl,
    (hrelation _ rfl (by decide) ?_).1⟩
  · obtain ⟨first, rest, ⟨hfirst, hdescending⟩, hrest, horder⟩ := List.forall₂_cons_left_iff.mp horder
    obtain rfl := List.forall₂_nil_left_iff.mp hrest
    have hfield : q.term (SortKey.ofText "-pastViewersCount").field = .ok t := ht
    have hpair : first = (t, true) := Prod.ext (Except.ok.inj (hfirst.symm.trans hfield)) hdescending
    rw [horder, hpair]
  · intro c n n'
    have hcompared := hfilter unmistakable_pastViewersCount (single (.text "$gt") (.int 0)) rfl c n n'
    simp only [ht, Except.ok.injEq, exists_eq_left'] at hcompared
    exact hcompared
  · intro r' hr' hname
    exact List.inj_on_of_nodup_map (by decide : (Learning.text.relations.map Relation.name).Nodup) hr' (by simp [Learning.text]) hname

def cardCount : String := "(SELECT COUNT(*) FROM \"Card\" c WHERE c.\"deckId\" = \x7balias\x7d.\"id\")"

def deck : Entity where
  name := "Deck"
  columns := [⟨"cards", .scalar (some .int), false, .null, false, false⟩]
  relations := [⟨"notes", "Note", .oneToMany "deckId", []⟩, ⟨"notes", "Card", .oneToMany "deckId", []⟩]
  formulas := [⟨"cards", cardCount, .scalar (some .int)⟩]

def decks : Schema := .ofEntities [deck, ⟨"Note", [], [], []⟩, ⟨"Card", [], [], []⟩]

/-- The number of cards is given and sorted by as it is counted, and compared as it is stored; a filter on notes goes by the
first relation of this name, while the last one is loaded. -/
theorem named_apart_cards : (∃ q sel c n, (Query.start deck "t0" >>= fun q => q.selecting ["cards"]) = .ok q ∧
      (q.sorted [.ofText "cards"]).build = .ok sel ∧
      Gives (Condition.ofFilter decks "Deck" (.row "t0") (single (.text "cards") (single (.text "$gt") (.int 2)))) 1 c n ∧
      sel.outputs.map Output.text =
        ["t0.\"id\"", "(SELECT COUNT(*) FROM \"Card\" c WHERE c.\"deckId\" = t0.\"id\") AS \"cards\""] ∧
      Select.orderText sel.order = "ORDER BY (SELECT COUNT(*) FROM \"Card\" c WHERE c.\"deckId\" = t0.\"id\") ASC" ∧
      c.text = "t0.\"cards\" > ?") ∧
    ∃ first last, decks.key? "Deck" (.text "notes") = some (.relation first) ∧ decks.relation? "Deck" "notes" = some last ∧
      first.target = "Note" ∧ last.target = "Card" :=
  ⟨⟨_, _, _, _, rfl, rfl, rfl, rfl, rfl, rfl⟩, _, _, rfl, rfl, rfl, rfl⟩

end Sql.Query

end EntityViews
