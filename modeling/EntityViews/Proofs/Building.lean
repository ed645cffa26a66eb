import EntityViews.Proofs.Columns
import EntityViews.Proofs.Shapes
import EntityViews.Proofs.Placeholders

/-!
Queries that are changed and built in turn. Main statement: after any steps, with any statements built in between, what is built
depends on the steps alone; a count has the conditions of the selection at the same point, and the placeholders of both take
their parameters in turn, those of the conditions in the order in which they were added, then limit and offset.
-/

namespace EntityViews.Sql

namespace Query

/-- What can be done to a query. -/
inductive Step
  | select (names : List String)
  | selectAll
  | filter (f : Value)
  | condition (sql : String) (params : List Value)
  | sort (keys : List SortKey)
  | page (limit offset : Option Int)
  | join (j : Join)
  | extra (o : Output)

def Step.apply (s : Schema) (q : Query) : Step → Compile Query
  | select names => q.selecting names
  | selectAll => q.selecting q.entity.columnNames
  | filter f => q.filtered s f
  | condition sql params => return q.add (.raw sql params)
  | sort keys => return q.sorted keys
  | page limit offset => return q.paged limit offset
  | join j => return q.joined j
  | extra o => return q.extended o

/-- A step, or a statement that is built: on the rows or on their number. -/
inductive Call
  | step (change : Step)
  | build
  | count

namespace Call

def apply (s : Schema) (q : Query) : Call → Compile Query
  | step change => change.apply s q
  | build => return q.settled
  | count => return q

def answer (q : Query) : Call → Option (Except Fault (String × List Value))
  | step _ => none
  | build => some (q.build.map fun sel => (sel.text, sel.params))
  | count => some (.ok (q.buildCount.countText, q.buildCount.countParams))

def isStep : Call → Bool
  | step _ => true
  | build | count => false

def isCondition : Call → Bool
  | step (.filter f) => f.isPresent
  | step (.condition _ _) => true
  | _ => false

def page? : Call → Option (Option Int × Option Int)
  | step (.page limit offset) => some (limit, offset)
  | _ => none

/-- Whether given words carry as many values as they have placeholders. -/
def Carries (r : MarkRule) : Call → Prop
  | step (.condition sql params) => Fits r sql params
  | step (.join j) => Fits r j.text []
  | step (.extra o) => Fits r o.text []
  | _ => True

end Call

/-- Whether a clause is what a call adds to the conditions on the rows of an entity. -/
inductive Adds (s : Schema) (entity : String) (row : Alias) : Call → Clause → Prop
  | filter {filter : Value} {c : Condition} {n n' : Nat} (h : Gives (Condition.ofFilter s entity row filter) n c n') :
    Adds s entity row (.step (.filter filter)) (.condition c)
  | condition (sql : String) (params : List Value) : Adds s entity row (.step (.condition sql params)) (.raw sql params)

def pageAfter (start : Option Int × Option Int) (calls : List Call) : Option Int × Option Int :=
  calls.foldl (fun page call => call.page?.getD page) start

/-- The rows whose columns are in the statements of a query: its own and those of sub-selects. -/
def Rows (row : String) (a : Alias) : Prop := a = .row row ∨ ∃ n, a = .sub n

/-! What selecting does to a query. -/

section Select

theorem widens_selectEach_any (q : Query) (names : List String) : q.Widens (q.selectEach names).1 := by
  induction names generalizing q with
  | nil => exact .refl q
  | cons name rest ih =>
    rw [selectEach]
    cases hq : q.selectOne name with
    | error e => exact .refl q
    | ok q' => exact (widens_selectOne hq).1.trans (ih q')

theorem widens_selecting {q q' : Query} {names : List String} (h : q.selecting names = .ok q') : q.Widens q' := by
  obtain ⟨_, _, he⟩ := Except.map_ok h
  rw [← he]
  exact widens_selectEach_any q ("id" :: names)

theorem widens_settled (q : Query) : q.Widens q.settled := by
  rw [settled]
  split
  · exact widens_selectEach_any q _
  · exact .refl q

/-- The id can always be selected, so a query that has been settled selects something. -/
theorem settled_settled (q : Query) : q.settled.settled = q.settled := by
  cases hempty : q.columns.isEmpty && q.formulas.isEmpty with
  | false =>
    have hsame : q.settled = q := by rw [settled, if_neg (by rw [hempty]; exact Bool.false_ne_true)]
    rw [hsame, hsame]
  | true =>
    have hall : q.settled = (q.selectEach ("id" :: q.entity.columnNames)).1 := by rw [settled, if_pos hempty]; rfl
    have hid : ∃ q', q.selectOne "id" = .ok q' := by
      unfold selectOne
      split
      · exact ⟨_, rfl⟩
      split
      · exact ⟨_, rfl⟩
      · rw [if_pos (by simp [Entity.hasColumn])]
        exact ⟨_, rfl⟩
    obtain ⟨q', hq'⟩ := hid
    rw [hall, selectEach, hq']
    exact settled_of_selects ((widens_selectEach_any q' _).selects (widens_selectOne hq').2)

/-- Building anew gives what was built before. -/
theorem answer_settled (q : Query) (call : Call) : call.answer q.settled = call.answer q := by
  obtain ⟨columns, formulas, hsettled, _⟩ := q.widens_settled
  cases call with
  | step => rfl
  | build =>
    have hbuild : q.settled.build = q.build := by
      rw [build, build, settled_settled]
      rw [hsettled]
      rfl
    rw [Call.answer, Call.answer, hbuild]
  | count =>
    rw [hsettled]
    rfl

/-- Statements that are built change nothing of those that are built afterwards. -/
theorem answer_foldlM (s : Schema) {calls : List Call} (h : ∀ call ∈ calls, call.isStep = false) (q : Query) (n : Nat) :
    ∃ q', Gives (calls.foldlM (Call.apply s) q) n q' n ∧ ∀ call : Call, call.answer q' = call.answer q := by
  induction calls generalizing q with
  | nil => exact ⟨q, Gives.foldlM_nil_iff.mpr ⟨rfl, rfl⟩, fun _ => rfl⟩
  | cons call rest ih =>
    obtain ⟨hcall, hrest⟩ := List.forall_mem_cons.mp h
    have hgo : ∀ middle, Gives (call.apply s q) n middle n → (∀ other : Call, other.answer middle = other.answer q) →
        ∃ q', Gives ((call :: rest).foldlM (Call.apply s) q) n q' n ∧ ∀ other : Call, other.answer q' = other.answer q := by
      intro middle hmiddle hsame
      obtain ⟨q', hq', hanswer⟩ := ih hrest middle
      exact ⟨q', Gives.foldlM_cons_iff.mpr ⟨middle, n, hmiddle, hq'⟩, fun other => (hanswer other).trans (hsame other)⟩
    cases call with
    | step => cases hcall
    | build => exact hgo q.settled (Gives.pure_iff.mpr ⟨rfl, rfl⟩) (answer_settled q)
    | count => exact hgo q (Gives.pure_iff.mpr ⟨rfl, rfl⟩) fun _ => rfl

end Select

/-! What calls do to a query, one call and all of them. -/

section Run

structure Tidy (r : MarkRule) (e : Entity) (row : String) (q : Query) : Prop where
  entity : q.entity = e
  row : q.row.text = row
  formulas : ∀ f ∈ q.formulas, f ∈ e.formulas
  joins : ∀ j ∈ q.joins, Fits r j.text []
  extras : ∀ o ∈ q.extraColumns, Fits r o.text []
  clauses : ∀ c ∈ q.clauses, Fits r c.text c.params

variable {r : MarkRule} {s : Schema} {e : Entity} {row : String} {q q' : Query} {n n' : Nat}

theorem tidy_start (h : Query.start e row = .ok q) : q.Tidy r e row := by
  obtain ⟨table, name, _, hname, rfl⟩ := start_ok h
  exact ⟨rfl, hname, List.forall_mem_nil _, List.forall_mem_nil _, List.forall_mem_nil _, List.forall_mem_nil _⟩

/-- Selecting more keeps a query tidy. -/
theorem Tidy.widens (hq : q.Tidy r e row) (h : q.Widens q') : q'.Tidy r e row := by
  obtain ⟨columns, formulas, rfl, _, hformulas⟩ := h
  refine ⟨hq.entity, hq.row, ?_, hq.joins, hq.extras, hq.clauses⟩
  intro f hf
  rcases List.mem_append.mp hf with hf | hf
  · exact hq.formulas f hf
  · have hfind := hformulas f hf
    rw [hq.entity] at hfind
    exact List.mem_of_find?_eq_some hfind

/-- A clause that is added fits its operands. -/
theorem Adds.fits (hs : s.Provides (Rows row) (Condition.Plain r)) {entity : String} {call : Call} {clause : Clause}
    (hcall : call.Carries r) (h : Adds s entity (.row row) call clause) : Fits r clause.text clause.params := by
  cases h with
  | filter h =>
    exact Condition.fits_text _ (Filter.over_ofFilter hs _ entity (.row row) _ _ _ (.inl rfl) h)
  | condition sql params => exact hcall

theorem Tidy.add (hq : q.Tidy r e row) {clause : Clause} (h : Fits r clause.text clause.params) :
    (q.add clause).Tidy r e row := by
  refine ⟨hq.entity, hq.row, hq.formulas, hq.joins, hq.extras, ?_⟩
  intro c hc
  rcases List.mem_append.mp hc with hc | hc
  · exact hq.clauses c hc
  · rwa [List.mem_singleton.mp hc]

/-- What one call does: it adds its condition behind the others, and replaces the page if it asks for one. -/
theorem Tidy.apply (hq : q.Tidy r e row) (hs : s.Provides (Rows row) (Condition.Plain r)) {call : Call}
    (hcall : call.Carries r) (h : Gives (call.apply s q) n q' n') :
    q'.Tidy r e row ∧ (q'.limit, q'.offset) = call.page?.getD (q.limit, q.offset) ∧ ∃ added,
      q'.clauses = q.clauses ++ added ∧
      List.Forall₂ (Adds s e.name (.row row)) ([call].filter Call.isCondition) added := by
  have hnone : q.clauses = q.clauses ++ [] := (List.append_nil _).symm
  -- Selecting, by itself or for a statement, adds outputs and leaves conditions and page alone.
  have hwider : q.Widens q' → call.page? = none → [call].filter Call.isCondition = [] →
      q'.Tidy r e row ∧ (q'.limit, q'.offset) = call.page?.getD (q.limit, q.offset) ∧ ∃ added,
        q'.clauses = q.clauses ++ added ∧
        List.Forall₂ (Adds s e.name (.row row)) ([call].filter Call.isCondition) added := by
    intro hwidens hpage hcondition
    have htidy := hq.widens hwidens
    obtain ⟨columns, formulas, rfl, _⟩ := hwidens
    rw [hpage, hcondition]
    exact ⟨htidy, rfl, [], hnone, .nil⟩
  cases call with
  | build =>
    obtain ⟨rfl, _⟩ := Gives.pure_iff.mp h
    exact hwider q.widens_settled rfl rfl
  | count =>
    obtain ⟨rfl, _⟩ := Gives.pure_iff.mp h
    exact hwider (.refl q') rfl rfl
  | step change =>
    cases change with
    | select names => exact hwider (widens_selecting (Gives.lift_iff.mp h).1) rfl rfl
    | selectAll => exact hwider (widens_selecting (Gives.lift_iff.mp h).1) rfl rfl
    | filter f =>
      change Gives (q.filtered s f) n q' n' at h
      unfold filtered at h
      split at h
      · rename_i hpresent
        obtain ⟨c, m, hc, h⟩ := Gives.bind_iff.mp h
        obtain ⟨rfl, _⟩ := Gives.pure_iff.mp h
        have hrow : q.rowAlias = .row row := by rw [rowAlias, hq.row]
        rw [hq.entity, hrow] at hc
        have hadds : Adds s e.name (.row row) (.step (.filter f)) (.condition c) := .filter hc
        have hfilter : [Call.step (.filter f)].filter Call.isCondition = [.step (.filter f)] :=
          List.filter_eq_self.mpr fun call hmem => by rwa [List.mem_singleton.mp hmem]
        rw [hfilter]
        exact ⟨hq.add (hadds.fits hs hcall), rfl, [_], rfl, .cons hadds .nil⟩
      · rename_i habsent
        obtain ⟨rfl, _⟩ := Gives.pure_iff.mp h
        refine hwider (.refl q') rfl ?_
        refine List.filter_eq_nil_iff.mpr fun call hmem => ?_
        rwa [List.mem_singleton.mp hmem]
    | condition sql params =>
      obtain ⟨rfl, _⟩ := Gives.pure_iff.mp h
      exact ⟨hq.add hcall, rfl, [_], rfl, .cons (.condition sql params) .nil⟩
    | sort keys =>
      obtain ⟨rfl, _⟩ := Gives.pure_iff.mp h
      exact ⟨⟨hq.entity, hq.row, hq.formulas, hq.joins, hq.extras, hq.clauses⟩, rfl, [], hnone, .nil⟩
    | page limit offset =>
      obtain ⟨rfl, _⟩ := Gives.pure_iff.mp h
      exact ⟨⟨hq.entity, hq.row, hq.formulas, hq.joins, hq.extras, hq.clauses⟩, rfl, [], hnone, .nil⟩
    | join j =>
      obtain ⟨rfl, _⟩ := Gives.pure_iff.mp h
      have hjoins : ∀ other ∈ q.joins ++ [j], Fits r other.text [] :=
        List.forall_mem_append.mpr ⟨hq.joins, List.forall_mem_singleton.mpr hcall⟩
      exact ⟨⟨hq.entity, hq.row, hq.formulas, hjoins, hq.extras, hq.clauses⟩, rfl, [], hnone, .nil⟩
    | extra o =>
      obtain ⟨rfl, _⟩ := Gives.pure_iff.mp h
      have hextras : ∀ other ∈ q.extraColumns ++ [o], Fits r other.text [] :=
        List.forall_mem_append.mpr ⟨hq.extras, List.forall_mem_singleton.mpr hcall⟩
      exact ⟨⟨hq.entity, hq.row, hq.formulas, hq.joins, hextras, hq.clauses⟩, rfl, [], hnone, .nil⟩

/-- What a run of calls does: the conditions are those of the calls in turn, the page is the last one. -/
theorem Tidy.foldlM (hq : q.Tidy r e row) (hs : s.Provides (Rows row) (Condition.Plain r)) {calls : List Call}
    (hcalls : ∀ call ∈ calls, call.Carries r) (h : Gives (calls.foldlM (Call.apply s) q) n q' n') :
    q'.Tidy r e row ∧ (q'.limit, q'.offset) = pageAfter (q.limit, q.offset) calls ∧ ∃ added,
      q'.clauses = q.clauses ++ added ∧
      List.Forall₂ (Adds s e.name (.row row)) (calls.filter Call.isCondition) added := by
  induction calls generalizing q n with
  | nil =>
    obtain ⟨rfl, _⟩ := Gives.foldlM_nil_iff.mp h
    exact ⟨hq, rfl, [], (List.append_nil _).symm, .nil⟩
  | cons call rest ih =>
    obtain ⟨hcall, hrest⟩ := List.forall_mem_cons.mp hcalls
    obtain ⟨middle, m, hstep, hrun⟩ := Gives.foldlM_cons_iff.mp h
    obtain ⟨htidy, hpage, added, hclauses, hadds⟩ := hq.apply hs hcall hstep
    obtain ⟨htidy', hpage', more, hclauses', hadds'⟩ := ih htidy hrest hrun
    refine ⟨htidy', ?_, added ++ more, ?_, ?_⟩
    · rw [hpage', hpage]
      rfl
    · rw [hclauses', hclauses, List.append_assoc]
    · have hsplit : (call :: rest).filter Call.isCondition =
          [call].filter Call.isCondition ++ rest.filter Call.isCondition := List.filter_append [call] rest
      rw [hsplit]
      exact List.rel_append hadds hadds'

end Run

end Query

/-! The texts of statements, part by part. -/

namespace Select

def following (part : String) : String := if part = "" then "" else " " ++ part

/-- After the first part every part follows a blank, if it is not empty. -/
theorem words_cons {part : String} (h : part ≠ "") (parts : List String) :
    words (part :: parts) = part ++ String.join (parts.map following) := by
  have hkept : (part :: parts).filter (· != "") = part :: parts.filter (· != "") := List.filter_cons_of_pos (by simpa using h)
  rw [words, hkept]
  clear hkept
  induction parts generalizing part with
  | nil =>
    rw [List.filter_nil, String.intercalate_singleton]
    exact (String.append_empty).symm
  | cons next rest ih =>
    rw [List.map_cons, String.join_cons, following]
    by_cases hnext : next = ""
    · rw [List.filter_cons_of_neg (by simpa using hnext), if_pos hnext, String.empty_append]
      exact ih h
    · rw [List.filter_cons_of_pos (by simpa using hnext), if_neg hnext, String.intercalate_cons_cons, ih hnext]
      simp only [String.append_assoc]

def head (sel : Select) : String := "SELECT " ++ ", ".intercalate (sel.outputs.map Output.text) ++ " FROM " ++ sel.source

def countHead (sel : Select) : String := "SELECT COUNT(*) FROM " ++ sel.source

theorem append_ne_empty {s t : String} (h : s ≠ "") : s ++ t ≠ "" := by
  intro he
  exact h (String.append_eq_empty_iff.mp he).1

theorem text_eq (sel : Select) : sel.text = sel.head ++ following (whereText sel.clauses) ++
    following (orderText sel.order) ++ String.join (sel.page.text.map following) := by
  have hne : sel.head ≠ "" := append_ne_empty (append_ne_empty (append_ne_empty (by decide)))
  have htext : sel.text = words (sel.head :: whereText sel.clauses :: orderText sel.order :: sel.page.text) := rfl
  rw [htext, words_cons hne, List.map_cons, List.map_cons, String.join_cons, String.join_cons]
  simp only [String.append_assoc]

theorem countText_eq (sel : Select) : sel.countText = sel.countHead ++ following (whereText sel.clauses) := by
  have hne : sel.countHead ≠ "" := append_ne_empty (by decide)
  have htext : sel.countText = words [sel.countHead, whereText sel.clauses] := rfl
  rw [htext, words_cons hne, List.map_singleton, String.join_cons]
  exact congrArg (sel.countHead ++ ·) (String.append_empty)

end Select

/-! The texts of statements, filled. -/

section Filled

def filledConditions (xs : List Filled) : Filled :=
  if xs.isEmpty then [] else spelled " WHERE ".toList ++ (spelled " AND ".toList).intercalate xs

def filledPage : Option Int × Option Int → Filled
  | (some limit, offset) =>
    spelled " LIMIT ".toList ++ [.inr (.int limit)] ++ spelled " OFFSET ".toList ++ [.inr (.int (offset.getD 0))]
  | (none, some offset) => if offset = 0 then [] else spelled " LIMIT -1 OFFSET ".toList ++ [.inr (.int offset)]
  | (none, none) => []

variable {r : MarkRule}

theorem fits_following {part : String} (h : Fits r part []) : Fits r (Select.following part) [] := by
  unfold Select.following
  split
  · exact fits_of_inert rfl
  · exact (fits_of_inert rfl : Fits r " " []).append h

/-- The conditions of a statement take their operands in turn. -/
theorem fills_conditions {clauses : List Clause} {xs : List Filled}
    (h : List.Forall₂ (fun (c : Clause) x => Fills r c.text c.params x) clauses xs) :
    Fills r (Select.following (Select.whereText clauses)) (Select.whereParams clauses) (filledConditions xs) := by
  have hand : Fits r " AND " [] := fits_of_inert rfl
  have hopen : Fits r " WHERE " [] := fits_of_inert rfl
  cases clauses with
  | nil =>
    cases h
    exact (fits_of_inert rfl : Fits r "" []).fills
  | cons clause rest =>
    have hall := hopen.fills.append (fills_intercalate hand h)
    have htext : Select.whereText (clause :: rest) =
        "WHERE " ++ " AND ".intercalate ((clause :: rest).map Clause.text) := rfl
    have hne : Select.whereText (clause :: rest) ≠ "" := by
      rw [htext]
      exact Select.append_ne_empty (by decide)
    have hblank : " WHERE " = " " ++ "WHERE " := rfl
    have hxs : xs.isEmpty = false := by cases h; rfl
    rw [Select.following, if_neg hne, htext, ← String.append_assoc, ← hblank, filledConditions, hxs]
    exact hall

/-- The page of a statement takes the limit and the offset. -/
theorem fills_page (q : Query) :
    Fills r (String.join (q.page.text.map Select.following)) q.page.params (filledPage (q.limit, q.offset)) := by
  have hnone : Fills r "" [] [] := (fits_of_inert rfl : Fits r "" []).fills
  have hwindow : ∀ limit offset : Int, Fills r " LIMIT ? OFFSET ?" [.int limit, .int offset]
      (filledPage (some limit, some offset)) := by
    intro limit offset
    cases r <;> rfl
  -- An offset does not stand without a limit, and -1 is a limit that leaves nothing out.
  have hrest : ∀ offset : Int, Fills r " LIMIT -1 OFFSET ?" [.int offset]
      (spelled " LIMIT -1 OFFSET ".toList ++ [.inr (.int offset)]) := by
    intro offset
    cases r <;> rfl
  unfold Query.page
  split
  · rename_i limit hlimit
    rw [hlimit]
    exact hwindow limit (q.offset.getD 0)
  · rename_i hlimit
    rw [hlimit]
    split
    · rename_i offset hoffset
      rw [hoffset, filledPage]
      split
      · exact hnone
      · exact hrest offset
    · rename_i hoffset
      rw [hoffset]
      exact hnone

end Filled

namespace Query

section Statements

variable {r : MarkRule} {e : Entity} {row : String} {q : Query}

theorem fits_row (q : Query) : Fits r q.rowAlias.text [] := by
  have hplain : ∀ n : Name, Fits r n.text [] := by
    intro n
    cases n with
    | plain text h => exact fits_of_inert (isInert_of_isName h)
    | kind k => exact fits_of_inert (by cases k <;> decide)
  exact hplain q.row

variable (hq : q.Tidy r e row) (he : e.PlainFormulas r (Rows row))

include hq he

theorem Tidy.fits_formula {f : Formula} (hf : f ∈ e.formulas) {t : Term} (ht : Term.ofFormula f q.rowAlias = .ok t) :
    Fits r t.text [] := by
  obtain ⟨text, htext, rfl⟩ := Except.map_ok ht
  refine he f hf (.row row) (.inl rfl) text ?_
  rwa [← hq.row]

/-- The outputs of a tidy query hold no placeholder. -/
theorem Tidy.fits_outputs {outputs : List Output} (h : q.outputs = .ok outputs) : ∀ o ∈ outputs, Fits r o.text [] := by
  rw [Query.outputs] at h
  obtain ⟨columns, hcolumns, h⟩ := Except.bind_ok h
  obtain ⟨formulas, hformulas, h⟩ := Except.bind_ok h
  cases h
  refine List.forall_mem_append.mpr ⟨List.forall_mem_append.mpr ⟨?_, ?_⟩, hq.extras⟩
  · intro o ho
    obtain ⟨c, _, hc⟩ := (Except.mem_of_mapM_ok hcolumns).1 o ho
    obtain ⟨name, _, rfl⟩ := Except.map_ok hc
    exact Term.fits_column q.fits_row name
  · intro o ho
    obtain ⟨f, hf, hof⟩ := (Except.mem_of_mapM_ok hformulas).1 o ho
    obtain ⟨t, ht, hof⟩ := Except.bind_ok hof
    obtain ⟨name, _, hof⟩ := Except.bind_ok hof
    cases hof
    have has : Fits r " AS " [] := fits_of_inert rfl
    exact ((hq.fits_formula he (hq.formulas f hf) ht).append has).append name.fits_quoted

/-- The order of a tidy query holds no placeholder. -/
theorem Tidy.fits_order {order : List (Term × Bool)} (h : q.order = .ok order) : Fits r (Select.orderText order) [] := by
  have hterm : ∀ o ∈ order, Fits r (directionText o.1.text o.2) [] := by
    intro o ho
    obtain ⟨key, _, hkey⟩ := (Except.mem_of_mapM_ok h).1 o ho
    obtain ⟨t, ht, rfl⟩ := Except.map_ok hkey
    have hdirection : Fits r (if key.descending then " DESC" else " ASC") [] := by
      cases key.descending <;> exact fits_of_inert rfl
    suffices hterm : Fits r t.text [] from hterm.append hdirection
    unfold term at ht
    split at ht
    · rename_i f hf
      rw [hq.entity] at hf
      exact hq.fits_formula he (List.mem_of_find?_eq_some hf) ht
    · obtain ⟨name, _, rfl⟩ := Except.map_ok ht
      exact Term.fits_column q.fits_row name
  have hcomma : Fits r ", " [] := fits_of_inert rfl
  have hopen : Fits r "ORDER BY " [] := fits_of_inert rfl
  unfold Select.orderText
  split
  · exact fits_of_inert rfl
  · exact hopen.append (fits_intercalate_plain hcomma hterm)

omit he in
/-- What a tidy query selects from holds no placeholder. -/
theorem Tidy.fits_source (outputs : List Output) (order : List (Term × Bool)) (page : Page) :
    Fits r (Select.source ⟨q.table, q.rowAlias, q.joins, outputs, q.clauses, order, page⟩) [] := by
  have hblank : Fits r " " [] := fits_of_inert rfl
  have has : Fits r " AS " [] := fits_of_inert rfl
  have hall : ∀ s ∈ (q.table.quoted ++ " AS " ++ q.rowAlias.text) :: q.joins.map Join.text, Fits r s [] := by
    refine List.forall_mem_cons.mpr ⟨(q.table.fits_quoted.append has).append q.fits_row, ?_⟩
    intro s hs
    obtain ⟨j, hj, rfl⟩ := List.mem_map.mp hs
    exact hq.joins j hj
  have hsource := fits_intercalate_plain (f := id) hblank hall
  rwa [List.map_id] at hsource

omit hq he in
theorem counted_eq (q : Query) : q.buildCount.countText =
    q.buildCount.countHead ++ Select.following (Select.whereText q.clauses) := Select.countText_eq q.buildCount

omit hq he in
/-- What is built of a query: its conditions, order and page, in this order. -/
theorem built_eq {sel : Select} (h : q.build = .ok sel) :
    (∃ outputs order, q.settled.outputs = .ok outputs ∧ q.order = .ok order ∧
      sel = ⟨q.table, q.rowAlias, q.joins, outputs, q.clauses, order, q.page⟩) ∧
    sel.text = sel.head ++ Select.following (Select.whereText q.clauses) ++ Select.following (Select.orderText sel.order) ++
      String.join (q.page.text.map Select.following) ∧
    sel.params = q.buildCount.countParams ++ q.page.params := by
  obtain ⟨outputs, houtputs, h⟩ := Except.bind_ok h
  obtain ⟨order, horder, h⟩ := Except.bind_ok h
  cases h
  exact ⟨⟨outputs, order, houtputs, horder, rfl⟩, Select.text_eq _, rfl⟩

omit he in
theorem Tidy.fills_count {xs : List Filled}
    (hxs : List.Forall₂ (fun (c : Clause) x => Fills r c.text c.params x) q.clauses xs) :
    Fills r q.buildCount.countText q.buildCount.countParams
      (spelled q.buildCount.countHead.toList ++ filledConditions xs) := by
  have hhead : Fits r q.buildCount.countHead [] :=
    (fits_of_inert rfl : Fits r "SELECT COUNT(*) FROM " []).append (hq.fits_source [] [] .all)
  rw [counted_eq]
  exact hhead.fills.append (fills_conditions hxs)

theorem Tidy.fills_build {sel : Select} (h : q.build = .ok sel) {xs : List Filled}
    (hxs : List.Forall₂ (fun (c : Clause) x => Fills r c.text c.params x) q.clauses xs) :
    Fills r sel.text sel.params (spelled sel.head.toList ++ filledConditions xs ++
      spelled (Select.following (Select.orderText sel.order)).toList ++ filledPage (q.limit, q.offset)) := by
  obtain ⟨⟨outputs, order, houtputs, horder, rfl⟩, htext, hparams⟩ := built_eq h
  have hselect : Fits r "SELECT " [] := fits_of_inert rfl
  have hcomma : Fits r ", " [] := fits_of_inert rfl
  have hfrom : Fits r " FROM " [] := fits_of_inert rfl
  have hrow : q.settled.rowAlias = q.rowAlias := by
    obtain ⟨_, _, hsettled, _⟩ := q.widens_settled
    rw [hsettled]
    rfl
  have houtput := (hq.widens q.widens_settled).fits_outputs he houtputs
  have hhead := ((hselect.append (fits_intercalate_plain hcomma houtput)).append hfrom).append
    (hq.fits_source outputs order q.page)
  have horders := fits_following (hq.fits_order he horder)
  have hall := ((hhead.fills.append (fills_conditions hxs)).append horders.fills).append (fills_page q)
  rw [htext, hparams]
  rw [List.append_nil] at hall
  exact hall

end Statements

/-- After any calls on a new query the statements that are built depend on the steps alone: building any of them any number of
times changes none. The conditions are those that the calls have added, in turn. A count has the conditions of the selection,
as text and as parameters, and ends with them. In both statements the placeholders take the parameters in turn: those of each
condition take its own operands, and those of the page that was asked for last take its limit and offset. -/
theorem builds_of_calls (r : MarkRule) {s : Schema} {e : Entity} {row : String} {q₀ q : Query} {calls : List Call} {n n' : Nat}
    (hformulas : ∀ e' ∈ e :: s.entities, e'.PlainFormulas r (Rows row)) (hcalls : ∀ call ∈ calls, call.Carries r)
    (hstart : Query.start e row = .ok q₀) (h : Gives (calls.foldlM (Call.apply s) q₀) n q n') :
    (∀ further : List Call, (∀ call ∈ further, call.isStep = false) → ∀ m, ∃ q',
      Gives (further.foldlM (Call.apply s) q) m q' m ∧ ∀ call : Call, call.answer q' = call.answer q) ∧
    List.Forall₂ (Adds s e.name (.row row)) (calls.filter Call.isCondition) q.clauses ∧
    ∃ xs, List.Forall₂ (fun (c : Clause) x => Fills r c.text c.params x) q.clauses xs ∧
      (q.buildCount.countText = q.buildCount.countHead ++ Select.following (Select.whereText q.clauses) ∧
        q.buildCount.countParams = Select.whereParams q.clauses ∧
        Fills r q.buildCount.countText q.buildCount.countParams
          (spelled q.buildCount.countHead.toList ++ filledConditions xs)) ∧
      ∀ sel, q.build = .ok sel →
        sel.text = sel.head ++ Select.following (Select.whereText q.clauses) ++
          Select.following (Select.orderText sel.order) ++ String.join (q.page.text.map Select.following) ∧
        sel.params = q.buildCount.countParams ++ q.page.params ∧
        Fills r sel.text sel.params (spelled sel.head.toList ++ filledConditions xs ++
          spelled (Select.following (Select.orderText sel.order)).toList ++ filledPage (pageAfter (none, none) calls)) := by
  obtain ⟨he, hs⟩ := List.forall_mem_cons.mp hformulas
  have hprovides : s.Provides (Rows row) (Condition.Plain r) := by
    refine Schema.provides_plain (fun n => .inr ⟨n, rfl⟩) ?_ hs
    rintro a (rfl | ⟨n, rfl⟩)
    · obtain ⟨table, name, _, hname, rfl⟩ := start_ok hstart
      rw [← hname]
      exact fits_row ⟨e, table, name, [], [], [], [], [], [], none, none⟩
    · exact Alias.fits_sub n
  obtain ⟨htidy, hpage, added, hclauses, hadds⟩ := (tidy_start hstart).foldlM hprovides hcalls h
  -- A new query has no conditions, and all rows are on its page.
  have hnew : q₀.clauses = [] ∧ (q₀.limit, q₀.offset) = (none, none) := by
    obtain ⟨_, _, _, _, rfl⟩ := start_ok hstart
    exact ⟨rfl, rfl⟩
  rw [hnew.1, List.nil_append] at hclauses
  rw [hnew.2] at hpage
  obtain ⟨xs, hxs⟩ := exists_fills htidy.clauses
  refine ⟨fun further hfurther m => answer_foldlM s hfurther q m, by rwa [hclauses], xs, hxs,
    ⟨counted_eq q, rfl, htidy.fills_count hxs⟩, ?_⟩
  intro sel hsel
  obtain ⟨_, htext, hparams⟩ := built_eq hsel
  rw [← hpage]
  exact ⟨htext, hparams, htidy.fills_build he hsel hxs⟩

def textCalls : List Call := [.count,
  .step (.filter (Filter.single (.text "collection") (Filter.single (.text "isPublic") (.bool true)))),
  .build,
  .step (.join (.raw "JOIN \"Language\" AS l /* which one? */ ON l.\"id\" = t0.\"languageId\"")),
  .step (.extra (.raw "'?' AS \"mark\"")),
  .step (.condition "t0.\"title\" <> 'Who?' AND t0.\"id\" > ?" [.int 3]),
  .step (.sort [.ofText "-pastViewersCount"]),
  .step (.page (some 20) (some 40)),
  .build]

/-- The formulas of the learning schema hold no placeholder of SQL. -/
theorem plainFormulas_learning (row : String) (hne : row.toList ≠ []) (hrow : ∀ c ∈ row.toList, isNameChar c = true) :
    ∀ e ∈ Learning.schema.entities, e.PlainFormulas .outside (Rows row) := by
  -- One row of one letter is enough, so the formulas are closed texts that can be gone through.
  have hall : ∀ e ∈ Learning.schema.entities, ∀ f ∈ e.formulas, Template.aliasOnly f.sql.toList = true ∧
      (fill .outside .plain (Template.fill ['a'] f.sql.toList) []).isSome = true := by
    apply Learning.forall_formulas
    simp only [Learning.language, Learning.user, Learning.collection, Learning.text, Learning.vocab, Learning.meaning,
      Learning.counting, List.forall_mem_append, List.forall_mem_cons, String.toList_append]
    repeat rw [String.toList_ofList]
    decide +kernel
  intro e he f hf a ha text htext
  obtain ⟨honly, hfill⟩ := hall e he f hf
  rcases ha with rfl | ⟨n, rfl⟩
  · exact Formula.fits_render honly hfill hne hrow htext
  · refine Formula.fits_render honly hfill ?_ (Alias.isNameChar_of_sub n) htext
    rw [Alias.toList_sub]
    exact List.cons_ne_nil _ _

theorem carries_textCalls : ∀ call ∈ textCalls, call.Carries .outside := by
  simp only [textCalls, List.forall_mem_cons]
  refine ⟨trivial, trivial, trivial, ?_, ?_, ?_, trivial, trivial, trivial, List.forall_mem_nil _⟩
  · exact fits_literal (by decide +kernel)
  · exact fits_literal (by decide +kernel)
  · exact fits_literal (by rfl)

/-- At the end the statement on these texts takes the operands of the filter and of the condition, then limit and offset. -/
theorem builds_of_calls_texts : ∃ q sel n', q.build = .ok sel ∧
    (∃ q₀, Query.start Learning.text "t0" = .ok q₀ ∧ Gives (textCalls.foldlM (Call.apply Learning.schema) q₀) 1 q n') ∧
    sel.params.map Value.plain = ["1", "3", "20", "40"] ∧ q.buildCount.countParams.map Value.plain = ["1", "3"] ∧
    (∃ q', Gives ([Call.build, .count].foldlM (Call.apply Learning.schema) q) n' q' n' ∧
      Call.build.answer q' = Call.build.answer q) ∧
    ∃ xs, Fills .outside sel.text sel.params (spelled sel.head.toList ++ filledConditions xs ++
      spelled (Select.following (Select.orderText sel.order)).toList ++ filledPage (some 20, some 40)) := by
  obtain ⟨q, n', hrun, hcheck⟩ : ∃ q n', Gives (liftM (Query.start Learning.text "t0") >>=
      textCalls.foldlM (Call.apply Learning.schema)) 1 q n' ∧ (fun (q : Query) _ =>
        (q.build.toOption.map fun sel => sel.params.map Value.plain) == some ["1", "3", "20", "40"] &&
          q.buildCount.countParams.map Value.plain == ["1", "3"]) q n' = true := Gives.of_check (by decide +kernel)
  obtain ⟨q₀, _, hstart, h⟩ := Gives.bind_iff.mp hrun
  obtain ⟨hok, rfl⟩ := Gives.lift_iff.mp hstart
  simp only [Bool.and_eq_true, beq_iff_eq, Option.map_eq_some_iff, Except.toOption_eq_some_iff] at hcheck
  obtain ⟨⟨sel, hsel, hparams⟩, hcount⟩ := hcheck
  have hplain := plainFormulas_learning "t0" (by decide) (List.all_eq_true.mp (by decide))
  have htext : Learning.text ∈ Learning.schema.entities := by
    rw [Learning.entities_schema]
    simp [Learning.entities]
  obtain ⟨hagain, _, xs, _, _, hbuilt⟩ := builds_of_calls .outside
    (List.forall_mem_cons.mpr ⟨hplain _ htext, hplain⟩) carries_textCalls hok h
  obtain ⟨q', hq', hsame⟩ := hagain [.build, .count] (by decide) n'
  exact ⟨q, sel, n', hsel, ⟨q₀, hok, h⟩, hparams, hcount, ⟨q', hq', hsame .build⟩, xs, (hbuilt sel hsel).2.2⟩

end Query

end EntityViews.Sql
