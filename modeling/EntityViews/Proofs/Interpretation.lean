import EntityViews.Proofs.Terms
import EntityViews.Proofs.Truth

/-!
What a text says of the rows of a database, told from the text alone: tests are known by how they are spelled, rows and
tables by their names, and each placeholder takes the next operand. Main statement: the text that a filter compiles to,
read by precedence and given the operands of its condition, is as true as the condition.
-/

namespace EntityViews.Sql

inductive Test
  | compare (comparison : Comparison)
  | isNull (negated : Bool)
  | among (negated : Bool)

/-- The spellings of tests behind a term. What is in brackets is left out, up to the opening one. -/
def Test.spellings : List (List Token × Test) :=
  [([.sign '=', .sign '?'], .compare .eq),
    ([.sign '!', .sign '=', .sign '?'], .compare .ne),
    ([.sign '>', .sign '?'], .compare .gt),
    ([.sign '>', .sign '=', .sign '?'], .compare .gte),
    ([.sign '<', .sign '?'], .compare .lt),
    ([.sign '<', .sign '=', .sign '?'], .compare .lte),
    ([.word "LIKE".toList, .sign '?'], .compare .like),
    ([.word "IS".toList, .word "NULL".toList], .isNull false),
    ([.word "IS".toList, .word "NOT".toList, .word "NULL".toList], .isNull true),
    ([.word "IN".toList, .sign '('], .among false),
    ([.word "NOT".toList, .word "IN".toList, .sign '('], .among true)]

def Test.likeLowered : List Token := [.word "LIKE".toList, .word "LOWER".toList, .sign '(']

def constants : List (List Token × Truth) :=
  [([.word ['1'], .sign '=', .word ['1']], .holds), ([.word ['1'], .sign '=', .word ['0']], .fails)]

namespace Item

def outside : Item → Token
  | .token t => t
  | .group _ => .sign '('

mutual

def marks : Item → Nat
  | .token t => if t = .sign '?' then 1 else 0
  | .group is => marksOf is

def marksOf : List Item → Nat
  | [] => 0
  | i :: rest => i.marks + marksOf rest

end

end Item

/-- A term that is tested, how it is tested, and how many operands this takes. -/
structure Tested where
  term : List Item
  test : Test
  operands : Nat

def Tested.ofTail (term tail : List Item) : Option Tested :=
  (Test.spellings.lookup (tail.map Item.outside)).map fun test => ⟨term, test, Item.marksOf tail⟩

def Tested.ofItems : List Item → Option Tested
  -- A term is a column of a row, or an expression in brackets.
  | .group inner :: tail => ofTail [.group inner] tail
  | .token first :: .group inner :: tail =>
    if first = .word "LOWER".toList ∧ tail.map Item.outside = Test.likeLowered then
      some ⟨inner, .compare .ilike, Item.marksOf tail⟩
    else none
  | row :: dot :: name :: tail => ofTail [row, dot, name] tail
  | _ => none

def nameOf : List Item → String
  | [.token (.word chars)] | [.token (.quoted _ chars)] => String.ofList chars
  | _ => ""

namespace Proposition

mutual

def takes : Proposition → Nat
  | test is => ((Tested.ofItems is).map (·.operands)).getD 0
  | all parts | any parts => takesOf parts
  | not part => part.takes
  | within _ _ _ _ _ condition => condition.takes

def takesOf : List Proposition → Nat
  | [] => 0
  | part :: rest => part.takes + takesOf rest

end

end Proposition

/-- What expressions in brackets compute, those that take no operands. -/
abbrev Expressions := List Item → Env → Value

def denoted (expressions : Expressions) (env : Env) : List Item → Value
  | [.token (.word row), .token (.sign '.'), .token (.quoted '"' name)] => env (String.ofList row) (String.ofList name)
  | [.group inner] => expressions inner env
  | _ => .null

end Sql

namespace Contents

open Sql

variable (db : Contents) (expressions : Expressions)

def answer (v : Value) (operands : List Value) : Test → Truth
  | .compare c => ((operands.head?).map (db.compare c v)).getD .unknown
  | .isNull negated => .ofBool (v.isNull != negated)
  | .among negated => if negated then (db.member v operands).not else db.member v operands

mutual

/-- The truth of a text that was read, its operands given in the order of its placeholders. -/
def judge (env : Env) : Proposition → List Value → Truth
  | .test is, operands =>
    match Tested.ofItems is with
    | some tested => db.answer (denoted expressions env tested.term) operands tested.test
    | none => (constants.lookup (is.map Item.outside)).getD .unknown
  | .all parts, operands => .all (judgeAll env parts operands)
  | .any parts, operands => .any (judgeAll env parts operands)
  | .not part, operands => (judge env part operands).not
  | .within negated term column table row condition, operands =>
    let inner (r : Row) : Env := fun name => if name = nameOf row then r else env name
    let chosen := (db.rows (nameOf table)).filter fun r => judge (inner r) condition operands = .holds
    let found := db.member (denoted expressions env term) (chosen.map fun r => denoted expressions (inner r) column)
    if negated then found.not else found

def judgeAll (env : Env) : List Proposition → List Value → List Truth
  | [], _ => []
  | part :: rest, operands =>
    judge env part (operands.take part.takes) :: judgeAll env rest (operands.drop part.takes)

end

end Contents

/-! The terms of a condition, and what stands behind them. -/

section Terms

variable {t : Sql.Term} {is : List Sql.Item}

open Sql

theorem Sql.IsOperand.ofItems (hop : IsOperand is) (tail : List Item) : Tested.ofItems (is ++ tail) = Tested.ofTail is tail := by
  cases hop with
  | column row name h => rfl
  | brackets inner => rfl

theorem Sql.itemsOf_followed (his : items t.text = some is) {cs : List Char} {tail : List Item}
    (hcs : (tokens cs).bind nest = some tail) (hhead : ∀ c ∈ cs.head?, isWordChar c = false) :
    itemsOf (t.text ++ String.ofList cs) = is ++ tail := by
  have happart : Apart t.text.toList (String.ofList cs).toList := by
    rw [String.toList_ofList]
    exact .inr hhead
  rw [itemsOf, items_append happart his (items_literal hcs), Option.getD_some]

theorem Sql.marksOf_placeholderItems (operands : List Value) :
    Item.marksOf (placeholderItems operands) = operands.length := by
  induction operands with
  | nil => rfl
  | cons v rest ih =>
    cases rest with
    | nil => rfl
    | cons w rest =>
      have hnext : placeholderItems (v :: w :: rest) =
          .token (.sign '?') :: .token (.sign ',') :: placeholderItems (w :: rest) := List.intercalate_cons_cons
      have hmark : (Item.token (.sign '?')).marks = 1 := rfl
      have hcomma : (Item.token (.sign ',')).marks = 0 := rfl
      rw [hnext, Item.marksOf, Item.marksOf, ih, hmark, hcomma]
      simp only [List.length_cons]
      omega

/-- Every comparison is spelled as the table has it, and takes one operand. -/
theorem Sql.Comparison.tested (k : Comparison) (ht : t.Written) :
    Tested.ofItems (itemsOf (k.text t.text)) = some ⟨itemsOf t.text, .compare k, 1⟩ := by
  obtain ⟨is, his, hop⟩ := ht
  have hterm : itemsOf t.text = is := by rw [itemsOf, his, Option.getD_some]
  have hfollowed : ∀ {cs : List Char} {tail : List Item}, (tokens cs).bind nest = some tail →
      (∀ c ∈ cs.head?, isWordChar c = false) →
      Tested.ofItems (itemsOf (t.text ++ String.ofList cs)) = Tested.ofTail is tail := by
    intro cs tail hcs hhead
    rw [itemsOf_followed his hcs hhead, hop.ofItems]
  rw [hterm]
  cases k with
  | eq | ne | gt | gte | lt | lte | like => exact (hfollowed rfl (notWord_of_all rfl)).trans rfl
  | ilike =>
    rw [itemsOf, items_ilike his]
    rfl

/-- The text of a test for null is read back as this test of its term. -/
theorem Sql.tested_isNull (ht : t.Written) (negated : Bool) :
    Tested.ofItems (itemsOf (Condition.isNull negated t).text) = some ⟨itemsOf t.text, .isNull negated, 0⟩ := by
  obtain ⟨is, his, hop⟩ := ht
  have hterm : itemsOf t.text = is := by rw [itemsOf, his, Option.getD_some]
  rw [Condition.text, hterm]
  cases negated with
  | false => exact (congrArg Tested.ofItems (itemsOf_followed his rfl (notWord_of_all rfl))).trans (hop.ofItems _)
  | true => exact (congrArg Tested.ofItems (itemsOf_followed his rfl (notWord_of_all rfl))).trans (hop.ofItems _)

/-- The text of a membership is read back as this membership of its term, with one placeholder for each operand. -/
theorem Sql.tested_among (ht : t.Written) (negated : Bool) (operands : List Value) :
    Tested.ofItems (itemsOf (Condition.among negated t operands).text) =
      some ⟨itemsOf t.text, .among negated, operands.length⟩ := by
  obtain ⟨is, his, hop⟩ := ht
  have hterm : itemsOf t.text = is := by rw [itemsOf, his, Option.getD_some]
  have hall := items_membership negated his (items_brackets (items_placeholders operands))
  have hsplit : (Condition.among negated t operands).text =
      t.text ++ membershipText negated ++ ("(" ++ placeholders operands ++ ")") := by
    rw [Condition.text, open_membership]
    simp only [String.append_assoc]
  have hspelled : Test.spellings.lookup ((membershipItems negated ++ [Item.group (placeholderItems operands)]).map Item.outside) =
      some (.among negated) := by
    cases negated <;> rfl
  have hmarks : Item.marksOf (membershipItems negated ++ [.group (placeholderItems operands)]) = operands.length := by
    rw [← marksOf_placeholderItems operands]
    cases negated <;> simp [membershipItems, Item.marksOf, Item.marks]
  rw [hsplit, itemsOf, hall, Option.getD_some, hterm, hop.ofItems, Tested.ofTail, hspelled, hmarks]
  rfl

end Terms

namespace Contents

open Sql

variable (db : Contents) (expressions : Expressions)

def Reads (t : Term) : Prop := ∀ env, denoted expressions env (itemsOf t.text) = db.value env t

variable {db expressions}

/-- A column of a row is read back as itself. -/
theorem reads_column {row : Alias} (hrow : ∀ c ∈ row.text.toList, isWordChar c = true) (hne : row.text.toList ≠ [])
    (name : Name) : db.Reads expressions (.column row name) := by
  intro env
  obtain ⟨c, cs, hlist⟩ := List.exists_cons_of_ne_nil hne
  rw [hlist] at hrow
  obtain ⟨hc, hcs⟩ := List.forall_mem_cons.mp hrow
  have hwords : tokens row.text.toList = some [.word (c :: cs)] := hlist ▸ tokens_word hc hcs
  have hname : String.ofList (c :: cs) = row.text := by rw [← hlist, String.ofList_toList]
  rw [itemsOf, items_column hwords, Option.getD_some, denoted, hname, String.ofList_toList, value]

/-! A whole of parts takes the operands of all its parts, one part after another. -/

section Parts

variable {env : Env}

theorem takes_joined {whole : List Proposition → Proposition} (hwhole : ∀ ps, (whole ps).takes = Proposition.takesOf ps)
    (ps : List Proposition) : (Part.joined whole ps).takes = Proposition.takesOf ps := by
  cases ps with
  | nil => exact hwhole []
  | cons p rest =>
    cases rest with
    | nil => rw [Part.joined, Proposition.takesOf, Proposition.takesOf, Nat.add_zero]
    | cons q rest => exact hwhole _

/-- A joined proposition is judged by joining the judgements of its parts, each with its own share of the operands. -/
theorem judge_joined {whole : List Proposition → Proposition} {join : List Truth → Truth} (hone : ∀ t, join [t] = t)
    (hwhole : ∀ ps operands, db.judge expressions env (whole ps) operands = join (db.judgeAll expressions env ps operands))
    {ps : List Proposition} {operands : List Value} (h : operands.length = Proposition.takesOf ps) :
    db.judge expressions env (Part.joined whole ps) operands = join (db.judgeAll expressions env ps operands) := by
  cases ps with
  | nil => exact hwhole [] operands
  | cons p rest =>
    cases rest with
    | nil =>
      rw [Proposition.takesOf, Proposition.takesOf, Nat.add_zero] at h
      rw [Part.joined, judgeAll, judgeAll, hone, ← h, List.take_length]
    | cons q rest => exact hwhole _ _

end Parts

/-- A proposition of one test is judged by the test on the value of its term. -/
theorem judge_ofText {s : String} {t : Term} {test : Test} (operands : List Value) (hreads : db.Reads expressions t)
    (h : Tested.ofItems (itemsOf s) = some ⟨itemsOf t.text, test, operands.length⟩) :
    (Proposition.ofText s).takes = operands.length ∧
      ∀ env, db.judge expressions env (.ofText s) operands = db.answer (db.value env t) operands test := by
  constructor
  · rw [Proposition.ofText, Proposition.takes, h]
    rfl
  · intro env
    rw [Proposition.ofText, judge, h]
    dsimp only
    rw [hreads env]

mutual

/-- A condition, read from its text and given its operands, is as true as it is. -/
theorem judge_proposition : (c : Condition) → c.Written → c.Over (db.Reads expressions) →
    c.proposition.takes = c.params.length ∧
      ∀ env, db.judge expressions env c.proposition c.params = db.truth env c
  | .always, _, _ => ⟨rfl, fun _ => rfl⟩
  | .never, _, _ => ⟨rfl, fun _ => rfl⟩
  | .compare k t v, hwritten, hover => judge_ofText [v] hover (k.tested hwritten)
  | .isNull negated t, hwritten, hover => judge_ofText [] hover (tested_isNull hwritten negated)
  | .among negated t operands, hwritten, hover => judge_ofText operands hover (tested_among hwritten negated operands)
  | .all parts, hwritten, hover => by
    obtain ⟨htakes, htruths⟩ := judgeAll_propositions parts hwritten.2 hover
    rw [Condition.proposition, Proposition.conjunction_of_ne_nil (Condition.propositions_ne_nil hwritten.1), Condition.params]
    refine ⟨(takes_joined (fun _ => by rw [Proposition.takes]) _).trans htakes, ?_⟩
    intro env
    rw [judge_joined Truth.and_holds (fun _ _ => by rw [judge]) htakes.symm, htruths env, truth]
  | .any parts, hwritten, hover => by
    obtain ⟨htakes, htruths⟩ := judgeAll_propositions parts hwritten.2 hover
    rw [Condition.proposition, Proposition.disjunction_of_ne_nil (Condition.propositions_ne_nil hwritten.1), Condition.params]
    refine ⟨(takes_joined (fun _ => by rw [Proposition.takes]) _).trans htakes, ?_⟩
    intro env
    have hone (t : Truth) : Truth.any [t] = t := by cases t <;> rfl
    rw [judge_joined hone (fun _ _ => by rw [judge]) htakes.symm, htruths env, truth]
  | .not part, hwritten, hover => by
    obtain ⟨htakes, htruth⟩ := judge_proposition part hwritten hover
    rw [Condition.proposition, Condition.params, Proposition.takes]
    refine ⟨htakes, ?_⟩
    intro env
    rw [judge, htruth env, truth]
  | .within negated t column table row condition, hwritten, hover => by
    obtain ⟨_, ⟨n, rfl⟩, hcondition⟩ := hwritten
    obtain ⟨hterm, hcolumn, _, hinner⟩ := hover
    obtain ⟨htakes, htruth⟩ := judge_proposition condition hcondition hinner
    rw [Condition.proposition, Condition.params, Proposition.takes]
    refine ⟨htakes, ?_⟩
    intro env
    have hrow : nameOf (itemsOf (Alias.sub n).text) = (Alias.sub n).text := by
      rw [itemsOf, items_sub, Option.getD_some, nameOf, ← Alias.toList_sub, String.ofList_toList]
    have htable : nameOf (itemsOf table.quoted) = table.text := by
      rw [itemsOf, items_quoted, Option.getD_some, nameOf, String.ofList_toList]
    -- The row of the sub-select is bound under the name that was read, which is the one that it was written under.
    have hbound (r : Row) : (fun name => if name = (Alias.sub n).text then r else env name) = env.bind (.sub n) r := rfl
    have hchosen (r : Row) : db.value (env.bind (.sub n) r) (.column (.sub n) column) = r column.text := by
      rw [value, Env.bind, if_pos rfl]
    rw [judge, truth]
    simp only [hrow, htable, hbound, hterm env, hcolumn _, hchosen, htruth _]
    rfl

/-- The propositions of written conditions take the operands of these conditions in order and are judged as they are. -/
theorem judgeAll_propositions : (parts : List Condition) → Condition.AllWritten parts →
    Condition.AllOver (db.Reads expressions) parts →
    Proposition.takesOf (Condition.propositions parts) = (Condition.paramsOf parts).length ∧
      ∀ env, db.judgeAll expressions env (Condition.propositions parts) (Condition.paramsOf parts) = db.truths env parts
  | [], _, _ => ⟨rfl, fun _ => rfl⟩
  | part :: rest, hwritten, hover => by
    obtain ⟨htakes, htruth⟩ := judge_proposition part hwritten.1 hover.1
    obtain ⟨hrest, htruths⟩ := judgeAll_propositions rest hwritten.2 hover.2
    rw [Condition.propositions, Condition.paramsOf, Proposition.takesOf, List.length_append, htakes, hrest]
    refine ⟨rfl, ?_⟩
    intro env
    rw [judgeAll, htakes, List.take_left, List.drop_left, htruth env, htruths env, truths]

end

/-- The text that a filter on the rows of an entity compiles to can be read, and with the operands of its condition it is as
true as the condition, if the expressions in brackets compute what the formulas do that they are written for. -/
theorem judge_ofFilter {s : Schema} (hs : s.Bracketed) {row : Alias} (hrow : row.IsPlain)
    (hchars : ∀ c ∈ row.text.toList, isWordChar c = true)
    (hcomputes : ∀ e ∈ s.entities, ∀ f ∈ e.formulas, ∀ (r : Alias) text, f.render r.text = .ok text →
      ∀ env, denoted expressions env (itemsOf text) = db.computes f (env r.text))
    {entity : String} {filter : Value} {c : Condition} {n n' : Nat} (h : Gives (Condition.ofFilter s entity row filter) n c n') :
    ∃ p, Sql.read c.text = some p ∧ p.takes = c.params.length ∧
      ∀ env, db.judge expressions env p c.params = db.truth env c := by
  obtain ⟨_, htells, _⟩ := Filter.ofFilter_tells hs filter entity row c n n' hrow h
  obtain ⟨_, _, _, _, hread⟩ := htells.read
  have hprovides : s.Provides (fun row => row.IsPlain ∧ ∀ c ∈ row.text.toList, isWordChar c = true)
      (db.Reads expressions) := by
    constructor
    · exact fun n => ⟨Alias.isPlain_sub n, isWordChar_of_sub n⟩
    · rintro row ⟨⟨w, hw, _⟩, hchars⟩ name
      refine reads_column hchars ?_ name
      intro hnil
      rw [hnil] at hw
      cases hw
    · rintro e he f hf row _ t ht env
      obtain ⟨text, htext, rfl⟩ := Except.map_ok ht
      exact hcomputes e he f hf row text htext env
  have hover := Filter.over_ofFilter hprovides filter entity row c n n' ⟨hrow, hchars⟩ h
  refine ⟨_, hread, ?_⟩
  rw [← htells.2]
  exact judge_proposition c htells.1 hover

end Contents

end EntityViews
