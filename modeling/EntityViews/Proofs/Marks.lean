import EntityViews.Schema.Template.Reached

/-!
Texts without question marks, which hold the places of operands in SQL texts. The texts, classes and members that a
placeholder of a template reaches are written without any, as long as the text that it sets out from has none.
-/

namespace EntityViews

namespace Text

def NoMark (s : String) : Prop := '?' ∉ s.toList

theorem noMark_ofList {cs : List Char} (h : '?' ∉ cs) : NoMark (String.ofList cs) := by
  unfold NoMark
  rwa [String.toList_ofList]

/-- For a text that is written out: its characters are compared one by one. -/
theorem noMark_literal {cs : List Char} (h : cs.all (· != '?') = true) : NoMark (String.ofList cs) := by
  apply noMark_ofList
  intro hm
  exact bne_iff_ne.mp (List.all_eq_true.mp h _ hm) rfl

theorem NoMark.append {s t : String} (hs : NoMark s) (ht : NoMark t) : NoMark (s ++ t) := by
  unfold NoMark
  rw [String.toList_append, List.mem_append, not_or]
  exact ⟨hs, ht⟩

theorem noMark_toString {c : Char} (h : c ≠ '?') : NoMark c.toString := by
  have hc : c.toString.toList = [c] := String.toList_singleton c
  unfold NoMark
  rw [hc, List.mem_singleton]
  exact h.symm

theorem noMark_join {l : List String} (h : ∀ s ∈ l, NoMark s) : NoMark (String.join l) := by
  unfold NoMark
  rw [String.toList_join]
  intro hm
  obtain ⟨s, hs, hc⟩ := List.mem_flatMap.mp hm
  exact h s hs hc

/-- Texts without a mark joined by one without are without. -/
theorem noMark_intercalate {sep : String} {l : List String} (hsep : NoMark sep) (h : ∀ s ∈ l, NoMark s) :
    NoMark (sep.intercalate l) := by
  induction l with
  | nil => exact noMark_literal (by decide)
  | cons s rest ih =>
    have hrest := ih fun t ht => h t (List.mem_cons_of_mem s ht)
    cases rest with
    | nil => exact h s List.mem_cons_self
    | cons t rest =>
      rw [String.intercalate_cons_cons]
      exact ((h s List.mem_cons_self).append hsep).append hrest

theorem digitChar_ne (n : Nat) : Nat.digitChar n ≠ '?' := by
  fun_cases Nat.digitChar n
  all_goals decide

theorem not_mem_toDigitsCore (base fuel n : Nat) (ds : List Char) (h : '?' ∉ ds) :
    '?' ∉ Nat.toDigitsCore base fuel n ds := by
  induction fuel generalizing n ds with
  | zero => exact h
  | succ fuel ih =>
    have hd : '?' ∉ Nat.digitChar (n % base) :: ds := List.not_mem_cons_of_ne_of_not_mem (digitChar_ne _).symm h
    rw [Nat.toDigitsCore]
    split
    · exact hd
    · exact ih _ _ hd

theorem not_mem_toDigits (base n : Nat) : '?' ∉ Nat.toDigits base n :=
  not_mem_toDigitsCore base (n + 1) n [] List.not_mem_nil

/-- Numbers in base sixteen have no question mark. -/
theorem noMark_hex (width n : Nat) : NoMark (hex width n) := by
  apply noMark_ofList
  rw [List.mem_append, not_or]
  constructor
  · intro h
    exact absurd (List.eq_of_mem_replicate h) (by decide)
  · exact not_mem_toDigits 16 n

/-- The escape of a character has no question mark. -/
theorem noMark_codeEscape (c : Char) : NoMark (codeEscape c) := by
  unfold codeEscape
  simp only
  split
  · exact (noMark_literal (by decide)).append (noMark_hex 2 _)
  split
  · exact (noMark_literal (by decide)).append (noMark_hex 4 _)
  · exact (noMark_literal (by decide)).append (noMark_hex 8 _)

/-- To quote a character adds no question mark. -/
theorem noMark_quoteChar {quote c : Char} (h : c ≠ '?') : NoMark (quoteChar quote c) := by
  unfold quoteChar
  split
  · apply noMark_ofList
    simp only [List.mem_cons, List.not_mem_nil, or_false, not_or]
    exact ⟨by decide, h.symm⟩
  split
  · exact noMark_literal (by decide)
  split
  · exact noMark_literal (by decide)
  split
  · exact noMark_literal (by decide)
  split
  · exact noMark_toString h
  · exact noMark_codeEscape c

theorem ne_of_noMark {s : String} (hs : NoMark s) {c : Char} (hc : c ∈ s.toList) : c ≠ '?' := by
  rintro rfl
  exact hs hc

/-- To quote a text adds no question mark. -/
theorem noMark_quoted {s : String} (hs : NoMark s) : NoMark (quoted s) := by
  have hmark : NoMark (quoteMark s).toString := by
    apply noMark_toString
    unfold quoteMark
    split <;> decide
  have hbody : NoMark (String.join (s.toList.map (quoteChar (quoteMark s)))) := by
    apply noMark_join
    intro t ht
    obtain ⟨c, hc, rfl⟩ := List.mem_map.mp ht
    exact noMark_quoteChar (ne_of_noMark hs hc)
  exact (hmark.append hbody).append hmark

/-- To spell a text in ASCII adds no question mark. -/
theorem noMark_inAscii {s : String} (hs : NoMark s) : NoMark (inAscii s) := by
  apply noMark_join
  intro t ht
  obtain ⟨c, hc, rfl⟩ := List.mem_map.mp ht
  split
  · exact noMark_toString (ne_of_noMark hs hc)
  · exact noMark_codeEscape c

end Text

open Text (NoMark noMark_literal noMark_ofList)

theorem noMark_decimalText (n : Nat) : NoMark (decimalText n) := noMark_ofList (Text.not_mem_toDigits 10 n)

theorem noMark_intText (n : Int) : NoMark (intText n) := by
  unfold intText
  split
  · exact (noMark_literal (by decide)).append (noMark_decimalText _)
  · exact noMark_decimalText _

section Table

theorem forall_mem_none {P : String → Prop} : ∀ s ∈ (none : Option String), P s := by
  intro s h
  cases h

theorem forall_mem_some {P : String → Prop} {t : String} (h : P t) : ∀ s ∈ some t, P s := by
  intro s hs
  cases hs
  exact h

structure Member.Clear (m : Member) : Prop where
  owner : NoMark m.owner
  name : NoMark m.name
  signature : ∀ s ∈ m.signature, NoMark s
  description : ∀ s ∈ m.description, NoMark s

theorem Member.clear_mk {owner name : String} {form : MemberForm} {signature description : Option String}
    (ho : NoMark owner) (hn : NoMark name) (hs : ∀ s ∈ signature, NoMark s) (hd : ∀ s ∈ description, NoMark s) :
    Member.Clear ⟨owner, form, name, signature, description⟩ := ⟨ho, hn, hs, hd⟩

structure MemberClass.Clear (c : MemberClass) : Prop where
  signature : ∀ s ∈ c.signature, NoMark s
  description : ∀ s ∈ c.description, NoMark s

theorem MemberClass.clear_mk {name : String} {sizes : List Int} {signature description : Option String}
    (hs : ∀ s ∈ signature, NoMark s) (hd : ∀ s ∈ description, NoMark s) :
    MemberClass.Clear ⟨name, signature, sizes, description⟩ := ⟨hs, hd⟩

-- The tables are gone through entry by entry: only their texts are looked at, and no other definition is opened.
set_option maxRecDepth 8000 in
/-- No member of the built-in classes is named with a question mark. -/
theorem clear_members : ∀ m ∈ members.toList, m.Clear := by
  unfold members
  with_unfolding_all refine List.forall_mem_cons.mpr ⟨Member.clear_mk ?_ ?_ ?_ ?_, ?_⟩
  repeat'
    with_reducible
      first
      | refine List.forall_mem_cons.mpr ⟨Member.clear_mk ?_ ?_ ?_ ?_, ?_⟩
      | apply Text.NoMark.append
      | exact forall_mem_none
      | refine forall_mem_some ?_
      | exact noMark_literal (by decide)
      | exact List.forall_mem_nil _

/-- No class of these members is named with a question mark. -/
theorem clear_memberClasses : ∀ c ∈ memberClasses, c.Clear := by
  unfold memberClasses
  repeat'
    with_reducible
      first
      | refine List.forall_mem_cons.mpr ⟨MemberClass.clear_mk ?_ ?_, ?_⟩
      | apply Text.NoMark.append
      | exact forall_mem_none
      | refine forall_mem_some ?_
      | exact noMark_literal (by decide)
      | exact List.forall_mem_nil _

theorem clear_of_find? {p : Member → Bool} {m : Member} (h : members.find? p = some m) : m.Clear :=
  clear_members m (Array.mem_toList_iff.mpr (Array.mem_of_find?_eq_some h))

end Table

namespace Reached

/-- Whether everything that is written of what a placeholder reaches is free of question marks. -/
inductive Clear : Reached → Prop
  | text {s : String} (h : NoMark s) : Clear (.text s)
  | nothing : Clear .nothing
  | number (n : Int) : Clear (.number n)
  | tuple {items : List Reached} (h : ∀ o ∈ items, Clear o) : Clear (.tuple items)
  | cls {name : String} (h : NoMark name) : Clear (.cls name)
  | holdings (owner : String) : Clear (.holdings owner)
  | loose {m : Member} (h : m.Clear) : Clear (.loose m)
  | bound {m : Member} {on : Reached} (h : m.Clear) (hon : Clear on) : Clear (.bound m on)

/-- The class of an object whose own text has no question mark has none in its name. -/
theorem noMark_className (o : Reached) : NoMark o.className := by
  cases o with
  | loose m =>
    rw [className]
    split <;> exact noMark_literal (by decide)
  | bound m on =>
    rw [className]
    split <;> exact noMark_literal (by decide)
  | _ =>
    rw [className]
    exact noMark_literal (by decide)

theorem clear_ofText? {s : Option String} (h : ∀ t ∈ s, NoMark t) : (ofText? s).Clear := by
  cases s with
  | none => exact .nothing
  | some t => exact .text (h t rfl)

theorem clear_of_member? {cls name : String} {m : Member} (h : member? cls name = some m) : m.Clear := by
  obtain ⟨owner, _, hm⟩ := List.exists_of_findSome?_eq_some h
  exact clear_of_find? hm

theorem clear_description (name : String) : (description name).Clear := by
  unfold description
  split
  · rename_i s hc
    exact .text ((clear_memberClasses _ (List.mem_of_find?_eq_some hc)).description s rfl)
  split
  · rename_i m hm
    split
    · exact .loose (clear_of_find? hm)
    · exact .nothing
  · exact .nothing

theorem noMark_lineage {name : String} (h : NoMark name) : ∀ c ∈ lineage name, NoMark c := by
  intro c hc
  unfold lineage at hc
  split at hc
  · rwa [List.mem_singleton.mp hc]
  · rcases List.mem_cons.mp hc with rfl | hc
    · exact h
    · rw [List.mem_singleton.mp hc]
      exact noMark_literal (by decide)

/-- What a class holds under a name is clear. -/
theorem clear_ofClass? {cls name : String} {o : Reached} (hc : NoMark cls) (h : ofClass? cls name = some o) :
    o.Clear := by
  have hsize : ∀ i : Nat, ((memberClasses.find? (·.name == cls)).bind fun c => c.sizes[i]?).map Reached.number = some o →
      o.Clear := by
    intro i hi
    obtain ⟨n, _, rfl⟩ := Option.map_eq_some_iff.mp hi
    exact .number n
  -- Whatever is read off a class is its name, a class of its lineage, a number, or a text of the tables.
  unfold ofClass? at h
  simp only at h
  split at h
  · cases h
    exact .text hc
  · cases h
    exact .text hc
  · cases h
    exact .text (noMark_literal (by decide))
  · cases h
    exact .cls (noMark_literal (by decide))
  · cases h
    apply Clear.tuple
    intro o ho
    obtain ⟨c, hm, rfl⟩ := List.mem_map.mp ho
    exact .cls (noMark_lineage hc c (List.mem_of_mem_drop hm))
  · cases h
    apply Clear.tuple
    intro o ho
    obtain ⟨c, hm, rfl⟩ := List.mem_map.mp ho
    exact .cls (noMark_lineage hc c hm)
  · cases h
    cases hl : (lineage cls)[1]? with
    | none => exact .nothing
    | some c => exact .cls (noMark_lineage hc c (List.mem_of_getElem? hl))
  · cases h
    exact .holdings cls
  · cases h
    exact clear_description cls
  · cases h
    apply clear_ofText?
    intro s hs
    obtain ⟨c, hf, hs⟩ := Option.bind_eq_some_iff.mp hs
    exact (clear_memberClasses c (List.mem_of_find?_eq_some hf)).signature s hs
  · exact hsize _ h
  · exact hsize _ h
  · exact hsize _ h
  · exact hsize _ h
  · exact hsize _ h
  · cases h

theorem noMark_qualified {owner : String} {m : Member} (ho : NoMark owner) (hm : m.Clear) :
    NoMark (qualified owner m) := (ho.append (noMark_literal (by decide))).append hm.name

/-- What a member holds under a name is clear. -/
theorem clear_ofMember? {m : Member} {on : Option Reached} {name : String} {o : Reached} (hm : m.Clear)
    (hon : ∀ r ∈ on, r.Clear) (h : ofMember? m on name = some o) : o.Clear := by
  unfold ofMember? at h
  split at h
  · cases h
    exact .text hm.name
  · cases h
    exact clear_ofText? hm.description
  · cases h
    exact clear_ofText? hm.signature
  · cases h
    exact .cls hm.owner
  · exact hon o h
  · cases h
    exact .nothing
  · split at h
    · cases h
      exact .text (noMark_qualified hm.owner hm)
    · cases h
      rename_i c
      have hc : NoMark c := by
        cases hon _ rfl with
        | cls hc => exact hc
      refine .text (noMark_qualified ?_ hm)
      split
      · exact hm.owner
      · exact hc
    · cases h
      refine .text (noMark_qualified ?_ hm)
      split
      · exact hm.owner
      · exact noMark_className _
    · cases h
      exact .text (noMark_qualified hm.owner hm)
  · cases h

/-- A computed attribute of a clear object is clear. -/
theorem clear_computed? {o r : Reached} {name : String} (ho : o.Clear) (h : computed? o name = some r) : r.Clear := by
  unfold computed? at h
  split at h
  · cases h
    exact .cls (noMark_className o)
  cases ho with
  | cls hc => exact clear_ofClass? hc h
  | loose hm => exact clear_ofMember? hm (by intro r hr; cases hr) h
  | bound hm hon =>
    refine clear_ofMember? hm ?_ h
    intro r hr
    cases hr
    exact hon
  | _ => cases h

theorem clear_fixed {m : Member} (hm : m.Clear) : (fixed m).Clear := by
  refine .bound hm ?_
  split
  · exact .cls hm.owner
  · exact .nothing

/-- A member bound to a clear object is clear. -/
theorem clear_bindTo {o r : Reached} {m : Member} (ho : o.Clear) (hm : m.Clear) (h : bindTo o m = some r) : r.Clear := by
  unfold bindTo at h
  split at h
  · cases h
    exact .bound hm ho
  · cases h
    exact .bound hm ho
  · exact clear_computed? ho h
  · exact clear_computed? ho h
  · cases h
    exact .bound hm (.cls (noMark_className o))
  · cases h
    exact clear_fixed hm
  · cases h
    exact clear_ofText? hm.description
  · cases h
    exact clear_ofText? hm.description

theorem clear_bindToClass {cls : String} {m : Member} (hc : NoMark cls) (hm : m.Clear) : (bindToClass cls m).Clear := by
  unfold bindToClass
  split
  · exact .loose hm
  · exact .loose hm
  · exact .loose hm
  · exact .loose hm
  · exact .bound hm (.cls hc)
  · exact clear_fixed hm
  · exact clear_ofText? hm.description
  · exact clear_ofText? hm.description

theorem clear_held {m : Member} (hm : m.Clear) : (held m).Clear := by
  unfold held
  split
  · exact .loose hm
  · exact clear_bindToClass hm.owner hm

/-- A member of what is clear is clear. -/
theorem clear_attribute? {o r : Reached} {name : String} (ho : o.Clear) (h : o.attribute? name = some r) : r.Clear := by
  have hinstance : ∀ cls, (member? cls name).bind (bindTo o) = some r → r.Clear := by
    intro cls hb
    obtain ⟨m, hm, hr⟩ := Option.bind_eq_some_iff.mp hb
    exact clear_bindTo ho (clear_of_member? hm) hr
  unfold attribute? at h
  split at h
  · rename_i c
    simp only at h
    split at h
    · exact clear_computed? ho h
    split at h
    · rename_i m hm
      cases h
      cases ho with
      | cls hc => exact clear_bindToClass hc (clear_of_member? hm)
    · exact hinstance _ h
  · exact hinstance _ h

/-- The text of a member that is bound to nothing has no question mark. -/
theorem noMark_looseText {m : Member} (hm : m.Clear) : NoMark (looseText m) := by
  unfold looseText
  simp only
  refine .append (.append (.append (.append (.append (.append ?_ ?_) ?_) hm.name) ?_) hm.owner) ?_
  · exact noMark_literal (by decide)
  · split <;> exact noMark_literal (by decide)
  all_goals exact noMark_literal (by decide)

/-- The text of a member that a class holds has no question mark. -/
theorem noMark_heldText {m : Member} (hm : m.Clear) : NoMark (heldText m) := by
  have htext : NoMark ((m.description.map Text.quoted).getD "None") := by
    cases hd : m.description with
    | none => exact noMark_literal (by decide)
    | some s => exact Text.noMark_quoted (hm.description s hd)
  unfold heldText
  split
  · exact htext
  · exact htext
  · exact ((noMark_literal (by decide)).append hm.name).append (noMark_literal (by decide))
  · exact noMark_looseText hm

theorem noMark_holdingsText (owner : String) : NoMark (holdingsText owner) := by
  have hown : NoMark (", ".intercalate ((members.filter (·.owner == owner)).toList.map fun m =>
      Text.quoted m.name ++ ": " ++ heldText m)) := by
    apply Text.noMark_intercalate (noMark_literal (by decide))
    intro s hs
    obtain ⟨m, hm, rfl⟩ := List.mem_map.mp hs
    rw [Array.toList_filter] at hm
    have hclear := clear_members m (List.mem_filter.mp hm).1
    exact ((Text.noMark_quoted hclear.name).append (noMark_literal (by decide))).append (noMark_heldText hclear)
  exact ((noMark_literal (by decide)).append hown).append (noMark_literal (by decide))

theorem noMark_quoted {o : Reached} (ho : o.Clear) : NoMark o.quoted := by
  induction ho with
  | text h =>
    rw [quoted]
    exact Text.noMark_quoted h
  | nothing =>
    rw [quoted]
    exact noMark_literal (by decide)
  | number n =>
    rw [quoted]
    exact noMark_intText n
  | @tuple items _ ih =>
    rcases items with _ | ⟨item, _ | ⟨second, rest⟩⟩
    · rw [quoted]
      exact noMark_literal (by decide)
    · rw [quoted]
      exact ((noMark_literal (by decide)).append (ih item List.mem_cons_self)).append (noMark_literal (by decide))
    · rw [quoted]
      · refine .append (.append (noMark_literal (by decide)) ?_) (noMark_literal (by decide))
        apply Text.noMark_intercalate (noMark_literal (by decide))
        intro s hs
        obtain ⟨item, hm, rfl⟩ := List.mem_map.mp hs
        exact ih item hm
      · intro h
        cases h
      · intro item h
        cases h
  | cls h =>
    rw [quoted]
    exact ((noMark_literal (by decide)).append h).append (noMark_literal (by decide))
  | holdings owner =>
    rw [quoted]
    exact ((noMark_literal (by decide)).append (noMark_holdingsText owner)).append (noMark_literal (by decide))
  | loose h =>
    rw [quoted]
    exact noMark_looseText h
  | bound h _ _ =>
    rw [quoted]
    refine .append (.append ?_ (noMark_className _)) (noMark_literal (by decide))
    split
    · exact ((noMark_literal (by decide)).append h.name).append (noMark_literal (by decide))
    · exact ((noMark_literal (by decide)).append h.name).append (noMark_literal (by decide))

/-- A clear object is shown without a question mark. -/
theorem noMark_shown {o : Reached} (ho : o.Clear) : NoMark o.shown := by
  cases ho with
  | text h => exact h
  | holdings owner => exact noMark_holdingsText owner
  | nothing => exact noMark_quoted .nothing
  | number n => exact noMark_quoted (.number n)
  | tuple h => exact noMark_quoted (.tuple h)
  | cls h => exact noMark_quoted (.cls h)
  | loose h => exact noMark_quoted (.loose h)
  | bound h hon => exact noMark_quoted (.bound h hon)

end Reached

end EntityViews
