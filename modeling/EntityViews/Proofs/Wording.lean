import EntityViews.Proofs.Marks
import EntityViews.Schema

/-!
The wording of formulas. Main statement: a template without question marks, rendered for an alias without, has none either.
-/

namespace EntityViews

open Text (NoMark noMark_literal noMark_ofList)

def Ensures {ε α : Type} (P : α → Prop) (x : Except ε α) : Prop := ∀ a, x = .ok a → P a

namespace Ensures

variable {ε α β : Type} {P : α → Prop}

theorem pure {a : α} (h : P a) : Ensures P (Pure.pure a : Except ε α) := by
  intro b hb
  cases hb
  exact h

theorem throw {e : ε} : Ensures P (MonadExcept.throw e : Except ε α) := by
  intro b hb
  cases hb

theorem bind {x : Except ε β} {f : β → Except ε α} (h : ∀ b, x = .ok b → Ensures P (f b)) : Ensures P (x >>= f) := by
  intro a ha
  cases x with
  | error e => cases ha
  | ok b => exact h b rfl a ha

theorem guard {c : Prop} [Decidable c] {e : ε} {f : PUnit → Except ε α} (h : Ensures P (f ())) :
    Ensures P (if c then Except.error e >>= f else f ()) := by
  split
  · intro a ha
    cases ha
  · exact h

/-- What each step ensures of the next state the whole fold ensures of the last one. -/
theorem foldlM {f : α → β → Except ε α} {l : List β} {init : α} (hinit : P init)
    (h : ∀ a, ∀ b ∈ l, P a → Ensures P (f a b)) : Ensures P (l.foldlM f init) := by
  induction l generalizing init with
  | nil => exact Ensures.pure hinit
  | cons b rest ih =>
    rw [List.foldlM_cons]
    apply Ensures.bind
    intro next hnext
    exact ih (h init b List.mem_cons_self hinit next hnext) fun a c hc => h a c (List.mem_cons_of_mem b hc)

end Ensures

namespace Template

open Reached (Clear)

theorem mem_of_itemAt {α : Type} {items : List α} {n : Option Nat} {x : α} (h : itemAt items n = .ok x) : x ∈ items := by
  cases n with
  | none => cases h
  | some n =>
    unfold itemAt at h
    simp only at h
    split at h
    · cases h
      exact List.mem_of_getElem? ‹_›
    · cases h

/-- What an index takes from a clear value is clear. -/
theorem clear_item {value r : Reached} {index : String} (hv : Clear value) (hi : NoMark index)
    (h : item value index = .ok r) : Clear r := by
  unfold item at h
  cases hn : number? index.toList with
  | error e =>
    rw [hn] at h
    cases h
  | ok n =>
    simp only [hn, bind, Except.bind] at h
    split at h
    · rename_i s
      cases hc : itemAt s.toList n with
      | error e =>
        rw [hc] at h
        cases h
      | ok c =>
        rw [hc] at h
        cases h
        cases hv with
        | text hs => exact .text (Text.noMark_toString (Text.ne_of_noMark hs (mem_of_itemAt hc)))
    · cases hv with
      | tuple hitems => exact hitems r (mem_of_itemAt h)
    · cases h
    · split at h
      · cases h
        exact Reached.clear_held (clear_of_find? ‹_›)
      · cases h
    · split at h
      · cases h
        cases hv with
        | cls hname =>
          refine .text (.append (.append (hname.append (noMark_literal (by decide))) ?_) (noMark_literal (by decide)))
          split
          · exact noMark_decimalText _
          · exact Text.noMark_quoted hi
      · cases h
    · cases h

def Access.Clear : Access → Prop
  | .member _ => True
  | .item index => NoMark index

/-- What an access takes from a clear value is clear. -/
theorem clear_access {value : Reached} {step : Access} (hv : Clear value) (hs : step.Clear) :
    Ensures Clear (access value step) := by
  intro r h
  cases step with
  | member name =>
    unfold access at h
    simp only at h
    split at h
    · cases h
      exact Reached.clear_attribute? hv ‹_›
    · cases h
  | item index => exact clear_item hv hs h

/-- Accesses that are read from a text without a question mark have none. -/
theorem clear_readAccesses {fuel : Nat} {cs : List Char} (h : '?' ∉ cs) :
    ∀ step, .ok step ∈ readAccesses fuel cs → step.Clear := by
  induction fuel generalizing cs with
  | zero =>
    intro step hs
    cases hs
  | succ fuel ih =>
    intro step hs
    unfold readAccesses at hs
    split at hs
    · cases hs
    · cases hs
    -- An attribute goes on up to the next point or bracket.
    · rename_i m rest hm
      cases hm
      simp only at hs
      split at hs
      · simp only [List.mem_cons, List.not_mem_nil, reduceCtorEq, or_false] at hs
      · rcases List.mem_cons.mp hs with hs | hs
        · cases hs
          trivial
        · refine ih ?_ step hs
          intro hm
          exact h (List.mem_cons_of_mem _ (List.dropWhile_subset _ hm))
    -- An index goes on up to the closing bracket, behind which there is something further to read.
    · rename_i m rest hm
      cases hm
      simp only at hs
      split at hs
      · simp only [List.mem_cons, List.not_mem_nil, reduceCtorEq, or_false] at hs
      · rename_i c others hd
        split at hs
        · simp only [List.mem_cons, List.not_mem_nil, reduceCtorEq, or_false] at hs
        · rcases List.mem_cons.mp hs with hs | hs
          · cases hs
            apply noMark_ofList
            intro hm
            exact h (List.mem_cons_of_mem _ (List.takeWhile_subset _ hm))
          · refine ih ?_ step hs
            intro hm
            have hmem : '?' ∈ rest.dropWhile (· != ']') := by
              rw [hd]
              exact List.mem_cons_of_mem _ hm
            exact h (List.mem_cons_of_mem _ (List.dropWhile_subset _ hmem))
    · simp only [List.mem_cons, List.not_mem_nil, reduceCtorEq, or_false] at hs

/-- The value of a row or of a name without a question mark is clear. -/
theorem clear_valueOf {row name : String} (hrow : NoMark row) (hname : NoMark name) :
    Ensures Clear (valueOf row name) := by
  unfold valueOf
  simp only
  apply Ensures.bind
  intro n _
  split
  · exact Ensures.throw
  split
  · exact Ensures.throw
  -- What is reached stays clear from step to step.
  · refine Ensures.foldlM (.text hrow) fun value step hstep hvalue => Ensures.bind fun step hs => ?_
    subst hs
    refine clear_access hvalue (clear_readAccesses ?_ step hstep)
    intro hm
    exact hname (List.dropWhile_subset _ hm)

/-- A conversion of a clear value is clear. -/
theorem clear_convert {value : Reached} {c : Option Char} (hv : Clear value) : Ensures Clear (convert value c) := by
  intro r h
  unfold convert at h
  split at h
  · cases h
    exact hv
  · cases h
    exact .text (Reached.noMark_shown hv)
  · cases h
    exact .text (Reached.noMark_quoted hv)
  · cases h
    exact .text (Text.noMark_inAscii (Reached.noMark_quoted hv))
  · cases h

theorem fill_ne {text : List Char} (ht : '?' ∉ text) : Ensures (fun l => l.fill ≠ '?') (readLayoutText text) := by
  unfold readLayoutText
  extract_lets cs drop
  have hcs : cs = text := rfl
  clear_value cs drop
  subst hcs
  split
  rename_i fill align rest hfill
  have hread : ∀ c ∈ fill, c ≠ '?' := by
    intro c hc hmark
    rw [Option.mem_def.mp hc, hmark] at hfill
    split at hfill
    · split at hfill
      · cases hfill
        exact ht List.mem_cons_self
      · split at hfill <;> cases hfill
    · split at hfill <;> cases hfill
    · cases hfill
  have hfirst : fill.getD ' ' ≠ '?' := by
    cases fill with
    | none => decide
    | some c => exact hread c rfl
  -- No other step has a part in the fill but the zero in front of a width.
  split
  split
  split
  split
  rename_i fill' rest' hzero
  have hkept : fill'.getD ' ' ≠ '?' := by
    split at hzero
    · cases hzero
      decide
    · rw [← (Prod.mk.inj hzero).1]
      exact hfirst
  clear hfirst hread hfill hzero
  repeat'
    first
    | with_reducible exact Ensures.pure hkept
    | with_reducible apply Ensures.guard
    | with_reducible apply Ensures.bind; intro _ _

/-- A layout without a question mark adds none. -/
theorem noMark_apply {l : Layout} {s : String} (hl : l.fill ≠ '?') (hs : NoMark s) : NoMark (l.apply s) := by
  have hfill : ∀ n, '?' ∉ List.replicate n l.fill := by
    intro n h
    exact hl (List.eq_of_mem_replicate h).symm
  unfold Layout.apply
  simp only
  apply noMark_ofList
  simp only [List.mem_append, not_or]
  refine ⟨⟨hfill _, ?_⟩, hfill _⟩
  split
  · intro h
    exact hs (List.mem_of_mem_take h)
  · exact hs

section Reading

variable {cs : List Char}

/-- A name that is read from a text without a question mark has none, nor has the rest. -/
theorem not_mem_readName {inIndex : Bool} {seen : List Char} (hseen : '?' ∉ seen) (h : '?' ∉ cs) :
    Ensures (fun (name, _, rest) => '?' ∉ name ∧ '?' ∉ rest) (readName inIndex seen cs) := by
  induction cs generalizing inIndex seen with
  | nil => exact Ensures.throw
  | cons c cs ih =>
    rw [List.mem_cons, not_or] at h
    have hmore : '?' ∉ c :: seen := List.not_mem_cons_of_ne_of_not_mem h.1 hseen
    rw [readName]
    split
    · exact ih hmore h.2
    split
    · exact Ensures.throw
    split
    · exact ih hmore h.2
    split
    · exact Ensures.pure ⟨fun hm => hseen (List.mem_reverse.mp hm), h.2⟩
    · exact ih hmore h.2

theorem not_mem_readLayout {depth : Nat} {seen : List Char} (hseen : '?' ∉ seen) (h : '?' ∉ cs) :
    Ensures (fun (layout, rest) => '?' ∉ layout ∧ '?' ∉ rest) (readLayout depth seen cs) := by
  induction cs generalizing depth seen with
  | nil => exact Ensures.throw
  | cons c cs ih =>
    rw [List.mem_cons, not_or] at h
    have hmore : '?' ∉ c :: seen := List.not_mem_cons_of_ne_of_not_mem h.1 hseen
    unfold readLayout
    split
    · rename_i heq
      cases heq
    · rename_i heq
      cases heq
      exact ih hmore h.2
    · rename_i heq
      cases heq
      split
      · exact Ensures.pure ⟨fun hm => hseen (List.mem_reverse.mp hm), h.2⟩
      · exact ih hmore h.2
    · rename_i heq
      cases heq
      exact ih hmore h.2

def Piece.Clear : Piece → Prop
  | .literal s => NoMark s
  | .field f => NoMark f.name ∧ NoMark f.layout

/-- A field that is read from a text without a question mark is clear, and the rest has none. -/
theorem clear_readField (h : '?' ∉ cs) :
    Ensures (fun (f, rest) => (Piece.field f).Clear ∧ '?' ∉ rest) (readField cs) := by
  have hempty : NoMark "" := noMark_literal (by decide)
  unfold readField
  apply Ensures.bind
  rintro ⟨name, stop, rest⟩ hname
  obtain ⟨hn, hr⟩ := not_mem_readName List.not_mem_nil h _ hname
  have hlayout : ∀ (c : Option Char) (cs : List Char), '?' ∉ cs →
      Ensures (fun (f, rest) => (Piece.field f).Clear ∧ '?' ∉ rest) (do
        let (layout, rest) ← readLayout 0 [] cs
        return (⟨String.ofList name, c, String.ofList layout⟩, rest)) := by
    intro c cs hcs
    apply Ensures.bind
    rintro ⟨layout, rest⟩ hl
    obtain ⟨hl, hrest⟩ := not_mem_readLayout List.not_mem_nil hcs _ hl
    exact Ensures.pure ⟨⟨noMark_ofList hn, noMark_ofList hl⟩, hrest⟩
  simp only
  split
  · exact Ensures.pure ⟨⟨noMark_ofList hn, hempty⟩, hr⟩
  split
  · exact hlayout none rest hr
  split
  · exact Ensures.throw
  · refine Ensures.pure ⟨⟨noMark_ofList hn, hempty⟩, fun hm => hr ?_⟩
    exact List.mem_cons_of_mem _ (List.mem_cons_of_mem _ hm)
  · refine hlayout _ _ fun hm => hr ?_
    exact List.mem_cons_of_mem _ (List.mem_cons_of_mem _ hm)
  · exact Ensures.throw
  · exact Ensures.throw

/-- Every piece of a template without a question mark is clear. -/
theorem clear_pieces {fuel : Nat} (h : '?' ∉ cs) : ∀ piece, .ok piece ∈ pieces fuel cs → piece.Clear := by
  induction fuel generalizing cs with
  | zero =>
    intro piece hp
    cases hp
  | succ fuel ih =>
    intro piece hp
    have hplain : (Piece.literal (String.ofList (cs.takeWhile fun c => c != '{' && c != '}'))).Clear :=
      noMark_ofList fun hm => h (List.takeWhile_subset _ hm)
    have hrest : '?' ∉ cs.dropWhile fun c => c != '{' && c != '}' := fun hm => h (List.dropWhile_subset _ hm)
    -- The text in front, what follows a brace and the rest of the template are all parts of it, so none has a mark.
    unfold pieces at hp
    split at hp
    · cases hp
    · cases hp
    · rename_i m hm _
      cases hm
      simp only at hp
      split at hp
      · simp only [List.mem_cons, Except.ok.injEq, List.not_mem_nil, or_false] at hp
        rwa [hp]
      · rename_i rest heq
        rw [heq] at hrest
        simp only [List.mem_cons, Except.ok.injEq] at hp
        rcases hp with rfl | rfl | hp
        · exact hplain
        · exact noMark_literal (by decide)
        · exact ih (fun hm => hrest (List.mem_cons_of_mem _ (List.mem_cons_of_mem _ hm))) piece hp
      · rename_i rest heq
        rw [heq] at hrest
        simp only [List.mem_cons, Except.ok.injEq] at hp
        rcases hp with rfl | rfl | hp
        · exact hplain
        · exact noMark_literal (by decide)
        · exact ih (fun hm => hrest (List.mem_cons_of_mem _ (List.mem_cons_of_mem _ hm))) piece hp
      · simp only [List.mem_cons, Except.ok.injEq, reduceCtorEq, List.not_mem_nil, or_false] at hp
        rwa [hp]
      · rename_i rest hone heq
        rw [heq] at hrest
        split at hp
        · rename_i f others hf
          have hread := clear_readField (fun hm => hrest (List.mem_cons_of_mem _ hm)) _ hf
          simp only [List.mem_cons, Except.ok.injEq] at hp
          rcases hp with rfl | rfl | hp
          · exact hplain
          · exact hread.1
          · exact ih hread.2 piece hp
        · simp only [List.mem_cons, Except.ok.injEq, reduceCtorEq, List.not_mem_nil, or_false] at hp
          rwa [hp]
      · simp only [List.mem_cons, Except.ok.injEq, reduceCtorEq, List.not_mem_nil, or_false] at hp
        rwa [hp]

end Reading

/-- A template and an alias without question marks expand to a text without. -/
theorem noMark_expand {row : String} (hrow : NoMark row) {depth : Nat} {cs : List Char} (h : '?' ∉ cs) :
    Ensures NoMark (expand row depth cs) := by
  induction depth generalizing cs with
  | zero => exact Ensures.throw
  | succ depth ih =>
    rw [expand]
    refine Ensures.foldlM (noMark_literal (by decide)) fun text piece hpiece htext => Ensures.bind fun piece hp => ?_
    subst hp
    have hclear := clear_pieces h piece hpiece
    cases piece with
    | literal s => exact Ensures.pure (htext.append hclear)
    | field f =>
      refine Ensures.bind fun value hvalue => Ensures.bind fun shown hshown => ?_
      have hs := Reached.noMark_shown (clear_convert (clear_valueOf hrow hclear.1 _ hvalue) _ hshown)
      extract_lets write
      have hwrite : ∀ layout, NoMark layout → Ensures NoMark (write layout) := by
        intro layout hl
        simp only [write]
        cases shown with
        | text s =>
          simp only
          split
          · exact Ensures.pure (htext.append hs)
          · refine Ensures.bind fun l hread => ?_
            exact Ensures.pure (htext.append (noMark_apply (fill_ne hl _ hread) hs))
        | _ =>
          simp only
          split
          · exact Ensures.pure (htext.append hs)
          · exact Ensures.throw
      split
      · exact Ensures.bind fun layout hlayout => hwrite layout (ih hclear.2 layout hlayout)
      · refine Ensures.bind fun layout hlayout => hwrite layout ?_
        cases hlayout
        exact hclear.2

end Template

/-- A template without a question mark is rendered without one. -/
theorem Formula.noMark_render {f : Formula} {row text : String} (hf : NoMark f.sql) (hrow : NoMark row)
    (h : f.render row = .ok text) : NoMark text := by
  unfold Formula.render at h
  cases hr : Template.render f.sql row with
  | error e =>
    rw [hr] at h
    cases h
  | ok s =>
    rw [hr] at h
    cases h
    exact Template.noMark_expand hrow hf _ hr

end EntityViews
