import EntityViews.Proofs.Quotation
import EntityViews.Proofs.Timestamps

/-!
JSON texts on one line. All that is written is printable and in ASCII, whatever the characters of the texts, so that no line
break of any kind is among it. Main statement: this holds of the text of every value.
-/

namespace EntityViews.Json

def IsVisible (c : Char) : Prop := ' ' ≤ c ∧ c ≤ '~'

instance (c : Char) : Decidable (IsVisible c) := inferInstanceAs (Decidable (_ ∧ _))

def AllVisible (cs : List Char) : Prop := ∀ c ∈ cs, IsVisible c

instance (cs : List Char) : Decidable (AllVisible cs) := List.decidableBAll IsVisible cs

theorem IsVisible.of_toNat {c : Char} (hlow : 32 ≤ c.toNat) (hhigh : c.toNat ≤ 126) : IsVisible c :=
  ⟨Char.le_def.mpr hlow, Char.le_def.mpr hhigh⟩

namespace AllVisible

variable {xs ys : List Char}

theorem nil : AllVisible [] := fun _ h => absurd h List.not_mem_nil

theorem append (hx : AllVisible xs) (hy : AllVisible ys) : AllVisible (xs ++ ys) :=
  fun c hc => (List.mem_append.mp hc).elim (hx c) (hy c)

theorem cons {c : Char} (hc : IsVisible c) (hx : AllVisible xs) : AllVisible (c :: xs) :=
  List.forall_mem_cons.mpr ⟨hc, hx⟩

theorem mono (hx : AllVisible xs) (h : ys ⊆ xs) : AllVisible ys := fun c hc => hx c (h hc)

theorem flatten {parts : List (List Char)} (h : ∀ cs ∈ parts, AllVisible cs) : AllVisible parts.flatten := by
  intro c hc
  obtain ⟨cs, hcs, hc⟩ := List.mem_flatten.mp hc
  exact h cs hcs c hc

/-- Visible texts joined by a visible one are visible. -/
theorem intercalate {sep : List Char} {parts : List (List Char)} (hsep : AllVisible sep) (h : ∀ cs ∈ parts, AllVisible cs) :
    AllVisible (sep.intercalate parts) := by
  induction parts with
  | nil => exact .nil
  | cons cs parts ih =>
    have hcs : AllVisible cs := h cs List.mem_cons_self
    cases parts with
    | nil => rwa [List.intercalate_singleton]
    | cons next parts =>
      rw [List.intercalate_cons_cons]
      exact (hcs.append hsep).append (ih fun ds hds => h ds (List.mem_cons_of_mem _ hds))

theorem digits (n : Nat) : AllVisible (Nat.toDigits 10 n) := by
  intro c hc
  obtain ⟨hzero, hnine⟩ := toNat_of_isDigit (isDigit_of_mem_toDigits hc)
  exact .of_toNat (by omega) (by omega)

theorem zeros (n : Nat) : AllVisible (List.replicate n '0') := by
  intro c hc
  rw [List.eq_of_mem_replicate hc]
  decide

end AllVisible

/-! ### Texts in quotes -/

theorem allVisible_unitEscape {n : Nat} (h : n < 0x10000) : AllVisible (unitEscape n).toList := by
  have hdigit : ∀ k < 16, IsVisible k.digitChar := by decide
  have hmod : ∀ k, IsVisible (k % 16).digitChar := fun k => hdigit _ (Nat.mod_lt k (by decide))
  rw [toList_unitEscape, toList_unit h]
  exact .cons (by decide) (.cons (by decide) (.cons (hdigit _ (by omega)) (.cons (hmod _) (.cons (hmod _) (.cons (hmod _)
    .nil)))))

theorem isVisible_of_letterEscape? {c l : Char} (h : letterEscape? l = some c) : IsVisible l := by
  unfold letterEscape? at h
  split at h
  all_goals first | decide | cases h

/-- A character in its JSON spelling stays on its line. -/
theorem Spelling.allVisible {c : Char} {cs : List Char} (h : Spelling c cs) : AllVisible cs := by
  cases h with
  | plain h =>
    simp only [isAsciiPlain, Bool.and_eq_true, decide_eq_true_eq] at h
    exact .cons h.1.1 .nil
  | letter h => exact .cons (by decide) (.cons (isVisible_of_letterEscape? h) .nil)
  | unit h => exact allVisible_unitEscape h
  | pair hhigh hlow h => exact (allVisible_unitEscape (by omega)).append (allVisible_unitEscape (by omega))

/-- A quoted text stays on its line, whatever is in it. -/
theorem allVisible_quoted (s : String) : AllVisible (quoted s).toList := by
  have hbody : AllVisible (s.toList.flatMap written) := by
    apply AllVisible.flatten
    intro cs hcs
    obtain ⟨c, -, rfl⟩ := List.mem_map.mp hcs
    exact (spelling_written c).allVisible
  rw [toList_quoted]
  exact .cons (by decide) (hbody.append (by decide))

/-! ### Numbers -/

theorem allVisible_intText (n : Int) : AllVisible (intText n).toList := by
  rw [toList_intText]
  refine .append ?_ (.digits _)
  split <;> decide

theorem allVisible_exponentText (width : Nat) (x : Int) : AllVisible (exponentText width x).toList := by
  rw [exponentText, String.toList_append, toList_padLeft]
  refine .append ?_ (.append (.zeros _) (.digits _))
  split <;> decide

variable {digits : List Char}

/-- A number with its digits written out stays on its line. -/
theorem allVisible_positional (h : AllVisible digits) (point : Int) : AllVisible (positional digits point).toList := by
  rw [positional]
  split
  · simp only [String.toList_append, String.toList_ofList]
    exact .append (by decide) (.append (.zeros _) h)
  split
  · simp only [String.toList_append, String.toList_ofList]
    exact .append (.append h (.zeros _)) (by decide)
  · simp only [String.toList_append, String.toList_ofList]
    exact .append (.append (h.mono (List.take_subset _ _)) (by decide)) (h.mono (List.drop_subset _ _))

/-- A number with a power of ten stays on its line. -/
theorem allVisible_exponential (style : FloatStyle) (h : AllVisible digits) (point : Int) :
    AllVisible (exponential style digits point).toList := by
  have hfraction : AllVisible (if digits.length ≤ 1 then "" else "." ++ String.ofList (digits.drop 1)).toList := by
    split
    · decide
    · simp only [String.toList_append, String.toList_ofList]
      exact .append (by decide) (h.mono (List.drop_subset _ _))
  simp only [exponential, String.toList_append, String.toList_ofList]
  exact .append (.append (.append (h.mono (List.take_subset _ _)) hfraction) (by decide)) (allVisible_exponentText _ _)

/-- The JSON text of a float stays on its line. -/
theorem allVisible_text (x : Binary64) : AllVisible (x.text .json).toList := by
  have hsign : ∀ negative : Bool, AllVisible (if negative then "-" else "").toList := by decide
  cases x with
  | nan origin =>
    show AllVisible "NaN".toList
    decide
  | infinite negative =>
    rw [Binary64.text, String.toList_append]
    exact (hsign negative).append (by decide)
  | finite negative m e =>
    rw [Binary64.text]
    dsimp only
    split
    · rw [String.toList_append]
      exact (hsign negative).append (by decide)
    split
    · rw [String.toList_append]
      exact (hsign negative).append (allVisible_positional (.digits _) _)
    · rw [String.toList_append]
      exact (hsign negative).append (allVisible_exponential _ (.digits _) _)

/-! ### Values -/

/-- A scalar stays on its line. -/
theorem allVisible_scalarText? {s : Scalar} {text : String} (h : scalarText? s = some text) : AllVisible text.toList := by
  cases s with
  | null =>
    cases h
    decide
  | bool b =>
    cases h
    cases b <;> decide
  | int n =>
    cases h
    exact allVisible_intText n
  | float x =>
    cases h
    exact allVisible_text x
  | text s =>
    cases h
    exact allVisible_quoted s
  | level l =>
    cases h
    exact allVisible_intText _
  | columnKind k =>
    cases h
    exact allVisible_quoted _
  | decimal | date | datetime => cases h

theorem allVisible_fallbackText {fallback : Fallback} {v : Value} {text : String}
    (h : fallbackText fallback v = some text) : AllVisible text.toList := by
  unfold fallbackText at h
  split at h
  · cases h
    exact allVisible_quoted _
  · cases h

/-- What encloses lines that stay is a line that stays. -/
theorem allVisible_enclosed {opening closing : String} {texts : List String} (hopening : AllVisible opening.toList)
    (hclosing : AllVisible closing.toList) (h : ∀ text ∈ texts, AllVisible text.toList) :
    AllVisible (opening ++ ", ".intercalate texts ++ closing).toList := by
  have htexts : AllVisible (", ".intercalate texts).toList := by
    rw [String.toList_intercalate]
    refine .intercalate (by decide) fun cs hcs => ?_
    obtain ⟨text, htext, rfl⟩ := List.mem_map.mp hcs
    exact h text htext
  rw [String.toList_append, String.toList_append]
  exact (hopening.append htexts).append hclosing

variable {fallback : Fallback}

mutual

/-- The text of a value is on one line. -/
theorem allVisible_write? {v : Value} {text : String} (h : write? fallback v = some text) : AllVisible text.toList := by
  cases v with
  | scalar s =>
    rw [write?] at h
    rcases hs : scalarText? s with _ | scalar
    · rw [hs] at h
      exact allVisible_fallbackText h
    · rw [hs] at h
      cases h
      exact allVisible_scalarText? hs
  | list items =>
    rw [write?] at h
    obtain ⟨texts, htexts, rfl⟩ := Option.map_eq_some_iff.mp h
    exact allVisible_enclosed (by decide) (by decide) (allVisible_writeItems? htexts)
  | tuple items =>
    rw [write?] at h
    obtain ⟨texts, htexts, rfl⟩ := Option.map_eq_some_iff.mp h
    exact allVisible_enclosed (by decide) (by decide) (allVisible_writeItems? htexts)
  | set items =>
    rw [write?] at h
    exact allVisible_fallbackText h
  | map entries =>
    rw [write?] at h
    obtain ⟨texts, htexts, rfl⟩ := Option.map_eq_some_iff.mp h
    exact allVisible_enclosed (by decide) (by decide) (allVisible_writeEntries? htexts)

/-- The items of a list are each written on one line. -/
theorem allVisible_writeItems? {items : List Value} {texts : List String} (h : writeItems? fallback items = some texts) :
    ∀ text ∈ texts, AllVisible text.toList := by
  cases items with
  | nil =>
    cases h
    exact nofun
  | cons item items =>
    obtain ⟨text, hitem, h⟩ := Option.bind_eq_some_iff.mp h
    obtain ⟨texts, hitems, h⟩ := Option.bind_eq_some_iff.mp h
    cases h
    exact List.forall_mem_cons.mpr ⟨allVisible_write? hitem, allVisible_writeItems? hitems⟩

/-- The entries of a map are each written on one line. -/
theorem allVisible_writeEntries? {entries : List (Value × Value)} {texts : List String}
    (h : writeEntries? fallback entries = some texts) : ∀ text ∈ texts, AllVisible text.toList := by
  cases entries with
  | nil =>
    cases h
    exact nofun
  | cons entry entries =>
    obtain ⟨key, v⟩ := entry
    obtain ⟨name, -, h⟩ := Option.bind_eq_some_iff.mp h
    obtain ⟨text, hvalue, h⟩ := Option.bind_eq_some_iff.mp h
    obtain ⟨texts, hentries, h⟩ := Option.bind_eq_some_iff.mp h
    cases h
    refine List.forall_mem_cons.mpr ⟨?_, allVisible_writeEntries? hentries⟩
    rw [String.toList_append, String.toList_append]
    exact .append (.append (allVisible_quoted name) (by decide)) (allVisible_write? hvalue)

end

end EntityViews.Json
