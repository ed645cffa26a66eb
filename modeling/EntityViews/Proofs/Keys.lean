import EntityViews.Value.Key

/-!
When two values are the same key. A number that is not equal to itself is no key's match, not even its own; apart from
this, being the same key is an equivalence.
-/

namespace EntityViews

inductive Canon
  | magnitude (m : Magnitude)
  | null
  | text (s : String)
  | date (d : Date)
  | instant (aware : Bool) (seconds : Int)

def Scalar.canon : Scalar → Canon
  | .null => .null
  | .bool b => .magnitude (.ofInt (if b then 1 else 0))
  | .int n => .magnitude (.ofInt n)
  | .level l => .magnitude (.ofInt l.value)
  | .float x => .magnitude (.ofBinary x)
  | .decimal d => .magnitude (.ofDecimal d)
  | .text s => .text s
  | .columnKind k => .text k.word
  | .date d => .date d
  | .datetime t => .instant t.offset.isSome t.instant

/-- Magnitudes are the same number if they are equal and are a number at all. -/
theorem Magnitude.same_iff {a b : Magnitude} : a.same b = true ↔ a = b ∧ a ≠ .nan none := by
  cases a with
  | finite c e => cases b <;> simp [same]
  | infinite n => cases b <;> simp [same]
  | nan origin =>
    cases origin with
    | none => cases b <;> simp [same]
    | some a =>
      cases b with
      | nan other => cases other <;> simp [same]
      | finite | infinite => simp [same]

theorem ColumnKind.word_eq_iff {k l : ColumnKind} : k.word = l.word ↔ k = l := by
  cases k <;> cases l <;> decide

theorem Scalar.same_iff {a b : Scalar} : a.same b = true ↔ a.canon = b.canon ∧ a.canon ≠ .magnitude (.nan none) := by
  cases a <;> cases b <;>
    simp [same, magnitude?, canon, Magnitude.same_iff, ColumnKind.word_eq_iff]
  exact eq_comm

namespace Value

mutual

/-- To be the same value is symmetric. -/
theorem same_symm : {a b : Value} → a.same b = true → b.same a = true
  | .scalar a, .scalar b => by
    rw [same, same, Scalar.same_iff, Scalar.same_iff]
    rintro ⟨h, hn⟩
    exact ⟨h.symm, h ▸ hn⟩
  | .tuple as, .tuple bs => sameItems_symm
  | .scalar _, .list _ | .scalar _, .tuple _ | .scalar _, .set _ | .scalar _, .map _ => nofun
  | .tuple _, .scalar _ | .tuple _, .list _ | .tuple _, .set _ | .tuple _, .map _ => nofun
  | .list _, _ | .set _, _ | .map _, _ => nofun

theorem sameItems_symm : {as bs : List Value} → sameItems as bs = true → sameItems bs as = true
  | [], [] => fun _ => rfl
  | [], _ :: _ | _ :: _, [] => nofun
  | a :: as, b :: bs => by
    rw [sameItems, sameItems, Bool.and_eq_true, Bool.and_eq_true]
    rintro ⟨h, hs⟩
    exact ⟨same_symm h, sameItems_symm hs⟩

end

mutual

/-- To be the same value is transitive. -/
theorem same_trans : {a b c : Value} → a.same b = true → b.same c = true → a.same c = true
  | .scalar a, .scalar b, .scalar c => by
    rw [same, same, same, Scalar.same_iff, Scalar.same_iff, Scalar.same_iff]
    rintro ⟨h, hn⟩ ⟨h', _⟩
    exact ⟨h.trans h', hn⟩
  | .tuple as, .tuple bs, .tuple cs => sameItems_trans
  | .scalar _, .scalar _, .list _ | .scalar _, .scalar _, .tuple _ | .scalar _, .scalar _, .set _ => nofun
  | .scalar _, .scalar _, .map _ => nofun
  | .tuple _, .tuple _, .scalar _ | .tuple _, .tuple _, .list _ | .tuple _, .tuple _, .set _ => nofun
  | .tuple _, .tuple _, .map _ => nofun
  | .scalar _, .list _, _ | .scalar _, .tuple _, _ | .scalar _, .set _, _ | .scalar _, .map _, _ => nofun
  | .tuple _, .scalar _, _ | .tuple _, .list _, _ | .tuple _, .set _, _ | .tuple _, .map _, _ => nofun
  | .list _, _, _ | .set _, _, _ | .map _, _, _ => nofun

theorem sameItems_trans : {as bs cs : List Value} → sameItems as bs = true → sameItems bs cs = true →
    sameItems as cs = true
  | [], [], [] => fun _ _ => rfl
  | [], _ :: _, _ | _ :: _, [], _ => nofun
  | [], [], _ :: _ | _ :: _, _ :: _, [] => fun _ => nofun
  | a :: as, b :: bs, c :: cs => by
    rw [sameItems, sameItems, sameItems, Bool.and_eq_true, Bool.and_eq_true, Bool.and_eq_true]
    rintro ⟨h, hs⟩ ⟨h', hs'⟩
    exact ⟨same_trans h h', sameItems_trans hs hs'⟩

end

theorem same_congr {a b c : Value} (h : a.same b = true) : a.same c = b.same c := by
  rw [Bool.eq_iff_iff]
  constructor
  · exact same_trans (same_symm h)
  · exact same_trans h

theorem same_comm (a b : Value) : a.same b = b.same a := by
  rw [Bool.eq_iff_iff]
  exact ⟨same_symm, same_symm⟩

end Value

variable {α : Type}

theorem lookup?_cons (key k : Value) (v : α) (rest : List (Value × α)) :
    lookup? key ((k, v) :: rest) = if k.same key then some v else lookup? key rest := by
  rw [lookup?, List.find?_cons]
  cases k.same key <;> rfl

theorem lookup?_congr {a b : Value} (h : a.same b = true) (entries : List (Value × α)) :
    lookup? a entries = lookup? b entries := by
  induction entries with
  | nil => rfl
  | cons e rest ih =>
    obtain ⟨k, x⟩ := e
    rw [lookup?_cons, lookup?_cons, ih, k.same_comm a, k.same_comm b, Value.same_congr h]

/-- After an assignment the key finds the new value and every other key what it found before. -/
theorem lookup?_assign (key other : Value) (v : α) (entries : List (Value × α)) :
    lookup? other (assign key v entries) = if key.same other then some v else lookup? other entries := by
  induction entries with
  | nil => rw [assign, lookup?_cons]
  | cons e rest ih =>
    obtain ⟨k, x⟩ := e
    rw [assign]
    by_cases hk : k.same key
    · rw [if_pos hk, lookup?_cons, lookup?_cons, Value.same_congr hk]
      by_cases ho : key.same other
      · rw [if_pos ho, if_pos ho]
      · rw [if_neg ho, if_neg ho, if_neg ho]
    · rw [if_neg hk, lookup?_cons, lookup?_cons, ih]
      by_cases ho : k.same other
      · have hn : ¬key.same other = true := fun h => hk (Value.same_trans ho (Value.same_symm h))
        rw [if_pos ho, if_pos ho, if_neg hn]
      · rw [if_neg ho, if_neg ho]

def groupsOf (pairs : List (Value × α)) : List (Value × List α) :=
  pairs.foldl (fun groups p => assign p.1 ((lookup? p.1 groups).getD [] ++ [p.2]) groups) []

/-- The group of a key holds the members with this key, in their order. -/
theorem lookup?_groupsOf (key : Value) (pairs : List (Value × α)) :
    (lookup? key (groupsOf pairs)).getD [] = (pairs.filter fun p => p.1.same key).map (·.2) := by
  have hstep : ∀ (pairs : List (Value × α)) (groups : List (Value × List α)),
      (lookup? key (pairs.foldl (fun groups p => assign p.1 ((lookup? p.1 groups).getD [] ++ [p.2]) groups)
        groups)).getD [] = (lookup? key groups).getD [] ++ (pairs.filter fun p => p.1.same key).map (·.2) := by
    intro pairs
    induction pairs with
    | nil =>
      intro groups
      rw [List.foldl_nil, List.filter_nil, List.map_nil, List.append_nil]
    | cons p rest ih =>
      intro groups
      rw [List.foldl_cons, ih, lookup?_assign, List.filter_cons]
      by_cases hp : p.1.same key
      · rw [if_pos hp, if_pos hp, lookup?_congr hp, Option.getD_some, List.map_cons, List.append_assoc]
        rfl
      · rw [if_neg hp, if_neg hp]
  exact hstep pairs []

end EntityViews
