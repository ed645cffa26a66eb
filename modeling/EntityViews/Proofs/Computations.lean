import Mathlib.Data.List.Forall2
import EntityViews.Storage.World

/-!
Work that changes a state and may fail: what it means that it gives a result, one rule for each way work is put together.
Compiling a filter and running a plan are both work of this kind.
-/

namespace EntityViews

/-! Computations without state. -/

/-- Work along a list gives a list exactly if each member gives the one in its place. -/
theorem mapM_eq_some_iff {α β : Type} {f : α → Option β} {xs : List α} {ys : List β} :
    xs.mapM f = some ys ↔ List.Forall₂ (fun x y => f x = some y) xs ys := by
  induction xs generalizing ys with
  | nil =>
    constructor
    · rintro ⟨⟩
      exact .nil
    · rintro ⟨⟩
      rfl
  | cons x xs ih =>
    rw [List.mapM_cons]
    constructor
    · intro h
      obtain ⟨y, hy, h⟩ := Option.bind_eq_some_iff.mp h
      obtain ⟨rest, hrest, h⟩ := Option.bind_eq_some_iff.mp h
      cases h
      exact .cons hy (ih.mp hrest)
    · rintro (_ | ⟨hy, hrest⟩)
      rw [hy, ih.mpr hrest]
      rfl

namespace Except

theorem bind_ok {ε α β : Type} {x : Except ε α} {f : α → Except ε β} {b : β} (h : x >>= f = .ok b) :
    ∃ a, x = .ok a ∧ f a = .ok b := by
  cases x with
  | error e => cases h
  | ok a => exact ⟨a, rfl, h⟩

theorem bind_eq_ok {ε α β : Type} {x : Except ε α} {f : α → Except ε β} {a : α} {b : β} (h : x = .ok a)
    (hf : f a = .ok b) : x >>= f = .ok b := by
  subst h
  exact hf

theorem map_ok {ε α β : Type} {x : Except ε α} {f : α → β} {b : β} (h : x.map f = .ok b) :
    ∃ a, x = .ok a ∧ f a = b := by
  cases x with
  | error e => cases h
  | ok a =>
    cases h
    exact ⟨a, rfl, rfl⟩

theorem toOption_bind {α β : Type} (x : Except Fault α) (f : α → Except Fault β) :
    (x >>= f).toOption = x.toOption.bind fun a => (f a).toOption := by
  cases x <;> rfl

theorem toOption_eq_some_iff {α : Type} {x : Except Fault α} {a : α} : x.toOption = some a ↔ x = .ok a := by
  cases x <;> simp [Except.toOption]

theorem mapM_nil_ok {α β : Type} {f : α → Except Fault β} {ys : List β} (h : [].mapM f = .ok ys) : ys = [] := by
  cases h
  rfl

theorem mapM_cons_ok {α β : Type} {f : α → Except Fault β} {x : α} {xs : List α} {ys : List β}
    (h : (x :: xs).mapM f = .ok ys) : ∃ y ys', f x = .ok y ∧ xs.mapM f = .ok ys' ∧ ys = y :: ys' := by
  rw [List.mapM_cons] at h
  obtain ⟨y, hx, h⟩ := bind_ok h
  obtain ⟨ys', hxs, h⟩ := bind_ok h
  cases h
  exact ⟨y, ys', hx, hxs, rfl⟩

/-- The results of work along a list are those of its members. -/
theorem mem_of_mapM_ok {α β : Type} {f : α → Except Fault β} {xs : List α} {ys : List β} (h : xs.mapM f = .ok ys) :
    (∀ y ∈ ys, ∃ x ∈ xs, f x = .ok y) ∧ ∀ x ∈ xs, ∃ y ∈ ys, f x = .ok y := by
  induction xs generalizing ys with
  | nil =>
    rw [mapM_nil_ok h]
    exact ⟨nofun, nofun⟩
  | cons x xs ih =>
    obtain ⟨y, ys', hx, hxs, rfl⟩ := mapM_cons_ok h
    obtain ⟨hfrom, hto⟩ := ih hxs
    constructor
    · intro z hz
      rcases List.mem_cons.mp hz with rfl | hz
      · exact ⟨x, List.mem_cons_self, hx⟩
      · obtain ⟨a, ha, he⟩ := hfrom z hz
        exact ⟨a, List.mem_cons_of_mem _ ha, he⟩
    · intro a ha
      rcases List.mem_cons.mp ha with rfl | ha
      · exact ⟨y, List.mem_cons_self, hx⟩
      · obtain ⟨z, hz, he⟩ := hto a ha
        exact ⟨z, List.mem_cons_of_mem _ hz, he⟩

/-- Work along a list fails with the fault of one of its members. -/
theorem mapM_error {α β : Type} {f : α → Except Fault β} {xs : List α} {e : Fault} (h : xs.mapM f = .error e) :
    ∃ x ∈ xs, f x = .error e := by
  induction xs with
  | nil => cases h
  | cons x xs ih =>
    rw [List.mapM_cons] at h
    cases hx : f x with
    | error e' =>
      rw [hx] at h
      cases h
      exact ⟨x, List.mem_cons_self, hx⟩
    | ok y =>
      rw [hx] at h
      cases hxs : xs.mapM f with
      | error e' =>
        rw [hxs] at h
        cases h
        obtain ⟨x', hmem, hx'⟩ := ih hxs
        exact ⟨x', List.mem_cons_of_mem _ hmem, hx'⟩
      | ok ys =>
        rw [hxs] at h
        cases h

end Except

variable {σ α β : Type}

/-- From the state `s` the work gives `a` and leaves the state `s'`. -/
def Gives (x : ExceptT Fault (StateM σ) α) (s : σ) (a : α) (s' : σ) : Prop := x.run.run s = (.ok a, s')

namespace Gives

theorem pure_iff {a b : α} {s s' : σ} :
    Gives (pure a : ExceptT Fault (StateM σ) α) s b s' ↔ b = a ∧ s' = s := by
  change ((Except.ok a : Except Fault α), s) = (.ok b, s') ↔ _
  rw [Prod.mk.injEq, Except.ok.injEq]
  exact ⟨fun h => ⟨h.1.symm, h.2.symm⟩, fun h => ⟨h.1.symm, h.2.symm⟩⟩

theorem throw_iff {e : Fault} {b : α} {s s' : σ} :
    Gives (throw e : ExceptT Fault (StateM σ) α) s b s' ↔ False := by
  change ((Except.error e : Except Fault α), s) = (.ok b, s') ↔ _
  simp

theorem run_bind (x : ExceptT Fault (StateM σ) α) (f : α → ExceptT Fault (StateM σ) β) (s : σ) :
    (x >>= f).run.run s = match x.run.run s with
      | (.ok a, m) => (f a).run.run m
      | (.error e, m) => (.error e, m) := by
  simp only [bind, ExceptT.bind, ExceptT.run, ExceptT.mk, StateT.bind, StateT.run, ExceptT.bindCont]
  cases x s with
  | mk result next => cases result <;> rfl

theorem run_tryCatch (x : ExceptT Fault (StateM σ) α) (f : Fault → ExceptT Fault (StateM σ) α) (s : σ) :
    (tryCatch x f).run.run s = match x.run.run s with
      | (.ok a, m) => (.ok a, m)
      | (.error e, m) => (f e).run.run m := by
  simp only [tryCatch, tryCatchThe, MonadExceptOf.tryCatch, ExceptT.tryCatch, ExceptT.run, ExceptT.mk, bind,
    StateT.bind, StateT.run]
  cases x s with
  | mk result next => cases result <;> rfl

/-- Two steps give a result exactly if the first gives one and the second does from there. -/
theorem bind_iff {x : ExceptT Fault (StateM σ) α} {f : α → ExceptT Fault (StateM σ) β} {b : β} {s s' : σ} :
    Gives (x >>= f) s b s' ↔ ∃ a m, Gives x s a m ∧ Gives (f a) m b s' := by
  unfold Gives
  rw [run_bind]
  cases hx : x.run.run s with
  | mk result next =>
    cases result with
    | error e =>
      constructor
      · intro h
        cases h
      · rintro ⟨a, m, h, _⟩
        cases h
    | ok a =>
      constructor
      · intro h
        exact ⟨a, next, rfl, h⟩
      · rintro ⟨a', m, h, hf⟩
        cases h
        exact hf

theorem lift_iff {x : Except Fault α} {a : α} {s s' : σ} :
    Gives (liftM x : ExceptT Fault (StateM σ) α) s a s' ↔ x = .ok a ∧ s' = s := by
  change (x, s) = (.ok a, s') ↔ _
  rw [Prod.mk.injEq]
  exact ⟨fun h => ⟨h.1, h.2.symm⟩, fun h => ⟨h.1, h.2.symm⟩⟩

theorem get_iff {a s s' : σ} : Gives (get : ExceptT Fault (StateM σ) σ) s a s' ↔ a = s ∧ s' = s := by
  change ((Except.ok s : Except Fault σ), s) = (.ok a, s') ↔ _
  rw [Prod.mk.injEq, Except.ok.injEq]
  exact ⟨fun h => ⟨h.1.symm, h.2.symm⟩, fun h => ⟨h.1.symm, h.2.symm⟩⟩

theorem set_iff {t s s' : σ} {u : PUnit} : Gives (set t : ExceptT Fault (StateM σ) PUnit) s u s' ↔ s' = t := by
  change ((Except.ok PUnit.unit : Except Fault PUnit), t) = (.ok u, s') ↔ _
  rw [Prod.mk.injEq]
  exact ⟨fun h => h.2.symm, fun h => ⟨rfl, h.symm⟩⟩

theorem modify_iff {f : σ → σ} {s s' : σ} {u : PUnit} :
    Gives (modify f : ExceptT Fault (StateM σ) PUnit) s u s' ↔ s' = f s := by
  change ((Except.ok PUnit.unit : Except Fault PUnit), f s) = (.ok u, s') ↔ _
  rw [Prod.mk.injEq]
  exact ⟨fun h => h.2.symm, fun h => ⟨rfl, h.symm⟩⟩

/-! Loops over lists. -/

variable {f : α → ExceptT Fault (StateM σ) β} {g : α → ExceptT Fault (StateM σ) PUnit}

theorem forM_nil_iff {s s' : σ} {u : PUnit} : Gives ([].forM g) s u s' ↔ s' = s := by
  rw [List.forM, pure_iff]
  exact ⟨fun h => h.2, fun h => ⟨rfl, h⟩⟩

/-- A loop is its first step and then the loop over the rest. -/
theorem forM_cons_iff {x : α} {xs : List α} {s s' : σ} {u : PUnit} :
    Gives ((x :: xs).forM g) s u s' ↔ ∃ m, Gives (g x) s ⟨⟩ m ∧ Gives (xs.forM g) m u s' := by
  rw [List.forM, bind_iff]
  constructor
  · rintro ⟨_, m, hx, hxs⟩
    exact ⟨m, hx, hxs⟩
  · rintro ⟨m, hx, hxs⟩
    exact ⟨⟨⟩, m, hx, hxs⟩

/-- What every step of a loop keeps, the loop keeps. -/
theorem forM_keeps {P : σ → Prop} {xs : List α} {s s' : σ} {u : PUnit} (h : Gives (xs.forM g) s u s')
    (hstep : ∀ x ∈ xs, ∀ m m', P m → Gives (g x) m ⟨⟩ m' → P m') (hs : P s) : P s' := by
  induction xs generalizing s with
  | nil =>
    rw [forM_nil_iff] at h
    rwa [h]
  | cons x xs ih =>
    obtain ⟨m, hx, hxs⟩ := forM_cons_iff.mp h
    refine ih hxs (fun y hy => hstep y (List.mem_cons_of_mem _ hy)) ?_
    exact hstep x List.mem_cons_self s m hs hx

theorem mapM_nil_iff {s s' : σ} {ys : List β} : Gives ([].mapM f) s ys s' ↔ ys = [] ∧ s' = s := by
  rw [List.mapM_nil, pure_iff]

/-- Work along a list is work on its first member and then along the rest. -/
theorem mapM_cons_iff {x : α} {xs : List α} {s s' : σ} {ys : List β} :
    Gives ((x :: xs).mapM f) s ys s' ↔
      ∃ y m ys', Gives (f x) s y m ∧ Gives (xs.mapM f) m ys' s' ∧ ys = y :: ys' := by
  rw [List.mapM_cons]
  simp only [bind_iff, pure_iff]
  constructor
  · rintro ⟨y, m, hx, ys', m', hxs, rfl, rfl⟩
    exact ⟨y, m, ys', hx, hxs, rfl⟩
  · rintro ⟨y, m, ys', hx, hxs, rfl⟩
    exact ⟨y, m, hx, ys', s', hxs, rfl, rfl⟩

theorem foldlM_nil_iff {f : β → α → ExceptT Fault (StateM σ) β} {b c : β} {s s' : σ} :
    Gives ([].foldlM f b) s c s' ↔ c = b ∧ s' = s := by
  rw [List.foldlM_nil, pure_iff]

theorem foldlM_cons_iff {f : β → α → ExceptT Fault (StateM σ) β} {x : α} {xs : List α} {b c : β} {s s' : σ} :
    Gives ((x :: xs).foldlM f b) s c s' ↔ ∃ d m, Gives (f b x) s d m ∧ Gives (xs.foldlM f d) m c s' := by
  rw [List.foldlM_cons, bind_iff]

/-- What every step of a loop with a state keeps, the loop keeps. -/
theorem foldlM_keeps {P : β → σ → Prop} {f : β → α → ExceptT Fault (StateM σ) β} {xs : List α} {b c : β} {s s' : σ}
    (h : Gives (xs.foldlM f b) s c s') (hstep : ∀ x ∈ xs, ∀ b m d m', P b m → Gives (f b x) m d m' → P d m')
    (hs : P b s) : P c s' := by
  induction xs generalizing b s with
  | nil =>
    obtain ⟨rfl, rfl⟩ := foldlM_nil_iff.mp h
    exact hs
  | cons x xs ih =>
    obtain ⟨d, m, hx, hxs⟩ := foldlM_cons_iff.mp h
    exact ih hxs (fun y hy => hstep y (List.mem_cons_of_mem _ hy)) (hstep x List.mem_cons_self b s d m hs hx)

/-- A loop over a list that only reads, and finds something for some of the items. -/
theorem filterMapM_reads {f : α → ExceptT Fault (StateM σ) (Option β)} {g : α → Option β} {xs : List α} {ys : List β}
    {s s' : σ} (h : Gives (xs.filterMapM f) s ys s') (hf : ∀ x y s', Gives (f x) s y s' → s' = s ∧ y = g x) :
    s' = s ∧ ys = xs.filterMap g := by
  induction xs generalizing ys with
  | nil =>
    rw [List.filterMapM_nil] at h
    obtain ⟨rfl, rfl⟩ := pure_iff.mp h
    exact ⟨rfl, rfl⟩
  | cons x xs ih =>
    rw [List.filterMapM_cons] at h
    obtain ⟨y, m, hx, h⟩ := bind_iff.mp h
    obtain ⟨rfl, hy⟩ := hf x y m hx
    rw [List.filterMap_cons, ← hy]
    cases y with
    | none => exact ih h
    | some y =>
      obtain ⟨ys', m', hxs, h⟩ := bind_iff.mp h
      obtain ⟨rfl, rfl⟩ := pure_iff.mp h
      obtain ⟨hm, rfl⟩ := ih hxs
      exact ⟨hm, rfl⟩

/-- A computation can be run to see that it gives a result which passes a check. -/
theorem of_check {x : ExceptT Fault (StateM σ) α} {s : σ} {check : α → σ → Bool}
    (h : (match x.run.run s with | (.ok a, s') => check a s' | (.error _, _) => false) = true) :
    ∃ a s', Gives x s a s' ∧ check a s' = true := by
  cases hx : x.run.run s with
  | mk outcome s' =>
    rw [hx] at h
    cases outcome with
    | error e => cases h
    | ok a => exact ⟨a, s', hx, h⟩

end Gives

end EntityViews
