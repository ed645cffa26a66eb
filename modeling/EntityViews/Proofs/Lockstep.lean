import EntityViews.Proofs.Relocation
import EntityViews.Proofs.Keysets
import EntityViews.Proofs.Fetching
import Mathlib.Data.List.Forall2

/-!
Work on two stores at once, one of them on top of further records. What is fetched is the same on both, up to the numbers
of the records, whatever the state of a reliable database.
-/

namespace EntityViews

open Sql

/-- Whether a database gives the same answer to a statement whenever it is asked, under the names of the outputs, and never
fails to begin and to end a connection. -/
structure Reliable (δ : Type) [Engine δ] : Prop where
  repeats : ∀ (q : Select) (d d' : δ),
    (Engine.perform (.execute (.select q)) d).1 = (Engine.perform (.execute (.select q)) d').1
  labelled : Labelled δ
  connects : ∀ d : δ, ∃ a, (Engine.perform .connect d).1 = .ok a
  configures : ∀ d : δ, ∃ a, (Engine.perform (.execute .foreignKeys) d).1 = .ok a
  commits : ∀ d : δ, ∃ a, (Engine.perform .commit d).1 = .ok a
  closes : ∀ d : δ, ∃ a, (Engine.perform .close d).1 = .ok a

theorem reliable_snapshot (db : Contents) : Reliable (Snapshot db) where
  repeats := fun _ _ _ => rfl
  labelled := labelled_snapshot db
  connects := fun _ => ⟨_, rfl⟩
  configures := fun _ => ⟨_, rfl⟩
  commits := fun _ => ⟨_, rfl⟩
  closes := fun _ => ⟨_, rfl⟩

namespace Run

variable {δ α β γ ε : Type}

/-- Whether two pieces of work go the same way when the first is done on a store and the second with further records below
it: they fail both, or they give related results and leave the same records on top. The relation may depend on how many
records there are on top. -/
def Tracks (base : Store) (size : Nat) (x : Run δ α) (y : Run δ β) (R : Nat → α → β → Prop) : Prop :=
  ∀ v w : World δ, v.store.Closed → size ≤ v.store.records.size → w.store = base.topped v.store →
    (∃ a v' b w', Gives x v a v' ∧ Gives y w b w' ∧ v'.store.Closed ∧
      v.store.records.size ≤ v'.store.records.size ∧ w'.store = base.topped v'.store ∧ R v'.store.records.size a b) ∨
    ((∀ a v', ¬Gives x v a v') ∧ ∀ b w', ¬Gives y w b w')

structure Lasts (R : Nat → α → β → Prop) : Prop where
  up : ∀ {n m : Nat} {a : α} {b : β}, n ≤ m → R n a b → R m a b

namespace Tracks

variable {base : Store} {size : Nat} {R : Nat → α → β → Prop} {Q : Nat → γ → ε → Prop} {x : Run δ α} {y : Run δ β}

theorem pure {a : α} {b : β} (h : ∀ n, size ≤ n → R n a b) :
    Tracks base size (Pure.pure a : Run δ α) (Pure.pure b) R := by
  intro v w hclosed hsize hw
  exact .inl ⟨a, v, b, w, Gives.pure_iff.mpr ⟨rfl, rfl⟩, Gives.pure_iff.mpr ⟨rfl, rfl⟩, hclosed, Nat.le_refl _, hw,
    h _ hsize⟩

theorem throw {e e' : Fault} : Tracks base size (throw e : Run δ α) (throw e' : Run δ β) R := by
  intro v w _ _ _
  exact .inr ⟨fun _ _ h => Gives.throw_iff.mp h, fun _ _ h => Gives.throw_iff.mp h⟩

/-- Steps that go alike, one after the other, go alike. -/
theorem bind {f : α → Run δ γ} {g : β → Run δ ε} (hx : Tracks base size x y R)
    (hf : ∀ n, size ≤ n → ∀ a b, R n a b → Tracks base n (f a) (g b) Q) :
    Tracks base size (x >>= f) (y >>= g) Q := by
  intro v w hclosed hsize hw
  rcases hx v w hclosed hsize hw with ⟨a, v₁, b, w₁, ha, hb, hclosed₁, hsize₁, hw₁, hR⟩ | ⟨ha, hb⟩
  · have hrest := hf _ (Nat.le_trans hsize hsize₁) a b hR v₁ w₁ hclosed₁ (Nat.le_refl _) hw₁
    rcases hrest with ⟨c, v₂, d, w₂, hc, hd, hclosed₂, hsize₂, hw₂, hQ⟩ | ⟨hc, hd⟩
    · exact .inl ⟨c, v₂, d, w₂, Gives.bind_iff.mpr ⟨a, v₁, ha, hc⟩, Gives.bind_iff.mpr ⟨b, w₁, hb, hd⟩, hclosed₂,
        Nat.le_trans hsize₁ hsize₂, hw₂, hQ⟩
    · -- What the first part gives is settled, so that the second part is where both fail.
      refine .inr ⟨?_, ?_⟩
      · intro c v₂ h
        obtain ⟨a', v', ha', hc'⟩ := Gives.bind_iff.mp h
        cases ha.symm.trans ha'
        exact hc c v₂ hc'
      · intro d w₂ h
        obtain ⟨b', w', hb', hd'⟩ := Gives.bind_iff.mp h
        cases hb.symm.trans hb'
        exact hd d w₂ hd'
  · refine .inr ⟨?_, ?_⟩
    · intro c v₂ h
      obtain ⟨a, v₁, ha', _⟩ := Gives.bind_iff.mp h
      exact ha a v₁ ha'
    · intro d w₂ h
      obtain ⟨b, w₁, hb', _⟩ := Gives.bind_iff.mp h
      exact hb b w₁ hb'

/-- Work that needs no store goes alike in both. -/
theorem lift (e : Except Fault α) : Tracks base size (liftM e : Run δ α) (liftM e) fun _ a b => e = .ok a ∧ b = a := by
  intro v w hclosed _ hw
  cases he : e with
  | ok a =>
    exact .inl ⟨a, v, a, w, Gives.lift_iff.mpr ⟨rfl, rfl⟩, Gives.lift_iff.mpr ⟨rfl, rfl⟩, hclosed, Nat.le_refl _, hw,
      rfl, rfl⟩
  | error f =>
    refine .inr ⟨?_, ?_⟩ <;>
    · intro a m h
      cases (Gives.lift_iff.mp h).1

/-- Reading the same on both sides. -/
theorem reads {f : World δ → Except Fault α} {g : World δ → Except Fault β}
    (hx : ∀ v a v', Gives x v a v' ↔ f v = .ok a ∧ v' = v) (hy : ∀ w b w', Gives y w b w' ↔ g w = .ok b ∧ w' = w)
    (h : ∀ v w, v.store.Closed → size ≤ v.store.records.size → w.store = base.topped v.store →
      (∃ a b, f v = .ok a ∧ g w = .ok b ∧ R v.store.records.size a b) ∨ ((∀ a, f v ≠ .ok a) ∧ ∀ b, g w ≠ .ok b)) :
    Tracks base size x y R := by
  intro v w hclosed hsize hw
  rcases h v w hclosed hsize hw with ⟨a, b, ha, hb, hR⟩ | ⟨ha, hb⟩
  · exact .inl ⟨a, v, b, w, (hx _ _ _).mpr ⟨ha, rfl⟩, (hy _ _ _).mpr ⟨hb, rfl⟩, hclosed, Nat.le_refl _, hw, hR⟩
  · exact .inr ⟨fun a v' h => ha a ((hx _ _ _).mp h).1, fun b w' h => hb b ((hy _ _ _).mp h).1⟩

/-- A loop over related items gives related results. -/
theorem mapM {ι κ : Type} {S : ι → κ → Prop} {f : ι → Run δ α} {g : κ → Run δ β} {xs : List ι} {ys : List κ}
    (hR : Lasts R) (hxs : List.Forall₂ S xs ys) (hf : ∀ n, size ≤ n → ∀ i k, S i k → Tracks base n (f i) (g k) R) :
    Tracks base size (xs.mapM f) (ys.mapM g) fun n => List.Forall₂ (R n) := by
  induction hxs generalizing size with
  | nil =>
    rw [List.mapM_nil, List.mapM_nil]
    exact pure fun _ _ => .nil
  | cons hik _ ih =>
    rw [List.mapM_cons, List.mapM_cons]
    refine (hf size (Nat.le_refl _) _ _ hik).bind fun n hn a b hab => ?_
    refine (ih fun m hm => hf m (Nat.le_trans hn hm)).bind fun m hm as bs has => ?_
    refine pure fun k hk => .cons ?_ ?_
    · exact hR.up (Nat.le_trans hm hk) hab
    · exact has.imp fun a b h => hR.up hk h

/-- A loop with a state over related items keeps the states related. -/
theorem foldlM {ι κ : Type} {S : ι → κ → Prop} {f : α → ι → Run δ α} {g : β → κ → Run δ β} {xs : List ι}
    {ys : List κ} (hR : Lasts R) (hxs : List.Forall₂ S xs ys)
    (hf : ∀ n, size ≤ n → ∀ a b i k, R n a b → S i k → Tracks base n (f a i) (g b k) R) {a : α} {b : β}
    (hab : R size a b) : Tracks base size (xs.foldlM f a) (ys.foldlM g b) R := by
  induction hxs generalizing size a b with
  | nil =>
    rw [List.foldlM_nil, List.foldlM_nil]
    exact pure fun _ hn => hR.up hn hab
  | cons hik _ ih =>
    rw [List.foldlM_cons, List.foldlM_cons]
    refine (hf size (Nat.le_refl _) _ _ _ _ hab hik).bind fun n hn c d hcd => ?_
    exact ih (fun m hm => hf m (Nat.le_trans hn hm)) hcd

end Tracks

end Run

/-! Related values. -/

def Node.Twin (b n : Nat) (node other : Node) : Prop := ∃ i < n, node = .record i ∧ other = .record (b + i)

def Keyed {α β : Type} (R : α → β → Prop) : List (Value × α) → List (Value × β) → Prop :=
  List.Forall₂ fun e e' => e.1 = e'.1 ∧ R e.2 e'.2

namespace Keyed

variable {α β : Type} {R : α → β → Prop} {es : List (Value × α)} {fs : List (Value × β)} {key : Value} {a : α} {b : β}

theorem mono {R' : α → β → Prop} (h : Keyed R es fs) (hR : ∀ a b, R a b → R' a b) : Keyed R' es fs :=
  List.Forall₂.imp (fun _ _ he => ⟨he.1, hR _ _ he.2⟩) h

/-- In lists with the same keys a key finds members that correspond, or nothing in either. -/
theorem lookup? (h : Keyed R es fs) (key : Value) :
    (EntityViews.lookup? key es = none ∧ EntityViews.lookup? key fs = none) ∨
      ∃ a b, EntityViews.lookup? key es = some a ∧ EntityViews.lookup? key fs = some b ∧ R a b := by
  induction h with
  | nil => exact .inl ⟨rfl, rfl⟩
  | @cons e e' es fs he _ ih =>
    obtain ⟨k, a⟩ := e
    obtain ⟨k', b⟩ := e'
    obtain ⟨rfl, hab⟩ := he
    rw [lookup?_cons, lookup?_cons]
    split
    · exact .inr ⟨a, b, rfl, rfl, hab⟩
    · exact ih

/-- Corresponding values that are assigned to one key leave the lists corresponding. -/
theorem assign (h : Keyed R es fs) (key : Value) (hab : R a b) :
    Keyed R (EntityViews.assign key a es) (EntityViews.assign key b fs) := by
  induction h with
  | nil => exact .cons ⟨rfl, hab⟩ .nil
  | @cons e e' es fs he hrest ih =>
    obtain ⟨k, c⟩ := e
    obtain ⟨k', d⟩ := e'
    obtain ⟨rfl, hcd⟩ := he
    rw [EntityViews.assign, EntityViews.assign]
    split
    · exact .cons ⟨rfl, hab⟩ hrest
    · exact .cons ⟨rfl, hcd⟩ ih

/-- Entries collected into a mapping correspond where the entries do. -/
theorem collect {ps : List (Value × α)} {qs : List (Value × β)} (h : Keyed R ps qs) :
    Keyed R (collect ps) (collect qs) := by
  suffices hrun : ∀ es fs, Keyed R es fs → Keyed R (ps.foldl (fun es p => EntityViews.assign p.1 p.2 es) es)
      (qs.foldl (fun es p => EntityViews.assign p.1 p.2 es) fs) from hrun [] [] .nil
  induction h with
  | nil => exact fun es fs he => he
  | @cons p q ps qs hpq _ ih =>
    intro es fs he
    rw [List.foldl_cons, List.foldl_cons, hpq.1]
    exact ih _ _ (he.assign _ hpq.2)

end Keyed

namespace Node

variable {b n m : Nat} {node other : Node}

theorem lasts_twin : Run.Lasts (Twin b) := by
  constructor
  rintro n m _ _ hnm ⟨i, hi, rfl, rfl⟩
  exact ⟨i, Nat.lt_of_lt_of_le hi hnm, rfl, rfl⟩

theorem Twin.up (h : Twin b n node other) (hnm : n ≤ m) : Twin b m node other := lasts_twin.up hnm h

theorem lasts_twins : Run.Lasts fun n => List.Forall₂ (Twin b n) := ⟨fun hnm h => h.imp fun _ _ ht => ht.up hnm⟩

theorem Twin.raised (h : Twin b n node other) : other = node.raised b := by
  obtain ⟨i, _, rfl, rfl⟩ := h
  rfl

end Node

namespace Loader

variable {δ : Type} {base : Store} {size : Nat} {node other : Node} {field : String}

open Run

/-- Corresponding records that are added to their groups leave the groups corresponding. -/
theorem addToGroup_keyed {R : Node → Node → Prop} {groups groups' : List (Value × List Node)}
    (h : Keyed (List.Forall₂ R) groups groups') (key : Value) {record record' : Node} (hr : R record record') :
    Keyed (List.Forall₂ R) (addToGroup groups key record) (addToGroup groups' key record') := by
  unfold addToGroup
  refine h.assign key ?_
  rcases h.lookup? key with ⟨hnone, hnone'⟩ | ⟨items, items', hsome, hsome', hitems⟩
  · rw [hnone, hnone']
    exact .cons hr .nil
  · rw [hsome, hsome']
    exact List.rel_append hitems (.cons hr .nil)

/-- A record and its twin have the same key. -/
theorem keyOf_tracks (h : node.Twin base.records.size size other) :
    Tracks base size (keyOf node field : Run δ Value) (keyOf other field) fun _ k k' => k' = k := by
  obtain ⟨i, _, rfl, rfl⟩ := h
  have hgives (id : Nat) (w : World δ) (k : Value) (w' : World δ) :
      Gives (keyOf (.record id) field) w k w' ↔ w.store.keyAt id field = .ok k ∧ w' = w := by
    constructor
    · intro h
      obtain ⟨rfl, j, hj, hk⟩ := keyOf_gives h
      cases hj
      exact ⟨hk, rfl⟩
    · rintro ⟨hk, rfl⟩
      exact keyOf_runs hk
  refine Tracks.reads (hgives i) (hgives (base.records.size + i)) ?_
  intro v w _ _ hw
  -- A key holds no records, so that raising leaves it alone.
  have hkey : w.store.keyAt (base.records.size + i) field = v.store.keyAt i field := by
    rw [hw, Store.keyAt, Store.keyAt, Store.get?_topped]
    cases v.store.get? i (.text field) with
    | none => rfl
    | some n => exact n.key_raised
  rw [hkey]
  cases v.store.keyAt i field with
  | ok k => exact .inl ⟨k, k, rfl, rfl, rfl⟩
  | error e =>
    right
    constructor <;>
    · intro k hk
      cases hk

/-- What the twin holds in a field is what the record holds, raised. -/
theorem item_tracks (h : node.Twin base.records.size size other) :
    Tracks base size (Run.item node field : Run δ Node) (Run.item other field) fun _ n n' =>
      n' = n.raised base.records.size := by
  obtain ⟨i, _, rfl, rfl⟩ := h
  have hgives (id : Nat) (w : World δ) (n : Node) (w' : World δ) : Gives (Run.item (.record id) field) w n w' ↔
      (w.store.get? id (.text field)).elim (Except.error Fault.absentKey) Except.ok = .ok n ∧ w' = w := by
    constructor
    · intro h
      obtain ⟨rfl, j, hj, hn⟩ := Run.item_gives h
      cases hj
      rw [hn]
      exact ⟨rfl, rfl⟩
    · rintro ⟨hn, rfl⟩
      cases hget : w'.store.get? id (.text field) with
      | none =>
        rw [hget] at hn
        cases hn
      | some m =>
        rw [hget] at hn
        cases hn
        exact Run.item_runs hget
  refine Tracks.reads (hgives i) (hgives (base.records.size + i)) ?_
  intro v w _ _ hw
  rw [hw, Store.get?_topped]
  cases v.store.get? i (.text field) with
  | some n => exact .inl ⟨n, _, rfl, rfl, rfl⟩
  | none =>
    right
    constructor <;>
    · intro n hn
      cases hn

/-- A row is made into a record here and into its twin there. -/
theorem recordOfRow_tracks (e : Entity) (row : List (Value × Value)) :
    Tracks base size (recordOfRow e row : Run δ Node) (recordOfRow e row) (Node.Twin base.records.size) := by
  unfold recordOfRow
  refine (Tracks.lift _).bind fun n hn fields fields' hfields => ?_
  obtain ⟨_, rfl⟩ := hfields
  intro v w hclosed _ hw
  have hruns (u : World δ) : Gives (Run.newRecordOf fields') u (u.store.load (.map fields')).1
      { u with store := (u.store.load (.map fields')).2 } := rfl
  obtain ⟨hclosed', hwithin⟩ := Store.closed_load (.map fields') _ hclosed
  refine .inl ⟨_, _, _, _, hruns v, hruns w, hclosed', (Store.grows_load _ _).1, ?_, ?_⟩
  · rw [hw, Store.load_topped]
  · rw [hw, Store.load_topped]
    exact ⟨_, hwithin _ (List.mem_singleton_self _), rfl, rfl⟩

theorem lasts_keyed_twin (b : Nat) : Lasts fun n => Keyed (Node.Twin b n) :=
  ⟨fun hnm h => h.mono fun _ _ ht => ht.up hnm⟩

theorem lasts_keyed_twins (b : Nat) : Lasts fun n => Keyed (List.Forall₂ (Node.Twin b n)) :=
  ⟨fun hnm h => h.mono fun _ _ => Node.lasts_twins.up hnm⟩

/-- Twins that are found by a key are found by the same key. -/
theorem byField_tracks {rows others : List Node} (h : List.Forall₂ (Node.Twin base.records.size size) rows others) :
    Tracks base size (byField rows field : Run δ (List (Value × Node))) (byField others field) fun n =>
      Keyed (Node.Twin base.records.size n) := by
  unfold byField
  have hlasts : Lasts fun n (p q : Value × Node) => p.1 = q.1 ∧ Node.Twin base.records.size n p.2 q.2 :=
    ⟨fun hnm hpq => ⟨hpq.1, hpq.2.up hnm⟩⟩
  refine (Tracks.mapM hlasts h fun n hn node other htwin => ?_).bind fun n _ pairs pairs' hpairs => ?_
  · refine (item_tracks (htwin.up hn)).bind fun m hm found found' hfound => ?_
    rw [hfound, Node.key_raised]
    refine (Tracks.lift _).bind fun k hk key key' hkey => ?_
    refine Tracks.pure fun l hl => ⟨hkey.2.symm, htwin.up ?_⟩
    exact Nat.le_trans hn (Nat.le_trans hm (Nat.le_trans hk hl))
  · exact Tracks.pure fun m hm => Keyed.collect ((lasts_keyed_twin _).up hm hpairs)

/-- Twins are put into groups under the same keys. -/
theorem grouped_tracks {rows others : List Node} (h : List.Forall₂ (Node.Twin base.records.size size) rows others) :
    Tracks base size
      (rows.foldlM (fun groups row => do return addToGroup groups (← keyOf row field) row) [] :
        Run δ (List (Value × List Node)))
      (others.foldlM (fun groups row => do return addToGroup groups (← keyOf row field) row) [])
      fun n => Keyed (List.Forall₂ (Node.Twin base.records.size n)) := by
  refine Tracks.foldlM (lasts_keyed_twins _) h (fun n hn groups groups' row row' hgroups htwin => ?_) .nil
  refine (keyOf_tracks (htwin.up hn)).bind fun m hm key key' hkey => ?_
  rw [hkey]
  refine Tracks.pure fun l hl => ?_
  have hnl := Nat.le_trans hm hl
  exact addToGroup_keyed ((lasts_keyed_twins _).up hnl hgroups) key (htwin.up (Nat.le_trans hn hnl))

def GatheredTwins (b n : Nat) (state state' : List (Value × Node) × List (Value × List Node)) : Prop :=
  Keyed (Node.Twin b n) state.1 state'.1 ∧ Keyed (List.Forall₂ (Node.Twin b n)) state.2 state'.2

theorem lasts_gatheredTwins (b : Nat) : Lasts (GatheredTwins b) :=
  ⟨fun hnm h => ⟨(lasts_keyed_twin b).up hnm h.1, (lasts_keyed_twins b).up hnm h.2⟩⟩

/-- A row is gathered into twins of what was gathered. -/
theorem gatherRow_tracks (target : Entity) (row : List (Value × Value))
    {state state' : List (Value × Node) × List (Value × List Node)}
    (h : GatheredTwins base.records.size size state state') :
    Tracks base size (gatherRow target state row : Run δ (List (Value × Node) × List (Value × List Node)))
      (gatherRow target state' row) (GatheredTwins base.records.size) := by
  obtain ⟨known, groups⟩ := state
  obtain ⟨known', groups'⟩ := state'
  unfold gatherRow
  refine (Tracks.lift _).bind fun m₁ hm₁ source source' hsource => ?_
  refine (Tracks.lift _).bind fun m₂ hm₂ id id' hid => ?_
  rw [hsource.2, hid.2]
  have hstate := (lasts_gatheredTwins _).up (Nat.le_trans hm₁ hm₂) h
  -- Known or new, the record joins the group of its source.
  have hend : ∀ (m : Nat) (known₁ known₁' : List (Value × Node)) (record record' : Node), m₂ ≤ m →
      Keyed (Node.Twin base.records.size m) known₁ known₁' → Node.Twin base.records.size m record record' →
      Tracks base m
        (if source.isKey then return (known₁, addToGroup groups source record) else MonadExcept.throw .mistyped :
          Run δ (List (Value × Node) × List (Value × List Node)))
        (if source.isKey then return (known₁', addToGroup groups' source record') else MonadExcept.throw .mistyped)
        (GatheredTwins base.records.size) := by
    intro m known₁ known₁' record record' hm hknown hrecord
    split
    · refine Tracks.pure fun k hk => ⟨(lasts_keyed_twin _).up hk hknown, ?_⟩
      exact addToGroup_keyed ((lasts_gatheredTwins _).up (Nat.le_trans hm hk) hstate).2 source (hrecord.up hk)
    · exact Tracks.throw
  rcases hstate.1.lookup? id with ⟨hnone, hnone'⟩ | ⟨record, record', hsome, hsome', htwin⟩
  · simp only [hnone, hnone']
    refine (recordOfRow_tracks target _).bind fun m hm record record' htwin => ?_
    have hknown := ((lasts_keyed_twin _).up hm hstate.1).assign id htwin
    rw [pure_bind, pure_bind]
    exact hend m _ _ _ _ hm hknown htwin
  · simp only [hsome, hsome']
    rw [pure_bind, pure_bind]
    exact hend m₂ _ _ _ _ (Nat.le_refl _) hstate.1 htwin

theorem gather_tracks (target : Entity) (rows : List (List (Value × Value))) :
    Tracks base size (gather target rows : Run δ (List (Value × Node) × List (Value × List Node))) (gather target rows)
      (GatheredTwins base.records.size) := by
  have hrows : List.Forall₂ (· = ·) rows rows := List.forall₂_same.mpr fun _ _ => rfl
  refine Tracks.foldlM (lasts_gatheredTwins _) hrows (fun n _ state state' row row' hstate hrow => ?_) ⟨.nil, .nil⟩
  subst hrow
  exact gatherRow_tracks target row hstate

section Statements

variable [Engine δ] (reliable : Reliable δ)
include reliable

/-- A query is answered alike, whatever the records of the run are. -/
theorem select_tracks (q : Select) : Tracks base size (execute (.select q) : Run δ Answer) (execute (.select q))
    fun _ a a' => a' = a := by
  intro v w hclosed _ hw
  have hgives (u u' : World δ) (a : Answer) : Gives (execute (.select q)) u a u' ↔
      (Engine.perform (.execute (.select q)) u.database).1 = .ok a ∧
        u' = { u with
          database := (Engine.perform (.execute (.select q)) u.database).2,
          actions := u.actions.push (.execute (.select q)) } := by
    simp only [execute, ask, Gives.bind_iff, Gives.get_iff, Gives.set_iff, Gives.lift_iff]
    constructor
    · rintro ⟨_, _, ⟨rfl, rfl⟩, _, _, rfl, ha, rfl⟩
      exact ⟨ha, rfl⟩
    · rintro ⟨ha, rfl⟩
      exact ⟨u, u, ⟨rfl, rfl⟩, ⟨⟩, _, rfl, ha, rfl⟩
  -- The states may differ in what was asked before, but the database repeats its answers.
  have hsame := reliable.repeats q v.database w.database
  cases ha : (Engine.perform (.execute (.select q)) v.database).1 with
  | ok a =>
    refine .inl ⟨a, _, a, _, (hgives v _ a).mpr ⟨ha, rfl⟩, (hgives w _ a).mpr ⟨hsame ▸ ha, rfl⟩, hclosed, Nat.le_refl _,
      hw, rfl⟩
  | error e =>
    refine .inr ⟨fun a v' h => ?_, fun a w' h => ?_⟩
    · have hok := ((hgives v v' a).mp h).1
      rw [ha] at hok
      cases hok
    · have hok := ((hgives w w' a).mp h).1
      rw [← hsame, ha] at hok
      cases hok

/-- A query fetches twins of what it fetches. -/
theorem fetchRecords_tracks (target : Entity) (sel : Select) : Tracks base size (fetchRecords target sel : Run δ (List Node))
    (fetchRecords target sel) fun n => List.Forall₂ (Node.Twin base.records.size n) := by
  unfold fetchRecords
  refine (select_tracks reliable sel).bind fun n _ answer answer' hanswer => ?_
  rw [hanswer]
  refine (Tracks.lift _).bind fun m _ rows rows' hrows => ?_
  rw [hrows.2]
  have hsame : List.Forall₂ (· = ·) rows rows := List.forall₂_same.mpr fun _ _ => rfl
  refine Tracks.mapM Node.lasts_twin hsame fun k _ row row' hrow => ?_
  subst hrow
  exact recordOfRow_tracks target row

end Statements

end Loader

end EntityViews
