import EntityViews.Learning.Sources
import EntityViews.Record.Path
import EntityViews.Proofs.Trail
import EntityViews.Proofs.Computations
import Mathlib.Data.List.Forall2

/-!
Walks along paths in stages. A walk goes by segments, one relation at a time, so a path of two parts is walked by walking
its parts one after the other, and what several records lead to is what each of them leads to, in turn. Main statement:
a path of two parts resolves exactly as its parts do.
-/

namespace EntityViews

/-- Steps along a list give a list if each of them gives its member. -/
theorem Except.mapM_ok_iff {α β : Type} {g : α → Except Fault β} {xs : List α} {ys : List β} :
    xs.mapM g = .ok ys ↔ List.Forall₂ (fun x y => g x = .ok y) xs ys := by
  induction xs generalizing ys with
  | nil =>
    constructor
    · intro h
      rw [Except.mapM_nil_ok h]
      exact .nil
    · rintro ⟨⟩
      rfl
  | cons x xs ih =>
    constructor
    · intro h
      obtain ⟨y, ys', hx, hxs, rfl⟩ := Except.mapM_cons_ok h
      exact .cons hx (ih.mp hxs)
    · rintro (_ | ⟨hx, hxs⟩)
      rw [List.mapM_cons, hx, ih.mpr hxs]
      rfl

namespace EntityFields

/-- The fields that some segments lead to; none if one of them is not read as a relation, or the relation leads to no
fields. -/
def along? (graph : Graph) (f : EntityFields) : List String → Option EntityFields
  | [] => some f
  | segment :: rest =>
    match f.forSegment? segment with
    | some (.relation r) => (graph r.target).toOption.bind fun target => target.along? graph rest
    | _ => none

def AllToOne (graph : Graph) (f : EntityFields) : List String → Prop
  | [] => True
  | segment :: rest => ∃ r, f.forSegment? segment = some (.relation r) ∧ r.cardinality = .toOne ∧
      ∀ target, graph r.target = .ok target → target.AllToOne graph rest

theorem along?_cons {graph : Graph} {f last : EntityFields} {segment : String} {rest : List String} {r : RelationSource}
    (hr : f.forSegment? segment = some (.relation r)) :
    f.along? graph (segment :: rest) = some last ↔
      ∃ target, graph r.target = .ok target ∧ target.along? graph rest = some last := by
  rw [along?, hr]
  simp only [Option.bind_eq_some_iff, Except.toOption_eq_some_iff]

end EntityFields

namespace Store

variable {s : Store} {graph : Graph} {f : EntityFields}

def LeadsOn (s : Store) (r : RelationSource) (record : Node) (group : List Node) : Prop :=
  -- What would be said of a failure is left open.
  ∀ path here, s.follow path here r record = .ok group

/-- A relation can be followed from a record that leads on along it. -/
theorem follow_ok_iff {path here : String} {r : RelationSource} {record : Node} {group : List Node} :
    s.follow path here r record = .ok group ↔ s.LeadsOn r record group := by
  -- The two paths are mentioned in faults only.
  constructor
  · intro h path' here'
    obtain ⟨related, hask, h⟩ := Except.bind_ok h
    rw [follow, hask]
    cases hkind : r.cardinality with
    | toOne =>
      rw [hkind] at h
      cases related with
      | none => cases h
      | some n =>
        dsimp only [bind, Except.bind] at h ⊢
        by_cases hpresent : s.isPresent n = true
        · rwa [if_pos hpresent] at h ⊢
        · rw [if_neg hpresent] at h
          cases h
    | toMany =>
      rw [hkind] at h
      dsimp only [bind, Except.bind] at h ⊢
      split at h
      · cases h
      · cases h
      · exact h
    | other word =>
      rw [hkind] at h
      cases h
  · exact fun h => h path here

/-- A relation to one record leads to exactly one. -/
theorem LeadsOn.toOne {r : RelationSource} {record : Node} {group : List Node} (h : s.LeadsOn r record group)
    (hone : r.cardinality = .toOne) : ∃ n, group = [n] := by
  obtain ⟨related, _, h⟩ := Except.bind_ok (h "" "")
  rw [hone] at h
  cases related with
  | none => cases h
  | some n =>
    dsimp only at h
    split at h
    · exact ⟨n, (Except.ok.inj h).symm⟩
    · cases h

/-- A relation can be followed from several records if each of them leads on. -/
theorem followAll_ok_iff {path here : String} {r : RelationSource} {records found : List Node} :
    s.followAll path here r records = .ok found ↔
      ∃ groups, List.Forall₂ (s.LeadsOn r) records groups ∧ found = groups.flatten := by
  have hgroups : ∀ groups, records.mapM (s.follow path here r) = .ok groups ↔
      List.Forall₂ (s.LeadsOn r) records groups := by
    intro groups
    rw [Except.mapM_ok_iff]
    simp only [follow_ok_iff]
  rw [followAll]
  constructor
  · intro h
    obtain ⟨groups, hfollow, h⟩ := Except.bind_ok h
    exact ⟨groups, (hgroups groups).mp hfollow, (Except.ok.inj h).symm⟩
  · rintro ⟨groups, hall, rfl⟩
    rw [(hgroups groups).mpr hall]
    rfl

/-- What a walk from some records comes to. The fields behind the last segment are not asked for. -/
def Walked (s : Store) (graph : Graph) : EntityFields → List Node → List String → List Node → Prop
  | _, records, [], found => found = records
  | f, records, segment :: rest, found => ∃ r groups target, f.forSegment? segment = some (.relation r) ∧
      List.Forall₂ (s.LeadsOn r) records groups ∧ (rest ≠ [] → graph r.target = .ok target) ∧
      s.Walked graph target groups.flatten rest found

/-- A walk comes to its end if the records lead on along each of its segments. -/
theorem walk_ok_iff {path : String} {walked segments : List String} {records found : List Node} :
    s.walk graph path f walked records segments = .ok found ↔ s.Walked graph f records segments found := by
  induction segments generalizing f walked records with
  | nil =>
    rw [walk, Walked, Except.ok.injEq]
    exact eq_comm
  | cons segment rest ih =>
    rw [walk, Walked]
    cases hread : f.forSegment? segment with
    | none => simp
    | some source =>
      cases source with
      | relation r =>
        dsimp only
        -- Behind the last segment the fields of the target are not asked for, so that any may stand for them.
        constructor
        · intro h
          obtain ⟨next, hnext, h⟩ := Except.bind_ok h
          obtain ⟨groups, hgroups, rfl⟩ := followAll_ok_iff.mp hnext
          cases rest with
          | nil =>
            rw [List.isEmpty_nil, if_pos rfl] at h
            exact ⟨r, groups, f, rfl, hgroups, fun hne => absurd rfl hne, (Except.ok.inj h).symm⟩
          | cons next rest =>
            rw [List.isEmpty_cons, if_neg (by decide)] at h
            obtain ⟨target, htarget, h⟩ := Except.bind_ok h
            exact ⟨r, groups, target, rfl, hgroups, fun _ => htarget, ih.mp h⟩
        · rintro ⟨r', groups, target, hr, hgroups, htarget, hrest⟩
          cases hr
          refine Except.bind_eq_ok (followAll_ok_iff.mpr ⟨groups, hgroups, rfl⟩) ?_
          cases rest with
          | nil =>
            rw [List.isEmpty_nil, if_pos rfl, show found = groups.flatten from hrest]
            rfl
          | cons next rest =>
            rw [List.isEmpty_cons, if_neg (by decide)]
            exact Except.bind_eq_ok (htarget (List.cons_ne_nil _ _)) (ih.mpr hrest)
      | _ => simp

theorem resolve_ok_iff {path : String} (hpath : path ≠ "") {roots found : List Node} :
    s.resolve graph f path roots = .ok found ↔ s.Walked graph f roots (Text.segments path) found := by
  rw [resolve, if_neg hpath, walk_ok_iff]

namespace Walked

variable {records found : List Node} {segments : List String}

/-- Walking on is walking on from what was found, under the fields that were come to. -/
theorem append_iff {further : List String} (hfurther : further ≠ []) :
    s.Walked graph f records (segments ++ further) found ↔
      ∃ middle target, s.Walked graph f records segments middle ∧ f.along? graph segments = some target ∧
        s.Walked graph target middle further found := by
  induction segments generalizing f records with
  | nil =>
    constructor
    · exact fun h => ⟨records, f, rfl, rfl, h⟩
    · rintro ⟨_, _, rfl, ⟨⟩, h⟩
      exact h
  | cons segment rest ih =>
    have hmore : rest ++ further ≠ [] := fun h => hfurther (List.append_eq_nil_iff.mp h).2
    constructor
    · rintro ⟨r, groups, target, hr, hgroups, htarget, h⟩
      obtain ⟨middle, last, hmiddle, hlast, h⟩ := ih.mp h
      have htarget := htarget hmore
      exact ⟨middle, last, ⟨r, groups, target, hr, hgroups, fun _ => htarget, hmiddle⟩,
        (EntityFields.along?_cons hr).mpr ⟨target, htarget, hlast⟩, h⟩
    · rintro ⟨middle, last, ⟨r, groups, target', hr, hgroups, htarget', hmiddle⟩, hlast, h⟩
      obtain ⟨target, htarget, hlast⟩ := (EntityFields.along?_cons hr).mp hlast
      refine ⟨r, groups, target, hr, hgroups, fun _ => htarget, ih.mpr ⟨middle, last, ?_, hlast, h⟩⟩
      -- Behind the last segment the walk stands still, whatever the fields are there.
      cases rest with
      | nil => exact hmiddle
      | cons next rest =>
        cases (htarget' (List.cons_ne_nil _ _)).symm.trans htarget
        exact hmiddle

/-- A walk from two lists of records is a walk from each of them. -/
theorem of_append {xs ys : List Node} (h : s.Walked graph f (xs ++ ys) segments found) :
    ∃ left right, s.Walked graph f xs segments left ∧ s.Walked graph f ys segments right ∧ found = left ++ right := by
  induction segments generalizing f xs ys with
  | nil => exact ⟨xs, ys, rfl, rfl, h⟩
  | cons segment rest ih =>
    obtain ⟨r, groups, target, hr, hgroups, htarget, h⟩ := h
    have hleft := (List.forall₂_take_append groups xs ys hgroups.flip).flip
    have hright := (List.forall₂_drop_append groups xs ys hgroups.flip).flip
    rw [← List.take_append_drop xs.length groups, List.flatten_append] at h
    obtain ⟨left, right, hl, hr', rfl⟩ := ih h
    exact ⟨left, right, ⟨r, _, target, hr, hleft, htarget, hl⟩, ⟨r, _, target, hr, hright, htarget, hr'⟩, rfl⟩

theorem eq_nil (h : s.Walked graph f [] segments found) : found = [] := by
  induction segments generalizing f with
  | nil => exact h
  | cons segment rest ih =>
    obtain ⟨_, _, _, _, ⟨⟩, _, h⟩ := h
    exact ih h

/-- What is found stands in groups, one for each record, in their order. -/
theorem grouped (h : s.Walked graph f records segments found) :
    ∃ groups, List.Forall₂ (fun record group => s.Walked graph f [record] segments group) records groups ∧
      found = groups.flatten := by
  induction records generalizing found with
  | nil => exact ⟨[], .nil, h.eq_nil⟩
  | cons record records ih =>
    obtain ⟨group, others, hgroup, hothers, rfl⟩ := of_append (show s.Walked graph f ([record] ++ records) segments found from h)
    obtain ⟨groups, hgroups, rfl⟩ := ih hothers
    exact ⟨group :: groups, .cons hgroup hgroups, rfl⟩

/-- Along relations to one record there are as many records at the end as at the start. -/
theorem length_eq (hone : f.AllToOne graph segments) (h : s.Walked graph f records segments found) :
    found.length = records.length := by
  induction segments generalizing f records with
  | nil => rw [show found = records from h]
  | cons segment rest ih =>
    obtain ⟨r, groups, target, hr, hgroups, htarget, h⟩ := h
    obtain ⟨r', hr', hkind, hone⟩ := hone
    cases hr.symm.trans hr'
    have hnext : groups.flatten.length = records.length := by
      clear h
      induction hgroups with
      | nil => rfl
      | cons hgroup _ ih =>
        obtain ⟨n, rfl⟩ := hgroup.toOne hkind
        simp [ih]
    rw [← hnext]
    cases rest with
    | nil => rw [show found = groups.flatten from h]
    | cons next rest => exact ih (hone target (htarget (List.cons_ne_nil _ _))) h

/-- Where every relation leads to fields, a walk that succeeds comes to some. -/
theorem exists_along (hgraph : ∀ entity, ∃ target, graph entity = .ok target)
    (h : s.Walked graph f records segments found) : ∃ target, f.along? graph segments = some target := by
  induction segments generalizing f records with
  | nil => exact ⟨f, rfl⟩
  | cons segment rest ih =>
    obtain ⟨r, groups, target', hr, _, htarget', h⟩ := h
    obtain ⟨target, htarget⟩ := hgraph r.target
    have hrest : s.Walked graph target groups.flatten rest found := by
      cases rest with
      | nil => exact h
      | cons next rest =>
        cases (htarget' (List.cons_ne_nil _ _)).symm.trans htarget
        exact h
    obtain ⟨last, hlast⟩ := ih hrest
    exact ⟨last, (EntityFields.along?_cons hr).mpr ⟨target, htarget, hlast⟩⟩

end Walked

/-- A path of two parts is resolved by resolving the second part from what the first one leads to, under the fields that
the first one leads to, which are there if all relations lead to fields. What a path leads to stands in groups, one for
each root in the order of the roots; along relations to one record each group is one record. -/
theorem resolve_dotted {p q : String} (hp : p ≠ "") (hq : q ≠ "") (roots : List Node) :
    (∀ found, s.resolve graph f (p ++ "." ++ q) roots = .ok found ↔
      ∃ middle target, s.resolve graph f p roots = .ok middle ∧ f.along? graph (Text.segments p) = some target ∧
        s.resolve graph target q middle = .ok found) ∧
    ∀ found, s.resolve graph f p roots = .ok found →
      ((∀ entity, ∃ target, graph entity = .ok target) → ∃ target, f.along? graph (Text.segments p) = some target) ∧
      ∃ groups, found = groups.flatten ∧ List.Forall₂ (fun root group => s.resolve graph f p [root] = .ok group ∧
        (f.AllToOne graph (Text.segments p) → ∃ n, group = [n])) roots groups := by
  have hdotted : p ++ "." ++ q ≠ "" := by
    intro h
    have hlength := congrArg String.length h
    simp at hlength
  have hsegments : Text.segments q ≠ [] := by
    rw [Text.segments, Text.splitAt, Ne, List.map_eq_nil_iff]
    exact Text.splitChars_ne_nil _ _
  simp only [resolve_ok_iff hp, resolve_ok_iff hq, resolve_ok_iff hdotted, Text.segments_append]
  refine ⟨fun found => Walked.append_iff hsegments, ?_⟩
  intro found h
  obtain ⟨groups, hgroups, rfl⟩ := h.grouped
  refine ⟨fun hgraph => h.exists_along hgraph, groups, rfl, hgroups.imp ?_⟩
  intro root group hgroup
  exact ⟨hgroup, fun hone => List.length_eq_one_iff.mp (hgroup.length_eq hone)⟩

def collected : Store where
  records := #[[(.text "id", .scalar (.int 7)), (.text "collection", .record 1)],
    [(.text "id", .scalar (.int 3)), (.text "texts", .list [.record 0, .record 2])],
    [(.text "id", .scalar (.int 8)), (.text "collection", .record 1)]]

/-- The texts of the collections of two texts, one of which is asked for twice. -/
theorem resolve_dotted_collected :
    "collection" ≠ "" ∧ "texts" ≠ "" ∧ ∃ f middle target groups, Learning.registry.graph "Text" = .ok f ∧
      collected.resolve Learning.registry.graph f "collection" [.record 0, .record 2, .record 0] = .ok middle ∧
      f.along? Learning.registry.graph (Text.segments "collection") = some target ∧
      collected.resolve Learning.registry.graph target "texts" middle =
        .ok [.record 0, .record 2, .record 0, .record 2, .record 0, .record 2] ∧
      middle = groups.flatten ∧
      List.Forall₂ (fun _ group => ∃ n, group = [n]) [Node.record 0, .record 2, .record 0] groups := by
  obtain ⟨f, hf⟩ : ∃ f, Learning.registry.graph "Text" = .ok f := ⟨_, rfl⟩
  have hfound : collected.resolve Learning.registry.graph f ("collection" ++ "." ++ "texts")
      [.record 0, .record 2, .record 0] = .ok [.record 0, .record 2, .record 0, .record 2, .record 0, .record 2] := by
    cases hf
    rfl
  have hone : f.AllToOne Learning.registry.graph (Text.segments "collection") := by
    cases hf
    exact ⟨_, rfl, rfl, fun _ _ => trivial⟩
  obtain ⟨hiff, hgrouped⟩ := @resolve_dotted collected Learning.registry.graph f "collection" "texts" (by decide)
    (by decide) [.record 0, .record 2, .record 0]
  obtain ⟨middle, target, hmiddle, htarget, hrest⟩ := (hiff _).mp hfound
  obtain ⟨_, groups, hflat, hgroups⟩ := hgrouped middle hmiddle
  exact ⟨by decide, by decide, f, middle, target, groups, hf, hmiddle, htarget, hrest, hflat,
    hgroups.imp fun _ _ h => h.2 hone⟩

end Store

end EntityViews
