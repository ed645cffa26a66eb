import EntityViews.Proofs.Computations
import EntityViews.View.Reader

/-!
How views are spelled. A view is a map that may list fields and map relations to further views, and a list of fields can
stand for a view wherever one is expected. Main statement: a value is read as a view exactly if it spells it.
-/

namespace EntityViews.View

def Lists (v : Value) (names : List String) : Prop :=
  ∃ items, (v = .list items ∨ v = .tuple items ∨ v = .set items) ∧
    List.Forall₂ (fun item name => item.asText? = some name) items names

def given? (word : String) (entries : List (Value × Value)) : Option Value :=
  (entries.find? fun e => e.1.same (.text word)).map Prod.snd

def ListsFields (entries : List (Value × Value)) (fields : List String) : Prop :=
  match given? "fields" entries with
  | some v => Lists v fields
  | none => fields = []

/-- What a map has for relations. Nothing in their place counts as a map without entries. -/
def givenRelations? (entries : List (Value × Value)) : Option (List (Value × Value)) :=
  match given? "relations" entries with
  | none | some .null => some []
  | some (.map given) => some given
  | some _ => none

mutual

/-- Whether a value spells a view below the outermost level. -/
inductive Spells : Value → View → Prop
  | names {v : Value} {fields : List String} (h : Lists v fields) : Spells v (.names fields)
  | full {entries given : List (Value × Value)} {fields : List String} {relations : List (String × View)}
      (hfields : ListsFields entries fields) (hgiven : givenRelations? entries = some given)
      (hrelations : SpellsRelations given relations) : Spells (.map entries) (.full fields relations)

inductive SpellsRelations : List (Value × Value) → List (String × View) → Prop
  | nil : SpellsRelations [] []
  | cons {key value : Value} {rest : List (Value × Value)} {name : String} {view : View} {views : List (String × View)}
      (hname : key.asText? = some name) (hview : Spells value view) (hrest : SpellsRelations rest views) :
      SpellsRelations ((key, value) :: rest) ((name, view) :: views)

end

/-- Whether a value spells a view. At the outermost level no set does, and a list of names stands for a map of fields. -/
inductive Spelled : Value → View → Prop
  | names {v : Value} {fields : List String} (h : Lists v fields) (hset : ∀ items, v ≠ .set items) :
      Spelled v (.full fields [])
  | map {entries : List (Value × Value)} {view : View} (h : Spells (.map entries) view) : Spelled (.map entries) view

/-- A map is no list of names, so that the two ways to spell a view are apart. -/
theorem not_lists_map {entries : List (Value × Value)} {names : List String} : ¬Lists (.map entries) names := by
  simp [Lists]

/-- Names are read from whatever lists them. -/
theorem namesOf?_eq_some_iff {v : Value} {names : List String} : namesOf? v = some names ↔ Lists v names := by
  cases v with
  | list items | tuple items | set items => simp [namesOf?, Lists, mapM_eq_some_iff]
  | scalar | map => simp [namesOf?, Lists]

theorem given?_eq (word : String) (entries : List (Value × Value)) : given? word entries = lookup? (.text word) entries :=
  rfl

/-- Fields are read from what a map has for them. -/
theorem fieldsIn?_eq_some_iff {entries : List (Value × Value)} {fields : List String} :
    fieldsIn? entries = some fields ↔ ListsFields entries fields := by
  rw [fieldsIn?, ListsFields, given?_eq]
  cases lookup? (.text "fields") entries with
  | none => simp [eq_comm]
  | some v => exact namesOf?_eq_some_iff

/-- The first entry for a word counts. -/
theorem given?_cons (word : String) (key value : Value) (rest : List (Value × Value)) :
    given? word ((key, value) :: rest) = if key.same (.text word) then some value else given? word rest := by
  rw [given?, List.find?_cons]
  cases key.same (.text word) <;> rfl

theorem spellsRelations_nil_iff {views : List (String × View)} : SpellsRelations [] views ↔ [] = views := by
  constructor
  · rintro ⟨⟩
    rfl
  · rintro rfl
    exact .nil

mutual

/-- Relations are read from what a map has for them. -/
theorem relationsIn?_eq_some_iff : (entries : List (Value × Value)) → ∀ relations : List (String × View),
    relationsIn? entries = some relations ↔ ∃ given, givenRelations? entries = some given ∧ SpellsRelations given relations
  | [], relations => by
    simp [relationsIn?, givenRelations?, given?, spellsRelations_nil_iff]
  | (key, value) :: rest, relations => by
    rw [givenRelations?, given?_cons]
    unfold relationsIn?
    split
    · -- This is the entry for the relations; what it has is nothing, a map, or no relations at all.
      split
      · simp [spellsRelations_nil_iff]
      · rename_i given
        refine (relationEntries?_eq_some_iff given relations).trans ?_
        simp
      · rename_i hnull hmap
        constructor
        · rintro ⟨⟩
        · rintro ⟨given, hgiven, _⟩
          split at hgiven
          · contradiction
          · rename_i h
            exact absurd (Option.some.inj h) hnull
          · rename_i given' h
            exact absurd (Option.some.inj h) (hmap given')
          · cases hgiven
    · exact relationsIn?_eq_some_iff rest relations

/-- Relations are read one by one, each as the view that is spelled for it. -/
theorem relationEntries?_eq_some_iff : (entries : List (Value × Value)) → ∀ relations : List (String × View),
    relationEntries? entries = some relations ↔ SpellsRelations entries relations
  | [], relations => by
    simp [relationEntries?, spellsRelations_nil_iff]
  | (key, .map inner) :: rest, relations => by
    have hinner := relationsIn?_eq_some_iff inner
    have hrest := relationEntries?_eq_some_iff rest
    rw [relationEntries?]
    simp only [Option.bind_eq_bind, Option.pure_def, Option.bind_eq_some_iff, Option.some.injEq]
    constructor
    · rintro ⟨name, hname, fields, hfields, below, hbelow, _, rfl, views, hviews, rfl⟩
      obtain ⟨given, hgiven, hbelow⟩ := (hinner below).mp hbelow
      exact .cons hname (.full (fieldsIn?_eq_some_iff.mp hfields) hgiven hbelow) ((hrest views).mp hviews)
    · rintro (_ | ⟨hname, hview, hviews⟩)
      cases hview with
      | names h => exact absurd h not_lists_map
      | full hfields hgiven hbelow =>
        exact ⟨_, hname, _, fieldsIn?_eq_some_iff.mpr hfields, _, (hinner _).mpr ⟨_, hgiven, hbelow⟩, _, rfl, _,
          (hrest _).mpr hviews, rfl⟩
  | (key, .scalar _) :: rest, relations | (key, .list _) :: rest, relations | (key, .tuple _) :: rest, relations
  | (key, .set _) :: rest, relations => by
    have hrest := relationEntries?_eq_some_iff rest
    rw [relationEntries?]
    simp only [Option.bind_eq_bind, Option.pure_def, Option.bind_eq_some_iff, Option.some.injEq, Option.map_eq_some_iff,
      namesOf?_eq_some_iff]
    constructor
    · rintro ⟨name, hname, _, ⟨fields, hfields, rfl⟩, views, hviews, rfl⟩
      exact .cons hname (.names hfields) ((hrest views).mp hviews)
    · rintro (_ | ⟨hname, hview, hviews⟩)
      cases hview with
      | names h => exact ⟨_, hname, _, ⟨_, h, rfl⟩, _, (hrest _).mpr hviews, rfl⟩

end

/-- A map is read as a view exactly if it spells it. -/
theorem ofMap?_eq_some_iff {entries : List (Value × Value)} {view : View} :
    ofMap? entries = some view ↔ Spells (.map entries) view := by
  rw [ofMap?]
  simp only [Option.bind_eq_bind, Option.pure_def, Option.bind_eq_some_iff, Option.some.injEq, fieldsIn?_eq_some_iff,
    relationsIn?_eq_some_iff]
  constructor
  · rintro ⟨fields, hfields, relations, ⟨given, hgiven, hrelations⟩, rfl⟩
    exact .full hfields hgiven hrelations
  · intro h
    cases h with
    | names h => exact absurd h not_lists_map
    | full hfields hgiven hrelations => exact ⟨_, hfields, _, ⟨_, hgiven, hrelations⟩, rfl⟩

/-- A value is read as a view exactly if it spells it. -/
theorem ofValue_eq_ok_iff {v : Value} {view : View} : ofValue v = .ok view ↔ Spelled v view := by
  cases v with
  | scalar a =>
    constructor
    · rintro ⟨⟩
    · rintro (⟨h, _⟩ | _)
      simp [Lists] at h
  | set items =>
    constructor
    · rintro ⟨⟩
    · rintro (⟨_, hset⟩ | _)
      exact absurd rfl (hset items)
  | list items | tuple items =>
    rw [ofValue, namesOf?]
    constructor
    · intro h
      split at h
      · rename_i fields hfields
        cases h
        exact .names (namesOf?_eq_some_iff.mp hfields) nofun
      · cases h
    · rintro (⟨h, _⟩ | _)
      have hfields := namesOf?_eq_some_iff.mpr h
      rw [namesOf?] at hfields
      rw [hfields]
  | map entries =>
    rw [ofValue]
    constructor
    · intro h
      split at h
      · rename_i view' hview
        cases h
        exact .map (ofMap?_eq_some_iff.mp hview)
      · cases h
    · rintro (⟨h, _⟩ | h)
      · exact absurd h not_lists_map
      · rw [ofMap?_eq_some_iff.mpr h]

end EntityViews.View
