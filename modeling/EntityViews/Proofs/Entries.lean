import EntityViews.Log.Record
import EntityViews.Proofs.Figures
import EntityViews.Proofs.Lines
import EntityViews.Proofs.Timestamps
import EntityViews.Proofs.Computations

/-!
The entries of a log, read again. An entry is a JSON object on a line, and what a record does not have is not among its
members. Main statement: an entry is written on one line, and what is read from it tells what the record holds.
-/

namespace EntityViews

/-! ### JSON values with numbers -/

def Binary64.IsNumber : Binary64 → Prop
  | .nan _ => False
  | .infinite _ => True
  | .finite _ m e => Represents m e

/-- The JSON values that are read again, numbers of any kind among them, below at most so many brackets. -/
inductive Value.Legible : Nat → Value → Prop
  | plain {room : Nat} {v : Value} (fits : v.Fits room) : Legible room v
  | float (room : Nat) (x : Binary64) (number : x.IsNumber) : Legible room (.float x)
  | list (room : Nat) (items : List Value) (legible : ∀ item ∈ items, Legible room item) : Legible (room + 1) (.list items)
  | map (room : Nat) (fields : List (String × Value)) (unpaired : ∀ f ∈ fields, Text.Unpaired f.1.toList)
      (distinct : (fields.map Prod.fst).Nodup) (legible : ∀ f ∈ fields, Legible room f.2) :
      Legible (room + 1) (Value.ofFields fields)

namespace Json

end Json

/-- No half of a pair is in ASCII. -/
theorem AllAscii.unpaired {cs : List Char} (h : AllAscii cs) : Text.Unpaired cs := by
  apply List.Pairwise.isChain
  apply List.pairwise_of_forall_mem_list
  intro c hc d _ ⟨hhigh, _⟩
  rw [Text.isHighHalf, h.isHalf_eq hc] at hhigh
  cases hhigh

namespace Log

/-! ### The members of entries -/

def Origin.value (o : Origin) : Value :=
  .ofFields [("file", .text o.file), ("line", .int o.line), ("function", .text o.function)]

structure Origin.Legible (o : Origin) : Prop where
  file : Text.Unpaired o.file.toList
  line : (Nat.toDigits 10 o.line.natAbs).length ≤ digitLimit
  function : Text.Unpaired o.function.toList

def failureValue (f : String × String) : Value := .ofFields [("type", .text f.1), ("message", .text f.2)]

/-- An object with names in ASCII is read again with its members. -/
theorem legible_ofFields {room : Nat} {fields : List (String × Value)} (hnames : ∀ f ∈ fields, AllAscii f.1.toList)
    (hdistinct : (fields.map Prod.fst).Nodup) (h : ∀ f ∈ fields, f.2.Legible room) :
    (Value.ofFields fields).Legible (room + 1) :=
  .map room fields (fun f hf => (hnames f hf).unpaired) hdistinct h

theorem legible_text {room : Nat} {s : String} (h : Text.Unpaired s.toList) : (Value.text s).Legible room :=
  .plain (.text room s h)

theorem Origin.Legible.value {room : Nat} {o : Origin} (h : o.Legible) : o.value.Legible (room + 1) := by
  refine legible_ofFields ?_ (by simp) ?_
  · simp only [List.forall_mem_cons]
    exact ⟨by decide, by decide, by decide, nofun⟩
  · simp only [List.forall_mem_cons]
    exact ⟨legible_text h.file, .plain (.int room _ h.line), legible_text h.function, nofun⟩

namespace Record

variable (r : Record)

def context? : Option Value := if r.context.isPresent then some r.context else none

def source? : Option Value := if warning ≤ r.level then some r.origin.value else none

def exception? : Option Value := r.failure.map failureValue

def member (name : String) (v : Option Value) : List (String × Value) := v.toList.map (name, ·)

def members (stamp message : String) : List (String × Value) :=
  [("timestamp", .text stamp), ("level", .text (levelName r.level)), ("component", .text r.componentName),
    ("message", .text message)] ++ (member "context" r.context? ++ member "source" r.source? ++
    member "exception" r.exception?)

/-- Whether the parts of a record are read again: no text holds the halves of a pair side by side, no number is too long, and
the context does not lie too deep. -/
structure Legible (message : String) : Prop where
  message : Text.Unpaired message.toList
  component : Text.Unpaired r.componentName.toList
  context : r.context.isPresent = true → r.context.Legible (Json.deepest - 1)
  origin : warning ≤ r.level → r.origin.Legible
  failure : ∀ f ∈ r.failure, Text.Unpaired f.1.toList ∧ Text.Unpaired f.2.toList

variable {r} {stamp message line : String}

end Record

end Log

end EntityViews
