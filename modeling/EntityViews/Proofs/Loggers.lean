import EntityViews.Log.Journal
import EntityViews.Proofs.Computations

/-!
The marks of loggers. The logger of a component is shared by all components that read alike in lower case, and the first of
them that was asked for marks its records for good. Main statement: so the records of a component's logger name the component
just when no other one that reads alike was asked for before it.
-/

namespace EntityViews.Log

/-- Components share a logger exactly if their names differ in case only. -/
theorem loggerName_eq_iff {a b : String} : loggerName a = loggerName b ↔ Text.toLower a = Text.toLower b := by
  constructor
  · intro h
    have hlists := congrArg String.toList h
    simp only [loggerName, String.toList_append] at hlists
    exact String.toList_injective (List.append_cancel_left hlists)
  · intro h
    rw [loggerName, loggerName, h]

def firstOf (logger : String) (components : List String) : Option String :=
  components.find? fun c => loggerName c == logger

namespace Journal

/-- Whether a journal is met after the loggers of some components were asked for, in this order, whatever was logged and set
up before, between and after. -/
inductive Led : List String → Journal → Prop
  | empty : Led [] .empty
  | request {cs : List String} {j : Journal} (h : Led cs j) (c : String) : Led (cs ++ [c]) (j.request c)
  | log {cs : List String} {j : Journal} (h : Led cs j) (r : Record) : Led cs (j.log r)
  | setUp {cs : List String} {j k : Journal} {directory : String} {level : Value} {time : Binary64} (h : Led cs j)
      (hk : j.setUp directory level time = .ok k) : Led cs k

structure Keeps (j : Journal) (cs : List String) : Prop where
  components : ∀ c, c ∈ j.components ↔ c ∈ cs
  mark : ∀ logger, j.mark? logger = firstOf logger cs

theorem log_marks (j : Journal) (r : Record) : (j.log r).marks = j.marks ∧ (j.log r).components = j.components := by
  rw [log]
  split
  · exact ⟨rfl, rfl⟩
  · exact ⟨rfl, rfl⟩

/-- To set up the log files leaves the components of all loggers as they are. -/
theorem setUp_marks {j k : Journal} {directory : String} {level : Value} {time : Binary64}
    (h : j.setUp directory level time = .ok k) : k.marks = j.marks ∧ k.components = j.components := by
  unfold setUp at h
  split at h
  · cases h
  · obtain ⟨n, -, h⟩ := Except.bind_ok h
    cases h
    exact log_marks _ _

namespace Keeps

variable {j k : Journal} {cs : List String}

theorem of_marks (h : j.Keeps cs) (hk : k.marks = j.marks ∧ k.components = j.components) : k.Keeps cs := by
  refine ⟨fun c => hk.2 ▸ h.components c, fun logger => ?_⟩
  rw [mark?, hk.1]
  exact h.mark logger

/-- The first request for a component marks its logger, unless another one has marked it. -/
theorem request (h : j.Keeps cs) (c : String) : (j.request c).Keeps (cs ++ [c]) := by
  rw [Journal.request]
  by_cases hc : c ∈ j.components
  · rw [if_pos hc]
    have hmem : c ∈ cs := (h.components c).mp hc
    refine ⟨fun d => ?_, fun logger => ?_⟩
    · rw [h.components, List.mem_append, List.mem_singleton]
      exact ⟨.inl, fun hd => hd.elim id fun hd => hd ▸ hmem⟩
    · -- If the component has this logger at all, it or an earlier one was found before.
      rw [h.mark, firstOf, firstOf, List.find?_append]
      cases hfound : cs.find? fun d => loggerName d == logger with
      | some d => rfl
      | none =>
        have hother := List.find?_eq_none.mp hfound c hmem
        rw [Option.none_or, List.find?_singleton, if_neg hother]
  · rw [if_neg hc]
    refine ⟨fun d => ?_, fun logger => ?_⟩
    · rw [List.mem_cons, h.components, List.mem_append, List.mem_singleton, or_comm]
    · have hmark : Option.map Prod.snd (j.marks.find? fun m => m.1 == logger) = firstOf logger cs := h.mark logger
      rw [mark?, List.find?_append, firstOf, List.find?_append, ← firstOf, ← hmark]
      cases j.marks.find? fun m => m.1 == logger with
      | some m => rfl
      | none =>
        rw [Option.map_none, Option.none_or, Option.none_or, List.find?_singleton, List.find?_singleton]
        split
        · rfl
        · rfl

end Keeps

theorem Led.keeps {cs : List String} {j : Journal} (h : Led cs j) : j.Keeps cs := by
  induction h with
  | empty => exact ⟨fun _ => Iff.rfl, fun _ => rfl⟩
  | request _ c ih => exact ih.request c
  | log _ r ih => exact ih.of_marks (log_marks _ r)
  | setUp _ hk ih => exact ih.of_marks (setUp_marks hk)

/-- The first component that reads like `c` in lower case marks what is logged through the logger of `c`; so it is `c` if and
only if none that reads alike was asked for before. -/
theorem Led.componentName_iff {before after : List String} {c : String} {j : Journal} {r : Record}
    (h : Led (before ++ c :: after) j) (hnew : c ∉ before) (hnamed : ∀ d ∈ before ++ [c], d ≠ "")
    (hlogger : r.logger = loggerName c) (hplain : r.component = none) :
    (before ++ [c]).find? (fun d => Text.toLower d == Text.toLower c) = some (j.marked r).componentName ∧
    ((j.marked r).componentName = c ↔ ∀ d ∈ before, Text.toLower d ≠ Text.toLower c) := by
  have halike : (fun d => loggerName d == loggerName c) = fun d => Text.toLower d == Text.toLower c := by
    funext d
    rw [Bool.eq_iff_iff, beq_iff_eq, beq_iff_eq, loggerName_eq_iff]
  -- Whatever is asked for after `c` comes too late.
  obtain ⟨d, hd⟩ : ∃ d, (before ++ [c]).find? (fun d => Text.toLower d == Text.toLower c) = some d := by
    rw [← Option.isSome_iff_exists, List.find?_isSome]
    exact ⟨c, List.mem_append_right _ List.mem_cons_self, beq_self_eq_true _⟩
  have hmark : j.mark? r.logger = some d := by
    rw [h.keeps.mark, hlogger, firstOf, halike, List.append_cons, List.find?_append, hd]
    rfl
  have hname : (j.marked r).componentName = d := by
    have hcomponent : (j.marked r).component = some d := by
      rw [marked, hplain, ← hmark]
      rfl
    have hne : d ≠ "" := hnamed d (List.mem_of_find?_eq_some hd)
    rw [Record.componentName, hcomponent]
    split
    · next heq => cases heq
    · next heq => exact absurd (Option.some.inj heq) hne
    · next heq => exact (Option.some.inj heq).symm
  rw [hname]
  refine ⟨hd, ?_, ?_⟩
  · rintro rfl e he hlower
    rw [List.find?_append] at hd
    cases hfound : before.find? fun e => Text.toLower e == Text.toLower d with
    | some e' =>
      rw [hfound] at hd
      cases hd
      exact hnew (List.mem_of_find?_eq_some hfound)
    | none => exact List.find?_eq_none.mp hfound e he (beq_iff_eq.mpr hlower)
  · intro hothers
    have hbefore : before.find? (fun e => Text.toLower e == Text.toLower c) = none := by
      rw [List.find?_eq_none]
      exact fun e he => mt beq_iff_eq.mp (hothers e he)
    rw [List.find?_append, hbefore, Option.none_or, List.find?_singleton, if_pos (beq_self_eq_true _)] at hd
    exact (Option.some.inj hd).symm

def slowQuery (component : String) : Record where
  logger := loggerName component
  level := warning
  template := "slow query"
  args := []
  time := .zero false
  origin := ⟨"", 1, ""⟩
  component := none
  context := .null
  failure := none

def repoJournal : Journal := (((empty.request "CLI").request "Repo").log (slowQuery "CLI")).request "Plan"

theorem repoJournal_led : Led (["CLI"] ++ "Repo" :: ["Plan"]) repoJournal :=
  .request (.log (.request (.request .empty "CLI") "Repo") (slowQuery "CLI")) "Plan"

theorem componentName_iff_repo :
    Led (["CLI"] ++ "Repo" :: ["Plan"]) repoJournal ∧ (repoJournal.marked (slowQuery "Repo")).componentName = "Repo" :=
  ⟨repoJournal_led, (repoJournal_led.componentName_iff (r := slowQuery "Repo") (by decide) (by decide) rfl rfl).2.mpr
    (by decide +kernel)⟩

/-- The second of two components that read alike gets records that name the first. -/
theorem componentName_ofTwins : ∃ j, Led ["Plan", "PLAN"] j ∧ (j.marked (slowQuery "PLAN")).componentName = "Plan" :=
  ⟨_, .request (.request .empty "Plan") "PLAN", by decide +kernel⟩

end Journal

end EntityViews.Log
