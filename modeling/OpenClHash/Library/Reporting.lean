import Mathlib.Logic.Basic
import OpenClHash.Library.Fallible

/-!
Owns error reporting by programs that keep a record. Some entries of the record are checked
and some of those have failed; a program answers for its entries if it returns only when none
failed, and raises only when one did or before it made any that is checked. Of the errors only
some are raised; the others are the ends of runs that have no meaning.

Between an entry and the check of it a program carries what it knows in a value; the rules
follow that value through a sequence.
-/

namespace OpenClHash.Library.Reporting

open Fallible

variable {ε σ α β Entry : Type} {log : σ → List Entry} {checked failed : Entry → Prop}
  {raises : ε → Prop}

/-- The record grew by entries of this kind. -/
def Adds (log : σ → List Entry) (kind : Entry → Prop) (before after : σ) : Prop :=
  ∃ entries, log after = entries ++ log before ∧ ∀ entry ∈ entries, kind entry

theorem adds_nothing (kind : Entry → Prop) {before after : σ} (same : log after = log before) :
    Adds log kind before after := ⟨[], same, List.forall_mem_nil _⟩

theorem Adds.trans {kind : Entry → Prop} {before between after : σ}
    (first : Adds log kind before between) (second : Adds log kind between after) :
    Adds log kind before after := by
  obtain ⟨older, grown, olderKind⟩ := first
  obtain ⟨newer, grownAgain, newerKind⟩ := second
  refine ⟨newer ++ older, ?_, List.forall_mem_append.mpr ⟨newerKind, olderKind⟩⟩
  rw [grownAgain, grown, List.append_assoc]

theorem Adds.mono {kind other : Entry → Prop} {before after : σ} (adds : Adds log kind before after)
    (weaker : ∀ entry, kind entry → other entry) : Adds log other before after := by
  obtain ⟨entries, grown, kinds⟩ := adds
  exact ⟨entries, grown, fun entry member => weaker entry (kinds entry member)⟩

theorem adds_composable (kind : Entry → Prop) :
    Composable (Adds log kind) (fun before (_ : ε) after => Adds log kind before after) where
  refl := fun _ => adds_nothing kind rfl
  trans := Adds.trans
  lift := Adds.trans

/-- The program makes entries of this kind only, however it ends. -/
def Makes (log : σ → List Entry) (kind : Entry → Prop) (program : EStateM ε σ α) : Prop :=
  Moves (Adds log kind) (fun before _ after => Adds log kind before after) program

/-- The record grew, and all is sound after it exactly if it was before and no entry failed. -/
def Accounts (log : σ → List Entry) (failed : Entry → Prop) (sound good : Prop)
    (before after : σ) : Prop :=
  ∃ entries, log after = entries ++ log before ∧
    (good ↔ sound ∧ ∀ entry ∈ entries, ¬ failed entry)

theorem Accounts.trans {sound middle good : Prop} {before between after : σ}
    (first : Accounts log failed sound middle before between)
    (second : Accounts log failed middle good between after) :
    Accounts log failed sound good before after := by
  obtain ⟨older, grown, olderIff⟩ := first
  obtain ⟨newer, grownAgain, newerIff⟩ := second
  refine ⟨newer ++ older, ?_, ?_⟩
  · rw [grownAgain, grown, List.append_assoc]
  · rw [newerIff, olderIff, List.forall_mem_append, and_assoc,
      and_comm (b := ∀ entry ∈ newer, ¬ failed entry)]

/-- If all was sound before, `good` tells of the value returned whether it still is; an
exception tells that it is not. -/
def Tracks (log : σ → List Entry) (failed : Entry → Prop) (raises : ε → Prop) (sound : Prop)
    (good : α → Prop) (program : EStateM ε σ α) : Prop :=
  ∀ before, match program.run before with
    | .ok value after => Accounts log failed sound (good value) before after
    | .error failure after => raises failure → Accounts log failed sound False before after

section Tracks

variable {sound : Prop} {good : α → Prop} {program : EStateM ε σ α}

theorem tracks_pure {value : α} (same : good value ↔ sound) :
    Tracks log failed raises sound good (pure value : EStateM ε σ α) := by
  intro before
  exact ⟨[], rfl, by simpa using same⟩

theorem Tracks.bind {later : β → Prop} {next : α → EStateM ε σ β}
    (first : Tracks log failed raises sound good program)
    (second : ∀ value, Tracks log failed raises (good value) later (next value)) :
    Tracks log failed raises sound later (program >>= next) := by
  intro before
  have firstRun := first before
  rw [run_bind]
  cases ran : program.run before with
  | ok value between =>
      rw [ran] at firstRun
      have secondRun := second value between
      cases rest : (next value).run between with
      | ok value' after =>
          rw [rest] at secondRun
          simp only [rest]
          exact firstRun.trans secondRun
      | error failure after =>
          rw [rest] at secondRun
          simp only [rest]
          exact fun raised => firstRun.trans (secondRun raised)
  | error failure after =>
      rw [ran] at firstRun
      exact firstRun

theorem tracks_throw {failure : ε} (unsound : ¬ sound) :
    Tracks log failed raises sound good (throw failure : EStateM ε σ α) := by
  intro before _
  exact ⟨[], rfl, by simpa using unsound⟩

/-- What went wrong before is not mended. -/
theorem tracks_of_unsound {kind : Entry → Prop} (unsound : ¬ sound)
    (makes : Makes log kind program) : Tracks log failed raises sound (fun _ => False) program := by
  intro before
  have run := makes before
  cases ran : program.run before with
  | ok value after =>
      rw [ran] at run
      obtain ⟨entries, grown, _⟩ := run
      exact ⟨entries, grown, false_iff _ |>.mpr fun good => unsound good.1⟩
  | error failure after =>
      rw [ran] at run
      obtain ⟨entries, grown, _⟩ := run
      exact fun _ => ⟨entries, grown, false_iff _ |>.mpr fun good => unsound good.1⟩

/-- Entries that cannot fail leave things as they are, if nothing is raised. -/
theorem tracks_of_returns {kind : Entry → Prop} (harmless : ∀ entry, kind entry → ¬ failed entry)
    (makes : Makes log kind program)
    (returns : ∀ before, ∃ value after, program.run before = .ok value after) :
    Tracks log failed raises sound (fun _ => sound) program := by
  intro before
  have run := makes before
  obtain ⟨value, after, ran⟩ := returns before
  rw [ran] at run ⊢
  obtain ⟨entries, grown, kinds⟩ := run
  refine ⟨entries, grown, (and_iff_left ?_).symm⟩
  exact fun entry member => harmless entry (kinds entry member)

theorem tracks_forM {list : List α} {body : α → EStateM ε σ PUnit}
    (each : ∀ entry ∈ list, Tracks log failed raises True (fun _ => True) (body entry)) :
    Tracks log failed raises True (fun _ => True) (list.forM body) := by
  induction list with
  | nil => exact tracks_pure Iff.rfl
  | cons entry rest inductionHypothesis =>
      show Tracks log failed raises True _ (body entry >>= fun _ => rest.forM body)
      apply (each entry List.mem_cons_self).bind
      intro _
      exact inductionHypothesis fun other member => each other (List.mem_cons_of_mem _ member)

theorem tracks_mapM {list : List α} {body : α → EStateM ε σ β}
    (each : ∀ entry ∈ list, Tracks log failed raises True (fun _ => True) (body entry)) :
    Tracks log failed raises True (fun _ => True) (list.mapM body) := by
  induction list with
  | nil =>
      rw [List.mapM_nil]
      exact tracks_pure Iff.rfl
  | cons entry rest inductionHypothesis =>
      rw [List.mapM_cons]
      apply (each entry List.mem_cons_self).bind
      intro _
      refine Tracks.bind ?_ fun _ => tracks_pure Iff.rfl
      exact inductionHypothesis fun other member => each other (List.mem_cons_of_mem _ member)

end Tracks

/-- The program returns only if none of its entries failed, and raises only if one did or it
made none that is checked. -/
def Answers (log : σ → List Entry) (checked failed : Entry → Prop) (raises : ε → Prop)
    (program : EStateM ε σ α) : Prop :=
  ∀ before, match program.run before with
    | .ok _ after => Adds log (fun entry => ¬ failed entry) before after
    | .error failure after => raises failure →
        (∃ entries, log after = entries ++ log before ∧ ∃ entry ∈ entries, failed entry) ∨
          Adds log (fun entry => ¬ checked entry) before after

section Answers

variable {program : EStateM ε σ α}

theorem Tracks.answers (tracks : Tracks log failed raises True (fun _ => True) program) :
    Answers log checked failed raises program := by
  intro before
  have run := tracks before
  cases ran : program.run before with
  | ok value after =>
      rw [ran] at run
      obtain ⟨entries, grown, sound⟩ := run
      exact ⟨entries, grown, (sound.mp trivial).2⟩
  | error failure after =>
      rw [ran] at run
      intro raised
      obtain ⟨entries, grown, unsound⟩ := run raised
      refine Or.inl ⟨entries, grown, Classical.byContradiction fun none => ?_⟩
      exact unsound.mpr ⟨trivial, fun entry member fails => none ⟨entry, member, fails⟩⟩

/-- A program that makes nothing that is checked answers for what it makes. -/
theorem Makes.answers (harmless : ∀ entry, ¬ checked entry → ¬ failed entry)
    (makes : Makes log (fun entry => ¬ checked entry) program) :
    Answers log checked failed raises program := by
  intro before
  have run := makes before
  cases ran : program.run before with
  | ok value after =>
      rw [ran] at run
      exact run.mono harmless
  | error failure after =>
      rw [ran] at run
      exact fun _ => Or.inr run

/-- Nothing that is checked comes before the rest. -/
theorem Answers.of_guard {next : α → EStateM ε σ β}
    (harmless : ∀ entry, ¬ checked entry → ¬ failed entry)
    (guard : Makes log (fun entry => ¬ checked entry) program)
    (rest : ∀ value, Answers log checked failed raises (next value)) :
    Answers log checked failed raises (program >>= next) := by
  intro before
  have guardRun := guard before
  rw [run_bind]
  cases ran : program.run before with
  | error failure after =>
      rw [ran] at guardRun
      exact fun _ => Or.inr guardRun
  | ok value between =>
      rw [ran] at guardRun
      have restRun := rest value between
      cases later : (next value).run between with
      | ok value' after =>
          rw [later] at restRun
          simp only [later]
          exact (guardRun.mono harmless).trans restRun
      | error failure after =>
          rw [later] at restRun
          simp only [later]
          intro raised
          rcases restRun raised with ⟨newer, grownAgain, entry, member, fails⟩ | unchecked
          · obtain ⟨older, grown, _⟩ := guardRun
            refine Or.inl ⟨newer ++ older, ?_, entry, List.mem_append_left _ member, fails⟩
            rw [grownAgain, grown, List.append_assoc]
          · exact Or.inr (guardRun.trans unchecked)

theorem Answers.map {change : α → β} (answers : Answers log checked failed raises program) :
    Answers log checked failed raises (change <$> program) := by
  intro before
  have run := answers before
  rw [run_map]
  cases ran : program.run before with
  | ok value after =>
      rw [ran] at run
      exact run
  | error failure after =>
      rw [ran] at run
      exact run

/-- If the program returns, none of its entries failed. -/
def Silent (log : σ → List Entry) (failed : Entry → Prop) (program : EStateM ε σ α) : Prop :=
  Moves (Adds log fun entry => ¬ failed entry) (fun _ _ _ => True) program

theorem Answers.silent (answers : Answers log checked failed raises program) :
    Silent log failed program := by
  intro before
  have run := answers before
  cases ran : program.run before with
  | ok value after =>
      rw [ran] at run
      exact run
  | error failure after => trivial

theorem silent_composable (log : σ → List Entry) (failed : Entry → Prop) :
    Composable (Adds log fun entry => ¬ failed entry)
      (fun _ (_ : ε) _ => True) where
  refl := fun _ => adds_nothing _ rfl
  trans := Adds.trans
  lift := fun _ _ => trivial

end Answers

end OpenClHash.Library.Reporting
