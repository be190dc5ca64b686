import Mathlib.Data.List.Basic

/-!
Owns records of a run, newest entry first: properties that every entry has relative to
the entries before it, and their passage through a projection of the record.
-/

namespace OpenClHash.Library.History

variable {α β : Type}

/-- Every entry satisfies `property` relative to the older entries. -/
def Throughout (property : α → List α → Prop) : List α → Prop
  | [] => True
  | entry :: older => property entry older ∧ Throughout property older

instance Throughout.decidable {property : α → List α → Prop}
    [∀ entry older, Decidable (property entry older)] :
    (log : List α) → Decidable (Throughout property log)
  | [] => inferInstanceAs (Decidable True)
  | entry :: older =>
      have : Decidable (Throughout property older) := Throughout.decidable older
      inferInstanceAs (Decidable (property entry older ∧ Throughout property older))

@[simp] theorem throughout_nil (property : α → List α → Prop) : Throughout property [] := trivial

@[simp] theorem throughout_cons {property : α → List α → Prop} {entry : α} {older : List α} :
    Throughout property (entry :: older) ↔ property entry older ∧ Throughout property older :=
  Iff.rfl

theorem Throughout.of_append {property : α → List α → Prop} {newer older : List α}
    (throughout : Throughout property (newer ++ older)) : Throughout property older := by
  induction newer with
  | nil => exact throughout
  | cons entry newer inductionHypothesis => exact inductionHypothesis throughout.2

end OpenClHash.Library.History
