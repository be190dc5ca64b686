import OpenClHash.Library.History

/-!
Owns a register that is assigned values and released by teardowns that do not clear it.
A teardown releases the value the register holds unless that value is a null value.

Over any history of such a register, a value is released as often as teardowns found it
there. Values assigned once are released at most once exactly when each teardown that finds
one is the first since its assignment. Every released value was assigned exactly when no
teardown ran before the first assignment, unless the register started with a null value.
-/

namespace OpenClHash.Library.Register

open OpenClHash.Library.History

inductive Act (α : Type) where
  | assign (value : α)
  | teardown
  | release (value : α)
deriving DecidableEq, Repr

variable {α : Type} (isNull : α → Prop) (initial : α)

/-- The value in the register after a history, newest act first. -/
def held : List (Act α) → α
  | [] => initial
  | .assign value :: _ => value
  | .teardown :: older | .release _ :: older => held older

/-- The histories of a register. -/
inductive History : List (Act α) → Prop where
  | start : History []
  | assign {acts : List (Act α)} (value : α) (history : History acts) :
      History (.assign value :: acts)
  | teardownNull {acts : List (Act α)} (nothing : isNull (held initial acts))
      (history : History acts) : History (.teardown :: acts)
  | teardown {acts : List (Act α)} (something : ¬ isNull (held initial acts))
      (history : History acts) : History (.release (held initial acts) :: .teardown :: acts)

/-- How many teardowns found `value` in the register. -/
def teardownsHolding [DecidableEq α] (value : α) : List (Act α) → Nat
  | [] => 0
  | .teardown :: older =>
      teardownsHolding value older + if held initial older = value then 1 else 0
  | .assign _ :: older | .release _ :: older => teardownsHolding value older

/-- Every released value was assigned before. -/
def ReleasesAssigned : List (Act α) → Prop :=
  Throughout fun act older => ∀ value, act = .release value → .assign value ∈ older

/-- Every teardown comes after some assignment. -/
def TeardownsAssigned : List (Act α) → Prop :=
  Throughout fun act older => act = .teardown → ∃ value, .assign value ∈ older

/-- A teardown ran after the last assignment. -/
def Stale : List (Act α) → Prop
  | [] | .assign _ :: _ => False
  | .teardown :: _ => True
  | .release _ :: older => Stale older

/-- A teardown that finds a tracked value is the first since the value was assigned. -/
def TeardownsFresh (tracked : α → Prop) : List (Act α) → Prop :=
  Throughout fun act older => act = .teardown → tracked (held initial older) → ¬ Stale older

/-- No tracked value is assigned twice. -/
def AssignedOnce (tracked : α → Prop) : List (Act α) → Prop :=
  Throughout fun act older => ∀ value, act = .assign value → tracked value → .assign value ∉ older

section Results

variable {isNull initial} {acts : List (Act α)}

/-- A teardown releases what it finds. -/
theorem History.count_release [DecidableEq α] (history : History isNull initial acts) {value : α}
    (something : ¬ isNull value) :
    acts.count (.release value) = teardownsHolding initial value acts := by
  induction history with
  | start => rfl
  | assign other _ inductionHypothesis =>
      rw [List.count_cons_of_ne (by simp), inductionHypothesis, teardownsHolding]
  | teardownNull nothing _ inductionHypothesis =>
      have other : held initial _ ≠ value := fun same => something (same ▸ nothing)
      rw [List.count_cons_of_ne (by simp), inductionHypothesis, teardownsHolding, if_neg other,
        Nat.add_zero]
  | @teardown older _ _ inductionHypothesis =>
      show List.count _ (.release (held initial older) :: .teardown :: older) =
        teardownsHolding initial value older + if held initial older = value then 1 else 0
      by_cases same : held initial older = value
      · rw [same, List.count_cons_self, List.count_cons_of_ne (by simp), inductionHypothesis,
          if_pos rfl]
      · rw [List.count_cons_of_ne (by simpa using same), List.count_cons_of_ne (by simp),
          inductionHypothesis, if_neg same, Nat.add_zero]

/-- A register holds its initial value until the first assignment, then an assigned one. -/
theorem held_cases (acts : List (Act α)) :
    .assign (held initial acts) ∈ acts ∨
      held initial acts = initial ∧ ∀ value, .assign value ∉ acts := by
  induction acts with
  | nil => exact .inr ⟨rfl, by simp⟩
  | cons act older inductionHypothesis =>
      cases act with
      | assign value => exact .inl (by simp [held])
      | teardown | release =>
          rcases inductionHypothesis with assigned | ⟨untouched, never⟩
          · exact .inl (List.mem_cons_of_mem _ assigned)
          · exact .inr ⟨untouched, by simpa using never⟩

@[simp] theorem releasesAssigned_cons {act : Act α} :
    ReleasesAssigned (act :: acts) ↔
      (∀ value, act = .release value → .assign value ∈ acts) ∧ ReleasesAssigned acts := Iff.rfl

@[simp] theorem teardownsAssigned_cons {act : Act α} :
    TeardownsAssigned (act :: acts) ↔
      (act = .teardown → ∃ value, .assign value ∈ acts) ∧ TeardownsAssigned acts := Iff.rfl

theorem History.releasesAssigned_iff (history : History isNull initial acts) :
    ReleasesAssigned acts ↔ isNull initial ∨ TeardownsAssigned acts := by
  induction history with
  | start => exact ⟨fun _ => .inr trivial, fun _ => trivial⟩
  | assign value _ inductionHypothesis => simpa using inductionHypothesis
  | @teardownNull older nothing _ inductionHypothesis =>
      rcases held_cases older with assigned | ⟨untouched, _⟩
      · have some : ∃ value, .assign value ∈ older := ⟨_, assigned⟩
        simpa [some] using inductionHypothesis
      · rw [untouched] at nothing
        simpa [nothing] using inductionHypothesis
  | @teardown older something _ inductionHypothesis =>
      rcases held_cases older with assigned | ⟨untouched, never⟩
      · have some : ∃ value, .assign value ∈ older := ⟨_, assigned⟩
        have released : ∀ value, Act.release (held initial older) = .release value →
            .assign value ∈ (.teardown :: older : List (Act α)) := by
          intro value same
          cases same
          exact List.mem_cons_of_mem _ assigned
        rw [releasesAssigned_cons, and_iff_right released]
        simpa [some] using inductionHypothesis
      · rw [untouched] at something ⊢
        simp [something, never]

/-! ### Values assigned once -/

section AssignedOnce

variable [DecidableEq α] {tracked : α → Prop}

/-- A value the register never got is found by no teardown. -/
theorem teardownsHolding_eq_zero {value : α} (other : initial ≠ value)
    (never : .assign value ∉ acts) : teardownsHolding initial value acts = 0 := by
  induction acts with
  | nil => rfl
  | cons act older inductionHypothesis =>
      have neverBefore : .assign value ∉ older := by
        intro member
        exact never (List.mem_cons_of_mem _ member)
      cases act with
      | assign | release => exact inductionHypothesis neverBefore
      | teardown =>
          have different : held initial older ≠ value := by
            rintro rfl
            rcases held_cases older with assigned | ⟨untouched, _⟩
            · exact neverBefore assigned
            · exact other untouched.symm
          rw [teardownsHolding, inductionHypothesis neverBefore, if_neg different]

theorem Stale.teardownsHolding_pos (stale : Stale acts) :
    0 < teardownsHolding initial (held initial acts) acts := by
  induction acts with
  | nil => exact stale.elim
  | cons act older inductionHypothesis =>
      cases act with
      | assign => exact stale.elim
      | teardown =>
          rw [held, teardownsHolding, if_pos rfl]
          exact Nat.succ_pos _
      | release => exact inductionHypothesis stale

theorem teardownsHolding_of_not_stale (once : AssignedOnce tracked acts)
    (untracked : ¬ tracked initial) (fresh : ¬ Stale acts) (found : tracked (held initial acts)) :
    teardownsHolding initial (held initial acts) acts = 0 := by
  induction acts with
  | nil => rfl
  | cons act older inductionHypothesis =>
      cases act with
      | assign value =>
          have other : initial ≠ value := by
            rintro rfl
            exact untracked found
          show teardownsHolding initial value older = 0
          exact teardownsHolding_eq_zero other (once.1 value rfl found)
      | teardown => exact absurd trivial fresh
      | release => exact inductionHypothesis once.2 fresh found

/-- Tracked values are found once at most exactly when every teardown finds a fresh one. -/
theorem teardownsHolding_le_one_iff (once : AssignedOnce tracked acts)
    (untracked : ¬ tracked initial) :
    (∀ value, tracked value → teardownsHolding initial value acts ≤ 1) ↔
      TeardownsFresh initial tracked acts := by
  induction acts with
  | nil => exact ⟨fun _ => trivial, fun _ _ _ => Nat.zero_le 1⟩
  | cons act older inductionHypothesis =>
      have before := inductionHypothesis once.2
      cases act with
      | assign value =>
          exact before.trans ⟨fun fresh => ⟨nofun, fresh⟩, fun fresh => fresh.2⟩
      | release value =>
          exact before.trans ⟨fun fresh => ⟨nofun, fresh⟩, fun fresh => fresh.2⟩
      | teardown =>
          constructor
          · intro atMostOnce
            constructor
            · intro _ found stale
              have again := atMostOnce (held initial older) found
              have already : 0 < teardownsHolding initial (held initial older) older :=
                stale.teardownsHolding_pos
              rw [teardownsHolding, if_pos rfl] at again
              omega
            · refine before.mp fun value found => ?_
              exact Nat.le_of_add_right_le (atMostOnce value found)
          · intro fresh value found
            rw [teardownsHolding]
            by_cases same : held initial older = value
            · subst same
              have none := teardownsHolding_of_not_stale once.2 untracked (fresh.1 rfl found) found
              simp [none]
            · rw [if_neg same]
              exact before.mpr fresh.2 value found

/-- When the values a register is assigned are released at most once. -/
theorem History.count_release_le_one_iff (history : History isNull initial acts)
    (something : ∀ value, tracked value → ¬ isNull value) (once : AssignedOnce tracked acts)
    (untracked : ¬ tracked initial) :
    (∀ value, tracked value → acts.count (.release value) ≤ 1) ↔
      TeardownsFresh initial tracked acts := by
  rw [← teardownsHolding_le_one_iff once untracked]
  apply forall₂_congr
  intro value found
  rw [history.count_release (something value found)]

end AssignedOnce

end Results

end OpenClHash.Library.Register
