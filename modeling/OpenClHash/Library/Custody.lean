import Mathlib.Data.List.Nodup
import Mathlib.Logic.Function.Basic
import Mathlib.Logic.Relation

/-!
Owns resources that are put into slots and freed from them. A resource is put at most
once, into an empty slot, and freed only from the slot that holds it; so once every slot
is empty, each resource that was ever put has been freed exactly once.
-/

namespace OpenClHash.Library.Custody

open Relation

variable {ι ρ : Type}

/-- What the slots hold, and the resources put and freed so far, newest first. -/
@[ext]
structure State (ι ρ : Type) where
  holds : ι → Option ρ
  put : List ρ
  freed : List ρ

/-- Slots hold distinct, put, unfreed resources; every put resource is held or freed, and
none is freed twice. -/
structure Invariant (state : State ι ρ) : Prop where
  put_of_holds : ∀ slot resource, state.holds slot = some resource → resource ∈ state.put
  same_slot : ∀ slot other resource, state.holds slot = some resource →
    state.holds other = some resource → slot = other
  not_freed : ∀ slot resource, state.holds slot = some resource → resource ∉ state.freed
  freed_nodup : state.freed.Nodup
  put_of_freed : ∀ resource ∈ state.freed, resource ∈ state.put
  accounted : ∀ resource ∈ state.put,
    resource ∈ state.freed ∨ ∃ slot, state.holds slot = some resource

theorem invariant_start : Invariant (⟨fun _ => none, [], []⟩ : State ι ρ) where
  put_of_holds := by simp
  same_slot := by simp
  not_freed := by simp
  freed_nodup := List.nodup_nil
  put_of_freed := by simp
  accounted := by simp

/-- With all slots empty, what was put has been freed once. -/
theorem Invariant.freed_once [DecidableEq ρ] {state : State ι ρ} (invariant : Invariant state)
    (empty : ∀ slot, state.holds slot = none) {resource : ρ} (put : resource ∈ state.put) :
    state.freed.count resource = 1 := by
  apply List.count_eq_one_of_mem invariant.freed_nodup
  rcases invariant.accounted resource put with freed | ⟨slot, held⟩
  · exact freed
  · rw [empty slot] at held
    cases held

variable [DecidableEq ι]

inductive Step (state : State ι ρ) : State ι ρ → Prop where
  | put (slot : ι) (resource : ρ) (empty : state.holds slot = none)
      (new : resource ∉ state.put) :
      Step state ⟨Function.update state.holds slot (some resource), resource :: state.put,
        state.freed⟩
  | free (slot : ι) (resource : ρ) (held : state.holds slot = some resource) :
      Step state ⟨Function.update state.holds slot none, state.put, resource :: state.freed⟩

section Steps

variable {state next : State ι ρ}

/-- What a slot holds after an update of one slot. -/
theorem update_eq_some {holds : ι → Option ρ} {slot other : ι} {value : Option ρ} {resource : ρ} :
    Function.update holds slot value other = some resource ↔
      (other = slot ∧ value = some resource) ∨ (other ≠ slot ∧ holds other = some resource) := by
  by_cases same : other = slot
  · subst same
    simp
  · simp [same]

theorem Invariant.put (invariant : Invariant state) {slot : ι} {resource : ρ}
    (empty : state.holds slot = none) (new : resource ∉ state.put) :
    Invariant ⟨Function.update state.holds slot (some resource), resource :: state.put,
      state.freed⟩ where
  put_of_holds := by
    intro other found held
    rcases update_eq_some.mp held with ⟨_, same⟩ | ⟨_, held⟩
    · rw [Option.some.inj same]
      exact List.mem_cons_self
    · exact List.mem_cons_of_mem _ (invariant.put_of_holds other found held)
  same_slot := by
    intro left right found leftHeld rightHeld
    rcases update_eq_some.mp leftHeld with ⟨leftSlot, same⟩ | ⟨_, leftHeld⟩
    · rcases update_eq_some.mp rightHeld with ⟨rightSlot, _⟩ | ⟨_, rightHeld⟩
      · rw [leftSlot, rightSlot]
      · rw [← Option.some.inj same] at rightHeld
        exact absurd (invariant.put_of_holds right resource rightHeld) new
    · rcases update_eq_some.mp rightHeld with ⟨_, same⟩ | ⟨_, rightHeld⟩
      · rw [← Option.some.inj same] at leftHeld
        exact absurd (invariant.put_of_holds left resource leftHeld) new
      · exact invariant.same_slot left right found leftHeld rightHeld
  not_freed := by
    intro other found held
    rcases update_eq_some.mp held with ⟨_, same⟩ | ⟨_, held⟩
    · rw [← Option.some.inj same]
      exact fun freed => new (invariant.put_of_freed resource freed)
    · exact invariant.not_freed other found held
  freed_nodup := invariant.freed_nodup
  put_of_freed := fun found freed => List.mem_cons_of_mem _ (invariant.put_of_freed found freed)
  accounted := by
    intro found member
    rcases List.mem_cons.mp member with rfl | member
    · exact .inr ⟨slot, by simp⟩
    · rcases invariant.accounted found member with freed | ⟨other, held⟩
      · exact .inl freed
      · have different : other ≠ slot := by
          rintro rfl
          rw [empty] at held
          cases held
        exact .inr ⟨other, update_eq_some.mpr (.inr ⟨different, held⟩)⟩

theorem Invariant.free (invariant : Invariant state) {slot : ι} {resource : ρ}
    (held : state.holds slot = some resource) :
    Invariant ⟨Function.update state.holds slot none, state.put, resource :: state.freed⟩ where
  put_of_holds := by
    intro other found still
    rcases update_eq_some.mp still with ⟨_, nothing⟩ | ⟨_, still⟩
    · cases nothing
    · exact invariant.put_of_holds other found still
  same_slot := by
    intro left right found leftHeld rightHeld
    rcases update_eq_some.mp leftHeld with ⟨_, nothing⟩ | ⟨_, leftHeld⟩
    · cases nothing
    · rcases update_eq_some.mp rightHeld with ⟨_, nothing⟩ | ⟨_, rightHeld⟩
      · cases nothing
      · exact invariant.same_slot left right found leftHeld rightHeld
  not_freed := by
    intro other found still freed
    rcases update_eq_some.mp still with ⟨_, nothing⟩ | ⟨different, before⟩
    · cases nothing
    · rcases List.mem_cons.mp freed with rfl | freed
      · exact different (invariant.same_slot other slot found before held)
      · exact invariant.not_freed other found before freed
  freed_nodup := List.nodup_cons.mpr ⟨invariant.not_freed slot resource held,
    invariant.freed_nodup⟩
  put_of_freed := by
    intro found freed
    rcases List.mem_cons.mp freed with rfl | freed
    · exact invariant.put_of_holds slot found held
    · exact invariant.put_of_freed found freed
  accounted := by
    intro found member
    rcases invariant.accounted found member with freed | ⟨other, still⟩
    · exact .inl (List.mem_cons_of_mem _ freed)
    · by_cases same : other = slot
      · rw [same, held] at still
        rw [Option.some.inj still]
        exact .inl List.mem_cons_self
      · exact .inr ⟨other, update_eq_some.mpr (.inr ⟨same, still⟩)⟩

theorem Invariant.step (invariant : Invariant state) (step : Step state next) :
    Invariant next := by
  cases step with
  | put slot resource empty new => exact invariant.put empty new
  | free slot resource held => exact invariant.free held

theorem Invariant.path (invariant : Invariant state) (path : ReflTransGen Step state next) :
    Invariant next := by
  induction path with
  | refl => exact invariant
  | tail _ step inductionHypothesis => exact inductionHypothesis.step step

/-- Putting what there is into an empty slot. -/
theorem path_put (state : State ι ρ) {slot : ι} (resource : Option ρ)
    (empty : state.holds slot = none) (new : ∀ found, resource = some found → found ∉ state.put) :
    ReflTransGen Step state ⟨Function.update state.holds slot resource,
      resource.toList ++ state.put, state.freed⟩ := by
  cases resource with
  | none =>
      rw [← empty, Function.update_eq_self, empty]
      exact .refl
  | some found => exact .single (.put slot found empty (new found rfl))

/-- Freeing what a slot holds. -/
theorem path_free (state : State ι ρ) {slot : ι} {resource : Option ρ}
    (held : state.holds slot = resource) :
    ReflTransGen Step state ⟨Function.update state.holds slot none, state.put,
      resource.toList ++ state.freed⟩ := by
  cases resource with
  | none =>
      rw [← held, Function.update_eq_self, held]
      exact .refl
  | some found => exact .single (.free slot found held)

end Steps

end OpenClHash.Library.Custody
