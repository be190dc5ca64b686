import Mathlib.Algebra.Order.Group.Nat
import Mathlib.Data.List.GetD

/-!
Owns stores of bytes into regions of a memory. A store inside a region splices its bytes into
those of the region. Stores made on behalf of regions that lie apart, each inside its own
region, leave in every region what its own stores leave there. Members of a record that are
placed one after the other, each at the next multiple of its alignment, lie apart.
-/

namespace OpenClHash.Library.Regions

/-! ### Regions -/

/-- The addresses from `start` on, `length` of them. -/
structure Region where
  start : Nat
  length : Nat
deriving DecidableEq, Repr

namespace Region

def Covers (region : Region) (address : Nat) : Prop :=
  region.start ≤ address ∧ address < region.start + region.length

def Inside (inner outer : Region) : Prop :=
  outer.start ≤ inner.start ∧ inner.start + inner.length ≤ outer.start + outer.length

/-- One of the regions ends before the other starts. -/
def Apart (first second : Region) : Prop :=
  first.start + first.length ≤ second.start ∨ second.start + second.length ≤ first.start

variable {first second inner : Region} {address : Nat}

theorem Apart.symm (apart : Apart first second) : Apart second first := Or.symm apart

theorem Covers.of_inside (covers : inner.Covers address) (inside : inner.Inside first) :
    first.Covers address :=
  ⟨inside.1.trans covers.1, covers.2.trans_le inside.2⟩

theorem Apart.not_covers (apart : Apart first second) (covers : first.Covers address) :
    ¬ second.Covers address := by
  unfold Apart at apart
  unfold Covers at covers ⊢
  omega

end Region

/-! ### The natural layout of a record -/

/-- Where members of these sizes and alignments lie from the address `free` on. -/
def place : Nat → List (Nat × Nat) → List Region
  | _, [] => []
  | free, (size, alignment) :: rest =>
      let start := (free + (alignment - 1)) / alignment * alignment
      ⟨start, size⟩ :: place (start + size) rest

theorem le_aligned (free : Nat) {alignment : Nat} (positive : 0 < alignment) :
    free ≤ (free + (alignment - 1)) / alignment * alignment := by
  have split := Nat.div_add_mod (free + (alignment - 1)) alignment
  have below := Nat.mod_lt (free + (alignment - 1)) positive
  rw [Nat.mul_comm] at split
  omega

theorem le_start_of_mem_place {members : List (Nat × Nat)}
    (positive : ∀ member ∈ members, 0 < member.2) {free : Nat} {region : Region}
    (placed : region ∈ place free members) : free ≤ region.start := by
  induction members generalizing free with
  | nil => cases placed
  | cons member rest inductionHypothesis =>
      have aligned := le_aligned free (positive member List.mem_cons_self)
      rcases List.mem_cons.mp placed with rfl | later
      · exact aligned
      · have after := inductionHypothesis
          (fun other member => positive other (List.mem_cons_of_mem _ member)) later
        exact aligned.trans ((Nat.le_add_right _ _).trans after)

/-- Members of a record lie apart. -/
theorem place_apart {members : List (Nat × Nat)} (positive : ∀ member ∈ members, 0 < member.2)
    (free : Nat) : (place free members).Pairwise Region.Apart := by
  induction members generalizing free with
  | nil => exact .nil
  | cons member rest inductionHypothesis =>
      have positiveRest : ∀ other ∈ rest, 0 < other.2 :=
        fun other member => positive other (List.mem_cons_of_mem _ member)
      refine .cons ?_ (inductionHypothesis positiveRest _)
      intro region later
      exact .inl (le_start_of_mem_place positiveRest later)

/-! ### Stores -/

section Stores

variable {Byte : Type*}

structure Store (Byte : Type*) where
  start : Nat
  bytes : List Byte

namespace Store

/-- The bytes that are written. -/
def region (store : Store Byte) : Region := ⟨store.start, store.bytes.length⟩

def apply (memory : Nat → Byte) (store : Store Byte) (address : Nat) : Byte :=
  if store.start ≤ address then store.bytes.getD (address - store.start) (memory address)
  else memory address

end Store

/-- The memory after stores in this order. -/
def applyAll (stores : List (Store Byte)) (memory : Nat → Byte) : Nat → Byte :=
  stores.foldl Store.apply memory

/-- The bytes of a region. -/
def load (memory : Nat → Byte) (region : Region) : List Byte :=
  (List.range region.length).map fun index => memory (region.start + index)

variable {memory other : Nat → Byte} {store : Store Byte} {stores : List (Store Byte)}
  {address : Nat}

theorem apply_of_not_covers (outside : ¬ store.region.Covers address) :
    store.apply memory address = memory address := by
  unfold Store.apply
  split
  · rename_i after
    rw [List.getD_eq_default]
    have beyond : store.start + store.bytes.length ≤ address := by
      by_contra within
      exact outside ⟨after, Nat.not_le.mp within⟩
    omega
  · rfl

theorem apply_eq (memory : Nat → Byte) {index : Nat} (below : index < store.bytes.length) :
    store.apply memory (store.start + index) = store.bytes[index] := by
  rw [Store.apply, if_pos (Nat.le_add_right _ _), Nat.add_sub_cancel_left,
    List.getD_eq_getElem _ _ below]

/-- A store changes what a memory holds at an address in the same way in every memory. -/
theorem apply_congr (same : memory address = other address) :
    store.apply memory address = store.apply other address := by
  unfold Store.apply
  rw [same]

/-- What was stored is there. -/
theorem load_apply (memory : Nat → Byte) (store : Store Byte) :
    load (store.apply memory) store.region = store.bytes := by
  apply List.ext_getElem
  · simp [load, Store.region]
  · intro index _ below
    simpa [load, Store.region] using apply_eq memory below

/-- The list with the entries from `start` on replaced by those of `patch`. -/
def splice (bytes : List Byte) (start : Nat) (patch : List Byte) : List Byte :=
  bytes.take start ++ patch ++ bytes.drop (start + patch.length)

theorem splice_all {bytes patch : List Byte} (whole : patch.length = bytes.length) :
    splice bytes 0 patch = patch := by
  simp [splice, whole]

theorem splice_getElem? {bytes patch : List Byte} {start : Nat}
    (inside : start + patch.length ≤ bytes.length) (index : Nat) :
    (splice bytes start patch)[index]? =
      if index < start then bytes[index]?
      else if index < start + patch.length then patch[index - start]?
      else bytes[index]? := by
  unfold splice
  grind

/-- A store inside a region splices its bytes into those of the region. -/
theorem load_apply_inside (memory : Nat → Byte) {size : Nat}
    (inside : store.start + store.bytes.length ≤ size) :
    load (store.apply memory) ⟨0, size⟩ =
      splice (load memory ⟨0, size⟩) store.start store.bytes := by
  have loaded : ∀ (memory : Nat → Byte) (index : Nat),
      (load memory ⟨0, size⟩)[index]? = if index < size then some (memory index) else none := by
    intro memory index
    by_cases below : index < size
    · simp [load, below]
    · simp [load, below]
  apply List.ext_getElem?
  intro index
  rw [splice_getElem? (by simpa [load] using inside), loaded, loaded]
  by_cases stored : store.region.Covers index
  · obtain ⟨after, last⟩ : store.start ≤ index ∧ index < store.start + store.bytes.length := stored
    have within : index - store.start < store.bytes.length := by omega
    have value := apply_eq memory within
    rw [Nat.add_sub_cancel' after] at value
    rw [if_pos (last.trans_le inside), if_neg (Nat.not_lt.mpr after), if_pos last, value,
      List.getElem?_eq_getElem within]
  · rw [apply_of_not_covers stored]
    by_cases before : index < store.start
    · rw [if_pos before]
    · have behind : ¬ index < store.start + store.bytes.length :=
        fun last => stored ⟨Nat.le_of_not_lt before, last⟩
      rw [if_neg before, if_neg behind]

theorem applyAll_append (stores later : List (Store Byte)) (memory : Nat → Byte) :
    applyAll (stores ++ later) memory = applyAll later (applyAll stores memory) :=
  List.foldl_append

theorem applyAll_congr (same : memory address = other address) :
    applyAll stores memory address = applyAll stores other address := by
  induction stores generalizing memory other with
  | nil => exact same
  | cons store stores inductionHypothesis => exact inductionHypothesis (apply_congr same)

theorem applyAll_of_not_covers (outside : ∀ store ∈ stores, ¬ store.region.Covers address) :
    applyAll stores memory address = memory address := by
  induction stores generalizing memory with
  | nil => rfl
  | cons store stores inductionHypothesis =>
      rw [List.forall_mem_cons] at outside
      exact (inductionHypothesis outside.2).trans (apply_of_not_covers outside.1)

/-! ### Filling regions -/

/-- Stores made on behalf of a region. -/
structure Fill (Byte : Type*) where
  region : Region
  stores : List (Store Byte)

/-- None of the stores leaves the region. -/
def Fill.Contained (fill : Fill Byte) : Prop :=
  ∀ store ∈ fill.stores, store.region.Inside fill.region

variable {fill : Fill Byte} {fills : List (Fill Byte)}

theorem Fill.Contained.not_covers (contained : fill.Contained)
    (outside : ¬ fill.region.Covers address) :
    ∀ store ∈ fill.stores, ¬ store.region.Covers address :=
  fun store member covers => outside (covers.of_inside (contained store member))

/-- In regions that lie apart each holds what its own stores left. -/
theorem applyAll_fills (apart : fills.Pairwise fun first second => first.region.Apart second.region)
    (contained : ∀ fill ∈ fills, fill.Contained) (member : fill ∈ fills)
    (covers : fill.region.Covers address) :
    applyAll (fills.flatMap Fill.stores) memory address = applyAll fill.stores memory address := by
  induction fills generalizing memory with
  | nil => cases member
  | cons head rest inductionHypothesis =>
      rw [List.pairwise_cons] at apart
      rw [List.forall_mem_cons] at contained
      rw [List.flatMap_cons, applyAll_append]
      rcases List.mem_cons.mp member with rfl | later
      · apply applyAll_of_not_covers
        intro store stored
        obtain ⟨other, inRest, among⟩ := List.mem_flatMap.mp stored
        exact (contained.2 other inRest).not_covers ((apart.1 other inRest).not_covers covers) store
          among
      · rw [inductionHypothesis apart.2 contained.2 later]
        apply applyAll_congr
        exact applyAll_of_not_covers
          (contained.1.not_covers ((apart.1 fill later).symm.not_covers covers))

/-- The same for a part of a region. -/
theorem load_fills (apart : fills.Pairwise fun first second => first.region.Apart second.region)
    (contained : ∀ fill ∈ fills, fill.Contained) (member : fill ∈ fills) {part : Region}
    (inside : part.Inside fill.region) (memory : Nat → Byte) :
    load (applyAll (fills.flatMap Fill.stores) memory) part =
      load (applyAll fill.stores memory) part := by
  apply List.map_congr_left
  intro index below
  apply applyAll_fills apart contained member
  have covers : part.Covers (part.start + index) :=
    ⟨Nat.le_add_right _ _, Nat.add_lt_add_left (List.mem_range.mp below) _⟩
  exact covers.of_inside inside

/-- Nothing changes outside the regions. -/
theorem applyAll_fills_outside (contained : ∀ fill ∈ fills, fill.Contained)
    (outside : ∀ fill ∈ fills, ¬ fill.region.Covers address) :
    applyAll (fills.flatMap Fill.stores) memory address = memory address := by
  apply applyAll_of_not_covers
  intro store stored
  obtain ⟨fill, member, among⟩ := List.mem_flatMap.mp stored
  exact (contained fill member).not_covers (outside fill member) store among

end Stores

end OpenClHash.Library.Regions
