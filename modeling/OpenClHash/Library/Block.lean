import OpenClHash.Library.Regions

/-!
Owns a block of allocated memory whose cells hold nothing until they are stored to, and the
stores through a pointer to it: a run of stores succeeds exactly if it stays inside a live
block, and then the block holds the bytes stored.
-/

namespace OpenClHash.Library

open Regions

/-- Why a store through a pointer to a block has no meaning. -/
inductive Block.Fault where
  | nullPointer
  | afterFree
  | outside (offset : Nat)
deriving DecidableEq, Repr

/-- What a pointer from an allocation points to. -/
inductive Block (Byte : Type*) where
  | null
  | live (cells : List (Option Byte))
  | freed
deriving DecidableEq, Repr

namespace Block

variable {Byte : Type*}

def allocate (succeeds : Bool) (size : Nat) : Block Byte :=
  if succeeds then .live (List.replicate size none) else .null

def store (byte : Byte) (offset : Nat) : Block Byte → Except Fault (Block Byte)
  | .null => .error .nullPointer
  | .freed => .error .afterFree
  | .live cells =>
      if offset < cells.length then .ok (.live (cells.set offset (some byte)))
      else .error (.outside offset)

/-- Bytes stored one after the other from an offset on. -/
def storeAll : List Byte → Nat → Block Byte → Except Fault (Block Byte)
  | [], _, block => .ok block
  | byte :: rest, offset, block => block.store byte offset >>= storeAll rest (offset + 1)

variable {bytes : List Byte} {offset : Nat} {cells : List (Option Byte)}

@[simp]
theorem storeAll_nil (offset : Nat) (block : Block Byte) :
    storeAll [] offset block = .ok block := rfl

theorem storeAll_append (bytes later : List Byte) (offset : Nat) (block : Block Byte) :
    storeAll (bytes ++ later) offset block =
      storeAll bytes offset block >>= storeAll later (offset + bytes.length) := by
  induction bytes generalizing offset block with
  | nil => rfl
  | cons byte rest inductionHypothesis =>
      show (block.store byte offset >>= storeAll (rest ++ later) (offset + 1)) =
        (block.store byte offset >>= storeAll rest (offset + 1)) >>= _
      cases block.store byte offset with
      | error fault => rfl
      | ok next =>
          have shifted : offset + (byte :: rest).length = offset + 1 + rest.length := by
            rw [List.length_cons]
            omega
          rw [shifted]
          exact inductionHypothesis (offset + 1) next

/-- Stores that stay inside replace the cells that they reach. -/
theorem storeAll_live (inside : offset + bytes.length ≤ cells.length) :
    storeAll bytes offset (.live cells) =
      .ok (.live (splice cells offset (bytes.map some))) := by
  induction bytes generalizing offset cells with
  | nil => simp [splice]
  | cons byte rest inductionHypothesis =>
      rw [List.length_cons] at inside
      have below : offset < cells.length := by omega
      have stored : store byte offset (.live cells) = .ok (.live (cells.set offset (some byte))) :=
        if_pos below
      have restInside : offset + 1 + rest.length ≤ (cells.set offset (some byte)).length := by
        rw [List.length_set]
        omega
      show store byte offset (.live cells) >>= storeAll rest (offset + 1) = _
      rw [stored]
      show storeAll rest (offset + 1) (.live (cells.set offset (some byte))) = _
      rw [inductionHypothesis restInside]
      have before : (cells.set offset (some byte)).take (offset + 1) =
          cells.take offset ++ [some byte] := by
        rw [List.take_succ_eq_append_getElem (by simpa using below),
          List.take_set_of_le (Nat.le_refl _), List.getElem_set_self]
      have behind : (cells.set offset (some byte)).drop (offset + 1 + (rest.map some).length) =
          cells.drop (offset + (some byte :: rest.map some).length) := by
        rw [List.drop_set_of_lt (by omega), List.length_cons, Nat.add_assoc, Nat.add_comm 1]
      rw [splice, splice, before, behind, List.map_cons, List.append_assoc (cells.take offset),
        List.cons_append, List.nil_append]

theorem storeAll_fresh {size : Nat} (inside : bytes.length ≤ size) :
    storeAll bytes 0 (allocate true size) =
      .ok (.live (bytes.map some ++ List.replicate (size - bytes.length) none)) := by
  have fits : 0 + bytes.length ≤ (List.replicate size (none : Option Byte)).length := by
    simpa using inside
  rw [allocate, if_pos rfl, storeAll_live fits]
  simp [splice]

theorem live_of_store {byte : Byte} {block after : Block Byte}
    (stored : block.store byte offset = .ok after) :
    ∃ cells, block = .live cells ∧ offset < cells.length ∧
      after = .live (cells.set offset (some byte)) := by
  cases block with
  | null => cases stored
  | freed => cases stored
  | live cells =>
      by_cases below : offset < cells.length
      · rw [store, if_pos below] at stored
        cases stored
        exact ⟨cells, rfl, below, rfl⟩
      · rw [store, if_neg below] at stored
        cases stored

/-- Stores succeed exactly if there are none or the block is live and they stay inside. -/
theorem storeAll_ok_iff {block : Block Byte} :
    (∃ after, storeAll bytes offset block = .ok after) ↔
      bytes = [] ∨ ∃ cells, block = .live cells ∧ offset + bytes.length ≤ cells.length := by
  constructor
  · rintro ⟨after, stored⟩
    induction bytes generalizing offset block with
    | nil => exact .inl rfl
    | cons byte rest inductionHypothesis =>
        replace stored : block.store byte offset >>= storeAll rest (offset + 1) = .ok after :=
          stored
        cases first : block.store byte offset with
        | error fault =>
            rw [first] at stored
            cases stored
        | ok next =>
            rw [first] at stored
            obtain ⟨cells, rfl, below, rfl⟩ := live_of_store first
            refine .inr ⟨cells, rfl, ?_⟩
            rw [List.length_cons]
            rcases inductionHypothesis stored with rfl | ⟨cells', same, inside⟩
            · exact below
            · cases same
              rw [List.length_set] at inside
              omega
  · rintro (rfl | ⟨cells, rfl, inside⟩)
    · exact ⟨block, rfl⟩
    · exact ⟨_, storeAll_live inside⟩

end Block

end OpenClHash.Library
