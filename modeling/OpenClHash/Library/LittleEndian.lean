import Mathlib.Data.List.GetD

/-!
Owns words as bytes in little-endian memory order: the bytes of a word, the word read from
bytes, and that reading back as many bytes as fit keeps the low part of the value.
-/

namespace OpenClHash.Library.LittleEndian

variable {width : Nat}

/-- The first `count` bytes of a word. -/
def bytes (count : Nat) (value : BitVec width) : List (BitVec 8) :=
  (List.range count).map fun index => value.extractLsb' (8 * index) 8

/-- A word of `width` bits read from bytes. -/
def read (width : Nat) (bytes : List (BitVec 8)) : BitVec width :=
  bytes.foldr (fun byte high => (high <<< 8) ||| byte.setWidth width) (BitVec.ofNat width 0)

@[simp] theorem bytes_length (count : Nat) (value : BitVec width) :
    (bytes count value).length = count := by
  simp [bytes]

/-- Taking fewer bytes is writing fewer. -/
theorem take_bytes {count fewer : Nat} (shorter : fewer ≤ count) (value : BitVec width) :
    (bytes count value).take fewer = bytes fewer value := by
  rw [bytes, ← List.map_take, List.take_range, Nat.min_eq_left shorter, bytes]

/-- A bit of the word is a bit of one byte. -/
theorem getLsbD_read (stored : List (BitVec 8)) {bit : Nat} (below : bit < width) :
    (read width stored).getLsbD bit = (stored.getD (bit / 8) 0#8).getLsbD (bit % 8) := by
  induction stored generalizing bit with
  | nil => simp [read]
  | cons byte rest inductionHypothesis =>
      show ((read width rest <<< 8) ||| byte.setWidth width).getLsbD bit = _
      rw [BitVec.getLsbD_or, BitVec.getLsbD_shiftLeft, BitVec.getLsbD_setWidth]
      by_cases first : bit < 8
      · have index : bit / 8 = 0 := Nat.div_eq_of_lt first
        have offset : bit % 8 = bit := Nat.mod_eq_of_lt first
        simp [below, first, index, offset]
      · have index : bit / 8 = (bit - 8) / 8 + 1 := by omega
        have offset : bit % 8 = (bit - 8) % 8 := by omega
        have high : byte.getLsbD bit = false := BitVec.getLsbD_of_ge byte bit (by omega)
        rw [index, offset, List.getD_cons_succ, ← inductionHypothesis (by omega)]
        simp [below, first, high]

/-- Reading `count` bytes back gives the low bits of the value. -/
theorem read_bytes {count : Nat} {narrow : Nat} (enough : narrow ≤ 8 * count)
    (value : BitVec width) : read narrow (bytes count value) = value.setWidth narrow := by
  apply BitVec.eq_of_getLsbD_eq
  intro bit below
  have index : bit / 8 < count := by omega
  have position : 8 * (bit / 8) + bit % 8 = bit := Nat.div_add_mod bit 8
  have offset : bit % 8 < 8 := Nat.mod_lt _ (by decide)
  rw [getLsbD_read _ below, BitVec.getLsbD_setWidth, bytes, List.getD_eq_getElem _ _ (by simpa),
    List.getElem_map, List.getElem_range, BitVec.getLsbD_extractLsb', position]
  simp [below, offset]

end OpenClHash.Library.LittleEndian
