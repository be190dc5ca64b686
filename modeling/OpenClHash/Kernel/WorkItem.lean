import Mathlib.Data.Nat.Bitwise
import Mathlib.Tactic.Ring
import OpenClHash.Kernel.WordHash
import OpenClHash.Library.FixedDigits

/-!
Owns the specification of a work item's private run: when the split fits the word
length, every loop of the kernel runs without a fault, `data` holds the prefix
digits of `cpu_iter_i` and `global_id` followed by the digits of the loop index,
and `hash_value` is the hash of the whole array. `search` is therefore the first
combination, in index order, whose word hashes to the target.
-/

namespace OpenClHash.Kernel

open OpenClHash.Library

/-- What `main` promises the kernel: `LETTER_COUNT` is an `int` and the two letter
counts are not negative and do not exceed it together. -/
structure Fits (letterCount : Nat) (args : Arguments) : Prop where
  isInt : letterCount < 2 ^ 31
  split : args.lettersFromGlobalId.toNat + args.lettersToIterOver.toNat ≤ letterCount

/-! ### Digits by shift and mask -/

/-- `value & 0xf` as a digit. -/
def nibble (value : BitVec 32) : Fin 16 := ⟨value.toNat % 16, Nat.mod_lt _ (by decide)⟩

theorem letterAt_mask (value : BitVec 32) :
    letterAt (value &&& 0xf#32) = .ok (letter (nibble value)) := by
  have index : (value &&& 0xf#32).toNat = value.toNat % 16 := by
    rw [BitVec.toNat_and]
    exact Nat.and_two_pow_sub_one_eq_mod value.toNat 4
  have below : value.toNat % 16 < letters.length := Nat.mod_lt _ (by decide)
  simp only [letterAt, index, List.getElem?_eq_getElem below]
  rfl

/-- The digits a loop of `count` iterations reads from a shifted value. -/
def digitsOf (shifted : Nat → BitVec 32) (count : Nat) : List (Fin 16) :=
  (List.range count).map fun i => nibble (shifted (shiftCount i))

@[simp] theorem digitsOf_length (shifted : Nat → BitVec 32) (count : Nat) :
    (digitsOf shifted count).length = count := by
  simp [digitsOf]

@[simp] theorem digitsOf_zero (shifted : Nat → BitVec 32) : digitsOf shifted 0 = [] := rfl

theorem digitsOf_succ (shifted : Nat → BitVec 32) (count : Nat) :
    digitsOf shifted (count + 1) =
      digitsOf shifted count ++ [nibble (shifted (shiftCount count))] := by
  simp [digitsOf, List.range_succ]

theorem shiftCount_eq {i : Nat} (small : i < 8) : shiftCount i = 4 * i := by
  interval_cases i <;> rfl

/-- Up to eight shifts by whole nibbles read the base-16 digits. -/
theorem digitsOf_shiftRight (value : BitVec 32) {count : Nat} (small : count ≤ 8) :
    digitsOf (fun amount => value >>> amount) count =
      FixedDigits.digits 16 count value.toNat := by
  apply List.map_congr_left
  intro index member
  have below := List.mem_range.mp member
  apply Fin.ext
  rw [shiftCount_eq (by omega)]
  simp [nibble, Nat.shiftRight_eq_div_pow, pow_mul]

/-- The cells that hold a spelled word. -/
def written (digits : List (Fin 16)) : Data := (spell digits).map some

@[simp] theorem written_length (digits : List (Fin 16)) :
    (written digits).length = digits.length := by
  simp [written]

@[simp] theorem written_append (left right : List (Fin 16)) :
    written (left ++ right) = written left ++ written right := by
  simp [written]

theorem written_singleton (digit : Fin 16) : written [digit] = [some (letter digit)] := rfl

/-! ### The array -/

/-- Overwriting the cell right after `before`. -/
theorem store_append {before : Data} {cell : Option Char} {after : Data} {index : BitVec 32}
    (position : index.toNat = before.length) (character : Char) :
    store (before ++ cell :: after) index character = .ok (before ++ some character :: after) := by
  simp [store, position]

theorem load_written {digits : List (Fin 16)} {rest : Data} {index : BitVec 32}
    (below : index.toNat < digits.length) :
    load (written digits ++ rest) index =
      .ok (letter (digits.get ⟨index.toNat, below⟩)) := by
  have cell : (written digits ++ rest)[index.toNat]? =
      some (some (letter (digits.get ⟨index.toNat, below⟩))) := by
    rw [List.getElem?_append_left (by simpa using below)]
    simp [written, spell, below]
  rw [load, cell]

/-- The sum of two small words does not wrap. -/
theorem toNat_add_ofNat {start : BitVec 32} {i : Nat} (small : start.toNat + i < 2 ^ 32) :
    (start + BitVec.ofNat 32 i).toNat = start.toNat + i := by
  rw [BitVec.toNat_add, BitVec.toNat_ofNat, Nat.add_mod_mod, Nat.mod_eq_of_lt small]

/-- The first `steps` iterations of a filling loop overwrite the first `steps` cells
after `before` and leave the others. -/
theorem fillLetters_prefix (shifted : Nat → BitVec 32) {start : BitVec 32} {before : Data}
    (position : start.toNat = before.length) (steps : Nat) (cells : Data)
    (room : steps ≤ cells.length) (small : start.toNat + steps < 2 ^ 32) :
    (List.range steps).foldlM (fun data i => do
        let letter ← letterAt (shifted (shiftCount i) &&& 0xf#32)
        store data (start + BitVec.ofNat 32 i) letter) (before ++ cells) =
      .ok (before ++ written (digitsOf shifted steps) ++ cells.drop steps) := by
  induction steps with
  | zero => simp [written, spell]; rfl
  | succ steps inductionHypothesis =>
      rw [List.range_succ, List.foldlM_append, inductionHypothesis (by omega) (by omega)]
      have cellsLeft : cells.drop steps = cells[steps] :: cells.drop (steps + 1) :=
        List.drop_eq_getElem_cons (by omega)
      have index : (start + BitVec.ofNat 32 steps).toNat =
          (before ++ written (digitsOf shifted steps)).length := by
        rw [toNat_add_ofNat (by omega)]
        simp [position]
      simp only [List.foldlM_cons, List.foldlM_nil, letterAt_mask, bind, Except.bind, cellsLeft,
        store_append index, digitsOf_succ, written_append, written_singleton]
      simp [pure, Except.pure]

theorem fillLetters_eq (shifted : Nat → BitVec 32) (start count : BitVec 32) (before cells : Data)
    (position : start.toNat = before.length) (room : count.toNat ≤ cells.length)
    (small : start.toNat + count.toNat < 2 ^ 32) :
    fillLetters shifted start count (before ++ cells) =
      .ok (before ++ written (digitsOf shifted count.toNat) ++ cells.drop count.toNat) :=
  fillLetters_prefix shifted position count.toNat cells room small

/-! ### One work item -/

section WorkItem

variable (letterCount : Nat) (args : Arguments) (globalId : BitVec 32)

/-- The letters that `cpu_iter_i` and `global_id` choose. -/
def prefixDigits : List (Fin 16) :=
  digitsOf (fun amount => args.cpuIterI.sshiftRight amount)
      (lettersFromCpuIterI letterCount args).toNat ++
    digitsOf (fun amount => globalId >>> amount) args.lettersFromGlobalId.toNat

/-- The word examined in iteration `i`. -/
def examinedDigits (i : Nat) : List (Fin 16) :=
  prefixDigits letterCount args globalId ++
    digitsOf (fun amount => BitVec.ofNat 32 i >>> amount) args.lettersToIterOver.toNat

variable {letterCount args}

/-- Up to seven letters, `1 << (4 * letters_to_iter_over)` counts their assignments. -/
theorem combinations_eq_pow (small : args.lettersToIterOver.toNat ≤ 7) :
    (combinations args).toNat = 16 ^ args.lettersToIterOver.toNat := by
  have argument : args.lettersToIterOver = BitVec.ofNat 32 args.lettersToIterOver.toNat := by
    simp
  generalize args.lettersToIterOver.toNat = letters at argument small ⊢
  rw [combinations, argument]
  interval_cases letters <;> decide

/-- Below `16 ^ letters_to_iter_over`, the loop index spells the last letters by its digits. -/
theorem examinedDigits_suffix (small : args.lettersToIterOver.toNat ≤ 7) {i : Nat}
    (below : i < 16 ^ args.lettersToIterOver.toNat) :
    examinedDigits letterCount args globalId i =
      prefixDigits letterCount args globalId ++
        FixedDigits.digits 16 args.lettersToIterOver.toNat i := by
  have narrow : i < 2 ^ 32 :=
    calc i < 16 ^ args.lettersToIterOver.toNat := below
      _ ≤ 16 ^ 7 := Nat.pow_le_pow_right (by decide) small
      _ ≤ 2 ^ 32 := by norm_num
  rw [examinedDigits, digitsOf_shiftRight _ (by omega), BitVec.toNat_ofNat,
    Nat.mod_eq_of_lt narrow]

theorem lettersFromCpuIterI_toNat (fits : Fits letterCount args) :
    (lettersFromCpuIterI letterCount args).toNat =
      letterCount - args.lettersToIterOver.toNat - args.lettersFromGlobalId.toNat := by
  have isInt := fits.isInt
  have split := fits.split
  simp only [lettersFromCpuIterI, BitVec.toNat_sub, BitVec.toNat_ofNat]
  omega

theorem baseIdx_toNat (fits : Fits letterCount args) :
    (baseIdx letterCount args).toNat = letterCount - args.lettersToIterOver.toNat := by
  have isInt := fits.isInt
  have split := fits.split
  rw [baseIdx, BitVec.toNat_add, lettersFromCpuIterI_toNat fits]
  omega

theorem prefixDigits_length (fits : Fits letterCount args) :
    (prefixDigits letterCount args globalId).length =
      letterCount - args.lettersToIterOver.toNat := by
  have split := fits.split
  rw [prefixDigits, List.length_append, digitsOf_length, digitsOf_length,
    lettersFromCpuIterI_toNat fits]
  omega

theorem examinedDigits_length (fits : Fits letterCount args) (i : Nat) :
    (examinedDigits letterCount args globalId i).length = letterCount := by
  have split := fits.split
  rw [examinedDigits, List.length_append, prefixDigits_length globalId fits, digitsOf_length]
  omega

/-- The third loop hashes the written prefix. -/
theorem baseHash_prefix (digits : List (Fin 16)) (rest : Data) (small : digits.length < 2 ^ 32)
    (steps : Nat) (within : steps ≤ digits.length) :
    (List.range steps).foldlM (fun hash i => do
        let letter ← load (written digits ++ rest) (BitVec.ofNat 32 i)
        hashStep hash letter) 7#64 =
      .ok (digitHash 7#64 (digits.take steps)) := by
  induction steps with
  | zero => rfl
  | succ steps inductionHypothesis =>
      have index : (BitVec.ofNat 32 steps).toNat = steps := by
        rw [BitVec.toNat_ofNat, Nat.mod_eq_of_lt (by omega)]
      have below : (BitVec.ofNat 32 steps).toNat < digits.length := by omega
      rw [List.range_succ, List.foldlM_append, inductionHypothesis (by omega)]
      simp only [List.foldlM_cons, List.foldlM_nil, bind, Except.bind, load_written below,
        hashStep_letter, List.take_succ_eq_append_getElem (show steps < digits.length by omega),
        digitHash_append_singleton, List.get_eq_getElem, index]
      rfl

/-- After the first three loops: the prefix is written, the suffix is not, and
`base_hash` is the hash of the prefix. -/
theorem setUp_eq (fits : Fits letterCount args) :
    setUp letterCount args globalId =
      .ok (written (prefixDigits letterCount args globalId) ++
          List.replicate args.lettersToIterOver.toNat none,
        digitHash 7#64 (prefixDigits letterCount args globalId)) := by
  have isInt := fits.isInt
  have split := fits.split
  have fromCpu := lettersFromCpuIterI_toNat fits
  have first : fillFromCpuIterI letterCount args (List.replicate letterCount none) =
      .ok (written (digitsOf (fun amount => args.cpuIterI.sshiftRight amount)
          (lettersFromCpuIterI letterCount args).toNat) ++
        List.replicate (args.lettersFromGlobalId.toNat + args.lettersToIterOver.toNat) none) := by
    have filled := fillLetters_eq (fun amount => args.cpuIterI.sshiftRight amount)
      0#32 (lettersFromCpuIterI letterCount args) [] (List.replicate letterCount none) rfl
      (by simp; omega) (by simp; omega)
    have left : letterCount - (lettersFromCpuIterI letterCount args).toNat =
        args.lettersFromGlobalId.toNat + args.lettersToIterOver.toNat := by omega
    simpa only [fillFromCpuIterI, List.nil_append, List.drop_replicate, left] using filled
  have second : fillFromGlobalId letterCount args globalId
        (written (digitsOf (fun amount => args.cpuIterI.sshiftRight amount)
          (lettersFromCpuIterI letterCount args).toNat) ++
        List.replicate (args.lettersFromGlobalId.toNat + args.lettersToIterOver.toNat) none) =
      .ok (written (prefixDigits letterCount args globalId) ++
          List.replicate args.lettersToIterOver.toNat none) := by
    have filled := fillLetters_eq (fun amount => globalId >>> amount)
      (lettersFromCpuIterI letterCount args) args.lettersFromGlobalId
      (written (digitsOf (fun amount => args.cpuIterI.sshiftRight amount)
          (lettersFromCpuIterI letterCount args).toNat))
      (List.replicate (args.lettersFromGlobalId.toNat + args.lettersToIterOver.toNat)
        none) (by simp) (by simp) (by omega)
    simpa only [fillFromGlobalId, prefixDigits, written_append, List.drop_replicate,
      Nat.add_sub_cancel_left] using filled
  have third : baseHash letterCount args (written (prefixDigits letterCount args globalId) ++
        List.replicate args.lettersToIterOver.toNat none) =
      .ok (digitHash 7#64 (prefixDigits letterCount args globalId)) := by
    have length := prefixDigits_length globalId fits
    have hashed := baseHash_prefix (prefixDigits letterCount args globalId)
      (List.replicate args.lettersToIterOver.toNat none) (by omega)
      (baseIdx letterCount args).toNat (by rw [baseIdx_toNat fits]; omega)
    rwa [baseIdx_toNat fits, ← length, List.take_length, length, ← baseIdx_toNat fits] at hashed
  simp only [setUp, first, second, third, bind, Except.bind, pure, Except.pure]

/-- The first `steps` iterations over `idx` overwrite the first `steps` suffix cells
and hash the letters they write. -/
theorem tryCombination_prefix (fits : Fits letterCount args) (base : BitVec 64)
    (i : BitVec 32) {before : List (Fin 16)}
    (position : before.length = letterCount - args.lettersToIterOver.toNat) (steps : Nat)
    (cells : Data) (room : steps ≤ cells.length)
    (within : steps ≤ args.lettersToIterOver.toNat) :
    (List.range steps).foldlM (fun (state : Data × BitVec 64) idx => do
        let letter ← letterAt ((i >>> shiftCount idx) &&& 0xf#32)
        let data ← store state.1 (baseIdx letterCount args + BitVec.ofNat 32 idx) letter
        let hashValue ← hashStep state.2 letter
        return (data, hashValue)) (written before ++ cells, base) =
      .ok (written (before ++ digitsOf (fun amount => i >>> amount) steps) ++ cells.drop steps,
        digitHash base (digitsOf (fun amount => i >>> amount) steps)) := by
  have isInt := fits.isInt
  have split := fits.split
  induction steps with
  | zero => simp; rfl
  | succ steps inductionHypothesis =>
      rw [List.range_succ, List.foldlM_append, inductionHypothesis (by omega) (by omega)]
      have cellsLeft : cells.drop steps = cells[steps] :: cells.drop (steps + 1) :=
        List.drop_eq_getElem_cons (by omega)
      have index : (baseIdx letterCount args + BitVec.ofNat 32 steps).toNat =
          (written (before ++ digitsOf (fun amount => i >>> amount) steps)).length := by
        rw [toNat_add_ofNat (by rw [baseIdx_toNat fits]; omega), baseIdx_toNat fits]
        simp [position]
      simp only [List.foldlM_cons, List.foldlM_nil, letterAt_mask, bind, Except.bind, cellsLeft,
        store_append index, hashStep_letter, digitsOf_succ, digitHash_append_singleton]
      simp [pure, Except.pure, written_singleton]

/-- One combination, whatever earlier combinations left in the suffix cells. -/
theorem tryCombination_eq (fits : Fits letterCount args) (base : BitVec 64) (i : BitVec 32)
    {before : List (Fin 16)}
    (position : before.length = letterCount - args.lettersToIterOver.toNat) {cells : Data}
    (room : cells.length = args.lettersToIterOver.toNat) :
    tryCombination letterCount args base i (written before ++ cells) =
      .ok (written (before ++ digitsOf (fun amount => i >>> amount) args.lettersToIterOver.toNat),
        digitHash base (digitsOf (fun amount => i >>> amount) args.lettersToIterOver.toNat)) := by
  have run := tryCombination_prefix fits base i position args.lettersToIterOver.toNat cells
    (Nat.le_of_eq room.symm) le_rfl
  rw [← room, List.drop_length, List.append_nil, room] at run
  exact run

/-- Iteration `i` writes the examined word and hashes all of it. -/
theorem tryCombination_examined (fits : Fits letterCount args) (i : Nat) {cells : Data}
    (room : cells.length = args.lettersToIterOver.toNat) :
    tryCombination letterCount args (digitHash 7#64 (prefixDigits letterCount args globalId))
        (BitVec.ofNat 32 i) (written (prefixDigits letterCount args globalId) ++ cells) =
      .ok (written (examinedDigits letterCount args globalId i),
        digitHash 7#64 (examinedDigits letterCount args globalId i)) := by
  rw [tryCombination_eq fits _ _ (prefixDigits_length globalId fits) room, examinedDigits,
    digitHash_append]

/-- The written prefix and the suffix cells of an examined word. -/
theorem written_examined (i : Nat) :
    written (examinedDigits letterCount args globalId i) =
      written (prefixDigits letterCount args globalId) ++
        written (digitsOf (fun amount => BitVec.ofNat 32 i >>> amount)
          args.lettersToIterOver.toNat) := by
  rw [examinedDigits, written_append]

/-- At every comparison, `hash_value` is the hash of the whole array. -/
theorem comparedAt_eq (fits : Fits letterCount args) (i : Nat) :
    comparedAt letterCount args globalId i =
      .ok (written (examinedDigits letterCount args globalId i),
        digitHash 7#64 (examinedDigits letterCount args globalId i)) := by
  have earlier : ∀ count, ∃ cells : Data, cells.length = args.lettersToIterOver.toNat ∧
      (List.range count).foldlM (fun data j => do
          let result ← tryCombination letterCount args
            (digitHash 7#64 (prefixDigits letterCount args globalId)) (BitVec.ofNat 32 j) data
          return result.1)
        (written (prefixDigits letterCount args globalId) ++
          List.replicate args.lettersToIterOver.toNat none) =
      .ok (written (prefixDigits letterCount args globalId) ++ cells) := by
    intro count
    induction count with
    | zero => exact ⟨_, List.length_replicate, rfl⟩
    | succ count inductionHypothesis =>
        rcases inductionHypothesis with ⟨cells, room, run⟩
        refine ⟨written (digitsOf (fun amount => BitVec.ofNat 32 count >>> amount)
          args.lettersToIterOver.toNat), by simp, ?_⟩
        rw [List.range_succ, List.foldlM_append, run]
        simp only [List.foldlM_cons, List.foldlM_nil, bind, Except.bind, pure, Except.pure,
          tryCombination_examined globalId fits count room, written_examined]
  obtain ⟨cells, room, run⟩ := earlier i
  simp only [bind, Except.bind, pure, Except.pure] at run
  simp only [comparedAt, setUp_eq globalId fits, bind, Except.bind, pure, Except.pure, run,
    tryCombination_examined globalId fits i room]

/-- A loop that compares `compared i` for each index in turn, up to the first hit. -/
def compareInOrder (targetHash : BitVec 64) (compared : Nat → Except Fault (Data × BitVec 64)) :
    List Nat → Except Fault (Option Data)
  | [] => .ok none
  | i :: rest => do
      let (data, hashValue) ← compared i
      if hashValue = targetHash then
        return some data
      else
        compareInOrder targetHash compared rest

/-- From iteration `i` on, with the `data` that the earlier ones left, the loop compares what
`comparedAt` tells. -/
theorem scan_compares {base : BitVec 64} {start data : Data} (count : Nat) {i : Nat}
    (ready : setUp letterCount args globalId = .ok (start, base))
    (earlier : (List.range i).foldlM (fun data j => do
        let (data, _) ← tryCombination letterCount args base (BitVec.ofNat 32 j) data
        return data) start = .ok data) :
    scan letterCount args base (List.range' i count) data =
      compareInOrder args.targetHash (comparedAt letterCount args globalId)
        (List.range' i count) := by
  induction count generalizing i data with
  | zero => rfl
  | succ count inductionHypothesis =>
      have compared : comparedAt letterCount args globalId i =
          tryCombination letterCount args base (BitVec.ofNat 32 i) data := by
        simp only [bind, Except.bind, pure, Except.pure] at earlier
        simp only [comparedAt, ready, bind, Except.bind, pure, Except.pure, earlier]
      rw [List.range'_succ, scan, compareInOrder, compared]
      cases tried : tryCombination letterCount args base (BitVec.ofNat 32 i) data with
      | error fault => rfl
      | ok result =>
          show (if result.2 = args.targetHash then _ else _) =
            if result.2 = args.targetHash then _ else _
          by_cases hit : result.2 = args.targetHash
          · rw [if_pos hit, if_pos hit]
          · rw [if_neg hit, if_neg hit]
            apply inductionHypothesis
            rw [List.range_succ, List.foldlM_append, earlier]
            simp only [List.foldlM_cons, List.foldlM_nil, bind, Except.bind, pure, Except.pure,
              tried]

theorem combinations_pos : 0 < (combinations args).toNat := by
  have below : (4#32 * args.lettersToIterOver).toNat % 32 < 32 := Nat.mod_lt _ (by decide)
  unfold combinations
  generalize (4#32 * args.lettersToIterOver).toNat % 32 = amount at below ⊢
  rw [BitVec.toNat_shiftLeft, Nat.shiftLeft_eq, show (1#32).toNat = 1 from rfl, Nat.one_mul,
    Nat.mod_eq_of_lt (Nat.pow_lt_pow_right (by decide) below)]
  exact Nat.pow_pos (by decide)

/-- All that a work item compares, in order. -/
theorem search_compares :
    search letterCount args globalId =
      compareInOrder args.targetHash (comparedAt letterCount args globalId)
        (List.range (combinations args).toNat) := by
  unfold search
  rw [List.range_eq_range']
  cases ready : setUp letterCount args globalId with
  | ok result => exact scan_compares globalId (combinations args).toNat ready rfl
  | error fault =>
      obtain ⟨more, enough⟩ := Nat.exists_eq_succ_of_ne_zero (@combinations_pos args).ne'
      rw [enough, List.range'_succ, compareInOrder, comparedAt, ready]
      rfl

/-- The loop over `i` stops at the first index whose word hashes to the target. -/
theorem scan_eq (fits : Fits letterCount args) (indices : List Nat) {cells : Data}
    (room : cells.length = args.lettersToIterOver.toNat) :
    scan letterCount args (digitHash 7#64 (prefixDigits letterCount args globalId)) indices
        (written (prefixDigits letterCount args globalId) ++ cells) =
      .ok ((indices.find? fun i =>
          digitHash 7#64 (examinedDigits letterCount args globalId i) = args.targetHash).map
        fun i => written (examinedDigits letterCount args globalId i)) := by
  induction indices generalizing cells with
  | nil => rfl
  | cons i rest inductionHypothesis =>
      simp only [scan, tryCombination_examined globalId fits i room, bind, Except.bind]
      by_cases hit : digitHash 7#64 (examinedDigits letterCount args globalId i) = args.targetHash
      · simp [hit, pure, Except.pure]
      · rw [if_neg hit, written_examined, inductionHypothesis (by simp)]
        simp [hit]

theorem search_eq (fits : Fits letterCount args) :
    search letterCount args globalId =
      .ok (((List.range (combinations args).toNat).find? fun i =>
          digitHash 7#64 (examinedDigits letterCount args globalId i) = args.targetHash).map
        fun i => written (examinedDigits letterCount args globalId i)) := by
  simp only [search, setUp_eq globalId fits, bind, Except.bind]
  exact scan_eq globalId fits _ (by simp)

end WorkItem

end OpenClHash.Kernel
