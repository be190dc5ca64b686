import Mathlib.Data.List.Basic

/-!
Owns the embedding of `open_cl_kernel.cl` up to the report step: the two
tables, `hash_step`, and everything `main` does on private memory before it
touches `found_flag`. `int` and `uint` are 32-bit words, `long` is a 64-bit word
with wraparound, and a shift count is taken modulo the operand width.

An index outside its array and a read of a private cell that was never written
are faults of the model, so that their absence is a theorem about the kernel.
The report step itself runs on shared memory; the launch owns it.
-/

namespace OpenClHash.Kernel

/-- What the C text leaves undefined and this model makes visible. -/
inductive Fault where
  | outOfBounds
  | uninitialised
deriving DecidableEq, Repr

/-- `__constant int lookup[26]`. -/
def lookup : List (BitVec 32) :=
  [0, 0, 1, 2, 3, 0, 4, 0, 5, 0, 0, 6, 7, 8, 9, 10, 0, 11, 12, 13, 14, 0, 15, 0, 0, 0]

/-- `__constant char letters[16]`. -/
def letters : List Char :=
  ['a', 'c', 'd', 'e', 'g', 'i', 'l', 'm', 'n', 'o', 'p', 'r', 's', 't', 'u', 'w']

/-- `lookup[letter - 'a']`; a letter before `'a'` makes the index negative. -/
def lookupAt (letter : Char) : Except Fault (BitVec 32) :=
  if letter.toNat < 'a'.toNat then
    .error .outOfBounds
  else
    match lookup[letter.toNat - 'a'.toNat]? with
    | some value => .ok value
    | none => .error .outOfBounds

/-- `letters[index]`. -/
def letterAt (index : BitVec 32) : Except Fault Char :=
  match letters[index.toNat]? with
  | some letter => .ok letter
  | none => .error .outOfBounds

/-- `previous_val * 37 + lookup[letter - 'a']` in `long` arithmetic. -/
def hashStep (previousVal : BitVec 64) (letter : Char) : Except Fault (BitVec 64) := do
  let value ← lookupAt letter
  return previousVal * 37#64 + value.signExtend 64

/-- The private array `char data[LETTER_COUNT]`; a cell is `none` until it is written. -/
abbrev Data := List (Option Char)

/-- `data[index]` as a value. -/
def load (data : Data) (index : BitVec 32) : Except Fault Char :=
  match data[index.toNat]? with
  | some (some letter) => .ok letter
  | some none => .error .uninitialised
  | none => .error .outOfBounds

/-- `data[index] = letter`. -/
def store (data : Data) (index : BitVec 32) (letter : Char) : Except Fault Data :=
  if index.toNat < data.length then
    .ok (data.set index.toNat (some letter))
  else
    .error .outOfBounds

/-- The shift count `i * 4` of a 32-bit operand. -/
def shiftCount (i : Nat) : Nat := (BitVec.ofNat 32 i * 4#32).toNat % 32

/-- The scalar arguments of the kernel. -/
structure Arguments where
  targetHash : BitVec 64
  lettersFromGlobalId : BitVec 32
  cpuIterI : BitVec 32
  lettersToIterOver : BitVec 32
deriving DecidableEq, Repr

/-- `for (i = 0; i < count; i++) data[start + i] = letters[(value >> (i*4)) & 0xf]`,
where `shifted` is `value >> ·`. The kernel runs it twice. -/
def fillLetters (shifted : Nat → BitVec 32) (start count : BitVec 32) (data : Data) :
    Except Fault Data :=
  (List.range count.toNat).foldlM (fun data i => do
    let letter ← letterAt (shifted (shiftCount i) &&& 0xf#32)
    store data (start + BitVec.ofNat 32 i) letter) data

section WorkItem

variable (letterCount : Nat) (args : Arguments) (globalId : BitVec 32)

/-- `uint letters_from_cpu_iter_i`. -/
def lettersFromCpuIterI : BitVec 32 :=
  BitVec.ofNat 32 letterCount - args.lettersToIterOver - args.lettersFromGlobalId

/-- The first loop: `cpu_iter_i` is an `int`, so its shift keeps the sign. -/
def fillFromCpuIterI (data : Data) : Except Fault Data :=
  fillLetters (fun amount => args.cpuIterI.sshiftRight amount) 0#32
    (lettersFromCpuIterI letterCount args) data

/-- The second loop: `global_id` is a `uint`. -/
def fillFromGlobalId (data : Data) : Except Fault Data :=
  fillLetters (fun amount => globalId >>> amount) (lettersFromCpuIterI letterCount args)
    args.lettersFromGlobalId data

/-- `uint base_idx`. -/
def baseIdx : BitVec 32 :=
  lettersFromCpuIterI letterCount args + args.lettersFromGlobalId

/-- `long base_hash` after the third loop. -/
def baseHash (data : Data) : Except Fault (BitVec 64) :=
  (List.range (baseIdx letterCount args).toNat).foldlM (fun hash i => do
    let letter ← load data (BitVec.ofNat 32 i)
    hashStep hash letter) 7#64

/-- `uint combinations = 1 << (4 * letters_to_iter_over)`. -/
def combinations : BitVec 32 :=
  1#32 <<< ((4#32 * args.lettersToIterOver).toNat % 32)

/-- The loop over `idx` for one `i`: the overwritten suffix and `hash_value`. -/
def tryCombination (base : BitVec 64) (i : BitVec 32) (data : Data) :
    Except Fault (Data × BitVec 64) :=
  (List.range args.lettersToIterOver.toNat).foldlM (fun (data, hashValue) idx => do
    let letter ← letterAt ((i >>> shiftCount idx) &&& 0xf#32)
    let data ← store data (baseIdx letterCount args + BitVec.ofNat 32 idx) letter
    let hashValue ← hashStep hashValue letter
    return (data, hashValue)) (data, base)

/-- The loop over `i`, up to the `break`: the data of the first combination whose
hash is the target, or `none` when the loop runs out. -/
def scan (base : BitVec 64) : List Nat → Data → Except Fault (Option Data)
  | [], _ => .ok none
  | i :: rest, data => do
      let (data, hashValue) ← tryCombination letterCount args base (BitVec.ofNat 32 i) data
      if hashValue = args.targetHash then
        return some data
      else
        scan base rest data

/-- The array and the hash of its first `base_idx` letters, before the loop over `i`. -/
def setUp : Except Fault (Data × BitVec 64) := do
  let data ← fillFromCpuIterI letterCount args (List.replicate letterCount none)
  let data ← fillFromGlobalId letterCount args globalId data
  let base ← baseHash letterCount args data
  return (data, base)

/-- All a work item does before its `atomic_cmpxchg`; `none` when it never gets there. -/
def search : Except Fault (Option Data) := do
  let (data, base) ← setUp letterCount args globalId
  scan letterCount args base (List.range (combinations args).toNat) data

/-- The contents of `data` and `hash_value` when iteration `i` compares them,
no earlier iteration having left the loop. -/
def comparedAt (i : Nat) : Except Fault (Data × BitVec 64) := do
  let (data, base) ← setUp letterCount args globalId
  let data ← (List.range i).foldlM (fun data j => do
    let (data, _) ← tryCombination letterCount args base (BitVec.ofNat 32 j) data
    return data) data
  tryCombination letterCount args base (BitVec.ofNat 32 i) data

end WorkItem

end OpenClHash.Kernel
