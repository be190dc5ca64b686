import OpenClHash.Kernel.Source

/-!
Owns the constants and the argument passing of `main` in `Main_cl.cpp`, for any
`LETTER_COUNT` and any split of it. `size_t` and `ull` are 64-bit words; the integer
literal in `1 << n` makes the shift an `int` shift, and the conversion of its result
extends the sign.

`sizeof(cl_int)` bytes of a 64-bit variable are passed to each `int` parameter, so the
kernel reads the four low-order bytes on a little-endian host.
-/

namespace OpenClHash.Host

open OpenClHash.Kernel

/-! ### Object representations -/

/-- The bytes of a 64-bit variable in memory order on a little-endian host. -/
def bytesOf (value : BitVec 64) : List (BitVec 8) :=
  (List.range 8).map fun index => value.extractLsb' (8 * index) 8

/-- An `int` read from its bytes in memory order on a little-endian device. -/
def readInt (bytes : List (BitVec 8)) : BitVec 32 :=
  bytes.foldr (fun byte high => (high <<< 8) ||| byte.setWidth 32) 0#32

/-- `push_arg(sizeof(cl_int), &value)` as the kernel reads it. -/
def pushInt (value : BitVec 64) : BitVec 32 := readInt ((bytesOf value).take 4)

/-! ### The constants of `main` -/

/-- What the program text fixes: `LETTER_COUNT`, `target_hash` and the two letter counts. -/
structure Config where
  letterCount : Nat
  targetHash : BitVec 64
  lettersFromGlobalId : BitVec 64
  lettersToIterOverInKernel : BitVec 64
deriving DecidableEq, Repr

/-- `1 << (letters * 4)` converted to 64 bits. -/
def shiftedOne (lettersTimesFour : BitVec 64) : BitVec 64 :=
  (1#32 <<< lettersTimesFour.toNat).signExtend 64

namespace Config

variable (config : Config)

/-- `global_work_size`. -/
def globalWorkSize : BitVec 64 := shiftedOne (config.lettersFromGlobalId * 4#64)

/-- `letters_to_iter_over_on_cpu`. -/
def lettersToIterOverOnCpu : BitVec 64 :=
  BitVec.ofNat 64 config.letterCount - config.lettersFromGlobalId -
    config.lettersToIterOverInKernel

/-- `repeatCnt`. -/
def repeatCnt : BitVec 64 := shiftedOne (config.lettersToIterOverOnCpu * 4#64)

/-- The scalar arguments `main` pushes in iteration `i`. -/
def arguments (i : BitVec 64) : Arguments where
  targetHash := config.targetHash
  lettersFromGlobalId := pushInt config.lettersFromGlobalId
  cpuIterI := pushInt i
  lettersToIterOver := pushInt config.lettersToIterOverInKernel

end Config

/-- The constants in the repository. -/
def shippedConfig : Config where
  letterCount := 9
  targetHash := 910897038977002#64
  lettersFromGlobalId := 4#64
  lettersToIterOverInKernel := 2#64

end OpenClHash.Host
