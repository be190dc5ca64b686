import OpenClHash.Host.Split
import OpenClHash.Wrapper.Arguments

/-!
Owns what `main` asks of the wrapper up to its launch `i`, and what the kernel gets for its
parameters there: the two buffers, the target and the three counters, each with the value it
has on the host.
-/

namespace OpenClHash.Host

open OpenClHash.Kernel OpenClHash.Library OpenClHash.Library.Fallible OpenClHash.Sizing
open OpenClHash.Wrapper

/-! ### The calls of `main` -/

/-- What `allocate` and `create_kernel` returned to `main`. -/
structure Pointers where
  gpuBuf : Fin 32
  gpuFlag : Fin 32
  kernel : Fin 32

section Calls

variable (split : Split) (targetHash : BitVec 64) (pointers : Pointers)

/-- Up to the loop: `CL_MEM_WRITE_ONLY` is 2 and `CL_MEM_READ_WRITE` is 1. -/
def setUp : List Op :=
  let size := BitVec.ofNat 64 split.letterCount
  [.init,
    .allocate 2#64 size,
    .writeBuffer pointers.gpuBuf 0#64 size (List.replicate (split.letterCount + 1) 0#8) true,
    .allocate 1#64 4#64,
    .writeBuffer pointers.gpuFlag 0#64 4#64 (List.replicate 4 0#8) true,
    .createKernel "src/kernel/open_cl_kernel.cl"
      (some ("-D LETTER_COUNT=" ++ toString split.letterCount)) "main"]

/-- The arguments that iteration `i` pushes. -/
def pushes (i : Nat) : List Op :=
  let config := split.config targetHash
  [.pushBuffer pointers.kernel pointers.gpuBuf,
    .pushBuffer pointers.kernel pointers.gpuFlag,
    .pushArg pointers.kernel 8#64 (bytesOf config.targetHash),
    .pushArg pointers.kernel 4#64 (bytesOf config.lettersFromGlobalId),
    .pushArg pointers.kernel 4#64 (bytesOf (BitVec.ofNat 64 i)),
    .pushArg pointers.kernel 4#64 (bytesOf config.lettersToIterOverInKernel)]

/-- An iteration that finds the flag down. -/
def iteration (i : Nat) : List Op :=
  pushes split targetHash pointers i ++
    [.execute pointers.kernel 1#32 [(split.config targetHash).globalWorkSize] (some [256#64]),
      .readWhole pointers.gpuFlag true]

/-- Everything before launch `i`. -/
def beforeLaunch (i : Nat) : List Op :=
  setUp split pointers ++
    ((List.range i).flatMap (iteration split targetHash pointers) ++
      pushes split targetHash pointers i)

/-! ### What they push -/

theorem argue_iteration (i : Nat) (values : List Pushed) :
    (iteration split targetHash pointers i).foldl (Op.argue pointers.kernel) values = [] := by
  unfold iteration
  rw [List.foldl_append]
  simp [Op.argue]

theorem argue_iterations (count : Nat) :
    ((List.range count).flatMap (iteration split targetHash pointers)).foldl
      (Op.argue pointers.kernel) [] = [] := by
  induction count with
  | zero => rfl
  | succ count inductionHypothesis =>
      rw [List.range_succ, List.flatMap_append, List.foldl_append, inductionHypothesis]
      simp [argue_iteration]

/-- The round of launch `i` is what iteration `i` pushes. -/
theorem pending_beforeLaunch (i : Nat) :
    pending pointers.kernel (beforeLaunch split targetHash pointers i) =
      [.buffer pointers.gpuBuf, .buffer pointers.gpuFlag,
        .bytes ((bytesOf targetHash).take 8),
        .bytes ((bytesOf (BitVec.ofNat 64 split.fromGlobalId)).take 4),
        .bytes ((bytesOf (BitVec.ofNat 64 i)).take 4),
        .bytes ((bytesOf (BitVec.ofNat 64 split.inKernel)).take 4)] := by
  have nothing : (setUp split pointers).foldl (Op.argue pointers.kernel) [] = [] := rfl
  unfold pending beforeLaunch
  rw [List.foldl_append, nothing, List.foldl_append, argue_iterations]
  simp [pushes, Op.argue, Split.config]

end Calls

/-! ### What the kernel gets -/

/-- A `long` read from its bytes in memory order on a little-endian device. -/
def readLong (bytes : List (BitVec 8)) : BitVec 64 := LittleEndian.read 64 bytes

/-- All eight bytes of a 64-bit variable are its value. -/
theorem readLong_bytesOf (value : BitVec 64) : readLong (bytesOf value) = value := by
  have read : readLong (bytesOf value) = value.setWidth 64 :=
    LittleEndian.read_bytes (by decide) value
  rw [read, BitVec.setWidth_eq]

/-- The parameters of the kernel. -/
structure Parameters where
  target : Handle
  foundFlag : Handle
  args : Kernel.Arguments

/-- The parameters in the order in which the kernel declares them. -/
def Parameters.read : List ArgValue → Option Parameters
  | [.memObject target, .memObject foundFlag, .bytes targetHash, .bytes lettersFromGlobalId,
      .bytes cpuIterI, .bytes lettersToIterOver] =>
      some {
        target := target
        foundFlag := foundFlag
        args := {
          targetHash := readLong targetHash
          lettersFromGlobalId := readInt lettersFromGlobalId
          cpuIterI := readInt cpuIterI
          lettersToIterOver := readInt lettersToIterOver } }
  | _ => none

section Launches

variable (driver : Driver) (split : Split) (targetHash : BitVec 64) (pointers : Pointers) (i : Nat)

/-- `main` is about to make launch `i`: all its calls returned, and the pointers are those that
`allocate` and `create_kernel` returned. -/
structure Reaches (garbage : Garbage) (session : Session) : Prop where
  below : i < (split.config targetHash).repeatCnt.toNat
  ran : (Session.start garbage).run driver (beforeLaunch split targetHash pointers i) = some session
  returned : (Session.start garbage).returnedOps driver (beforeLaunch split targetHash pointers i) =
    beforeLaunch split targetHash pointers i
  buffers : session.buffers = [pointers.gpuFlag, pointers.gpuBuf]
  kernels : session.kernels = [pointers.kernel]

/-- The parameters are the two buffers and the values that the variables have on the host. -/
structure Receives (state : State) (parameters : Parameters) : Prop where
  target : parameters.target = (state.allocations pointers.gpuBuf).handle
  foundFlag : parameters.foundFlag = (state.allocations pointers.gpuFlag).handle
  args : parameters.args = (split.config targetHash).arguments (BitVec.ofNat 64 i)
  hash : parameters.args.targetHash = targetHash
  fromGlobalId : parameters.args.lettersFromGlobalId.toInt =
    (split.config targetHash).lettersFromGlobalId.toNat
  index : parameters.args.cpuIterI.toInt = i
  inKernel : parameters.args.lettersToIterOver.toInt =
    (split.config targetHash).lettersToIterOverInKernel.toNat

variable {driver split targetHash pointers i}

/-- A small value survives its four bytes, also as a signed one. -/
theorem pushInt_toInt {value : Nat} (small : value < 2 ^ 31) :
    (pushInt (BitVec.ofNat 64 value)).toInt = value := by
  have same : (pushInt (BitVec.ofNat 64 value)).toNat = value := pushInt_ofNat (by omega)
  rw [BitVec.toInt_eq_toNat_cond, same, if_pos (by omega)]

theorem receives (state : State) (below : i < (split.config targetHash).repeatCnt.toNat) :
    ∃ parameters, Parameters.read ((pending pointers.kernel
        (beforeLaunch split targetHash pointers i)).map (Pushed.value state)) = some parameters ∧
      Receives split targetHash pointers i state parameters := by
  have onCpu := pow_le_of_le_seven split.onCpu_le
  have fromGlobalId := split.fromGlobalId_le
  have inKernel := split.inKernel_le
  rw [repeatCnt_toNat] at below
  have hash : readLong ((bytesOf targetHash).take 8) = targetHash := readLong_bytesOf targetHash
  rw [pending_beforeLaunch]
  refine ⟨_, rfl, rfl, rfl, ?_, hash, ?_, ?_, ?_⟩
  · exact congrArg (fun read => Kernel.Arguments.mk read _ _ _) hash
  · have kept : (split.config targetHash).lettersFromGlobalId.toNat = split.fromGlobalId :=
      Nat.mod_eq_of_lt (by omega)
    rw [kept]
    exact pushInt_toInt (by omega)
  · exact pushInt_toInt (by omega)
  · have kept : (split.config targetHash).lettersToIterOverInKernel.toNat = split.inKernel :=
      Nat.mod_eq_of_lt (by omega)
    rw [kept]
    exact pushInt_toInt (by omega)

end Launches

/-- Without failures of OpenCL every launch of a kernel runs with the arguments of its own round,
whatever happens to other kernels, and launch `i` of `main` with those of iteration `i`. -/
theorem launches_see_their_round (driver : Driver) (neverFails : driver.NeverFails)
    (garbage : Garbage) :
    (∀ (ops : List Op) (session : Session) (kernel : Fin 32) (workDim : BitVec 32)
      (globalWorkSize : List (BitVec 64)) (localWorkSize : Option (List (BitVec 64)))
      (after : State),
      (Session.start garbage).run driver ops = some session → kernel ∈ session.kernels →
      (execute driver kernel workDim globalWorkSize localWorkSize).run session.context =
        .ok () after →
      RunsWith kernel workDim globalWorkSize localWorkSize session.context after
        ((pending kernel ((Session.start garbage).returnedOps driver ops)).map
          (Pushed.value session.context))) ∧
    ∀ (split : Split) (targetHash : BitVec 64) (pointers : Pointers) (i : Nat) (session : Session)
      (after : State), Reaches driver split targetHash pointers i garbage session →
      (execute driver pointers.kernel 1#32 [(split.config targetHash).globalWorkSize]
        (some [256#64])).run session.context = .ok () after →
      ∃ arguments parameters,
        RunsWith pointers.kernel 1#32 [(split.config targetHash).globalWorkSize] (some [256#64])
          session.context after arguments ∧
        Parameters.read arguments = some parameters ∧
        Receives split targetHash pointers i session.context parameters := by
  constructor
  · intro ops session kernel workDim globalWorkSize localWorkSize after ran given launched
    exact runsWith_pending neverFails ran given launched
  · intro split targetHash pointers i session after reaches launched
    have given : pointers.kernel ∈ session.kernels := by
      rw [reaches.kernels]
      exact List.mem_cons_self
    have runs := runsWith_pending neverFails reaches.ran given launched
    rw [reaches.returned] at runs
    obtain ⟨parameters, read, receives⟩ := receives session.context reaches.below
    exact ⟨_, parameters, runs, read, receives⟩

/-- The second launch of the program in the repository. -/
theorem launches_see_their_round_second :
    ∃ (split : Split) (pointers : Pointers) (session : Session) (after : State)
      (arguments : List ArgValue) (parameters : Parameters),
      split.config 910897038977002#64 = shippedConfig ∧
      RunsWith pointers.kernel 1#32 [65536#64] (some [256#64]) session.context after arguments ∧
      Parameters.read arguments = some parameters ∧
      Receives split 910897038977002#64 pointers 1 session.context parameters := by
  let split : Split := ⟨3, 4, 2, by decide, by decide, by decide⟩
  let driver : Driver := .succeeding (squareDevice 1024#64)
  let ops := beforeLaunch split 910897038977002#64 ⟨0, 1, 0⟩ 1
  have evaluated : ((Session.start (.filled 0)).run driver ops).map (fun session =>
      (session.buffers, session.kernels,
        Op.returns driver session.context (.execute 0 1#32 [65536#64] (some [256#64])))) =
      some ([1, 0], [0], true) := by
    decide +kernel
  have all : ((Session.start (.filled 0)).returnedOps driver ops).length = ops.length := by
    decide +kernel
  obtain ⟨session, ran, known⟩ := Option.map_eq_some_iff.mp evaluated
  simp only [Prod.mk.injEq] at known
  rcases known with ⟨buffers, kernels, returns⟩
  obtain ⟨_, after, performed⟩ := Op.exists_of_returns returns
  obtain ⟨_, launched, _⟩ := returned_of_map performed
  have reaches : Reaches driver split 910897038977002#64 ⟨0, 1, 0⟩ 1 (.filled 0) session :=
    ⟨by decide, ran, (returnedOps_sublist driver _ ops).eq_of_length all, buffers, kernels⟩
  obtain ⟨arguments, parameters, runs, read, receives⟩ :=
    (launches_see_their_round driver (fun _ => rfl) (.filled 0)).2 split 910897038977002#64
      ⟨0, 1, 0⟩ 1 session after reaches launched
  exact ⟨split, ⟨0, 1, 0⟩, session, after, arguments, parameters, by decide, runs, read, receives⟩

end OpenClHash.Host
