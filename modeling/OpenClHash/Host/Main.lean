import OpenClHash.Device.Runs
import OpenClHash.Host.Acceptance
import OpenClHash.Host.SearchSpace

/-!
Owns the loop of `main` where every call of OpenCL succeeds: the check of each launch, one
launch per host index on zeroed buffers, the blocking read of the flag after each, and the
report. A schedule per launch stands for the order in which OpenCL runs the work items.

On a device that accepts the launches the loop ends for all schedules that complete them, and
it finds a word exactly when one hashes to the target, at the smallest host index whose launch
contains one. On any other device the first launch raises.
-/

namespace OpenClHash.Host

open OpenClHash.Kernel OpenClHash.Device OpenClHash.Sizing

/-! ### The loop -/

/-- Both buffers after `main` wrote zeros to them. -/
def zeroMemory (letterCount : Nat) : Memory where
  foundFlag := 0#32
  target := List.replicate letterCount '\x00'

/-- What `std::cout << result_buffer` prints. -/
def cString (buffer : List Char) : List Char := buffer.takeWhile fun character => character ≠ '\x00'

/-- `cpu_buf` after `target` was read back into it and its last byte was cleared, printed. -/
def resultString (letterCount : Nat) (target : List Char) : List Char :=
  let cpuBuf := List.replicate (letterCount + 1) '\x00'
  cString ((target ++ cpuBuf.drop target.length).set letterCount '\x00')

/-- How `main` ended: the launches it made, the string it printed if it left the loop by
its `found` branch, and the buffers. -/
structure Outcome where
  launches : Nat
  found : Option (List Char)
  memory : Memory
deriving DecidableEq, Repr

section Loop

variable (info : DeviceInfo) (maxWorkGroupSize : BitVec 64) (split : Split)
  (targetHash : BitVec 64)

/-- The launch in iteration `i`. -/
def Split.launch (i : Nat) : Launch split.letterCount targetHash where
  lettersFromGlobalId :=
    ((split.config targetHash).arguments (BitVec.ofNat 64 i)).lettersFromGlobalId
  cpuIterI := ((split.config targetHash).arguments (BitVec.ofNat 64 i)).cpuIterI
  lettersToIterOver := ((split.config targetHash).arguments (BitVec.ofNat 64 i)).lettersToIterOver
  workItems := (split.config targetHash).globalWorkSize.toNat
  nonempty := by
    rw [globalWorkSize_toNat]
    exact Nat.pow_pos (by decide)
  fits := arguments_fits split targetHash (BitVec.ofNat 64 i)

/-- The loop from iteration `i` with `remaining` iterations to `repeatCnt`: an outcome or what
`execute` raises, or nothing if a launch never completes. -/
def mainLoop (schedules : Nat → List Nat) :
    Nat → Nat → Memory → Option (Except Failure Outcome)
  | 0, i, memory => some (.ok { launches := i, found := none, memory := memory })
  | remaining + 1, i, memory =>
      match launchCheck info maxWorkGroupSize split targetHash with
      | .error failure => some (.error failure)
      | .ok () => do
          let memory ← (split.launch targetHash i).run (schedules i) memory
          if memory.foundFlag ≠ 0#32 then
            return .ok {
              launches := i + 1
              found := some (resultString split.letterCount memory.target)
              memory := memory }
          else
            mainLoop schedules remaining (i + 1) memory

/-- `main` from its loop on. -/
def main (schedules : Nat → List Nat) : Option (Except Failure Outcome) :=
  mainLoop info maxWorkGroupSize split targetHash schedules
    (split.config targetHash).repeatCnt.toNat 0 (zeroMemory split.letterCount)

/-- Launch `i` examines a word that hashes to the target. -/
def LaunchMatches (i : Nat) : Prop :=
  ∃ globalId < 16 ^ split.fromGlobalId, ∃ j < 16 ^ split.inKernel,
    wordHash (examinedWord split i globalId j).val = .ok targetHash

/-- Each launch that no earlier one makes superfluous runs every work item to its end. -/
def Completes (schedules : Nat → List Nat) : Prop :=
  ∀ i < 16 ^ split.onCpu, (∀ earlier < i, ¬ LaunchMatches split targetHash earlier) →
    ((split.launch targetHash i).run (schedules i) (zeroMemory split.letterCount)).isSome

end Loop

/-! ### What is found -/

section Found

variable {split : Split} {targetHash : BitVec 64}

theorem resultString_of_isWord {letterCount : Nat} {word : List Char}
    (isWord : IsWord letterCount word) : resultString letterCount word = word := by
  have buffer : (word ++ (List.replicate (letterCount + 1) '\x00').drop word.length).set
      letterCount '\x00' = word ++ ['\x00'] := by
    rw [isWord.1, List.drop_replicate, Nat.add_sub_cancel_left,
      List.set_append_right _ _ (Nat.le_of_eq isWord.1), isWord.1, Nat.sub_self]
    rfl
  have printable : ∀ character ∈ word, decide (character ≠ '\x00') = true := by
    intro character member
    obtain ⟨digit, rfl⟩ := mem_letters (isWord.2 character member)
    simpa using letter_ne_nul digit
  rw [resultString, buffer, cString, List.takeWhile_append_of_pos printable]
  simp

theorem launch_examined {i item j : Nat} (iBelow : i < 16 ^ split.onCpu)
    (itemBelow : item < 16 ^ split.fromGlobalId) (jBelow : j < 16 ^ split.inKernel) :
    (split.launch targetHash i).examined item j = wordDigits split i item j :=
  examinedDigits_eq split targetHash iBelow itemBelow jBelow

theorem launch_combinations (i : Nat) :
    (combinations (split.launch targetHash i).args).toNat = 16 ^ split.inKernel :=
  combinations_toNat split targetHash (BitVec.ofNat 64 i)

theorem launch_workItems (i : Nat) :
    (split.launch targetHash i).workItems = 16 ^ split.fromGlobalId :=
  globalWorkSize_toNat split targetHash

theorem wordHash_examinedWord (i globalId j : Nat) :
    wordHash (examinedWord split i globalId j).val = .ok targetHash ↔
      digitHash 7#64 (wordDigits split i globalId j) = targetHash := by
  rw [examinedWord, wordHash_spell, Except.ok.injEq]

/-- A launch matches exactly when one of its work items has something to report. -/
theorem launchMatches_iff {i : Nat} (iBelow : i < 16 ^ split.onCpu) :
    LaunchMatches split targetHash i ↔
      ∃ item < (split.launch targetHash i).workItems,
        (split.launch targetHash i).offer item ≠ none := by
  simp only [LaunchMatches, wordHash_examinedWord, launch_workItems, Ne,
    Launch.offer_eq_none_iff, launch_combinations, not_forall, not_not, exists_prop]
  constructor
  · intro hit
    rcases hit with ⟨item, itemBelow, j, jBelow, hit⟩
    exact ⟨item, itemBelow, j, jBelow, by rwa [launch_examined iBelow itemBelow jBelow]⟩
  · intro hit
    rcases hit with ⟨item, itemBelow, j, jBelow, hit⟩
    exact ⟨item, itemBelow, j, jBelow, by rwa [launch_examined iBelow itemBelow jBelow] at hit⟩

/-- Some launch matches exactly when some word of the full length does. -/
theorem exists_launchMatches_iff :
    (∃ i < 16 ^ split.onCpu, LaunchMatches split targetHash i) ↔
      ∃ word, IsWord split.letterCount word ∧ wordHash word = .ok targetHash := by
  constructor
  · intro found
    rcases found with ⟨i, _, globalId, _, j, _, hash⟩
    exact ⟨_, (examinedWord split i globalId j).property, hash⟩
  · intro found
    rcases found with ⟨word, isWord, hash⟩
    rcases isWord.exists_spell with ⟨digits, length, rfl⟩
    obtain ⟨i, iBelow, globalId, globalIdBelow, j, jBelow, rfl⟩ := exists_wordDigits split length
    exact ⟨i, iBelow, globalId, globalIdBelow, j, jBelow, hash⟩

/-- The two ways `main` ends. -/
inductive Ends (split : Split) (targetHash : BitVec 64) (outcome : Outcome) : Prop where
  | exhausted (none : outcome.found = none) (launches : outcome.launches = 16 ^ split.onCpu)
      (memory : outcome.memory = zeroMemory split.letterCount)
      (miss : ∀ i < 16 ^ split.onCpu, ¬ LaunchMatches split targetHash i)
  | found (word : List Char) (i : Nat) (reported : outcome.found = some word)
      (isWord : IsWord split.letterCount word) (hash : wordHash word = .ok targetHash)
      (launches : outcome.launches = i + 1) (below : i < 16 ^ split.onCpu)
      (hit : LaunchMatches split targetHash i)
      (earliest : ∀ earlier < i, ¬ LaunchMatches split targetHash earlier)

theorem not_found_zeroMemory (letterCount : Nat) :
    ¬ (zeroMemory letterCount).foundFlag ≠ 0#32 := not_not.mpr rfl

/-- A launch of the loop either matches nothing and leaves the zeros, or ends the loop with a
word that hashes to the target. -/
theorem launch_cases {i : Nat} {schedule : List Nat} {memory : Memory}
    (below : i < 16 ^ split.onCpu)
    (launched : (split.launch targetHash i).run schedule (zeroMemory split.letterCount) =
      some memory) :
    (memory = zeroMemory split.letterCount ∧ ¬ LaunchMatches split targetHash i) ∨
      (memory.foundFlag ≠ 0#32 ∧ LaunchMatches split targetHash i ∧
        IsWord split.letterCount memory.target ∧ wordHash memory.target = .ok targetHash) := by
  rcases run_outcome rfl List.length_replicate launched with
    ⟨unchanged, noOffer⟩ | ⟨up, item, inside, offers⟩
  · refine .inl ⟨unchanged, fun hit => ?_⟩
    obtain ⟨item, inside, offers⟩ := (launchMatches_iff below).mp hit
    exact offers (noOffer item inside)
  · refine .inr ⟨?_, ?_, (split.launch targetHash i).offer_isWord offers⟩
    · rw [up]
      decide
    · exact (launchMatches_iff below).mpr ⟨item, inside, by simp [offers]⟩

end Found

section Runs

variable {info : DeviceInfo} {maxWorkGroupSize : BitVec 64} {split : Split} {targetHash : BitVec 64}
  {schedules : Nat → List Nat} {remaining i : Nat} {outcome : Outcome}

/-- An accepted iteration. -/
theorem mainLoop_succ (accepted : launchCheck info maxWorkGroupSize split targetHash = .ok ())
    (memory : Memory) :
    mainLoop info maxWorkGroupSize split targetHash schedules (remaining + 1) i memory =
      ((split.launch targetHash i).run (schedules i) memory).bind fun memory =>
        if memory.foundFlag ≠ 0#32 then
          some (.ok {
            launches := i + 1
            found := some (resultString split.letterCount memory.target)
            memory := memory })
        else
          mainLoop info maxWorkGroupSize split targetHash schedules remaining (i + 1) memory := by
  rw [mainLoop, accepted]
  rfl

/-- Only an accepted loop has an outcome after its first launch. -/
theorem accepted_of_mainLoop {memory : Memory}
    (ran : mainLoop info maxWorkGroupSize split targetHash schedules (remaining + 1) i memory =
      some (.ok outcome)) : launchCheck info maxWorkGroupSize split targetHash = .ok () := by
  rw [mainLoop] at ran
  cases checked : launchCheck info maxWorkGroupSize split targetHash with
  | ok value => rfl
  | error failure =>
      rw [checked] at ran
      cases ran

/-- An accepted loop raises nothing. -/
theorem mainLoop_ok (accepted : launchCheck info maxWorkGroupSize split targetHash = .ok ())
    {memory : Memory} {outcome : Except Failure Outcome}
    (ran : mainLoop info maxWorkGroupSize split targetHash schedules remaining i memory =
      some outcome) : ∃ ended, outcome = .ok ended := by
  induction remaining generalizing i memory with
  | zero =>
      cases ran
      exact ⟨_, rfl⟩
  | succ remaining inductionHypothesis =>
      rw [mainLoop_succ accepted] at ran
      obtain ⟨memory, launched, rest⟩ := Option.bind_eq_some_iff.mp ran
      split at rest
      · cases rest
        exact ⟨_, rfl⟩
      · exact inductionHypothesis rest

theorem mainLoop_ends (total : i + remaining = 16 ^ split.onCpu)
    (miss : ∀ earlier < i, ¬ LaunchMatches split targetHash earlier)
    (ran : mainLoop info maxWorkGroupSize split targetHash schedules remaining i
      (zeroMemory split.letterCount) = some (.ok outcome)) : Ends split targetHash outcome := by
  induction remaining generalizing i with
  | zero =>
      cases ran
      exact .exhausted rfl total rfl (fun earlier below => miss earlier (by omega))
  | succ remaining inductionHypothesis =>
      have iBelow : i < 16 ^ split.onCpu := by omega
      rw [mainLoop_succ (accepted_of_mainLoop ran)] at ran
      obtain ⟨memory, launched, rest⟩ := Option.bind_eq_some_iff.mp ran
      rcases launch_cases iBelow launched with ⟨rfl, missed⟩ | ⟨raised, hit, isWord, hash⟩
      · rw [if_neg (not_found_zeroMemory _)] at rest
        have missNext := Nat.forall_lt_succ_right.mpr ⟨miss, missed⟩
        exact inductionHypothesis (by omega) missNext rest
      · rw [if_pos raised] at rest
        cases rest
        refine .found memory.target i ?_ isWord hash rfl iBelow hit miss
        rw [resultString_of_isWord isWord]

theorem main_ends
    (ran : main info maxWorkGroupSize split targetHash schedules = some (.ok outcome)) :
    Ends split targetHash outcome := by
  unfold main at ran
  rw [repeatCnt_toNat] at ran
  exact mainLoop_ends (Nat.zero_add _) (fun _ below => absurd below (Nat.not_lt_zero _)) ran

/-- A loop whose launches are accepted and completed ends. -/
theorem exists_mainLoop (accepted : launchCheck info maxWorkGroupSize split targetHash = .ok ())
    (completes : Completes split targetHash schedules)
    (total : i + remaining = 16 ^ split.onCpu)
    (miss : ∀ earlier < i, ¬ LaunchMatches split targetHash earlier) :
    ∃ outcome, mainLoop info maxWorkGroupSize split targetHash schedules remaining i
      (zeroMemory split.letterCount) = some (.ok outcome) := by
  induction remaining generalizing i with
  | zero => exact ⟨_, rfl⟩
  | succ remaining inductionHypothesis =>
      have iBelow : i < 16 ^ split.onCpu := by omega
      obtain ⟨memory, launched⟩ := Option.isSome_iff_exists.mp (completes i iBelow miss)
      rw [mainLoop_succ accepted, launched, Option.bind_some]
      rcases launch_cases iBelow launched with ⟨rfl, missed⟩ | ⟨raised, _⟩
      · rw [if_neg (not_found_zeroMemory _)]
        have missNext := Nat.forall_lt_succ_right.mpr ⟨miss, missed⟩
        exact inductionHypothesis (by omega) missNext
      · rw [if_pos raised]
        exact ⟨_, rfl⟩

theorem exists_main (accepted : launchCheck info maxWorkGroupSize split targetHash = .ok ())
    (completes : Completes split targetHash schedules) :
    ∃ outcome, main info maxWorkGroupSize split targetHash schedules = some (.ok outcome) := by
  unfold main
  rw [repeatCnt_toNat]
  exact exists_mainLoop accepted completes (Nat.zero_add _)
    fun _ below => absurd below (Nat.not_lt_zero _)

theorem main_ok (accepted : launchCheck info maxWorkGroupSize split targetHash = .ok ())
    {outcome : Except Failure Outcome}
    (ran : main info maxWorkGroupSize split targetHash schedules = some outcome) :
    ∃ ended, outcome = .ok ended :=
  mainLoop_ok accepted ran

/-- There is a first iteration. -/
theorem exists_repeatCnt (split : Split) (targetHash : BitVec 64) :
    ∃ remaining, (split.config targetHash).repeatCnt.toNat = remaining + 1 := by
  rw [repeatCnt_toNat]
  have positive : 0 < 16 ^ split.onCpu := Nat.pow_pos (by decide)
  exact Nat.exists_eq_succ_of_ne_zero positive.ne'

/-- A device that refuses the launches refuses the first. -/
theorem main_refused {failure : Failure}
    (refused : launchCheck info maxWorkGroupSize split targetHash = .error failure) :
    main info maxWorkGroupSize split targetHash schedules = some (.error failure) := by
  obtain ⟨remaining, launches⟩ := exists_repeatCnt split targetHash
  unfold main
  rw [launches, mainLoop, refused]

/-- Accepted or refused, a search whose launches complete ends. -/
theorem exists_result (info : DeviceInfo) (maxWorkGroupSize : BitVec 64)
    (completes : Completes split targetHash schedules) :
    ∃ result, main info maxWorkGroupSize split targetHash schedules = some result := by
  cases checked : launchCheck info maxWorkGroupSize split targetHash with
  | error failure => exact ⟨_, main_refused checked⟩
  | ok value =>
      obtain ⟨outcome, ran⟩ := exists_main checked completes
      exact ⟨_, ran⟩

theorem accepted_of_main
    (ran : main info maxWorkGroupSize split targetHash schedules = some (.ok outcome)) :
    launchCheck info maxWorkGroupSize split targetHash = .ok () := by
  cases checked : launchCheck info maxWorkGroupSize split targetHash with
  | ok value => rfl
  | error failure =>
      rw [main_refused checked] at ran
      cases ran

/-- Every launch can be completed. -/
theorem exists_completes (split : Split) (targetHash : BitVec 64) :
    ∃ schedules, Completes split targetHash schedules := by
  have schedule : ∀ i, ∃ schedule,
      ((split.launch targetHash i).run schedule (zeroMemory split.letterCount)).isSome :=
    fun i => exists_run (split.launch targetHash i) rfl List.length_replicate
  choose schedules complete using schedule
  exact ⟨schedules, fun i _ _ => complete i⟩

end Runs

/-! ### End-to-end correctness -/

/-- Whatever order the work items run in, the loop ends, and it leaves by its `found` branch
exactly if some word hashes to the target. -/
theorem search_correct (info : DeviceInfo) (maxWorkGroupSize : BitVec 64) (split : Split)
    (targetHash : BitVec 64) (schedules : Nat → List Nat)
    (accepted : launchCheck info maxWorkGroupSize split targetHash = .ok ())
    (completes : Completes split targetHash schedules) :
    ∃ outcome, main info maxWorkGroupSize split targetHash schedules = some (.ok outcome) ∧
      (outcome.found.isSome ↔
        ∃ word, IsWord split.letterCount word ∧ wordHash word = .ok targetHash) ∧
      (∀ word, outcome.found = some word →
        IsWord split.letterCount word ∧ wordHash word = .ok targetHash ∧
        ∃ i < (split.config targetHash).repeatCnt.toNat, outcome.launches = i + 1 ∧
          LaunchMatches split targetHash i ∧
          ∀ earlier < i, ¬ LaunchMatches split targetHash earlier) ∧
      (outcome.found = none →
        outcome.launches = 16 ^ split.onCpu ∧ outcome.memory = zeroMemory split.letterCount) := by
  obtain ⟨outcome, ran⟩ := exists_main accepted completes
  refine ⟨outcome, ran, ?_⟩
  rw [← exists_launchMatches_iff, repeatCnt_toNat]
  cases main_ends ran with
  | exhausted none launches memory miss =>
      refine ⟨?_, ?_, fun _ => ⟨launches, memory⟩⟩
      · simp only [none, Option.isSome_none, Bool.false_eq_true, false_iff, not_exists, not_and]
        exact miss
      · intro word reported
        rw [none] at reported
        cases reported
  | found word i reported isWord hash launches below hit earliest =>
      refine ⟨?_, ?_, ?_⟩
      · simp only [reported, Option.isSome_some, true_iff]
        exact ⟨i, below, hit⟩
      · intro other sameReport
        obtain rfl := Option.some.inj (reported.symm.trans sameReport)
        exact ⟨isWord, hash, i, below, launches, hit, earliest⟩
      · intro none
        rw [reported] at none
        cases none

/-- One letter by the host loop, two by the global id. -/
def catSplit : Split where
  onCpu := 1
  fromGlobalId := 2
  inKernel := 0
  onCpu_le := by decide
  fromGlobalId_le := by decide
  inKernel_le := by decide

/-- The hash of `cat`. -/
def catHash : BitVec 64 := BitVec.ofNat 64 (((7 * 37 + 1) * 37) * 37 + 13)

/-- Every work item takes one step, and the one that finds the word in launch 1 goes last. -/
def catSchedules (i : Nat) : List Nat :=
  if i = 1 then List.range 256 ++ List.replicate 5 208 else List.range 256

theorem launchMatches_cat : LaunchMatches catSplit catHash 1 :=
  ⟨208, by decide, 0, by decide, (wordHash_examinedWord 1 208 0).mpr (by decide)⟩

theorem completes_cat : Completes catSplit catHash catSchedules := by
  intro i below miss
  rcases i with _ | _ | later
  · decide +kernel
  · decide +kernel
  · exact absurd launchMatches_cat (miss 1 (Nat.le_add_left 2 later))

/-- The word `cat` is found. -/
theorem search_correct_cat :
    ∃ outcome, main (squareDevice 1024#64) 1024#64 catSplit catHash catSchedules =
        some (.ok outcome) ∧
      ∃ word, outcome.found = some word ∧ IsWord 3 word ∧ wordHash word = .ok catHash := by
  obtain ⟨outcome, ran, found, reported, _⟩ :=
    search_correct (squareDevice 1024#64) 1024#64 catSplit catHash catSchedules (by decide)
      completes_cat
  have hit : ∃ word, IsWord 3 word ∧ wordHash word = .ok catHash :=
    ⟨['c', 'a', 't'], isWord_spell [1, 0, 13], by decide⟩
  obtain ⟨word, isSome⟩ := Option.isSome_iff_exists.mp (found.mpr hit)
  obtain ⟨isWord, hash, _⟩ := reported word isSome
  exact ⟨outcome, ran, word, isSome, isWord, hash⟩

/-! ### Independence of schedule and split -/

/-- Two complete searches for a hash give the same answer: the devices, the splits and the
orders of the work items may differ. -/
theorem search_deterministic {left right : Split} (same : left.letterCount = right.letterCount)
    (short : left.letterCount ≤ 11) (targetHash : BitVec 64) {leftInfo rightInfo : DeviceInfo}
    {leftSize rightSize : BitVec 64} {leftSchedules rightSchedules : Nat → List Nat}
    (leftAccepted : launchCheck leftInfo leftSize left targetHash = .ok ())
    (rightAccepted : launchCheck rightInfo rightSize right targetHash = .ok ())
    (leftCompletes : Completes left targetHash leftSchedules)
    (rightCompletes : Completes right targetHash rightSchedules) :
    ∃ leftOutcome rightOutcome,
      main leftInfo leftSize left targetHash leftSchedules = some (.ok leftOutcome) ∧
      main rightInfo rightSize right targetHash rightSchedules = some (.ok rightOutcome) ∧
      leftOutcome.found = rightOutcome.found := by
  have noWord : ∀ {split : Split}, (∀ i < 16 ^ split.onCpu, ¬ LaunchMatches split targetHash i) →
      ∀ word, IsWord split.letterCount word → wordHash word ≠ .ok targetHash := by
    intro split miss word isWord hash
    obtain ⟨i, below, hit⟩ := exists_launchMatches_iff.mpr ⟨word, isWord, hash⟩
    exact miss i below hit
  obtain ⟨leftOutcome, leftRan⟩ := exists_main leftAccepted leftCompletes
  obtain ⟨rightOutcome, rightRan⟩ := exists_main rightAccepted rightCompletes
  refine ⟨leftOutcome, rightOutcome, leftRan, rightRan, ?_⟩
  cases main_ends leftRan with
  | exhausted leftNone _ _ leftMiss =>
      cases main_ends rightRan with
      | exhausted rightNone _ _ _ => rw [leftNone, rightNone]
      | found word _ _ isWord hash _ _ _ _ =>
          exact absurd hash (noWord leftMiss word (same ▸ isWord))
  | found leftWord _ leftFound leftIsWord leftHash _ _ _ _ =>
      cases main_ends rightRan with
      | exhausted _ _ _ rightMiss =>
          exact absurd leftHash (noWord rightMiss leftWord (same ▸ leftIsWord))
      | found rightWord _ rightFound rightIsWord rightHash _ _ _ _ =>
          have words : leftWord = rightWord := by
            apply wordHash_injective leftIsWord.2 rightIsWord.2
            · rw [leftIsWord.1]
              exact short
            · rw [rightIsWord.1, ← same]
              exact short
            · rw [leftHash, rightHash]
          rw [leftFound, rightFound, words]

/-- The same three letters with the last one inside the kernel. -/
def catInKernel : Split where
  onCpu := 0
  fromGlobalId := 2
  inKernel := 1
  onCpu_le := by decide
  fromGlobalId_le := by decide
  inKernel_le := by decide

/-- The word `cat` under two splits, with the work items of the second in descending order. -/
theorem search_deterministic_cat :
    ∃ left right,
      main (squareDevice 1024#64) 1024#64 catSplit catHash catSchedules = some (.ok left) ∧
      main (squareDevice 512#64) 256#64 catInKernel catHash
          (fun _ => (List.range 256).reverse ++ List.replicate 5 1) = some (.ok right) ∧
      left.found = right.found := by
  have completes : Completes catInKernel catHash
      fun _ => (List.range 256).reverse ++ List.replicate 5 1 := by
    intro i below _
    obtain rfl : i = 0 := Nat.lt_one_iff.mp below
    decide +kernel
  have same : catSplit.letterCount = catInKernel.letterCount := rfl
  exact search_deterministic same (by decide) catHash (by decide) (by decide) completes_cat
    completes

end OpenClHash.Host
