import OpenClHash.System.Preparation

/-!
Owns what `main` finds through the wrapper: whenever the program returns, its report is the one
of the search on the two buffers, whatever calls of OpenCL may fail. A driver that answers
everything lets it return exactly when `init` can print the device and its launches pass
`check_work_parameters`.
-/

namespace OpenClHash.System

open OpenClHash.Kernel OpenClHash.Device OpenClHash.Host OpenClHash.Sizing OpenClHash.Wrapper
open OpenClHash.Library OpenClHash.Library.Fallible

/-! ### The loop -/

section Loop

variable {driver : Driver} {platform : Platform} {split : Split} {targetHash : BitVec 64}
  {pointers : Pointers} {state : Wrapper.State}

theorem letter_small (digit : Fin 16) : (letter digit).toNat < 256 := by
  decide +revert

theorem word_small {letterCount : Nat} {word : List Char} (isWord : IsWord letterCount word) :
    ∀ character ∈ word, character.toNat < 256 := by
  intro character member
  obtain ⟨digit, rfl⟩ := mem_letters (isWord.2 character member)
  exact letter_small digit

theorem zeroMemory_small (letterCount : Nat) :
    ∀ character ∈ (zeroMemory letterCount).target, character.toNat < 256 := by
  intro character member
  rw [List.eq_of_mem_replicate member]
  decide

/-- After a launch nothing waits, so the pushes of iteration `i` are the round of launch `i`. -/
theorem argue_pushes (i : Nat) :
    (pushes split targetHash pointers i).foldl (Op.argue pointers.kernel) [] =
      pending pointers.kernel (beforeLaunch split targetHash pointers i) := by
  rw [pending_beforeLaunch]
  simp [pushes, Op.argue, Split.config]

theorem isPush_pushes (i : Nat) :
    ∀ op ∈ pushes split targetHash pointers i, Op.IsPush pointers op := by
  simp [pushes, Op.IsPush]

theorem launchIteration_refused {i : Nat} {failure : Failure} {memory : Memory}
    (ready : Ready platform split targetHash pointers (.error failure) memory i [] state) :
    Ensures (fun _ _ => False) (fun _ _ => True)
      (launchIteration driver split targetHash pointers i) state :=
  ((ready_pushes (isPush_pushes i) ready).mono (fun _ _ pushed => pushed)
    (fun _ _ _ => trivial)).bind fun _ _ pushed => execute_refused pushed

theorem ready_launchIteration {i : Nat} {memory later : Memory}
    (below : i < (split.config targetHash).repeatCnt.toNat)
    (small : ∀ character ∈ memory.target, character.toNat < 256)
    (ran : (split.launch targetHash i).run (platform.schedule i) memory = some later)
    (length : later.target.length = memory.target.length)
    (ready : Ready platform split targetHash pointers (.ok ()) memory i [] state) :
    Ensures
      (fun _ next => Ready platform split targetHash pointers (.ok ()) later (i + 1) [] next)
      (fun _ _ => ¬ driver.NeverFails)
      (launchIteration driver split targetHash pointers i) state := by
  apply (ready_pushes (isPush_pushes i) ready).bind
  intro _ between pushed
  rw [argue_pushes] at pushed
  exact ready_execute below small ran length pushed

/-- The loop ends as the search on the two buffers does, unless a call of OpenCL fails. -/
theorem ready_searchLoop {info : DeviceInfo} {maxWorkGroupSize : BitVec 64} {remaining i : Nat}
    {result : Except Failure Host.Outcome}
    (total : i + remaining = (split.config targetHash).repeatCnt.toNat)
    (ran : mainLoop info maxWorkGroupSize split targetHash platform.schedule remaining i
      (zeroMemory split.letterCount) = some result)
    (ready : Ready platform split targetHash pointers
      (launchCheck info maxWorkGroupSize split targetHash) (zeroMemory split.letterCount) i []
      state) :
    Ensures
      (fun report _ => ∃ outcome, result = .ok outcome ∧
        report = some ⟨outcome.launches, outcome.found⟩)
      (fun _ _ => ¬ driver.NeverFails ∨ ∃ failure, result = .error failure)
      (searchLoop driver platform split targetHash pointers remaining i) state := by
  induction remaining generalizing i state with
  | zero =>
      cases ran
      exact ensures_pure ⟨_, rfl, rfl⟩
  | succ remaining inductionHypothesis =>
      cases checked : launchCheck info maxWorkGroupSize split targetHash with
      | error failure =>
          rw [mainLoop, checked] at ran
          cases ran
          rw [checked] at ready
          exact ((launchIteration_refused ready).mono (fun _ _ never => never)
            (fun _ _ _ => .inr ⟨failure, rfl⟩)).bind fun _ _ never => never.elim
      | ok value =>
          cases value
          rw [mainLoop_succ checked] at ran
          rw [checked] at ready inductionHypothesis
          obtain ⟨memory, launched, rest⟩ := Option.bind_eq_some_iff.mp ran
          have outcomes := run_outcome rfl List.length_replicate launched
          have length : memory.target.length = (zeroMemory split.letterCount).target.length := by
            rcases outcomes with ⟨unchanged, _⟩ | ⟨_, item, _, offers⟩
            · rw [unchanged]
            · rw [((split.launch targetHash i).offer_isWord offers).1.1]
              exact List.length_replicate.symm
          refine ((ready_launchIteration (by omega) (zeroMemory_small _) launched length
            ready).mono (fun _ _ kept => kept) (fun _ _ => Or.inl)).bind ?_
          rintro _ between kept
          refine ((ready_readFlag kept).mono (fun _ _ read => read) (fun _ _ => Or.inl)).bind ?_
          rintro _ after ⟨rfl, kept⟩
          dsimp only
          rw [readInt_bytes]
          rcases outcomes with ⟨unchanged, _⟩ | ⟨up, item, _, offers⟩
          · subst unchanged
            rw [if_neg (not_found_zeroMemory _)] at rest ⊢
            exact inductionHypothesis (by omega) rest kept
          · have raised : memory.foundFlag ≠ 0#32 := by
              rw [up]
              decide
            rw [if_pos raised] at rest ⊢
            cases rest
            refine ((ready_readTarget kept).mono (fun _ _ read => read)
              (fun _ _ => Or.inl)).bind ?_
            rintro _ last ⟨rfl, _⟩
            have small := word_small ((split.launch targetHash i).offer_isWord offers).1
            refine ensures_pure ⟨_, rfl, ?_⟩
            rw [map_charOf_byteOf small]

end Loop

/-! ### The whole program -/

section Whole

variable {driver : Driver} {info : DeviceInfo} {maxWorkGroupSize : BitVec 64} {platform : Platform}
  {split : Split} {targetHash : BitVec 64}

theorem ensures_program (info : DeviceInfo) (maxWorkGroupSize : BitVec 64) (garbage : Garbage)
    (compiles : Compiles driver platform split.letterCount)
    (completes : Completes split targetHash platform.schedule) :
    Ensures
      (fun report _ => ∃ device size outcome,
        Host.main device size split targetHash platform.schedule = some (.ok outcome) ∧
        report = some ⟨outcome.launches, outcome.found⟩ ∧
        (Reliable driver info maxWorkGroupSize →
          device = info ∧ size = maxWorkGroupSize ∧ info.type < 9#64))
      (fun _ _ => Reliable driver info maxWorkGroupSize →
        ¬ (AcceptsLaunches info maxWorkGroupSize split ∧ info.type < 9#64))
      (program driver platform split targetHash) (State.constructed garbage) := by
  unfold program
  refine ((ensures_prepare targetHash garbage compiles).mono (fun _ _ prepared => prepared)
    (fun _ _ raised reliable both => raised reliable both.2)).bind ?_
  rintro pointers between ⟨device, size, ready, asked⟩
  obtain ⟨result, ran⟩ := exists_result device size completes
  refine (ready_searchLoop (Nat.zero_add _) ran ready).mono ?_ ?_
  · rintro report after ⟨outcome, rfl, rfl⟩
    exact ⟨device, size, outcome, ran, rfl, asked⟩
  · rintro failure after raised reliable ⟨accepts, _⟩
    obtain ⟨rfl, rfl, _⟩ := asked reliable
    rcases raised with faulty | ⟨refusal, rfl⟩
    · exact faulty reliable.neverFails
    · obtain ⟨ended, returned⟩ := main_ok (launchCheck_eq_ok_iff.mpr accepts) ran
      cases returned

/-- What a report says about the words of `letterCount` letters. -/
structure Report.Right (split : Split) (targetHash : BitVec 64) (report : Report) : Prop where
  found_iff : report.found.isSome ↔
    ∃ word, IsWord split.letterCount word ∧ wordHash word = .ok targetHash
  isHit : ∀ word, report.found = some word →
    IsWord split.letterCount word ∧ wordHash word = .ok targetHash
  only : split.letterCount ≤ 11 → ∀ word, IsWord split.letterCount word →
    wordHash word = .ok targetHash → report.found = some word
  earliest : ∀ word, report.found = some word → ∃ i < 16 ^ split.onCpu,
    report.launches = i + 1 ∧ LaunchMatches split targetHash i ∧
      ∀ earlier < i, ¬ LaunchMatches split targetHash earlier
  exhausted : report.found = none → report.launches = 16 ^ split.onCpu

theorem Report.right_of_ends {outcome : Outcome} (ends : Ends split targetHash outcome) :
    Report.Right split targetHash ⟨outcome.launches, outcome.found⟩ := by
  cases ends with
  | exhausted none launches memory miss =>
      have noWord : ¬ ∃ word, IsWord split.letterCount word ∧ wordHash word = .ok targetHash := by
        rw [← exists_launchMatches_iff]
        rintro ⟨i, below, hit⟩
        exact miss i below hit
      constructor
      · simp only [none, Option.isSome_none, Bool.false_eq_true, noWord]
      · intro word reported
        cases none.symm.trans reported
      · intro _ word isWord hash
        exact absurd ⟨word, isWord, hash⟩ noWord
      · intro word reported
        cases none.symm.trans reported
      · exact fun _ => launches
  | found word i reported isWord hash launches below hit earliest =>
      constructor
      · simp only [reported, Option.isSome_some, true_iff]
        exact ⟨word, isWord, hash⟩
      · intro other sameReport
        cases reported.symm.trans sameReport
        exact ⟨isWord, hash⟩
      · intro short other otherIsWord otherHash
        have same : word = other := by
          apply wordHash_injective isWord.2 otherIsWord.2
          · rwa [isWord.1]
          · rwa [otherIsWord.1]
          · rw [hash, otherHash]
        rw [← same]
        exact reported
      · exact fun _ _ => ⟨i, below, launches, hit, earliest⟩
      · intro none
        cases reported.symm.trans none

/-- Whatever calls of OpenCL fail, `main` prints nothing wrong: if it gets to its end it made the
launches of the search and its report is right. -/
theorem report_right {garbage : Garbage} {report : Option Report} {after : Wrapper.State}
    (compiles : Compiles driver platform split.letterCount)
    (completes : Completes split targetHash platform.schedule)
    (returned : (program driver platform split targetHash).run (State.constructed garbage) =
      .ok report after) :
    ∃ ended, report = some ended ∧ ended.Right split targetHash ∧
      ∃ info maxWorkGroupSize outcome,
        Host.main info maxWorkGroupSize split targetHash platform.schedule = some (.ok outcome) ∧
        ended = ⟨outcome.launches, outcome.found⟩ := by
  have ensures := ensures_program ⟨0#64, 0#32, 0#64, #v[0#64, 0#64, 0#64]⟩ 0#64 garbage compiles
    completes
  obtain ⟨device, size, outcome, ran, reported, _⟩ := ensures.of_ok returned
  exact ⟨_, reported, Report.right_of_ends (main_ends ran), device, size, outcome, ran, rfl⟩

/-- The split of the program in the repository. -/
def shippedSplit : Split where
  onCpu := 3
  fromGlobalId := 4
  inKernel := 2
  onCpu_le := by decide
  fromGlobalId_le := by decide
  inKernel_le := Nat.le_add_right 2 5

theorem reliable_succeeding (info : DeviceInfo) :
    Reliable (.succeeding info) info 1024#64 where
  neverFails := fun _ => rfl
  device := fun _ => rfl
  kernel := fun _ => rfl
  readable := fun _ => ⟨[0#8], nofun, rfl⟩
  reads := fun _ => rfl

/-- What a driver that answers everything makes of a program that it accepts. -/
theorem exists_report (garbage : Garbage) (reliable : Reliable driver info maxWorkGroupSize)
    (compiles : Compiles driver platform split.letterCount)
    (completes : Completes split targetHash platform.schedule)
    (accepts : AcceptsLaunches info maxWorkGroupSize split) (printable : info.type < 9#64) :
    ∃ report after, (program driver platform split targetHash).run (State.constructed garbage) =
      .ok report after := by
  have ensures := ensures_program info maxWorkGroupSize garbage compiles completes
  cases ended : (program driver platform split targetHash).run (State.constructed garbage) with
  | ok report after => exact ⟨report, after, rfl⟩
  | error failure after => exact absurd ⟨accepts, printable⟩ (ensures.of_error ended reliable)

/-- Some implementation completes the launches of the program in the repository. -/
theorem exists_shippedPlatform :
    ∃ platform : Platform, Completes shippedSplit 910897038977002#64 platform.schedule ∧
      ∀ driver, Compiles driver platform shippedSplit.letterCount := by
  obtain ⟨schedules, completes⟩ := exists_completes shippedSplit 910897038977002#64
  exact ⟨⟨fun _ _ => 0#8, fun _ _ _ => some 9, schedules, fun _ => true, fun _ _ => 0#8⟩, completes,
    fun _ _ _ _ => rfl⟩

/-- The program in the repository prints `asparagus`. -/
theorem report_right_shipped :
    ∃ platform report after, (program (.succeeding (squareDevice 1024#64)) platform shippedSplit
        910897038977002#64).run (State.constructed (.filled 0)) = .ok (some report) after ∧
      report.found = some ['a', 's', 'p', 'a', 'r', 'a', 'g', 'u', 's'] := by
  obtain ⟨platform, completes, compiles⟩ := exists_shippedPlatform
  obtain ⟨report, after, returned⟩ := exists_report (.filled 0)
    (reliable_succeeding (squareDevice 1024#64)) (compiles _) completes (by decide) (by decide)
  obtain ⟨ended, rfl, right, _⟩ := report_right (compiles _) completes returned
  have isWord : IsWord 9 ['a', 's', 'p', 'a', 'r', 'a', 'g', 'u', 's'] :=
    isWord_spell [0, 12, 10, 0, 11, 0, 4, 14, 12]
  exact ⟨platform, _, after, returned, right.only (by decide) _ isWord (by decide)⟩

/-- On a driver that answers everything the program ends exactly on the devices whose type `init`
has a name for and that accept its launches. -/
theorem program_returns_iff (garbage : Garbage)
    (reliable : Reliable driver info maxWorkGroupSize)
    (compiles : Compiles driver platform split.letterCount)
    (completes : Completes split targetHash platform.schedule) :
    (∃ report after, (program driver platform split targetHash).run (State.constructed garbage) =
      .ok report after) ↔ AcceptsLaunches info maxWorkGroupSize split ∧ info.type < 9#64 := by
  constructor
  · rintro ⟨report, after, returned⟩
    have ensures := ensures_program info maxWorkGroupSize garbage compiles completes
    obtain ⟨device, size, outcome, ran, _, asked⟩ := ensures.of_ok returned
    obtain ⟨rfl, rfl, printable⟩ := asked reliable
    exact ⟨launchCheck_eq_ok_iff.mp (accepted_of_main ran), printable⟩
  · rintro ⟨accepts, printable⟩
    exact exists_report garbage reliable compiles completes accepts printable

/-- A device that is both a GPU and an accelerator has no name, whatever it accepts. -/
theorem program_returns_combined :
    ∃ platform, ¬ ∃ report after, (program (.succeeding { squareDevice 1024#64 with type := 12#64 })
      platform shippedSplit 910897038977002#64).run (State.constructed (.filled 0)) =
        .ok report after := by
  obtain ⟨platform, completes, compiles⟩ := exists_shippedPlatform
  refine ⟨platform, ?_⟩
  rw [program_returns_iff (.filled 0) (reliable_succeeding _) (compiles _) completes]
  decide

end Whole

end OpenClHash.System
