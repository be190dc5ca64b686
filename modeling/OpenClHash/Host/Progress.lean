import OpenClHash.Host.Main

/-!
Owns what the loop of `main` prints and when: the progress lines and the line with the word,
between the launches. The percentages shown are 0, 1, 2 and so on, none skipped, each when its
share of the launches was made, and never 100.
-/

namespace OpenClHash.Host

open OpenClHash.Kernel OpenClHash.Device OpenClHash.Sizing

/-! ### The printed lines -/

/-- `repeats_per_percent`. -/
def Config.repeatsPerPercent (config : Config) : BitVec 32 :=
  (config.repeatCnt / 100#64 + 1#64).setWidth 32

/-- `i % repeats_per_percent == 0`, the `int` converted to 64 bits. -/
def Config.reportsProgress (config : Config) (i : BitVec 64) : Bool :=
  i % config.repeatsPerPercent.signExtend 64 = 0#64

/-- The ten boxes of the bar. -/
def progressBar (percentDone : Nat) : String :=
  String.ofList ((List.range 10).map fun i => if percentDone > i * 10 then '=' else ' ')

def progressLine (percentDone : Nat) : String :=
  "\r[" ++ progressBar percentDone ++ "] " ++ toString percentDone ++ "%"

def foundLine (resultBuffer : List Char) : String :=
  "\nfound: '" ++ String.ofList resultBuffer ++ "'\n"

/-- What the loop does in order. -/
inductive Activity where
  | progress (percentDone : Nat)
  | launch (i : Nat)
  | found (resultBuffer : List Char)
deriving DecidableEq, Repr

/-- The line written to `std::cout`. -/
def Activity.line : Activity → Option String
  | .progress percentDone => some (progressLine percentDone)
  | .launch _ => none
  | .found resultBuffer => some (foundLine resultBuffer)

def Activity.isLaunch : Activity → Bool
  | .launch _ => true
  | _ => false

section Printing

variable (info : DeviceInfo) (maxWorkGroupSize : BitVec 64) (split : Split)
  (targetHash : BitVec 64)

/-- The loop from iteration `i` with what it does. -/
def printLoop (schedules : Nat → List Nat) :
    Nat → Nat → Nat → Memory → Option (List Activity × Except Failure Outcome)
  | 0, i, _, memory => some ([], .ok { launches := i, found := none, memory := memory })
  | remaining + 1, i, percentDone, memory =>
      let reports := (split.config targetHash).reportsProgress (BitVec.ofNat 64 i)
      let printed := if reports then [.progress percentDone] else []
      let percentDone := if reports then percentDone + 1 else percentDone
      match launchCheck info maxWorkGroupSize split targetHash with
      | .error failure => some (printed, .error failure)
      | .ok () => do
          let memory ← (split.launch targetHash i).run (schedules i) memory
          if memory.foundFlag ≠ 0#32 then
            let resultBuffer := resultString split.letterCount memory.target
            return (printed ++ [.launch i, .found resultBuffer],
              .ok { launches := i + 1, found := some resultBuffer, memory := memory })
          else
            let (rest, outcome) ← printLoop schedules remaining (i + 1) percentDone memory
            return (printed ++ .launch i :: rest, outcome)

/-- `main` from its loop on, with what it does. -/
def printMain (schedules : Nat → List Nat) : Option (List Activity × Except Failure Outcome) :=
  printLoop info maxWorkGroupSize split targetHash schedules
    (split.config targetHash).repeatCnt.toNat 0 0 (zeroMemory split.letterCount)

end Printing

/-! ### Percentages -/

section Percentages

variable {split : Split} {targetHash : BitVec 64}

/-- The launches for one percent. -/
def Split.share (split : Split) : Nat := 16 ^ split.onCpu / 100 + 1

theorem share_lt : split.share < 2 ^ 28 := by
  have small := pow_le_of_le_seven split.onCpu_le
  unfold Split.share
  omega

theorem repeatsPerPercent_toNat :
    ((split.config targetHash).repeatsPerPercent.signExtend 64).toNat = split.share := by
  have small := @share_lt split
  have hundred : (100#64).toNat = 100 := rfl
  have one : (1#64).toNat = 1 := rfl
  have share : (split.config targetHash).repeatsPerPercent.toNat = split.share := by
    rw [Config.repeatsPerPercent, BitVec.toNat_setWidth, BitVec.toNat_add, BitVec.toNat_udiv,
      repeatCnt_toNat, hundred, one, ← Split.share, Nat.mod_eq_of_lt (by omega),
      Nat.mod_eq_of_lt (by omega)]
  have signless : (split.config targetHash).repeatsPerPercent.msb = false := by
    rw [BitVec.msb_eq_false_iff_two_mul_lt, share]
    omega
  rw [BitVec.signExtend_eq_setWidth_of_msb_false signless, BitVec.toNat_setWidth, share,
    Nat.mod_eq_of_lt (by omega)]

theorem reportsProgress_iff {i : Nat} (below : i < 16 ^ split.onCpu) :
    (split.config targetHash).reportsProgress (BitVec.ofNat 64 i) = true ↔ split.share ∣ i := by
  have small := pow_le_of_le_seven split.onCpu_le
  have index : (BitVec.ofNat 64 i).toNat = i := by
    rw [BitVec.toNat_ofNat, Nat.mod_eq_of_lt (by omega)]
  rw [Config.reportsProgress, decide_eq_true_eq, BitVec.toNat_eq, BitVec.toNat_umod,
    repeatsPerPercent_toNat, index, Nat.dvd_iff_mod_eq_zero]
  rfl

/-- The percentages shown by the time `launches` were made. -/
def Split.shown (split : Split) : Nat → Nat
  | 0 => 0
  | launches + 1 => launches / split.share + 1

theorem shown_succ (i : Nat) :
    split.shown (i + 1) = if split.share ∣ i then split.shown i + 1 else split.shown i := by
  cases i with
  | zero => simp [Split.shown]
  | succ i =>
      simp only [Split.shown, Nat.succ_div]
      split <;> rfl

/-- The percentages grow by one where a line is due, which shows the share of `i`. -/
theorem shown_eq_div {i : Nat} (due : split.share ∣ i) : split.shown i = i / split.share := by
  cases i with
  | zero => simp [Split.shown]
  | succ i =>
      rw [Split.shown, Nat.succ_div, if_pos due]

/-- With three letters or more left to the host, every percentage has its launches. -/
theorem shown_all (enough : 3 ≤ split.onCpu) : split.shown (16 ^ split.onCpu) = 100 := by
  have small := split.onCpu_le
  unfold Split.shown Split.share
  generalize split.onCpu = letters at enough small ⊢
  interval_cases letters <;> rfl

end Percentages

/-! ### Lines and launches -/

section Activities

variable {info : DeviceInfo} {maxWorkGroupSize : BitVec 64} {split : Split} {targetHash : BitVec 64}

/-- What iteration `i` does up to its launch. -/
def Split.iteration (split : Split) (i : Nat) : List Activity :=
  if split.share ∣ i then [.progress (i / split.share), .launch i] else [.launch i]

/-- What `main` does in a run with this outcome. -/
def Split.activities (split : Split) (outcome : Outcome) : List Activity :=
  (List.range outcome.launches).flatMap split.iteration ++ outcome.found.toList.map .found

theorem iteration_eq {i : Nat} (below : i < 16 ^ split.onCpu) (rest : List Activity) :
    (if (split.config targetHash).reportsProgress (BitVec.ofNat 64 i) then
        [.progress (split.shown i)] else []) ++ .launch i :: rest =
      split.iteration i ++ rest := by
  unfold Split.iteration
  by_cases due : split.share ∣ i
  · rw [if_pos ((reportsProgress_iff below).mpr due), if_pos due, shown_eq_div due]
    rfl
  · rw [if_neg (mt (reportsProgress_iff below).mp due), if_neg due]
    rfl

theorem mainLoop_launches {schedules : Nat → List Nat} {remaining i : Nat} {memory : Memory}
    {outcome : Outcome}
    (ran : mainLoop info maxWorkGroupSize split targetHash schedules remaining i memory =
      some (.ok outcome)) : i ≤ outcome.launches := by
  induction remaining generalizing i memory with
  | zero =>
      cases ran
      exact Nat.le_refl _
  | succ remaining inductionHypothesis =>
      rw [mainLoop_succ (accepted_of_mainLoop ran)] at ran
      obtain ⟨memory, _, rest⟩ := Option.bind_eq_some_iff.mp ran
      split at rest
      · cases rest
        exact Nat.le_succ i
      · exact (Nat.le_succ i).trans (inductionHypothesis rest)

/-- The iterations from `i` to the last launch, and the word if there is one. -/
theorem printLoop_of_mainLoop {schedules : Nat → List Nat} {remaining i : Nat} {memory : Memory}
    {outcome : Outcome} (total : i + remaining = 16 ^ split.onCpu)
    (ran : mainLoop info maxWorkGroupSize split targetHash schedules remaining i memory =
      some (.ok outcome)) :
    printLoop info maxWorkGroupSize split targetHash schedules remaining i (split.shown i) memory =
      some ((List.range' i (outcome.launches - i)).flatMap split.iteration ++
        outcome.found.toList.map .found, .ok outcome) := by
  induction remaining generalizing i memory with
  | zero =>
      cases ran
      simp [printLoop]
  | succ remaining inductionHypothesis =>
      have below : i < 16 ^ split.onCpu := by omega
      have accepted := accepted_of_mainLoop ran
      rw [mainLoop_succ accepted] at ran
      obtain ⟨memory, launched, rest⟩ := Option.bind_eq_some_iff.mp ran
      have next : split.shown (i + 1) =
          if (split.config targetHash).reportsProgress (BitVec.ofNat 64 i) then
            split.shown i + 1 else split.shown i := by
        rw [shown_succ]
        simp only [reportsProgress_iff below]
      unfold printLoop
      dsimp only
      rw [accepted, ← next]
      dsimp only
      rw [launched, Option.bind_eq_bind, Option.bind_some]
      by_cases raised : memory.foundFlag ≠ 0#32
      · rw [if_pos raised] at rest ⊢
        cases rest
        have one : i + 1 - i = 1 := by omega
        rw [iteration_eq below]
        dsimp only
        rw [one, List.range'_one]
        simp
      · rw [if_neg raised] at rest ⊢
        have more := mainLoop_launches rest
        have first : outcome.launches - i = outcome.launches - (i + 1) + 1 := by omega
        rw [inductionHypothesis (by omega) rest, Option.bind_eq_bind, Option.bind_some]
        dsimp only
        rw [iteration_eq below, first, List.range'_succ, List.flatMap_cons, List.append_assoc]
        rfl

theorem printMain_of_main {schedules : Nat → List Nat} {outcome : Outcome}
    (ran : main info maxWorkGroupSize split targetHash schedules = some (.ok outcome)) :
    printMain info maxWorkGroupSize split targetHash schedules =
      some (split.activities outcome, .ok outcome) := by
  have all : 0 + (split.config targetHash).repeatCnt.toNat = 16 ^ split.onCpu := by
    rw [Nat.zero_add, repeatCnt_toNat]
  have prints := printLoop_of_mainLoop all ran
  rwa [Nat.sub_zero, ← List.range_eq_range'] at prints

/-- A search that the device refuses shows 0 percent and raises. -/
theorem printMain_refused {schedules : Nat → List Nat} {failure : Failure}
    (refused : launchCheck info maxWorkGroupSize split targetHash = .error failure) :
    printMain info maxWorkGroupSize split targetHash schedules =
      some ([.progress 0], .error failure) := by
  have positive : 0 < 16 ^ split.onCpu := Nat.pow_pos (by decide)
  have due := (@reportsProgress_iff split targetHash 0 positive).mpr (Nat.dvd_zero _)
  obtain ⟨remaining, launches⟩ := exists_repeatCnt split targetHash
  unfold printMain
  rw [launches, printLoop, if_pos due, refused]

/-- The lines of the first iterations show the percentages without a gap. -/
theorem lines_iterations (launches : Nat) :
    ((List.range launches).flatMap split.iteration).filterMap Activity.line =
      (List.range (split.shown launches)).map progressLine := by
  induction launches with
  | zero => rfl
  | succ launches inductionHypothesis =>
      rw [List.range_succ, List.flatMap_append, List.filterMap_append, inductionHypothesis,
        shown_succ, List.flatMap_singleton, Split.iteration]
      by_cases due : split.share ∣ launches
      · rw [if_pos due, if_pos due, List.range_succ, List.map_append, shown_eq_div due]
        rfl
      · rw [if_neg due, if_neg due]
        exact List.append_nil _

theorem launches_iterations (launches : Nat) :
    ((List.range launches).flatMap split.iteration).countP Activity.isLaunch = launches := by
  induction launches with
  | zero => rfl
  | succ launches inductionHypothesis =>
      have one : (split.iteration launches).countP Activity.isLaunch = 1 := by
        unfold Split.iteration
        split <;> rfl
      rw [List.range_succ, List.flatMap_append, List.countP_append, inductionHypothesis,
        List.flatMap_singleton, one]

/-- The line of an iteration comes before its launch. -/
theorem progress_iteration {i percent : Nat} {before after : List Activity}
    (shows : split.iteration i = before ++ .progress percent :: after) :
    before = [] ∧ split.share ∣ i ∧ percent = i / split.share := by
  unfold Split.iteration at shows
  by_cases due : split.share ∣ i
  · rw [if_pos due] at shows
    rcases before with _ | ⟨first, before⟩
    · cases shows
      exact ⟨rfl, due, rfl⟩
    · rcases before with _ | ⟨second, before⟩ <;> simp at shows
  · rw [if_neg due] at shows
    rcases before with _ | ⟨first, before⟩ <;> simp at shows

/-- When a percentage is shown, exactly its share of launches was made. -/
theorem launches_before {launches percent : Nat} {before after : List Activity}
    (shows : (List.range launches).flatMap split.iteration = before ++ .progress percent :: after) :
    percent * split.share = before.countP Activity.isLaunch ∧
      before.countP Activity.isLaunch < launches := by
  induction launches generalizing after with
  | zero => simp at shows
  | succ launches inductionHypothesis =>
      rw [List.range_succ, List.flatMap_append, List.flatMap_singleton] at shows
      have last {before : List Activity} (shows : split.iteration launches =
          before ++ .progress percent :: after) :
          before = [] ∧ percent * split.share = launches := by
        obtain ⟨rfl, due, rfl⟩ := progress_iteration shows
        exact ⟨rfl, Nat.div_mul_cancel due⟩
      rcases List.append_eq_append_iff.mp shows with ⟨middle, rfl, rest⟩ | ⟨middle, whole, rest⟩
      · obtain ⟨rfl, share⟩ := last rest
        rw [List.append_nil, launches_iterations]
        exact ⟨share, Nat.lt_succ_self launches⟩
      · rcases middle with _ | ⟨first, middle⟩
        · obtain ⟨_, share⟩ := @last [] rest.symm
          rw [List.append_nil] at whole
          rw [← whole, launches_iterations]
          exact ⟨share, Nat.lt_succ_self launches⟩
        · obtain ⟨rfl, rfl⟩ := List.cons_eq_cons.mp rest
          obtain ⟨share, below⟩ := inductionHypothesis whole
          exact ⟨share, below.trans (Nat.lt_succ_self launches)⟩

theorem lines_activities (outcome : Outcome) :
    (split.activities outcome).filterMap Activity.line =
      (List.range (split.shown outcome.launches)).map progressLine ++
        outcome.found.toList.map foundLine := by
  rw [Split.activities, List.filterMap_append, lines_iterations, List.filterMap_map]
  congr 1
  exact congrFun List.filterMap_eq_map _

/-- A percentage is shown only after that share of all launches, so 100 never is. -/
theorem percent_of_shown {outcome : Outcome} (within : outcome.launches ≤ 16 ^ split.onCpu)
    {before after : List Activity} {percent : Nat}
    (shows : split.activities outcome = before ++ .progress percent :: after) :
    percent < 100 ∧ percent * 16 ^ split.onCpu ≤ 100 * before.countP Activity.isLaunch := by
  have inLoop : ∃ after, (List.range outcome.launches).flatMap split.iteration =
      before ++ .progress percent :: after := by
    unfold Split.activities at shows
    rcases List.append_eq_append_iff.mp shows with ⟨middle, _, rest⟩ | ⟨middle, whole, rest⟩
    · cases found : outcome.found with
      | none => simp [found] at rest
      | some word => rcases middle with _ | ⟨first, middle⟩ <;> simp [found] at rest
    · rcases middle with _ | ⟨first, middle⟩
      · cases found : outcome.found <;> simp [found] at rest
      · obtain ⟨rfl, _⟩ := List.cons_eq_cons.mp rest
        exact ⟨middle, whole⟩
  obtain ⟨_, shows⟩ := inLoop
  obtain ⟨share, below⟩ := launches_before shows
  have enough : 16 ^ split.onCpu < 100 * split.share := by
    unfold Split.share
    omega
  refine ⟨?_, ?_⟩
  · refine Nat.lt_of_mul_lt_mul_right (share.trans_lt ?_)
    omega
  · calc percent * 16 ^ split.onCpu ≤ percent * (100 * split.share) :=
          Nat.mul_le_mul_left percent (Nat.le_of_lt enough)
      _ = 100 * (percent * split.share) := by ring
      _ = 100 * before.countP Activity.isLaunch := by rw [share]

theorem outcome_launches {outcome : Outcome} (ends : Ends split targetHash outcome) :
    outcome.launches ≤ 16 ^ split.onCpu ∧
      (outcome.found = none → outcome.launches = 16 ^ split.onCpu) := by
  cases ends with
  | exhausted none launches => exact ⟨Nat.le_of_eq launches, fun _ => launches⟩
  | found word i reported _ _ launches below =>
      rw [launches, reported]
      exact ⟨below, nofun⟩

/-- The percentages in order from 0 and the word if one is found, each percentage below 100 and
after its share of the launches, all of them if a large space is exhausted. -/
theorem main_prints {schedules : Nat → List Nat}
    (accepted : launchCheck info maxWorkGroupSize split targetHash = .ok ())
    (completes : Completes split targetHash schedules) :
    ∃ outcome, main info maxWorkGroupSize split targetHash schedules = some (.ok outcome) ∧
      printMain info maxWorkGroupSize split targetHash schedules =
        some (split.activities outcome, .ok outcome) ∧
      (split.activities outcome).filterMap Activity.line =
        (List.range (split.shown outcome.launches)).map progressLine ++
          outcome.found.toList.map foundLine ∧
      (∀ before percent after,
        split.activities outcome = before ++ .progress percent :: after →
        percent < 100 ∧ percent * 16 ^ split.onCpu ≤ 100 * before.countP Activity.isLaunch) ∧
      (3 ≤ split.onCpu → outcome.found = none → split.shown outcome.launches = 100) := by
  obtain ⟨outcome, ran⟩ := exists_main accepted completes
  obtain ⟨within, exhausted⟩ := outcome_launches (main_ends ran)
  refine ⟨outcome, ran, printMain_of_main ran, lines_activities outcome, ?_, ?_⟩
  · exact fun _ _ _ shows => percent_of_shown within shows
  · intro enough none
    rw [exhausted none, shown_all enough]

/-- What the search for `cat` does and prints. -/
theorem main_prints_cat :
    ∃ outcome, printMain (squareDevice 1024#64) 1024#64 catSplit catHash catSchedules =
        some (catSplit.activities outcome, .ok outcome) ∧
      (catSplit.activities outcome).filterMap Activity.line =
        (List.range (catSplit.shown outcome.launches)).map progressLine ++
          outcome.found.toList.map foundLine := by
  have accepted : launchCheck (squareDevice 1024#64) 1024#64 catSplit catHash = .ok () := by decide
  obtain ⟨outcome, _, prints, lines, _⟩ := main_prints accepted completes_cat
  exact ⟨outcome, prints, lines⟩

end Activities

end OpenClHash.Host
