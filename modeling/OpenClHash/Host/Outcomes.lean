import OpenClHash.Device.Outcomes
import OpenClHash.Host.Main

/-!
Owns what OpenCL decides about the answer of `main` and what the program does. Whatever
order the work items run in, the loop ends in the earliest launch with a match; which of
its matching work items is reported is open, and each of them can be. So the answer is the
program's alone exactly when one work item of that launch matches. All of it is about
searches whose launches the device accepts.
-/

namespace OpenClHash.Host

open OpenClHash.Kernel OpenClHash.Device OpenClHash.Sizing

variable {info : DeviceInfo} {maxWorkGroupSize : BitVec 64} {split : Split} {targetHash : BitVec 64}

/-! ### The loop and its schedules -/

/-- No work item of launch `i` has anything to report. -/
def Silent (split : Split) (targetHash : BitVec 64) (i : Nat) : Prop :=
  ∀ item < (split.launch targetHash i).workItems, (split.launch targetHash i).offer item = none

/-- The outcome after launch `i` reported `word`. -/
def foundIn (i : Nat) (word : List Char) : Outcome where
  launches := i + 1
  found := some word
  memory := ⟨1#32, word⟩

/-- The loop does not see the schedules of launches it made before. -/
theorem mainLoop_congr {schedules schedules' : Nat → List Nat} {remaining i : Nat}
    {memory : Memory} (accepted : launchCheck info maxWorkGroupSize split targetHash = .ok ())
    (same : ∀ later, i ≤ later → schedules later = schedules' later) :
    mainLoop info maxWorkGroupSize split targetHash schedules remaining i memory =
      mainLoop info maxWorkGroupSize split targetHash schedules' remaining i memory := by
  induction remaining generalizing i memory with
  | zero => rfl
  | succ remaining inductionHypothesis =>
      have rest : ∀ memory,
          mainLoop info maxWorkGroupSize split targetHash schedules remaining (i + 1) memory =
            mainLoop info maxWorkGroupSize split targetHash schedules' remaining (i + 1) memory :=
        fun memory => inductionHypothesis fun later after => same later (by omega)
      simp only [mainLoop_succ accepted, same i (Nat.le_refl i), rest]

/-- How a loop over `remaining` launches from `i` can end. -/
inductive Ending (split : Split) (targetHash : BitVec 64) : Nat → Nat → Outcome → Prop where
  | exhausted (i : Nat) : Ending split targetHash 0 i ⟨i, none, zeroMemory split.letterCount⟩
  | goOn {remaining i : Nat} {outcome : Outcome} (silent : Silent split targetHash i)
      (rest : Ending split targetHash remaining (i + 1) outcome) :
      Ending split targetHash (remaining + 1) i outcome
  | report {remaining i item : Nat} {word : List Char}
      (inside : item < (split.launch targetHash i).workItems)
      (offers : (split.launch targetHash i).offer item = some word) :
      Ending split targetHash (remaining + 1) i (foundIn i word)

theorem Ending.of_mainLoop {schedules : Nat → List Nat} {remaining i : Nat} {outcome : Outcome}
    (ran : mainLoop info maxWorkGroupSize split targetHash schedules remaining i
      (zeroMemory split.letterCount) = some (.ok outcome)) :
    Ending split targetHash remaining i outcome := by
  induction remaining generalizing i with
  | zero =>
      cases ran
      exact .exhausted i
  | succ remaining inductionHypothesis =>
      rw [mainLoop_succ (accepted_of_mainLoop ran)] at ran
      obtain ⟨memory, launched, rest⟩ := Option.bind_eq_some_iff.mp ran
      rcases run_outcome rfl List.length_replicate launched with
        ⟨rfl, noOffer⟩ | ⟨up, item, inside, offers⟩
      · rw [if_neg (not_found_zeroMemory _)] at rest
        exact .goOn noOffer (inductionHypothesis rest)
      · have raised : memory.foundFlag ≠ 0#32 := by
          rw [up]
          decide
        rw [if_pos raised] at rest
        cases rest
        have isWord := ((split.launch targetHash i).offer_isWord offers).1
        have reported : (⟨i + 1, some (resultString split.letterCount memory.target), memory⟩ :
            Outcome) = foundIn i memory.target := by
          rw [resultString_of_isWord isWord, foundIn, ← up]
        rw [reported]
        exact .report inside offers

theorem Ending.exists_mainLoop {remaining i : Nat} {outcome : Outcome}
    (accepted : launchCheck info maxWorkGroupSize split targetHash = .ok ())
    (ending : Ending split targetHash remaining i outcome) :
    ∃ schedules, mainLoop info maxWorkGroupSize split targetHash schedules remaining i
      (zeroMemory split.letterCount) = some (.ok outcome) := by
  have room : (zeroMemory split.letterCount).target.length = split.letterCount :=
    List.length_replicate
  induction ending with
  | exhausted i => exact ⟨fun _ => [], rfl⟩
  | @goOn remaining i outcome silent rest inductionHypothesis =>
      obtain ⟨schedules, ran⟩ := inductionHypothesis
      obtain ⟨schedule, launched⟩ := (exists_run_iff rfl room _).mpr (Or.inl ⟨rfl, silent⟩)
      refine ⟨Function.update schedules i schedule, ?_⟩
      have later : ∀ later, i + 1 ≤ later →
          Function.update schedules i schedule later = schedules later :=
        fun later after => Function.update_of_ne (by omega) ..
      rw [mainLoop_succ accepted, Function.update_self, launched, Option.bind_some,
        if_neg (not_found_zeroMemory _), mainLoop_congr accepted later, ran]
  | @report remaining i item word inside offers =>
      obtain ⟨schedule, launched⟩ := exists_run_offer rfl room inside offers
      have isWord := ((split.launch targetHash i).offer_isWord offers).1
      have up : (1#32 : BitVec 32) ≠ 0#32 := by decide
      refine ⟨fun _ => schedule, ?_⟩
      rw [mainLoop_succ accepted, launched, Option.bind_some, if_pos up,
        resultString_of_isWord isWord]
      rfl

theorem Ending.iff {remaining i : Nat} {outcome : Outcome} :
    Ending split targetHash remaining i outcome ↔
      ((∀ k, i ≤ k → k < i + remaining → Silent split targetHash k) ∧
        outcome = ⟨i + remaining, none, zeroMemory split.letterCount⟩) ∨
      ∃ k, i ≤ k ∧ k < i + remaining ∧
        (∀ earlier, i ≤ earlier → earlier < k → Silent split targetHash earlier) ∧
        ∃ item < (split.launch targetHash k).workItems, ∃ word,
          (split.launch targetHash k).offer item = some word ∧ outcome = foundIn k word := by
  constructor
  · intro ending
    induction ending with
    | exhausted i => exact Or.inl ⟨fun k atLeast below => by omega, rfl⟩
    | @goOn remaining i outcome silent rest inductionHypothesis =>
        have silentFrom : ∀ {bound : Nat},
            (∀ k, i + 1 ≤ k → k < bound → Silent split targetHash k) →
            ∀ k, i ≤ k → k < bound → Silent split targetHash k := by
          intro bound later k atLeast below
          rcases Nat.eq_or_lt_of_le atLeast with rfl | after
          · exact silent
          · exact later k after below
        rcases inductionHypothesis with ⟨later, rfl⟩ | ⟨k, after, below, later, reported⟩
        · rw [Nat.add_right_comm, Nat.add_assoc] at later ⊢
          exact Or.inl ⟨silentFrom later, rfl⟩
        · exact Or.inr ⟨k, by omega, by omega, silentFrom later, reported⟩
    | @report remaining i item word inside offers =>
        exact Or.inr ⟨i, Nat.le_refl i, by omega, fun earlier _ _ => by omega, item, inside, word,
          offers, rfl⟩
  · intro closed
    induction remaining generalizing i with
    | zero =>
        rcases closed with ⟨_, rfl⟩ | ⟨k, atLeast, below, _⟩
        · exact .exhausted i
        · omega
    | succ remaining inductionHypothesis =>
        rcases closed with ⟨silent, rfl⟩ | ⟨k, atLeast, below, silent, item, inside, word, offers,
          rfl⟩
        · refine .goOn (silent i (Nat.le_refl i) (by omega)) (inductionHypothesis (Or.inl ⟨?_, ?_⟩))
          · exact fun k after below => silent k (by omega) (by omega)
          · rw [Nat.add_right_comm, Nat.add_assoc]
        · rcases Nat.eq_or_lt_of_le atLeast with rfl | after
          · exact .report inside offers
          · refine .goOn (silent i (Nat.le_refl i) after) (inductionHypothesis (Or.inr ?_))
            exact ⟨k, after, by omega, fun earlier from_ => silent earlier (by omega), item, inside,
              word, offers, rfl⟩

/-! ### The answers -/

/-- Index `j` is the first at which work item `globalId` of launch `i` examines a word that
hashes to the target. -/
structure FirstHit (split : Split) (targetHash : BitVec 64) (i globalId j : Nat) : Prop where
  inside : globalId < 16 ^ split.fromGlobalId
  below : j < 16 ^ split.inKernel
  hit : wordHash (examinedWord split i globalId j).val = .ok targetHash
  first : ∀ earlier < j, wordHash (examinedWord split i globalId earlier).val ≠ .ok targetHash

theorem launch_offer_iff {i item : Nat} (iBelow : i < 16 ^ split.onCpu)
    (inside : item < 16 ^ split.fromGlobalId) (word : List Char) :
    (split.launch targetHash i).offer item = some word ↔
      ∃ j, FirstHit split targetHash i item j ∧ (examinedWord split i item j).val = word := by
  have examined {j : Nat} (below : j < 16 ^ split.inKernel) :
      (split.launch targetHash i).examined item j = wordDigits split i item j :=
    launch_examined iBelow inside below
  rw [Launch.offer, Option.map_eq_some_iff, launch_combinations]
  apply exists_congr
  intro j
  rw [List.find?_range_eq_some, List.mem_range, decide_eq_true_eq]
  constructor
  · intro found
    rcases found with ⟨⟨hit, below, misses⟩, rfl⟩
    rw [examined below] at hit ⊢
    refine ⟨⟨inside, below, (wordHash_examinedWord i item j).mpr hit, ?_⟩, rfl⟩
    intro earlier before
    have miss := misses earlier before
    rw [examined (before.trans below)] at miss
    rw [Ne, wordHash_examinedWord]
    simpa using miss
  · intro first
    rcases first with ⟨⟨_, below, hit, misses⟩, rfl⟩
    rw [examined below]
    refine ⟨⟨(wordHash_examinedWord i item j).mp hit, below, ?_⟩, rfl⟩
    intro earlier before
    have miss := misses earlier before
    rw [Ne, wordHash_examinedWord] at miss
    rw [examined (before.trans below)]
    simpa using miss

theorem silent_iff {i : Nat} (iBelow : i < 16 ^ split.onCpu) :
    Silent split targetHash i ↔ ¬ LaunchMatches split targetHash i := by
  rw [launchMatches_iff iBelow, Silent]
  push Not
  rfl

/-- The outcome of a search for some order of the work items. -/
theorem exists_main_iff (accepted : launchCheck info maxWorkGroupSize split targetHash = .ok ())
    (outcome : Outcome) :
    (∃ schedules, main info maxWorkGroupSize split targetHash schedules = some (.ok outcome)) ↔
      ((∀ i < 16 ^ split.onCpu, ¬ LaunchMatches split targetHash i) ∧
        outcome = ⟨16 ^ split.onCpu, none, zeroMemory split.letterCount⟩) ∨
      ∃ i < 16 ^ split.onCpu, (∀ earlier < i, ¬ LaunchMatches split targetHash earlier) ∧
        ∃ globalId j, FirstHit split targetHash i globalId j ∧
          outcome = foundIn i (examinedWord split i globalId j).val := by
  have endings :
      (∃ schedules, main info maxWorkGroupSize split targetHash schedules = some (.ok outcome)) ↔
        Ending split targetHash (16 ^ split.onCpu) 0 outcome := by
    unfold main
    rw [repeatCnt_toNat]
    constructor
    · intro ran
      rcases ran with ⟨schedules, ran⟩
      exact .of_mainLoop ran
    · exact Ending.exists_mainLoop accepted
  rw [endings, Ending.iff, Nat.zero_add]
  refine or_congr (and_congr_left fun _ => ?_) (exists_congr fun i => ?_)
  · constructor
    · exact fun silent i below => (silent_iff below).mp (silent i (Nat.zero_le i) below)
    · exact fun miss i _ below => (silent_iff below).mpr (miss i below)
  · constructor
    · intro reported
      rcases reported with ⟨_, below, silent, item, inside, word, offers, rfl⟩
      rw [launch_workItems] at inside
      obtain ⟨j, first, rfl⟩ := (launch_offer_iff below inside word).mp offers
      refine ⟨below, ?_, item, j, first, rfl⟩
      intro earlier before
      exact (silent_iff (before.trans below)).mp (silent earlier (Nat.zero_le _) before)
    · intro reported
      rcases reported with ⟨below, miss, item, j, first, rfl⟩
      refine ⟨Nat.zero_le i, below, ?_, item, ?_, _,
        (launch_offer_iff below first.inside _).mpr ⟨j, first, rfl⟩, rfl⟩
      · intro earlier _ before
        exact (silent_iff (before.trans below)).mpr (miss earlier before)
      · rw [launch_workItems]
        exact first.inside

/-! ### Determined answers -/

/-- Work item `globalId` of launch `i` examines a word that hashes to the target. -/
def ItemMatches (split : Split) (targetHash : BitVec 64) (i globalId : Nat) : Prop :=
  ∃ j < 16 ^ split.inKernel, wordHash (examinedWord split i globalId j).val = .ok targetHash

theorem itemMatches_iff {i globalId : Nat} (inside : globalId < 16 ^ split.fromGlobalId) :
    ItemMatches split targetHash i globalId ↔ ∃ j, FirstHit split targetHash i globalId j := by
  constructor
  · intro hit
    classical
    obtain ⟨below, hash⟩ := Nat.find_spec hit
    refine ⟨Nat.find hit, inside, below, hash, ?_⟩
    intro earlier before match_
    exact Nat.find_min hit before ⟨before.trans below, match_⟩
  · intro first
    rcases first with ⟨j, first⟩
    exact ⟨j, first.below, first.hit⟩

/-- Different work items of a launch report different words. -/
theorem FirstHit.item_eq {i globalId globalId' j j' : Nat} (iBelow : i < 16 ^ split.onCpu)
    (left : FirstHit split targetHash i globalId j)
    (right : FirstHit split targetHash i globalId' j')
    (same : (examinedWord split i globalId j).val = (examinedWord split i globalId' j').val) :
    globalId = globalId' :=
  (wordDigits_injective split iBelow left.inside left.below iBelow right.inside right.below
    (spell_injective same)).2.1

theorem FirstHit.launchMatches {i globalId j : Nat}
    (first : FirstHit split targetHash i globalId j) :
    LaunchMatches split targetHash i :=
  ⟨globalId, first.inside, j, first.below, first.hit⟩

theorem FirstHit.index_eq {i globalId j j' : Nat} (left : FirstHit split targetHash i globalId j)
    (right : FirstHit split targetHash i globalId j') : j = j' := by
  rcases Nat.lt_trichotomy j j' with before | same | after
  · exact absurd left.hit (right.first j before)
  · exact same
  · exact absurd right.hit (left.first j' after)

/-- The answer is the same under every schedule exactly when no two work items of the launch
that reports match. -/
theorem determined_iff (accepted : launchCheck info maxWorkGroupSize split targetHash = .ok ()) :
    (∀ schedules schedules' outcome outcome',
      main info maxWorkGroupSize split targetHash schedules = some (.ok outcome) →
      main info maxWorkGroupSize split targetHash schedules' = some (.ok outcome') →
        outcome = outcome') ↔
    ∀ i < 16 ^ split.onCpu, (∀ earlier < i, ¬ LaunchMatches split targetHash earlier) →
      ∀ globalId < 16 ^ split.fromGlobalId, ∀ globalId' < 16 ^ split.fromGlobalId,
        ItemMatches split targetHash i globalId → ItemMatches split targetHash i globalId' →
          globalId = globalId' := by
  constructor
  · intro determined i below miss globalId inside globalId' inside' hit hit'
    obtain ⟨j, first⟩ := (itemMatches_iff inside).mp hit
    obtain ⟨j', first'⟩ := (itemMatches_iff inside').mp hit'
    obtain ⟨schedules, ran⟩ := (exists_main_iff accepted _).mpr
      (Or.inr ⟨i, below, miss, globalId, j, first, rfl⟩)
    obtain ⟨schedules', ran'⟩ := (exists_main_iff accepted _).mpr
      (Or.inr ⟨i, below, miss, globalId', j', first', rfl⟩)
    have same := congrArg Outcome.found (determined schedules schedules' _ _ ran ran')
    exact first.item_eq below first' (Option.some.inj same)
  · intro unique schedules schedules' outcome outcome' ran ran'
    rcases (exists_main_iff accepted _).mp ⟨schedules, ran⟩ with
      ⟨miss, rfl⟩ | ⟨i, below, miss, globalId, j, first, rfl⟩ <;>
    rcases (exists_main_iff accepted _).mp ⟨schedules', ran'⟩ with
      ⟨miss', rfl⟩ | ⟨i', below', miss', globalId', j', first', rfl⟩
    · rfl
    · exact absurd first'.launchMatches (miss i' below')
    · exact absurd first.launchMatches (miss' i below)
    · obtain rfl : i = i' := by
        rcases Nat.lt_trichotomy i i' with before | same | after
        · exact absurd first.launchMatches (miss' i before)
        · exact same
        · exact absurd first'.launchMatches (miss i' after)
      obtain rfl := unique i below miss globalId first.inside globalId' first'.inside
        ((itemMatches_iff first.inside).mpr ⟨j, first⟩)
        ((itemMatches_iff first'.inside).mpr ⟨j', first'⟩)
      rw [first.index_eq first']

/-- Every matching work item of the earliest matching launch can be the one reported, with
its first match, and nothing else can be; so the answer does not depend on the order of the
work items exactly when no two of that launch match. -/
theorem main_outcomes (info : DeviceInfo) (maxWorkGroupSize : BitVec 64) (split : Split)
    (targetHash : BitVec 64)
    (accepted : launchCheck info maxWorkGroupSize split targetHash = .ok ()) :
    (∀ outcome,
      (∃ schedules, main info maxWorkGroupSize split targetHash schedules = some (.ok outcome)) ↔
      ((∀ i < 16 ^ split.onCpu, ¬ LaunchMatches split targetHash i) ∧
        outcome = ⟨16 ^ split.onCpu, none, zeroMemory split.letterCount⟩) ∨
      ∃ i < 16 ^ split.onCpu, (∀ earlier < i, ¬ LaunchMatches split targetHash earlier) ∧
        ∃ globalId j, FirstHit split targetHash i globalId j ∧
          outcome = foundIn i (examinedWord split i globalId j).val) ∧
    ((∀ schedules schedules' outcome outcome',
      main info maxWorkGroupSize split targetHash schedules = some (.ok outcome) →
      main info maxWorkGroupSize split targetHash schedules' = some (.ok outcome') →
        outcome = outcome') ↔
    ∀ i < 16 ^ split.onCpu, (∀ earlier < i, ¬ LaunchMatches split targetHash earlier) →
      ∀ globalId < 16 ^ split.fromGlobalId, ∀ globalId' < 16 ^ split.fromGlobalId,
        ItemMatches split targetHash i globalId → ItemMatches split targetHash i globalId' →
          globalId = globalId') :=
  ⟨exists_main_iff accepted, determined_iff accepted⟩

/-- The word `cat` can be the answer, after one launch. -/
theorem main_outcomes_cat :
    ∃ schedules, main (squareDevice 1024#64) 1024#64 catInKernel catHash schedules =
      some (.ok (foundIn 0 ['c', 'a', 't'])) := by
  have first : FirstHit catInKernel catHash 0 1 13 :=
    ⟨by decide, by decide, by decide, by decide⟩
  refine ((main_outcomes (squareDevice 1024#64) 1024#64 catInKernel catHash (by decide)).1 _).mpr
    (Or.inr ⟨0, by decide, ?_, 1, 13, first, rfl⟩)
  exact fun earlier before => absurd before (Nat.not_lt_zero earlier)

end OpenClHash.Host
