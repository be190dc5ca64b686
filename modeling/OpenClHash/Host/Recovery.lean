import OpenClHash.Host.Outcomes

/-!
Owns how many letters a search can tell apart. The `long` overflows from the twelfth letter
on, yet words of twelve letters that follow the same letters still have different hashes; two
words of thirteen letters have one hash, whatever letters they follow, and so have two of
every greater length. So a search that the device accepts brings back the word that was hashed
up to twelve letters in all, and its answer is independent of OpenCL up to twelve letters in a
launch.
-/

namespace OpenClHash.Host

open OpenClHash.Kernel OpenClHash.Library OpenClHash.Sizing

/-! ### Hashes that meet -/

theorem digit_le (digits : List (Fin 16)) : ∀ digit ∈ digits.map Fin.val, digit ≤ 15 := by
  intro digit member
  obtain ⟨index, _, rfl⟩ := List.mem_map.mp member
  exact Nat.le_of_lt_succ index.isLt

/-- Hashing from any value writes a numeral after it. -/
theorem digitHash_eq_numeral (start : BitVec 64) (digits : List (Fin 16)) :
    digitHash start digits =
      BitVec.ofNat 64 (LeadingDigit.numeral 37 start.toNat (digits.map Fin.val)) := by
  induction digits using List.reverseRecOn with
  | nil => simp
  | append_singleton digits digit inductionHypothesis =>
      rw [digitHash_append_singleton, inductionHypothesis, List.map_append, List.map_singleton,
        LeadingDigit.numeral_append_singleton, BitVec.ofNat_add, BitVec.ofNat_mul]

/-- Whether words of one length have one hash does not depend on what they follow. -/
theorem digitHash_eq_iff (start : BitVec 64) {left right : List (Fin 16)}
    (length : left.length = right.length) :
    digitHash start left = digitHash start right ↔
      LeadingDigit.numeral 37 0 (left.map Fin.val) ≡
        LeadingDigit.numeral 37 0 (right.map Fin.val) [MOD 2 ^ 64] := by
  rw [digitHash_eq_numeral, digitHash_eq_numeral, ← BitVec.toNat_inj, BitVec.toNat_ofNat,
    BitVec.toNat_ofNat]
  exact LeadingDigit.numeral_modEq_iff start.toNat (by simpa using length)

/-- The hashes of the words of up to twelve letters after the same letters lie within
`2 ^ 64`. -/
theorem digitHash_injective_from (start : BitVec 64) {left right : List (Fin 16)}
    (length : left.length = right.length) (short : left.length ≤ 12)
    (same : digitHash start left = digitHash start right) : left = right := by
  have wide : 15 * (36 + 1) ^ (left.map Fin.val).length < 2 ^ 64 * 36 + 15 := by
    rw [List.length_map]
    calc 15 * (36 + 1) ^ left.length ≤ 15 * (36 + 1) ^ 12 :=
          Nat.mul_le_mul_left _ (Nat.pow_le_pow_right (by decide) short)
      _ < 2 ^ 64 * 36 + 15 := by norm_num
  have mapped : (left.map Fin.val).length = (right.map Fin.val).length := by simpa using length
  have below : ∀ digits : List (Fin 16), ∀ digit ∈ digits.map Fin.val, digit < 37 :=
    fun digits digit member => (digit_le digits digit member).trans_lt (by decide)
  have exact_ := LeadingDigit.numeral_modEq_injective (digit_le left) (digit_le right) mapped wide
    ((digitHash_eq_iff start length).mp same)
  exact List.map_injective_iff.mpr Fin.val_injective
    (LeadingDigit.numeral_injective_of_length (by decide) (below left) (below right) mapped exact_)

/-- The letters `eaanaaaaotaas` and `amsammnlaanpa`, whose numerals are `2 ^ 64` apart. -/
theorem exists_thirteen : ∃ left right : List (Fin 16), left.length = 13 ∧ right.length = 13 ∧
    left.head? = some 3 ∧ right.head? = some 0 ∧
    ∀ start, digitHash start left = digitHash start right := by
  let left : List (Fin 16) := [3, 0, 0, 8, 0, 0, 0, 0, 9, 13, 0, 0, 12]
  let right : List (Fin 16) := [0, 7, 12, 0, 7, 7, 8, 6, 0, 0, 8, 10, 0]
  refine ⟨left, right, rfl, rfl, rfl, rfl, ?_⟩
  intro start
  have length : left.length = right.length := rfl
  rw [digitHash_eq_iff start length, ← digitHash_eq_iff 0#64 length]
  decide

/-- Two words of any length from thirteen on that differ in their first letter and have one
hash, whatever they follow. -/
theorem exists_collision {length : Nat} (long : 13 ≤ length) :
    ∃ left right : List (Fin 16), left.length = length ∧ right.length = length ∧
      left.head? ≠ right.head? ∧ ∀ start, digitHash start left = digitHash start right := by
  obtain ⟨left, right, leftLength, rightLength, leftHead, rightHead, same⟩ := exists_thirteen
  let rest : List (Fin 16) := List.replicate (length - 13) 0
  have total : 13 + rest.length = length := by
    rw [List.length_replicate]
    omega
  refine ⟨left ++ rest, right ++ rest, ?_, ?_, ?_, ?_⟩
  · rw [List.length_append, leftLength, total]
  · rw [List.length_append, rightLength, total]
  · rw [List.head?_append, List.head?_append, leftHead, rightHead, Option.some_or, Option.some_or]
    decide
  · intro start
    rw [digitHash_append, digitHash_append, same]

/-! ### What a search brings back -/

/-- Whichever word is hashed and however its launches are completed, the search for the hash
ends and reports the word. -/
def Recovers (info : DeviceInfo) (maxWorkGroupSize : BitVec 64) (split : Split) : Prop :=
  ∀ word targetHash schedules, IsWord split.letterCount word → wordHash word = .ok targetHash →
    Completes split targetHash schedules →
    ∃ outcome, main info maxWorkGroupSize split targetHash schedules = some (.ok outcome) ∧
      outcome.found = some word

/-- The search for the hash of a word of up to twelve letters reports it. -/
theorem found_eq_of_main_ends {split : Split} {targetHash : BitVec 64} {outcome : Outcome}
    (short : split.letterCount ≤ 12) {word : List Char} (isWord : IsWord split.letterCount word)
    (hash : wordHash word = .ok targetHash) (ends : Ends split targetHash outcome) :
    outcome.found = some word := by
  cases ends with
  | exhausted none launches memory miss =>
      obtain ⟨i, below, hit⟩ := exists_launchMatches_iff.mpr ⟨word, isWord, hash⟩
      exact absurd hit (miss i below)
  | found other i reported otherWord otherHash launches below hit earliest =>
      obtain ⟨digits, length, rfl⟩ := isWord.exists_spell
      obtain ⟨others, otherLength, rfl⟩ := otherWord.exists_spell
      rw [wordHash_spell] at hash otherHash
      have same : others = digits := by
        apply digitHash_injective_from 7#64 (otherLength.trans length.symm)
        · rw [otherLength]
          exact short
        · exact Except.ok.inj (otherHash.trans hash.symm)
      rw [reported, same]

/-- Two words with one hash are not both brought back. -/
theorem Recovers.letterCount_le {info : DeviceInfo} {maxWorkGroupSize : BitVec 64} {split : Split}
    (recovers : Recovers info maxWorkGroupSize split) : split.letterCount ≤ 12 := by
  by_contra long
  obtain ⟨left, right, leftLength, rightLength, different, same⟩ :=
    exists_collision (Nat.lt_of_not_le long)
  obtain ⟨schedules, completes⟩ := exists_completes split (digitHash 7#64 left)
  obtain ⟨outcome, ran, leftFound⟩ := recovers (spell left) _ schedules
    (leftLength ▸ isWord_spell left) (wordHash_spell left) completes
  obtain ⟨again, reran, rightFound⟩ := recovers (spell right) _ schedules
    (rightLength ▸ isWord_spell right) (same 7#64 ▸ wordHash_spell right) completes
  obtain rfl : outcome = again := Except.ok.inj (Option.some.inj (ran.symm.trans reran))
  have words := spell_injective (Option.some.inj (leftFound.symm.trans rightFound))
  exact different (congrArg List.head? words)

/-- A search brings every word back exactly if its launches are accepted and the words have
up to twelve letters. -/
theorem recovers_iff (info : DeviceInfo) (maxWorkGroupSize : BitVec 64) (split : Split) :
    Recovers info maxWorkGroupSize split ↔
      AcceptsLaunches info maxWorkGroupSize split ∧ split.letterCount ≤ 12 := by
  constructor
  · intro recovers
    refine ⟨?_, recovers.letterCount_le⟩
    let digits : List (Fin 16) := List.replicate split.letterCount 0
    have isWord : IsWord split.letterCount (spell digits) := by
      have length : digits.length = split.letterCount := List.length_replicate
      exact length ▸ isWord_spell digits
    obtain ⟨schedules, completes⟩ := exists_completes split (digitHash 7#64 digits)
    obtain ⟨outcome, ran, _⟩ := recovers _ _ schedules isWord (wordHash_spell digits) completes
    exact launchCheck_eq_ok_iff.mp (accepted_of_main ran)
  · intro both word targetHash schedules isWord hash completes
    obtain ⟨outcome, ran⟩ := exists_main (launchCheck_eq_ok_iff.mpr both.1) completes
    exact ⟨outcome, ran, found_eq_of_main_ends both.2 isWord hash (main_ends ran)⟩

/-! ### What OpenCL decides -/

/-- What launch `i` examines: its own letters, then letters that do not depend on `i`. -/
theorem exists_position (split : Split) {rest : List (Fin 16)}
    (length : rest.length = split.fromGlobalId + split.inKernel) :
    ∃ globalId < 16 ^ split.fromGlobalId, ∃ j < 16 ^ split.inKernel,
      FixedDigits.digits 16 split.fromGlobalId globalId = rest.take split.fromGlobalId ∧
      ∀ i, wordDigits split i globalId j = FixedDigits.digits 16 split.onCpu i ++ rest := by
  obtain ⟨globalId, inside, front⟩ := @FixedDigits.exists_digits 16 _ split.fromGlobalId
    (rest.take split.fromGlobalId) (by simp [length])
  obtain ⟨j, below, back⟩ := @FixedDigits.exists_digits 16 _ split.inKernel
    (rest.drop split.fromGlobalId) (by simp [length])
  refine ⟨globalId, inside, j, below, front, ?_⟩
  intro i
  rw [wordDigits, front, back, List.append_assoc, List.take_append_drop]

/-- Whatever order the work items run in, the search for a target ends in the same way. -/
def ScheduleFree (split : Split) : Prop :=
  ∀ (info : DeviceInfo) (maxWorkGroupSize targetHash : BitVec 64) schedules schedules'
    outcome outcome',
    main info maxWorkGroupSize split targetHash schedules = some outcome →
    main info maxWorkGroupSize split targetHash schedules' = some outcome' → outcome = outcome'

/-- Some device accepts the launches of a split with two letters or more from the global id. -/
theorem acceptsLaunches_square {split : Split} (groups : 2 ≤ split.fromGlobalId) :
    AcceptsLaunches (squareDevice 1024#64) 1024#64 split := by
  have letters := split.fromGlobalId_le
  refine ⟨groups, by decide, ?_, by decide, by decide, by decide⟩
  exact (Nat.mul_le_mul_left 4 letters).trans (by decide)

/-- Two work items of a launch that part at the first letter they choose can both report. -/
theorem not_scheduleFree {split : Split} (long : 12 < split.fromGlobalId + split.inKernel) :
    ¬ ScheduleFree split := by
  intro free
  have inKernel := split.inKernel_le
  obtain ⟨left, right, leftLength, rightLength, different, same⟩ := exists_collision long
  obtain ⟨globalId, inside, j, below, front, examines⟩ := exists_position split leftLength
  obtain ⟨globalId', inside', j', below', front', examines'⟩ := exists_position split rightLength
  let targetHash := digitHash 7#64 (wordDigits split 0 globalId j)
  have hit : ItemMatches split targetHash 0 globalId :=
    ⟨j, below, (wordHash_examinedWord _ _ _).mpr rfl⟩
  have hit' : ItemMatches split targetHash 0 globalId' := by
    refine ⟨j', below', (wordHash_examinedWord _ _ _).mpr ?_⟩
    show digitHash 7#64 (wordDigits split 0 globalId' j') =
      digitHash 7#64 (wordDigits split 0 globalId j)
    rw [examines, examines', digitHash_append, digitHash_append, same]
  have accepted : launchCheck (squareDevice 1024#64) 1024#64 split targetHash = .ok () :=
    launchCheck_eq_ok_iff.mpr (acceptsLaunches_square (by omega))
  have determined : ∀ schedules schedules' outcome outcome',
      main (squareDevice 1024#64) 1024#64 split targetHash schedules = some (.ok outcome) →
      main (squareDevice 1024#64) 1024#64 split targetHash schedules' = some (.ok outcome') →
        outcome = outcome' :=
    fun schedules schedules' _ _ ran ran' =>
      Except.ok.inj (free _ _ targetHash schedules schedules' _ _ ran ran')
  have unique := (determined_iff accepted).mp determined 0 (Nat.pow_pos (by decide))
    (fun earlier before => absurd before (Nat.not_lt_zero _)) globalId inside globalId' inside'
    hit hit'
  subst unique
  -- The two words part at their first letter, and that is one of the work item's.
  have some : split.fromGlobalId ≠ 0 := by omega
  have heads := congrArg List.head? (front.symm.trans front')
  rw [List.head?_take, List.head?_take, if_neg some, if_neg some] at heads
  exact different heads

/-- The host's letters do not count, since work items of one launch share them. -/
theorem scheduleFree_iff (split : Split) :
    ScheduleFree split ↔ split.fromGlobalId + split.inKernel ≤ 12 := by
  constructor
  · intro free
    by_contra long
    exact not_scheduleFree (Nat.lt_of_not_le long) free
  · intro short info maxWorkGroupSize targetHash schedules schedules' outcome outcome' ran ran'
    cases checked : launchCheck info maxWorkGroupSize split targetHash with
    | error failure =>
        rw [main_refused checked] at ran ran'
        exact Option.some.inj (ran.symm.trans ran')
    | ok value =>
        obtain ⟨left, rfl⟩ := main_ok checked ran
        obtain ⟨right, rfl⟩ := main_ok checked ran'
        refine congrArg Except.ok ((determined_iff checked).mpr ?_ _ _ _ _ ran ran')
        intro i iBelow miss globalId inside globalId' inside' hit hit'
        obtain ⟨j, below, hash⟩ := hit
        obtain ⟨j', below', hash'⟩ := hit'
        rw [wordHash_examinedWord, wordDigits, List.append_assoc, digitHash_append] at hash hash'
        have rest := digitHash_injective_from _ (by simp) (by simpa using short)
          (hash.trans hash'.symm)
        exact FixedDigits.digits_injective inside inside' (List.append_inj rest (by simp)).1

end OpenClHash.Host
