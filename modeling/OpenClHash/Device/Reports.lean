import OpenClHash.Device.LaunchRefinement

/-!
Owns what a single work item does in a launch, whatever the buffers hold and whatever the
other work items do: the words it compares, when it gets to its `atomic_cmpxchg` and with
which word, and that it leaves both buffers alone when it has none. The last letters of
the words are all assignments of `letters_to_iter_over` letters, each once, in the order
of the loop index.
-/

namespace OpenClHash.Device

open OpenClHash.Kernel OpenClHash.Library Relation

namespace Launch

variable {letterCount : Nat} {targetHash : BitVec 64} (launch : Launch letterCount targetHash)

/-- The letters that `cpu_iter_i` and the global id choose. -/
def prefixWord (item : Nat) : List Char :=
  spell (prefixDigits letterCount launch.args (BitVec.ofNat 32 item))

/-- The last letters in iteration `i`, chosen by its nibbles, the least significant first. -/
def suffixWord (i : Nat) : List Char :=
  (List.range launch.lettersToIterOver.toNat).map fun index =>
    letter (nibble (BitVec.ofNat 32 (i / 16 ^ index)))

/-- The number of assignments of the last letters. -/
def suffixes : Nat := 16 ^ launch.lettersToIterOver.toNat

/-- In some run over these buffers the work item gets to its `atomic_cmpxchg` with this
private array. -/
def Reports (memory : Memory) (item : Nat) (data : Data) : Prop :=
  ∃ state, ReflTransGen launch.Step (State.enqueue memory) state ∧
    state.phase item = .reporting data

/-- Iteration `i` completes the prefix to a word that hashes to the target, and no
iteration before it does. -/
def FirstHit (item i : Nat) : Prop :=
  i < launch.suffixes ∧
    wordHash (launch.prefixWord item ++ launch.suffixWord i) = .ok targetHash ∧
    ∀ earlier < i,
      wordHash (launch.prefixWord item ++ launch.suffixWord earlier) ≠ .ok targetHash

end Launch

section Reports

variable {letterCount : Nat} {targetHash : BitVec 64} {launch : Launch letterCount targetHash}

/-! ### The compared words -/

theorem suffixWord_eq (i : Nat) :
    launch.suffixWord i =
      spell (FixedDigits.digits 16 launch.lettersToIterOver.toNat i) := by
  rw [Launch.suffixWord, spell, FixedDigits.digits, List.map_map]
  apply List.map_congr_left
  intro index _
  apply congrArg letter
  apply Fin.ext
  simp [nibble]

theorem spell_examined (small : launch.lettersToIterOver.toNat ≤ 7) (item : Nat) {i : Nat}
    (below : i < launch.suffixes) :
    spell (launch.examined item i) = launch.prefixWord item ++ launch.suffixWord i := by
  have digits : launch.examined item i =
      prefixDigits letterCount launch.args (BitVec.ofNat 32 item) ++
        FixedDigits.digits 16 launch.lettersToIterOver.toNat i :=
    examinedDigits_suffix _ small below
  rw [digits, spell_append, suffixWord_eq, Launch.prefixWord]

/-- The hash the kernel keeps is the hash of the compared word. -/
theorem wordHash_compared (small : launch.lettersToIterOver.toNat ≤ 7) (item : Nat) {i : Nat}
    (below : i < launch.suffixes) :
    wordHash (launch.prefixWord item ++ launch.suffixWord i) =
      .ok (digitHash 7#64 (launch.examined item i)) := by
  rw [← spell_examined small item below, wordHash_spell]

theorem isWord_compared (small : launch.lettersToIterOver.toNat ≤ 7) (item : Nat) {i : Nat}
    (below : i < launch.suffixes) :
    IsWord letterCount (launch.prefixWord item ++ launch.suffixWord i) := by
  rw [← spell_examined small item below]
  have isWord := isWord_spell (launch.examined item i)
  rwa [Launch.examined, examinedDigits_length _ launch.args_fits i] at isWord

/-- Every assignment of the last letters is tried. -/
theorem exists_suffixWord {suffix : List Char}
    (isWord : IsWord launch.lettersToIterOver.toNat suffix) :
    ∃ i < launch.suffixes, launch.suffixWord i = suffix := by
  rcases isWord.exists_spell with ⟨digits, length, rfl⟩
  obtain ⟨i, below, rfl⟩ := FixedDigits.exists_digits digits length
  exact ⟨i, below, suffixWord_eq i⟩

theorem isWord_suffixWord (i : Nat) :
    IsWord launch.lettersToIterOver.toNat (launch.suffixWord i) := by
  have isWord := isWord_spell (FixedDigits.digits 16 launch.lettersToIterOver.toNat i)
  rwa [FixedDigits.digits_length, ← suffixWord_eq] at isWord

/-! ### The first hit -/

theorem offer_eq_some_iff (small : launch.lettersToIterOver.toNat ≤ 7) (item : Nat)
    (word : List Char) :
    launch.offer item = some word ↔
      ∃ i, launch.FirstHit item i ∧ launch.prefixWord item ++ launch.suffixWord i = word := by
  have count : (combinations launch.args).toNat = launch.suffixes := combinations_eq_pow small
  have hits : ∀ i < launch.suffixes,
      (digitHash 7#64 (launch.examined item i) = targetHash ↔
        wordHash (launch.prefixWord item ++ launch.suffixWord i) = .ok targetHash) := by
    intro i below
    rw [wordHash_compared small item below, Except.ok.injEq]
  rw [Launch.offer, Option.map_eq_some_iff, count]
  apply exists_congr
  intro i
  rw [List.find?_range_eq_some]
  constructor
  · intro found
    rcases found with ⟨⟨hit, member, misses⟩, spelled⟩
    have below := List.mem_range.mp member
    refine ⟨⟨below, (hits i below).mp (of_decide_eq_true hit), ?_⟩, ?_⟩
    · intro earlier before
      have miss : digitHash 7#64 (launch.examined item earlier) ≠ targetHash := by
        simpa using misses earlier before
      exact mt (hits earlier (before.trans below)).mpr miss
    · rw [← spell_examined small item below, spelled]
  · intro first
    rcases first with ⟨⟨below, hit, misses⟩, rfl⟩
    refine ⟨⟨decide_eq_true ((hits i below).mpr hit), List.mem_range.mpr below, ?_⟩, ?_⟩
    · intro earlier before
      have miss := mt (hits earlier (before.trans below)).mp (misses earlier before)
      simpa using miss
    · exact spell_examined small item below

/-- When some iteration hits, one is the first to. -/
theorem exists_firstHit_iff (item : Nat) :
    (∃ i, launch.FirstHit item i) ↔
      ∃ suffix, IsWord launch.lettersToIterOver.toNat suffix ∧
        wordHash (launch.prefixWord item ++ suffix) = .ok targetHash := by
  constructor
  · intro first
    rcases first with ⟨i, _, hit, _⟩
    exact ⟨launch.suffixWord i, isWord_suffixWord i, hit⟩
  · intro completed
    rcases completed with ⟨suffix, isWord, hash⟩
    obtain ⟨i, below, rfl⟩ := exists_suffixWord isWord
    have hits : ∃ j, wordHash (launch.prefixWord item ++ launch.suffixWord j) = .ok targetHash :=
      ⟨i, hash⟩
    classical
    refine ⟨Nat.find hits, ?_, Nat.find_spec hits, fun earlier before => Nat.find_min hits before⟩
    exact lt_of_le_of_lt (Nat.find_min' hits hash) below

/-! ### One work item in a run -/

/-- A work item past its search carries what it found. -/
def Searched (launch : Launch letterCount targetHash) (item : Nat) : Phase → Prop
  | .reporting data | .copying data _ =>
      search letterCount launch.args (BitVec.ofNat 32 item) = .ok (some data)
  | .searching | .finished | .faulted _ => True

/-- A step moves only the work item that takes it, and keeps what it carries. -/
theorem advance_searched {item : Nat} {state next : State}
    (searched : Searched launch item (state.phase item))
    (advances : launch.advance item state = some next) :
    ∃ phase, next.phase = Function.update state.phase item phase ∧
      Searched launch item phase := by
  obtain ⟨_, step⟩ := launch.advance_cases advances
  cases step with
  | find phase found => exact ⟨.reporting _, rfl, found⟩
  | giveUp phase found => exact ⟨.finished, rfl, trivial⟩
  | fault phase failed => exact ⟨.faulted _, rfl, trivial⟩
  | win phase down =>
      rw [phase] at searched
      exact ⟨.copying _ 0, rfl, searched⟩
  | lose phase up => exact ⟨.finished, rfl, trivial⟩
  | @copy data i phase below =>
      rw [phase] at searched
      unfold Launch.copyLetter
      split
      · exact ⟨.faulted _, rfl, trivial⟩
      · split
        · exact ⟨.copying data (i + 1), rfl, searched⟩
        · exact ⟨.faulted .outOfBounds, rfl, trivial⟩
  | finish phase complete => exact ⟨.finished, rfl, trivial⟩

theorem searched_of_run {memory : Memory} {state : State}
    (run : ReflTransGen launch.Step (State.enqueue memory) state) (item : Nat) :
    Searched launch item (state.phase item) := by
  induction run generalizing item with
  | refl => trivial
  | tail _ step inductionHypothesis =>
      rcases step with ⟨mover, advances⟩
      obtain ⟨phase, moved, searched⟩ := advance_searched (inductionHypothesis mover) advances
      rw [moved]
      exact (Function.forall_update_iff _ (Searched launch)).mpr
        ⟨searched, fun other _ => inductionHypothesis other⟩ item

theorem reports_iff (memory : Memory) {item : Nat} (inside : item < launch.workItems)
    (data : Data) :
    launch.Reports memory item data ↔
      search letterCount launch.args (BitVec.ofNat 32 item) = .ok (some data) := by
  constructor
  · intro reports
    rcases reports with ⟨state, run, phase⟩
    have searched := searched_of_run run item
    rwa [phase] at searched
  · intro found
    have advances : launch.advance item (State.enqueue memory) =
        some ((State.enqueue memory).goto item (.reporting data)) := by
      rw [Launch.advance, if_pos inside]
      simp only [State.enqueue, found]
    exact ⟨_, .single ⟨item, advances⟩, Function.update_self ..⟩

/-- Before its report and after it, a work item leaves both buffers alone. -/
theorem advance_memory {item : Nat} {state next : State}
    (advances : launch.advance item state = some next) :
    (next.memory = state.memory ∧ next.writers = state.writers) ∨
      ∃ data, state.phase item = .reporting data ∨ ∃ i, state.phase item = .copying data i := by
  obtain ⟨_, step⟩ := launch.advance_cases advances
  cases step with
  | find | giveUp | fault => exact Or.inl ⟨rfl, rfl⟩
  | win phase | lose phase => exact Or.inr ⟨_, Or.inl phase⟩
  | copy phase | finish phase => exact Or.inr ⟨_, Or.inr ⟨_, phase⟩⟩

theorem reports_iff_firstHit (memory : Memory) {item : Nat} (inside : item < launch.workItems)
    (small : launch.lettersToIterOver.toNat ≤ 7) (data : Data) :
    launch.Reports memory item data ↔
      ∃ i, launch.FirstHit item i ∧
        data = (launch.prefixWord item ++ launch.suffixWord i).map some := by
  rw [reports_iff memory inside, launch.search_eq_offer, Except.ok.injEq, Option.map_eq_some_iff]
  simp only [offer_eq_some_iff small]
  constructor
  · intro offered
    rcases offered with ⟨_, ⟨i, first, rfl⟩, rfl⟩
    exact ⟨i, first, rfl⟩
  · intro offered
    rcases offered with ⟨i, first, rfl⟩
    exact ⟨_, ⟨i, first, rfl⟩, rfl⟩

theorem workItem_report (launch : Launch letterCount targetHash) (memory : Memory) {item : Nat}
    (inside : item < launch.workItems) (small : launch.lettersToIterOver.toNat ≤ 7) :
    (∀ i < launch.suffixes, ∃ hashValue,
      comparedAt letterCount launch.args (BitVec.ofNat 32 item) i =
        .ok ((launch.prefixWord item ++ launch.suffixWord i).map some, hashValue) ∧
      IsWord letterCount (launch.prefixWord item ++ launch.suffixWord i) ∧
      wordHash (launch.prefixWord item ++ launch.suffixWord i) = .ok hashValue) ∧
    ((∃ data, launch.Reports memory item data) ↔
      ∃ suffix, IsWord launch.lettersToIterOver.toNat suffix ∧
        wordHash (launch.prefixWord item ++ suffix) = .ok targetHash) ∧
    (∀ data, launch.Reports memory item data ↔
      ∃ i, launch.FirstHit item i ∧
        data = (launch.prefixWord item ++ launch.suffixWord i).map some) ∧
    (∀ state next, ReflTransGen launch.Step (State.enqueue memory) state →
      launch.advance item state = some next →
      (next.memory = state.memory ∧ next.writers = state.writers) ∨
        ∃ data, launch.Reports memory item data ∧
          (state.phase item = .reporting data ∨ ∃ i, state.phase item = .copying data i)) := by
  refine ⟨?_, ?_, reports_iff_firstHit memory inside small, ?_⟩
  · intro i below
    refine ⟨_, ?_, isWord_compared small item below, wordHash_compared small item below⟩
    rw [comparedAt_eq _ launch.args_fits, ← spell_examined small item below]
    rfl
  · rw [← exists_firstHit_iff]
    simp only [reports_iff_firstHit memory inside small]
    constructor
    · intro reports
      rcases reports with ⟨_, i, first, _⟩
      exact ⟨i, first⟩
    · intro hit
      rcases hit with ⟨i, first⟩
      exact ⟨_, i, first, rfl⟩
  · intro state next run advances
    rcases advance_memory advances with untouched | ⟨data, phase⟩
    · exact Or.inl untouched
    · refine Or.inr ⟨data, (reports_iff memory inside data).mpr ?_, phase⟩
      have searched := searched_of_run run item
      rcases phase with phase | ⟨i, phase⟩ <;> rwa [phase] at searched

/-- Words of two letters, the first chosen by the global id. -/
def twoLetters : Launch 2 9620#64 where
  lettersFromGlobalId := 1#32
  cpuIterI := 0#32
  lettersToIterOver := 1#32
  workItems := 16
  nonempty := by decide
  fits := ⟨by decide, by decide⟩

/-- Work item 1 reports `ca`. -/
theorem workItem_report_twoLetters :
    twoLetters.Reports ⟨0#32, ['\x00', '\x00']⟩ 1 [some 'c', some 'a'] ∧
      wordHash (twoLetters.prefixWord 1 ++ ['a']) = .ok 9620#64 := by
  have report := workItem_report twoLetters ⟨0#32, ['\x00', '\x00']⟩ (show 1 < 16 by decide)
    (show twoLetters.lettersToIterOver.toNat ≤ 7 by decide)
  have first : twoLetters.FirstHit 1 0 := by
    refine ⟨by decide, by decide, ?_⟩
    intro earlier before
    exact absurd before (Nat.not_lt_zero earlier)
  exact ⟨(report.2.2.1 _).mpr ⟨0, first, by decide⟩, by decide⟩

end Reports

end OpenClHash.Device
