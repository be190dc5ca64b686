import OpenClHash.Host.Split

/-!
Owns the two facts about the search space as a whole: the three indices enumerate the
words of the given length exactly once, and the hash of a word determines it, exactly
for any length and in the kernel's `long` for up to eleven letters.
-/

namespace OpenClHash.Host

open OpenClHash.Kernel

/-! ### Enumeration -/

/-- The word examined at one position of the three nested searches. -/
def examinedWord (split : Split) (i globalId j : Nat) :
    {word : List Char // IsWord split.letterCount word} :=
  ⟨spell (wordDigits split i globalId j),
    wordDigits_length split i globalId j ▸ isWord_spell (wordDigits split i globalId j)⟩

/-- `data` holds the examined word when iteration `j` compares its hash. -/
theorem comparedAt_examinedWord (split : Split) (targetHash : BitVec 64) {i globalId j : Nat}
    (iBelow : i < 16 ^ split.onCpu) (globalIdBelow : globalId < 16 ^ split.fromGlobalId)
    (jBelow : j < 16 ^ split.inKernel) :
    comparedAt split.letterCount ((split.config targetHash).arguments (BitVec.ofNat 64 i))
        (BitVec.ofNat 32 globalId) j =
      .ok ((examinedWord split i globalId j).val.map some,
        digitHash 7#64 (wordDigits split i globalId j)) := by
  rw [comparedAt_eq _ (arguments_fits split targetHash (BitVec.ofNat 64 i)),
    examinedDigits_eq split targetHash iBelow globalIdBelow jBelow]
  rfl

/-- The positions that the host loop, the work items of a launch and the loop over `i`
in the kernel range over, as the code computes their bounds. -/
abbrev Position (config : Config) : Type :=
  Fin config.repeatCnt.toNat × Fin config.globalWorkSize.toNat ×
    Fin (combinations (config.arguments 0#64)).toNat

/-- The positions partition the words by what is in `data` when each is compared, and a work item
compares its positions in order. -/
theorem positions_partition_words (split : Split) (targetHash : BitVec 64) :
    ((split.config targetHash).repeatCnt.toNat = 16 ^ split.onCpu ∧
      (split.config targetHash).globalWorkSize.toNat = 16 ^ split.fromGlobalId ∧
      ∀ i, (combinations ((split.config targetHash).arguments i)).toNat = 16 ^ split.inKernel) ∧
    ∃ contents : Position (split.config targetHash) →
        {word : List Char // IsWord split.letterCount word},
      (∀ position, ∃ hashValue,
        comparedAt split.letterCount
            ((split.config targetHash).arguments (BitVec.ofNat 64 position.1.val))
            (BitVec.ofNat 32 position.2.1.val) position.2.2.val =
          .ok ((contents position).val.map some, hashValue)) ∧
      Function.Bijective contents ∧
      ∀ i globalId, search split.letterCount ((split.config targetHash).arguments i) globalId =
        compareInOrder targetHash
          (comparedAt split.letterCount ((split.config targetHash).arguments i) globalId)
          (List.range (combinations ((split.config targetHash).arguments i)).toNat) := by
  have repeatCnt := repeatCnt_toNat split targetHash
  have globalWorkSize := globalWorkSize_toNat split targetHash
  have combinations := combinations_toNat split targetHash
  refine ⟨⟨repeatCnt, globalWorkSize, combinations⟩, fun position =>
    examinedWord split position.1.val position.2.1.val position.2.2.val, ?_, ⟨?_, ?_⟩,
    fun i globalId => search_compares globalId⟩
  · rintro ⟨⟨i, iBelow⟩, ⟨globalId, globalIdBelow⟩, ⟨j, jBelow⟩⟩
    exact ⟨_, comparedAt_examinedWord split targetHash (repeatCnt ▸ iBelow)
      (globalWorkSize ▸ globalIdBelow) (combinations 0#64 ▸ jBelow)⟩
  · rintro ⟨⟨i, iBelow⟩, ⟨globalId, globalIdBelow⟩, ⟨j, jBelow⟩⟩
      ⟨⟨i', iBelow'⟩, ⟨globalId', globalIdBelow'⟩, ⟨j', jBelow'⟩⟩ same
    have digits := spell_injective (congrArg Subtype.val same)
    obtain ⟨rfl, rfl, rfl⟩ := wordDigits_injective split (repeatCnt ▸ iBelow)
      (globalWorkSize ▸ globalIdBelow) (combinations 0#64 ▸ jBelow) (repeatCnt ▸ iBelow')
      (globalWorkSize ▸ globalIdBelow') (combinations 0#64 ▸ jBelow') digits
    rfl
  · rintro ⟨word, isWord⟩
    rcases isWord.exists_spell with ⟨digits, length, rfl⟩
    obtain ⟨i, iBelow, globalId, globalIdBelow, j, jBelow, rfl⟩ := exists_wordDigits split length
    exact ⟨(⟨i, repeatCnt ▸ iBelow⟩, ⟨globalId, globalWorkSize ▸ globalIdBelow⟩,
      ⟨j, combinations 0#64 ▸ jBelow⟩), rfl⟩

/-! ### Uniqueness of preimages -/

/-- Up to eleven letters, two words of any lengths with one 64-bit hash are equal. -/
theorem wordHash_injective {left right : List Char}
    (leftAlphabet : ∀ letter ∈ left, letter ∈ letters)
    (rightAlphabet : ∀ letter ∈ right, letter ∈ letters)
    (leftShort : left.length ≤ 11) (rightShort : right.length ≤ 11)
    (same : wordHash left = wordHash right) : left = right := by
  obtain ⟨leftDigits, rfl⟩ := exists_spell leftAlphabet
  obtain ⟨rightDigits, rfl⟩ := exists_spell rightAlphabet
  rw [wordHash_spell, wordHash_spell] at same
  rw [digitHash_injective (by simpa using leftShort) (by simpa using rightShort)
    (Except.ok.inj same)]

theorem exactHash_injective {left right : List Char}
    (leftAlphabet : ∀ letter ∈ left, letter ∈ letters)
    (rightAlphabet : ∀ letter ∈ right, letter ∈ letters)
    (same : exactHash left = exactHash right) : left = right := by
  obtain ⟨leftDigits, rfl⟩ := exists_spell leftAlphabet
  obtain ⟨rightDigits, rfl⟩ := exists_spell rightAlphabet
  rw [exactHash_spell, exactHash_spell] at same
  have values : (numeralOf leftDigits : Int) = numeralOf rightDigits := Except.ok.inj same
  rw [numeralOf_injective (Int.ofNat.inj values)]

/-- One step of the machine hash inside a short word: the value before the step, the
product and the sum all equal their exact integers. -/
theorem hashStep_exact {done rest : List Char} {letter : Char}
    (alphabet : ∀ other ∈ done ++ letter :: rest, other ∈ letters)
    (short : (done ++ letter :: rest).length ≤ 11) :
    ∃ (machine next : BitVec 64) (exact : Int) (value : BitVec 32),
      wordHash done = .ok machine ∧ exactHash done = .ok exact ∧
      lookupAt letter = .ok value ∧ hashStep machine letter = .ok next ∧
      machine.toInt = exact ∧ (machine * 37#64).toInt = exact * 37 ∧
      next.toInt = exact * 37 + value.toInt := by
  have doneAlphabet : ∀ other ∈ done, other ∈ letters := by
    intro other member
    exact alphabet other (by simp [member])
  obtain ⟨digits, rfl⟩ := exists_spell doneAlphabet
  obtain ⟨digit, rfl⟩ := mem_letters (alphabet letter (by simp))
  have room : digits.length + 1 ≤ 11 := by
    simp only [List.length_append, spell_length, List.length_cons] at short
    omega
  have before : (digitHash 7#64 digits).toInt = numeralOf digits := digitHash_toInt (by omega)
  have bound : numeralOf digits * 37 + digit.val < 2 ^ 63 := by
    rw [← numeralOf_append_singleton]
    exact numeralOf_lt (by simpa using room)
  have product : (digitHash 7#64 digits * 37#64).toInt = numeralOf digits * 37 := by
    rw [digitHash_eq_numeralOf, ← BitVec.ofNat_mul, toInt_ofNat_of_lt (by omega)]
    push_cast
    rfl
  have after : (digitHash 7#64 (digits ++ [digit])).toInt = numeralOf (digits ++ [digit]) :=
    digitHash_toInt (by simpa using room)
  refine ⟨digitHash 7#64 digits, digitHash 7#64 (digits ++ [digit]), numeralOf digits,
    BitVec.ofNat 32 digit.val, wordHash_spell digits, exactHash_spell digits,
    lookupAt_letter digit, ?_, before, product, ?_⟩
  · rw [hashStep_letter, digitHash_append_singleton]
  · rw [after, numeralOf_append_singleton, lookupValue_toInt]
    push_cast
    rfl

/-- In the kernel, whatever its arguments, a comparison over at most eleven letters
compares the exact hash of the word in `data`. -/
theorem comparedAt_exact {letterCount : Nat} {args : Arguments} (globalId : BitVec 32)
    (fits : Fits letterCount args) (short : letterCount ≤ 11) (i : Nat) :
    ∃ word hashValue exact, comparedAt letterCount args globalId i =
        .ok (word.map some, hashValue) ∧
      IsWord letterCount word ∧ exactHash word = .ok exact ∧ hashValue.toInt = exact := by
  have length := examinedDigits_length globalId fits i
  refine ⟨spell (examinedDigits letterCount args globalId i),
    digitHash 7#64 (examinedDigits letterCount args globalId i),
    numeralOf (examinedDigits letterCount args globalId i), ?_, ?_, exactHash_spell _, ?_⟩
  · rw [comparedAt_eq globalId fits i, written]
  · have isWord := isWord_spell (examinedDigits letterCount args globalId i)
    rwa [length] at isWord
  · exact digitHash_toInt (length.trans_le short)

theorem hash_injective_without_overflow :
    (∀ left right : List Char, (∀ letter ∈ left, letter ∈ letters) →
      (∀ letter ∈ right, letter ∈ letters) → exactHash left = exactHash right → left = right) ∧
    (∀ (done rest : List Char) (letter : Char),
      (∀ other ∈ done ++ letter :: rest, other ∈ letters) →
      (done ++ letter :: rest).length ≤ 11 →
      ∃ (machine next : BitVec 64) (exact : Int) (value : BitVec 32),
        wordHash done = .ok machine ∧ exactHash done = .ok exact ∧
        lookupAt letter = .ok value ∧ hashStep machine letter = .ok next ∧
        machine.toInt = exact ∧ (machine * 37#64).toInt = exact * 37 ∧
        next.toInt = exact * 37 + value.toInt) ∧
    (∀ (letterCount : Nat) (args : Arguments) (globalId : BitVec 32) (i : Nat),
      Fits letterCount args → letterCount ≤ 11 →
      ∃ word hashValue exact, comparedAt letterCount args globalId i =
          .ok (word.map some, hashValue) ∧
        IsWord letterCount word ∧ exactHash word = .ok exact ∧ hashValue.toInt = exact) ∧
    (∀ (letterCount : Nat) (targetHash : BitVec 64) (left right : List Char),
      letterCount ≤ 11 → IsWord letterCount left → IsWord letterCount right →
      wordHash left = .ok targetHash → wordHash right = .ok targetHash → left = right) := by
  refine ⟨fun _ _ => exactHash_injective, fun _ _ _ => hashStep_exact,
    fun _ _ globalId i fits short => comparedAt_exact globalId fits short i, ?_⟩
  intro letterCount targetHash left right short leftWord rightWord leftHash rightHash
  exact wordHash_injective leftWord.2 rightWord.2 (leftWord.1 ▸ short) (rightWord.1 ▸ short)
    (leftHash.trans rightHash.symm)

end OpenClHash.Host
