import Mathlib.Algebra.Group.Int.Defs
import Mathlib.Data.Fintype.Basic
import OpenClHash.Kernel.Source
import OpenClHash.Library.LeadingDigit

/-!
Owns words over the sixteen-letter alphabet and their hash: the two tables are
inverse to each other on the alphabet, and hashing a word from 7 is the base-37
numeral with leading digit 7, exactly over the integers and modulo `2 ^ 64` in the
kernel's `long`.
-/

namespace OpenClHash.Kernel

open OpenClHash.Library

/-! ### The alphabet -/

/-- Entry `digit` of `letters`. -/
def letter (digit : Fin 16) : Char := letters.get digit

/-- The word spelled by a list of digits. -/
def spell (digits : List (Fin 16)) : List Char := digits.map letter

/-- A word of `letterCount` letters over the alphabet. -/
def IsWord (letterCount : Nat) (word : List Char) : Prop :=
  word.length = letterCount ∧ ∀ letter ∈ word, letter ∈ letters

instance (letterCount : Nat) (word : List Char) : Decidable (IsWord letterCount word) :=
  inferInstanceAs (Decidable (word.length = letterCount ∧ ∀ letter ∈ word, letter ∈ letters))

theorem letter_injective : Function.Injective letter := by decide

theorem letter_mem (digit : Fin 16) : letter digit ∈ letters := List.get_mem letters digit

theorem mem_letters {character : Char} (member : character ∈ letters) :
    ∃ digit, letter digit = character := List.mem_iff_get.mp member

theorem letter_ne_nul (digit : Fin 16) : letter digit ≠ '\x00' := by
  decide +revert

@[simp] theorem spell_length (digits : List (Fin 16)) : (spell digits).length = digits.length :=
  List.length_map ..

@[simp] theorem spell_append (left right : List (Fin 16)) :
    spell (left ++ right) = spell left ++ spell right :=
  List.map_append

theorem spell_injective : Function.Injective spell :=
  List.map_injective_iff.mpr letter_injective

theorem isWord_spell (digits : List (Fin 16)) : IsWord digits.length (spell digits) := by
  refine ⟨spell_length digits, fun character member => ?_⟩
  obtain ⟨digit, _, rfl⟩ := List.mem_map.mp member
  exact letter_mem digit

/-- Every list of alphabet letters is spelled by some digits. -/
theorem exists_spell {word : List Char} (alphabet : ∀ letter ∈ word, letter ∈ letters) :
    ∃ digits, spell digits = word := by
  induction word with
  | nil => exact ⟨[], rfl⟩
  | cons head tail inductionHypothesis =>
      obtain ⟨digit, rfl⟩ := mem_letters (alphabet head (by simp))
      obtain ⟨digits, rfl⟩ := inductionHypothesis fun other member =>
        alphabet other (by simp [member])
      exact ⟨digit :: digits, rfl⟩

theorem IsWord.exists_spell {letterCount : Nat} {word : List Char}
    (isWord : IsWord letterCount word) :
    ∃ digits, digits.length = letterCount ∧ spell digits = word := by
  obtain ⟨digits, rfl⟩ := Kernel.exists_spell isWord.2
  exact ⟨digits, by simpa using isWord.1, rfl⟩

/-- `lookup` inverts `letters`. -/
theorem lookupAt_letter (digit : Fin 16) :
    lookupAt (letter digit) = .ok (BitVec.ofNat 32 digit.val) := by
  decide +revert

/-! ### Hashing a word -/

/-- The hash of a whole word: start value 7, then `hash_step` per letter. -/
def wordHash (word : List Char) : Except Fault (BitVec 64) := word.foldlM hashStep 7#64

/-- `hash_step` over exact integers. -/
def exactHashStep (previousVal : Int) (letter : Char) : Except Fault Int := do
  let value ← lookupAt letter
  return previousVal * 37 + value.toInt

/-- `wordHash` over exact integers. -/
def exactHash (word : List Char) : Except Fault Int := word.foldlM exactHashStep 7

/-- The 64-bit hash of spelled digits from a running value. -/
def digitHash (start : BitVec 64) (digits : List (Fin 16)) : BitVec 64 :=
  digits.foldl (fun hash digit => hash * 37#64 + BitVec.ofNat 64 digit.val) start

@[simp] theorem digitHash_nil (start : BitVec 64) : digitHash start [] = start := rfl

theorem digitHash_append (start : BitVec 64) (left right : List (Fin 16)) :
    digitHash start (left ++ right) = digitHash (digitHash start left) right :=
  List.foldl_append

theorem digitHash_append_singleton (start : BitVec 64) (digits : List (Fin 16))
    (digit : Fin 16) :
    digitHash start (digits ++ [digit]) =
      digitHash start digits * 37#64 + BitVec.ofNat 64 digit.val := by
  simp [digitHash]

theorem hashStep_letter (previousVal : BitVec 64) (digit : Fin 16) :
    hashStep previousVal (letter digit) =
      .ok (previousVal * 37#64 + BitVec.ofNat 64 digit.val) := by
  have widened : (BitVec.ofNat 32 digit.val).signExtend 64 = BitVec.ofNat 64 digit.val := by
    decide +revert
  simp [hashStep, lookupAt_letter, widened, bind, Except.bind, pure, Except.pure]

theorem lookupValue_toInt (digit : Fin 16) : (BitVec.ofNat 32 digit.val).toInt = digit.val := by
  decide +revert

theorem exactHashStep_letter (previousVal : Int) (digit : Fin 16) :
    exactHashStep previousVal (letter digit) = .ok (previousVal * 37 + digit.val) := by
  simp [exactHashStep, lookupAt_letter, lookupValue_toInt, bind, Except.bind, pure, Except.pure]

theorem foldlM_hashStep_spell (start : BitVec 64) (digits : List (Fin 16)) :
    (spell digits).foldlM hashStep start = .ok (digitHash start digits) := by
  induction digits generalizing start with
  | nil => rfl
  | cons digit rest inductionHypothesis =>
      change (hashStep start (letter digit) >>= fun hash => (spell rest).foldlM hashStep hash) = _
      rw [hashStep_letter]
      exact inductionHypothesis _

theorem wordHash_spell (digits : List (Fin 16)) :
    wordHash (spell digits) = .ok (digitHash 7#64 digits) :=
  foldlM_hashStep_spell 7#64 digits

/-! ### The hash as a numeral -/

/-- The exact hash of spelled digits. -/
def numeralOf (digits : List (Fin 16)) : Nat :=
  LeadingDigit.numeral 37 7 (digits.map Fin.val)

theorem numeralOf_append_singleton (digits : List (Fin 16)) (digit : Fin 16) :
    numeralOf (digits ++ [digit]) = numeralOf digits * 37 + digit.val := by
  simp [numeralOf]

theorem exactHash_spell (digits : List (Fin 16)) :
    exactHash (spell digits) = .ok (numeralOf digits : Int) := by
  induction digits using List.reverseRecOn with
  | nil => rfl
  | append_singleton digits digit inductionHypothesis =>
      unfold exactHash at inductionHypothesis ⊢
      rw [spell_append, List.foldlM_append, inductionHypothesis]
      change (exactHashStep (numeralOf digits) (letter digit) >>= fun hash => .ok hash) = _
      rw [exactHashStep_letter, numeralOf_append_singleton]
      push_cast
      rfl

theorem digitHash_eq_numeralOf (digits : List (Fin 16)) :
    digitHash 7#64 digits = BitVec.ofNat 64 (numeralOf digits) := by
  induction digits using List.reverseRecOn with
  | nil => rfl
  | append_singleton digits digit inductionHypothesis =>
      rw [digitHash_append_singleton, inductionHypothesis, numeralOf_append_singleton,
        BitVec.ofNat_add, BitVec.ofNat_mul]

theorem numeralOf_injective : Function.Injective numeralOf := by
  intro left right same
  have below : ∀ digits : List (Fin 16), ∀ digit ∈ digits.map Fin.val, digit < 37 := by
    intro digits digit member
    obtain ⟨index, _, rfl⟩ := List.mem_map.mp member
    have := index.isLt
    omega
  exact List.map_injective_iff.mpr Fin.val_injective
    (LeadingDigit.numeral_injective (by decide) (by decide) (by decide) (below left)
      (below right) same)

/-- Eleven letters stay below `2 ^ 63`: `8 * 37 ^ 11 < 2 ^ 63`. -/
theorem numeralOf_lt {digits : List (Fin 16)} (short : digits.length ≤ 11) :
    numeralOf digits < 2 ^ 63 := by
  have bound : numeralOf digits < (7 + 1) * 37 ^ (digits.map Fin.val).length := by
    apply LeadingDigit.numeral_lt
    intro digit member
    obtain ⟨index, _, rfl⟩ := List.mem_map.mp member
    have := index.isLt
    omega
  rw [List.length_map] at bound
  calc numeralOf digits < (7 + 1) * 37 ^ digits.length := bound
    _ ≤ (7 + 1) * 37 ^ 11 := Nat.mul_le_mul_left _ (Nat.pow_le_pow_right (by decide) short)
    _ < 2 ^ 63 := by norm_num

/-- The `long` holds the exact value as long as it stays below `2 ^ 63`. -/
theorem toInt_ofNat_of_lt {value : Nat} (small : value < 2 ^ 63) :
    (BitVec.ofNat 64 value).toInt = value := by
  rw [BitVec.toInt_eq_toNat_of_lt, BitVec.toNat_ofNat, Nat.mod_eq_of_lt (by omega)]
  rw [BitVec.toNat_ofNat, Nat.mod_eq_of_lt (by omega)]
  omega

theorem digitHash_toInt {digits : List (Fin 16)} (short : digits.length ≤ 11) :
    (digitHash 7#64 digits).toInt = numeralOf digits := by
  rw [digitHash_eq_numeralOf, toInt_ofNat_of_lt (numeralOf_lt short)]

/-- Up to eleven letters, the wrapped hash still determines the word. -/
theorem digitHash_injective {left right : List (Fin 16)} (leftShort : left.length ≤ 11)
    (rightShort : right.length ≤ 11) (same : digitHash 7#64 left = digitHash 7#64 right) :
    left = right := by
  apply numeralOf_injective
  have values : (numeralOf left : Int) = numeralOf right := by
    rw [← digitHash_toInt leftShort, ← digitHash_toInt rightShort, same]
  exact_mod_cast values

end OpenClHash.Kernel
