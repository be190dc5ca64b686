import Mathlib.Data.Nat.Digits.Lemmas

/-!
Owns numerals with a fixed leading digit: the value reached by folding
`value * base + digit` over a digit list from a nonzero start `lead`. The value
determines the digit list, its length included, because `lead` keeps leading
zeros apart; it lies in `[lead * base ^ n, (lead + 1) * base ^ n)` for `n` digits. Digits
well below the base leave it in a smaller part, and a modulus above that part keeps lists of
one length apart.
-/

namespace OpenClHash.Library.LeadingDigit

/-- The value of `lead` followed by `digits`, most significant digit first. -/
def numeral (base lead : Nat) (digits : List Nat) : Nat :=
  digits.foldl (fun value digit => value * base + digit) lead

@[simp] theorem numeral_nil (base lead : Nat) : numeral base lead [] = lead := rfl

@[simp] theorem numeral_append_singleton (base lead : Nat) (digits : List Nat) (digit : Nat) :
    numeral base lead (digits ++ [digit]) = numeral base lead digits * base + digit := by
  simp [numeral]

/-- Mathlib's little-endian numeral of the same digits, `lead` last. -/
theorem numeral_eq_ofDigits (base lead : Nat) (digits : List Nat) :
    numeral base lead digits = Nat.ofDigits base (digits.reverse ++ [lead]) := by
  induction digits using List.reverseRecOn with
  | nil => simp
  | append_singleton digits digit inductionHypothesis =>
      rw [numeral_append_singleton, inductionHypothesis, List.reverse_append,
        List.reverse_singleton, List.append_assoc, List.singleton_append, Nat.ofDigits_cons]
      ring

/-- The leading digit has the weight of the digits after it. -/
theorem numeral_lead (base lead : Nat) (digits : List Nat) :
    numeral base lead digits = lead * base ^ digits.length + numeral base 0 digits := by
  simp only [numeral_eq_ofDigits, Nat.ofDigits_append, List.length_reverse, Nat.ofDigits_singleton]
  ring

/-- Among numerals of one length the leading digit decides no congruence. -/
theorem numeral_modEq_iff {base modulus : Nat} (lead : Nat) {left right : List Nat}
    (length : left.length = right.length) :
    numeral base lead left ≡ numeral base lead right [MOD modulus] ↔
      numeral base 0 left ≡ numeral base 0 right [MOD modulus] := by
  rw [numeral_lead base lead left, numeral_lead base lead right, length]
  exact ⟨Nat.ModEq.add_left_cancel' _, Nat.ModEq.add_left _⟩

section Bounded

variable {base lead : Nat}

/-- The digits can be read back from the value. -/
theorem digits_numeral (radix : 1 < base) (leadPositive : 0 < lead) (leadBelow : lead < base)
    {digits : List Nat} (below : ∀ digit ∈ digits, digit < base) :
    Nat.digits base (numeral base lead digits) = digits.reverse ++ [lead] := by
  rw [numeral_eq_ofDigits]
  apply Nat.digits_ofDigits base radix
  · intro digit member
    rcases List.mem_append.mp member with member | member
    · exact below digit (List.mem_reverse.mp member)
    · rw [List.mem_singleton.mp member]
      exact leadBelow
  · intro nonempty
    rw [List.getLast_append_singleton]
    exact Nat.ne_of_gt leadPositive

/-- Digit lists of any two lengths with one value are equal. -/
theorem numeral_injective (radix : 1 < base) (leadPositive : 0 < lead) (leadBelow : lead < base)
    {left right : List Nat} (leftBelow : ∀ digit ∈ left, digit < base)
    (rightBelow : ∀ digit ∈ right, digit < base)
    (same : numeral base lead left = numeral base lead right) : left = right := by
  have digitsSame : left.reverse ++ [lead] = right.reverse ++ [lead] := by
    rw [← digits_numeral radix leadPositive leadBelow leftBelow,
      ← digits_numeral radix leadPositive leadBelow rightBelow, same]
  exact List.reverse_injective (List.append_cancel_right digitsSame)

/-- The same for lists of one length after any leading digit. -/
theorem numeral_injective_of_length (radix : 1 < base) {left right : List Nat}
    (leftBelow : ∀ digit ∈ left, digit < base) (rightBelow : ∀ digit ∈ right, digit < base)
    (length : left.length = right.length)
    (same : numeral base lead left = numeral base lead right) : left = right := by
  rw [numeral_lead base lead left, numeral_lead base lead right, length, Nat.add_right_inj] at same
  simp only [numeral_eq_ofDigits, Nat.ofDigits_append, Nat.ofDigits_singleton, Nat.mul_zero,
    Nat.add_zero] at same
  apply List.reverse_injective
  apply Nat.ofDigits_inj_of_len_eq radix (by simpa using length) _ _ same
  · exact fun digit member => leftBelow digit (List.mem_reverse.mp member)
  · exact fun digit member => rightBelow digit (List.mem_reverse.mp member)

theorem numeral_lt {digits : List Nat} (below : ∀ digit ∈ digits, digit < base) :
    numeral base lead digits < (lead + 1) * base ^ digits.length := by
  induction digits using List.reverseRecOn with
  | nil => simp
  | append_singleton digits digit inductionHypothesis =>
      have prefixBound := inductionHypothesis fun other member => below other (by simp [member])
      have digitBelow : digit < base := below digit (by simp)
      rw [numeral_append_singleton, List.length_append, List.length_singleton, pow_succ]
      calc numeral base lead digits * base + digit
          < numeral base lead digits * base + base := by omega
        _ = (numeral base lead digits + 1) * base := by ring
        _ ≤ (lead + 1) * base ^ digits.length * base := Nat.mul_le_mul_right _ prefixBound
        _ = (lead + 1) * (base ^ digits.length * base) := by ring

theorem le_numeral (digits : List Nat) :
    lead * base ^ digits.length ≤ numeral base lead digits := by
  induction digits using List.reverseRecOn with
  | nil => simp
  | append_singleton digits digit inductionHypothesis =>
      rw [numeral_append_singleton, List.length_append, List.length_singleton, pow_succ,
        ← Nat.mul_assoc]
      exact (Nat.mul_le_mul_right _ inductionHypothesis).trans (Nat.le_add_right _ _)

/-- With digits up to `top` a numeral is at most `lead` followed by digits `top`. -/
theorem numeral_spread {top : Nat} {digits : List Nat} (small : ∀ digit ∈ digits, digit ≤ top) :
    numeral (base + 1) lead digits * base + top ≤
      (lead * base + top) * (base + 1) ^ digits.length := by
  induction digits using List.reverseRecOn with
  | nil => simp
  | append_singleton digits digit inductionHypothesis =>
      have prefixBound := inductionHypothesis fun other member => small other (by simp [member])
      have digitSmall : digit ≤ top := small digit (by simp)
      rw [numeral_append_singleton, List.length_append, List.length_singleton, pow_succ]
      calc (numeral (base + 1) lead digits * (base + 1) + digit) * base + top
          ≤ (numeral (base + 1) lead digits * (base + 1) + top) * base + top := by gcongr
        _ = (numeral (base + 1) lead digits * base + top) * (base + 1) := by ring
        _ ≤ (lead * base + top) * (base + 1) ^ digits.length * (base + 1) :=
            Nat.mul_le_mul_right _ prefixBound
        _ = (lead * base + top) * ((base + 1) ^ digits.length * (base + 1)) := by ring

/-- Modulo more than the spread of the numerals of one length, each stays the only one. -/
theorem numeral_modEq_injective {top modulus : Nat} {left right : List Nat}
    (leftSmall : ∀ digit ∈ left, digit ≤ top) (rightSmall : ∀ digit ∈ right, digit ≤ top)
    (length : left.length = right.length)
    (wide : top * (base + 1) ^ left.length < modulus * base + top)
    (same : numeral (base + 1) lead left ≡ numeral (base + 1) lead right [MOD modulus]) :
    numeral (base + 1) lead left = numeral (base + 1) lead right := by
  wlog ordered : numeral (base + 1) lead left ≤ numeral (base + 1) lead right
  · have swapped : top * (base + 1) ^ right.length < modulus * base + top := length ▸ wide
    exact (this rightSmall leftSmall length.symm swapped same.symm (Nat.le_of_not_le ordered)).symm
  have least := Nat.mul_le_mul_right base (@le_numeral (base + 1) lead left)
  have most := @numeral_spread base lead top right rightSmall
  have near : numeral (base + 1) lead right * base <
      (numeral (base + 1) lead left + modulus) * base := by
    rw [← length, Nat.add_mul] at most
    rw [Nat.add_mul]
    have regrouped : lead * (base + 1) ^ left.length * base =
        lead * base * (base + 1) ^ left.length := Nat.mul_right_comm _ _ _
    omega
  have gap : numeral (base + 1) lead right - numeral (base + 1) lead left < modulus :=
    Nat.sub_lt_left_of_lt_add ordered (Nat.lt_of_mul_lt_mul_right near)
  have divides := (Nat.modEq_iff_dvd' ordered).mp same
  have none := Nat.eq_zero_of_dvd_of_lt divides gap
  omega

end Bounded

end OpenClHash.Library.LeadingDigit
