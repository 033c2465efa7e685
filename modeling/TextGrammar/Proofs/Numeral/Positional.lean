import Mathlib.Data.List.TakeWhile
import Mathlib.Data.Nat.Digits.Lemmas
import TextGrammar.Proofs.Grammar.Decimal

/-!
How large the number of a run of digits is. A run has fewer than ten to the power of its length
numbers, and a run that does not begin with a zero has at least the number of a one in its first
place. Zeros in front change nothing, of whichever script they are, while only those of ASCII are
left out when the length of a run is compared with that of a bound.
-/

namespace TextGrammar

namespace Numeral

theorem of_digits_eq (digits : List Nat) : ofDigits digits = Nat.ofDigits 10 digits.reverse := by
  induction digits using List.reverseRecOn with
  | nil => rfl
  | append_singleton digits digit induction =>
      have unfolded : ofDigits (digits ++ [digit]) = 10 * ofDigits digits + digit := by
        simp [ofDigits]
      rw [unfolded, List.reverse_append, List.reverse_singleton, List.singleton_append,
        Nat.ofDigits_cons, induction, Nat.add_comm]

/-- The last digit is the lowest of the places to the base ten. -/
theorem positional_eq (digits : Text) :
    positional digits = (Nat.ofDigits 10 (digits.filterMap CodePoint.digitValue?).reverse : Nat) :=
  congrArg Nat.cast (of_digits_eq _)

/-- What stands behind the leading ASCII zeros. -/
def significant (digits : Text) : Text := digits.dropWhile fun point : CodePoint => point = '0'

/-- The leading digits that count as zero are all ASCII zeros. -/
def PlainZeros (digits : Text) : Prop :=
  ∀ point ∈ digits.takeWhile (fun point => point.digitValue? = some 0), point = '0'

instance (digits : Text) : Decidable (PlainZeros digits) :=
  inferInstanceAs (Decidable (∀ point ∈ digits.takeWhile (fun point => point.digitValue? = some 0), point = '0'))

variable {digits zeros : Text}

theorem positional_nonneg (digits : Text) : 0 ≤ positional digits := Int.natCast_nonneg _

theorem digit_values_length (decimal : ∀ point ∈ digits, point.isDecimalDigit = true) :
    (digits.filterMap CodePoint.digitValue?).length = digits.length :=
  List.filterMap_length_eq_length.mpr decimal

theorem positional_lt (decimal : ∀ point ∈ digits, point.isDecimalDigit = true) :
    positional digits < 10 ^ digits.length := by
  have small : ∀ digit ∈ (digits.filterMap CodePoint.digitValue?).reverse, digit < 10 := by
    intro digit member
    obtain ⟨point, _, value⟩ := List.mem_filterMap.mp (List.mem_reverse.mp member)
    exact CodePoint.digit_value_lt_ten value
  have bounded := Nat.ofDigits_lt_base_pow_length (by decide) small
  rw [List.length_reverse, digit_values_length decimal] at bounded
  rw [positional_eq]
  exact_mod_cast bounded

theorem pow_le_positional {first : CodePoint} {others : Text}
    (decimal : ∀ point ∈ first :: others, point.isDecimalDigit = true)
    (leading : first.digitValue? ≠ some 0) : 10 ^ others.length ≤ positional (first :: others) := by
  obtain ⟨firstDecimal, othersDecimal⟩ := List.forall_mem_cons.mp decimal
  obtain ⟨digit, value⟩ := Option.isSome_iff_exists.mp firstDecimal
  have nonzero : digit ≠ 0 := fun zero => leading (zero ▸ value)
  have values : (first :: others).filterMap CodePoint.digitValue? =
      digit :: others.filterMap CodePoint.digitValue? := List.filterMap_cons_some value
  have bounded : 10 ^ (others.length + 1) ≤
      10 * Nat.ofDigits 10 (digit :: others.filterMap CodePoint.digitValue?).reverse := by
    have counted := @Nat.pow_length_le_mul_ofDigits 8
      (digit :: others.filterMap CodePoint.digitValue?).reverse (by simp) (by simpa using nonzero)
    rwa [List.length_reverse, List.length_cons, digit_values_length othersDecimal] at counted
  have reached : 10 ^ others.length ≤
      Nat.ofDigits 10 ((first :: others).filterMap CodePoint.digitValue?).reverse := by
    rw [Nat.pow_succ, ← values] at bounded
    omega
  rw [positional_eq]
  exact_mod_cast reached

/-- Zeros in front leave the number as it is. -/
theorem positional_zeros_append (zero : ∀ point ∈ zeros, point.digitValue? = some 0) (digits : Text) :
    positional (zeros ++ digits) = positional digits := by
  induction zeros with
  | nil => rfl
  | cons point zeros induction =>
      obtain ⟨here, later⟩ := List.forall_mem_cons.mp zero
      have dropped : positional (point :: (zeros ++ digits)) = positional (zeros ++ digits) := by
        simp [positional, ofDigits, List.filterMap_cons_some here]
      rw [List.cons_append, dropped, induction later]

theorem plain_zero_value : ((('0' : Char) : CodePoint)).digitValue? = some 0 := by decide

theorem significant_append (plain : ∀ point ∈ zeros, point = '0') (digits : Text) :
    significant (zeros ++ digits) = significant digits :=
  List.dropWhile_append_of_pos fun point member => decide_eq_true (plain point member)

theorem positional_significant (digits : Text) : positional (significant digits) = positional digits := by
  have zero : ∀ point ∈ digits.takeWhile (fun point : CodePoint => point = '0'),
      point.digitValue? = some 0 := by
    intro point member
    have passed := List.mem_takeWhile_imp member
    rw [of_decide_eq_true passed, plain_zero_value]
  have split := positional_zeros_append zero (significant digits)
  rwa [significant, List.takeWhile_append_dropWhile, eq_comm] at split

theorem significant_suffix (digits : Text) : significant digits <:+ digits := List.dropWhile_suffix _

/-- If no zero of another script stands in front, then the first digit that is left is no zero. -/
theorem significant_leads (plain : PlainZeros digits) {first : CodePoint} {others : Text}
    (parts : significant digits = first :: others) : first.digitValue? ≠ some 0 := by
  induction digits with
  | nil => exact absurd parts (by simp [significant])
  | cons point digits induction =>
      by_cases zero : point = '0'
      · subst zero
        apply induction
        · intro other member
          apply plain other
          rw [List.takeWhile_cons_of_pos (by simp [plain_zero_value])]
          exact List.mem_cons_of_mem _ member
        · simpa [significant] using parts
      · rw [significant, List.dropWhile_cons_of_neg (by simpa using zero)] at parts
        obtain ⟨rfl, rfl⟩ := List.cons.inj parts
        intro value
        apply zero
        apply plain point
        rw [List.takeWhile_cons_of_pos (by simp [value])]
        exact List.mem_cons_self

theorem positional_nat_abs_lt (decimal : ∀ point ∈ digits, point.isDecimalDigit = true) {count : Nat}
    (short : digits.length ≤ count) : (positional digits).natAbs < Nat.pow 10 count := by
  have below := positional_lt decimal
  have above := positional_nonneg digits
  have natural : (positional digits).natAbs < 10 ^ digits.length := by
    apply Int.ofNat_lt.mp
    rw [Int.natAbs_of_nonneg above]
    exact_mod_cast below
  exact Nat.lt_of_lt_of_le natural (Nat.pow_le_pow_right (by decide) short)

/-- A run of digits short enough to be converted has a number that can be written. -/
theorem positional_writable (decimal : ∀ point ∈ digits, point.isDecimalDigit = true)
    (short : digits.length ≤ digitLimit) : isWritable (positional digits) = true :=
  decide_eq_true (positional_nat_abs_lt decimal short)

/-- A number that is not above a bound has no more digits than the bound has characters. -/
theorem significant_fits (decimal : ∀ point ∈ digits, point.isDecimalDigit = true)
    (plain : PlainZeros digits) {most : Int} (below : positional digits ≤ most) :
    (significant digits).length ≤ (Primitive.shownBound (.int most)).length := by
  cases parts : significant digits with
  | nil => exact Nat.zero_le _
  | cons first others =>
      have remain : ∀ point ∈ first :: others, point.isDecimalDigit = true := by
        intro point member
        exact decimal point ((significant_suffix digits).mem (parts ▸ member))
      have large := pow_le_positional remain (significant_leads plain parts)
      rw [← parts, positional_significant] at large
      obtain ⟨number, rfl⟩ := Int.eq_ofNat_of_zero_le (Int.le_trans (positional_nonneg digits) below)
      have shown : Primitive.shownBound (.int number) = Numeral.decimal number := rfl
      have reached : 10 ^ others.length ≤ number := by
        exact_mod_cast Int.le_trans large below
      rw [List.length_cons, shown]
      by_contra longer
      have fits : (Numeral.decimal number).length ≤ others.length := by omega
      have some : 0 < others.length :=
        Nat.lt_of_lt_of_le (List.length_pos_iff.mpr (decimal_nonempty number)) fits
      have less : number < 10 ^ others.length := (decimal_length_le some).mp fits
      omega

end Numeral

end TextGrammar
