import TextGrammar.Proofs.Grammar.Integer

/-!
Whole numbers in decimal notation. The digits of a number that is not above the bound are read
as that number again: there are no more of them than the bound itself has.
-/

namespace TextGrammar

namespace CodePoint

theorem ascii_digit_is_decimal {c : Char} (digit : c.isDigit = true) : (ofChar c).isDecimalDigit = true := by
  have every : ∀ value : Fin 10, (CodePoint.mk (48 + value.val) (by omega)).isDecimalDigit = true := by
    decide
  simp only [Char.isDigit, Bool.and_eq_true, decide_eq_true_eq] at digit
  have low : 48 ≤ c.toNat := UInt32.le_iff_toNat_le.mp digit.1
  have high : c.toNat ≤ 57 := UInt32.le_iff_toNat_le.mp digit.2
  have same : ofChar c = CodePoint.mk (48 + (c.toNat - 48)) (by omega) := by
    simp only [ofChar, Nat.add_sub_cancel' low]
  rw [same]
  exact every ⟨c.toNat - 48, by omega⟩

theorem digit_value_of_digit_char {digit : Nat} (small : digit < 10) :
    (ofChar digit.digitChar).digitValue? = some digit := by
  have every : ∀ digit : Fin 10, (ofChar digit.val.digitChar).digitValue? = some digit.val := by
    decide
  exact every ⟨digit, small⟩

end CodePoint

namespace Numeral

/-- The decimal digits of a number. -/
def decimal (number : Nat) : Text := Text.ofString (toString number)

theorem decimal_eq (number : Nat) : decimal number = (Nat.toDigits 10 number).map CodePoint.ofChar := by
  simp [decimal, Text.ofString]

theorem decimal_nonempty (number : Nat) : decimal number ≠ [] := by
  simp [decimal_eq]

theorem decimal_digits {number : Nat} : ∀ point ∈ decimal number, point.isDecimalDigit = true := by
  intro point member
  rw [decimal_eq] at member
  obtain ⟨c, listed, rfl⟩ := List.mem_map.mp member
  exact CodePoint.ascii_digit_is_decimal (Nat.isDigit_of_mem_toDigits (by decide) (by decide) listed)

theorem decimal_length_le {number count : Nat} (positive : 0 < count) :
    (decimal number).length ≤ count ↔ number < Nat.pow 10 count := by
  rw [decimal_eq, List.length_map]
  exact Nat.length_toDigits_le_iff (by decide) positive

theorem positional_append_digit (digits : Text) {digit : Nat} (small : digit < 10) :
    positional (digits ++ [CodePoint.ofChar digit.digitChar]) = 10 * positional digits + digit := by
  simp [positional, ofDigits, CodePoint.digit_value_of_digit_char small]

theorem positional_decimal (number : Nat) : positional (decimal number) = number := by
  induction number using Nat.strongRecOn with
  | ind number induction =>
      rw [decimal_eq, Nat.toDigits_eq_if (by decide)]
      split
      · rename_i small
        rw [List.map_singleton, ← List.nil_append [CodePoint.ofChar _], positional_append_digit [] small]
        simp [positional, ofDigits]
      · rename_i large
        have shorter := induction (number / 10) (Nat.div_lt_self (by omega) (by decide))
        rw [decimal_eq] at shorter
        rw [List.map_append, List.map_singleton, positional_append_digit _ (Nat.mod_lt _ (by decide)), shorter]
        omega

end Numeral

/-- Digits are read as their number if they are not too many to be converted, no more than the bound
has, and not above the bound. -/
theorem Primitive.match_integer_reads (bound : Option Bound) {digits : Text} (nonempty : digits ≠ [])
    (decimal : ∀ point ∈ digits, point.isDecimalDigit = true) (converts : digits.length ≤ digitLimit)
    (fits : ∀ limit ∈ bound, digits.length ≤ (shownBound limit).length)
    (below : ∀ limit ∈ bound, limit.isExceededBy (Numeral.positional digits) = false) {rest : Text}
    (boundary : EndsDigits rest) :
    matchInteger bound (digits ++ rest) = .matched (.int (Numeral.positional digits)) rest := by
  have notLonger : (bound.map shownBound).filter (isLongerThan digits) = none := by
    rw [Option.filter_eq_none_iff]
    intro shown member
    obtain ⟨limit, given, rfl⟩ := Option.map_eq_some_iff.mp member
    have dropped := (digits.dropWhile_suffix fun point : CodePoint => point = '0').length_le
    have room := fits limit given
    simp only [isLongerThan, decide_eq_true_eq]
    omega
  have notAbove : (bound.filter fun limit => limit.isExceededBy (Numeral.positional digits)) = none := by
    rw [Option.filter_eq_none_iff]
    intro limit given
    simp [below limit given]
  simp only [matchInteger, leading_number_eq _ nonempty decimal boundary, notLonger,
    if_neg (Nat.not_lt.mpr converts), notAbove]

theorem WholeNumeral.bounded {digits : Text} (numeral : WholeNumeral (some .int64) digits) :
    0 ≤ Numeral.positional digits ∧ Numeral.positional digits ≤ int64Max := by
  refine ⟨Int.natCast_nonneg _, ?_⟩
  obtain ⟨value, accepted⟩ := numeral.accepted
  have nothing : EndsDigits [] := by simp [EndsDigits]
  have parts := Primitive.leading_number_eq (some (Primitive.shownBound .int64)) numeral.nonempty
    numeral.decimal nothing
  rw [List.append_nil] at parts
  simp only [Primitive.matchInteger, Option.map_some, parts] at accepted
  split at accepted
  · exact absurd accepted (by simp)
  · rename_i number rest read
    split at accepted
    · exact absurd accepted (by simp)
    · rename_i allowed
      split at read
      · exact absurd read (by simp)
      · split at read
        · exact absurd read (by simp)
        · obtain ⟨rfl, _⟩ := Prod.mk.inj (Except.ok.inj read)
          simpa [Bound.isExceededBy, Bound.numeric, Bound.int64] using allowed

theorem whole_numeral_decimal {number : Nat} (below : (number : Int) ≤ int64Max) :
    WholeNumeral (some .int64) (Numeral.decimal number) where
  nonempty := Numeral.decimal_nonempty number
  decimal := Numeral.decimal_digits
  accepted := by
    have shown : (Primitive.shownBound .int64).length = 19 := by decide +kernel
    have short : (Numeral.decimal number).length ≤ 19 := by
      have enough : int64Max < Nat.pow 10 19 := by decide
      apply (Numeral.decimal_length_le (by decide)).mpr
      omega
    have converts : (Numeral.decimal number).length ≤ digitLimit := Nat.le_trans short (by decide)
    have nothing : EndsDigits [] := by simp [EndsDigits]
    have read := Primitive.match_integer_reads (some .int64) (Numeral.decimal_nonempty number)
      Numeral.decimal_digits converts (by simpa [shown] using short)
      (by simpa [Numeral.positional_decimal, Bound.isExceededBy, Bound.numeric, Bound.int64] using below) nothing
    rw [List.append_nil] at read
    exact ⟨_, read⟩

end TextGrammar
