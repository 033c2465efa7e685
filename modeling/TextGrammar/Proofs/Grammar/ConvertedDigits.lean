import TextGrammar.Proofs.Grammar.BoundedInteger

/-!
Digits that are converted to the number that they denote. A run of digits of any script is a numeral, so
only its length can keep it from being converted, and leading zeros count for the length. Nothing looks at
the length before the conversion does, so a run that is too long is a fault and no failure.
-/

namespace TextGrammar

open Numeral Attempt

variable {numeral rest : Text}

theorem Value.to_int_of_digits (nonempty : numeral ≠ [])
    (decimal : ∀ point ∈ numeral, point.isDecimalDigit = true) :
    Value.toInt (.text numeral) =
      if numeral.length ≤ digitLimit then .ok (positional numeral)
      else .error (.numeralTooLong numeral.length) := by
  simp only [Value.toInt, read_whole_of_digits nonempty decimal]
  by_cases short : numeral.length ≤ digitLimit
  · rw [if_pos short, if_neg (Nat.not_lt.mpr short)]
    rfl
  · rw [if_neg short, if_pos (Nat.lt_of_not_le short)]
    rfl

namespace Grammar

variable (meaning : Reference → Attempts)

theorem converted_digits_fail {source : Text} {failure : Failure}
    (failed : digits.attempt meaning .text source = pure (.failed failure)) :
    digits.mapToInt.attempt meaning .text source = pure (.failed failure) :=
  Traced.bind_of_pure failed _

theorem digits_convert (run : DigitRun numeral rest) :
    digits.mapToInt.attempt meaning .text (numeral ++ rest) =
      if numeral.length ≤ digitLimit then pure (.matched (.int (positional numeral)) rest)
      else Traced.fault (.numeralTooLong numeral.length) := by
  have read : digits.mapToInt.attempt meaning .text (numeral ++ rest) =
      Traced.ofExcept (Transformer.toInt.apply (.text numeral)) >>= fun number =>
        pure (.matched number rest) := Traced.bind_of_pure (digits_yield meaning run) _
  rw [read]
  simp only [Transformer.toInt, Value.to_int_of_digits run.nonempty run.decimal]
  by_cases short : numeral.length ≤ digitLimit
  · simp only [if_pos short]
    rfl
  · simp only [if_neg short]
    rfl

/-- Digits fail to be converted where there are none, with the failure of digits. Where there are some,
the whole run is converted to its number, up to the limit of conversions. A longer run is a fault. -/
theorem digits_convert_up_to_limit (scope : Scope) (budget : Nat) (source : Text) :
    (∀ failure, digits.runWithin budget scope source = pure (.failed failure) →
      digits.mapToInt.runWithin budget scope source = pure (.failed failure)) ∧
    ((∃ failure, digits.runWithin budget scope source = pure (.failed failure)) ∨
      ∃ numeral rest, source = numeral ++ rest ∧ DigitRun numeral rest) ∧
    ∀ numeral rest, source = numeral ++ rest → DigitRun numeral rest →
      (digits.runWithin budget scope).Yields source (.text numeral) rest ∧
        digits.mapToInt.runWithin budget scope source =
          if numeral.length ≤ digitLimit then pure (.matched (.int (positional numeral)) rest)
          else Traced.fault (.numeralTooLong numeral.length) := by
  refine ⟨fun failure failed => converted_digits_fail _ failed, ?_, ?_⟩
  · rcases source_begins_with_digits source with boundary | begins
    · obtain ⟨failure, failed, _⟩ := integer_fails_like_digits (scope.meaning budget) none boundary
      exact Or.inl ⟨failure, failed⟩
    · exact Or.inr begins
  · rintro numeral rest rfl run
    exact ⟨digits_yield _ run, digits_convert _ run⟩

/-- An Arabic-Indic three and an ASCII seven. -/
def mixedDigits : Text := [⟨0x663, by decide⟩, '7']

/-- Digits of two scripts are one run. -/
theorem mixed_digits_convert :
    DigitRun mixedDigits (Text.ofString "x") ∧
      digits.mapToInt.runWithin 0 Scope.provided (mixedDigits ++ Text.ofString "x") =
        pure (.matched (.int 37) (Text.ofString "x")) := by
  have run : DigitRun mixedDigits (Text.ofString "x") := ⟨by decide, by decide, by decide⟩
  have converts := digits_convert_up_to_limit Scope.provided 0 (mixedDigits ++ Text.ofString "x")
  have converted := (converts.2.2 mixedDigits (Text.ofString "x") rfl run).2
  rw [if_pos (by decide)] at converted
  exact ⟨run, converted⟩

/-- As many zeros as can be converted, and a five behind them. -/
def paddedFive : Text := List.replicate digitLimit (CodePoint.ofChar '0') ++ Text.ofString "5"

theorem padded_five_run : DigitRun paddedFive [] where
  nonempty := by simp [paddedFive, Text.ofString]
  decimal := by
    intro point member
    rcases List.mem_append.mp member with padding | last
    · rw [List.eq_of_mem_replicate padding]
      decide
    · obtain rfl := List.mem_singleton.mp last
      decide
  boundary := by decide

theorem padded_five_is_five : positional paddedFive = 5 := by
  have zero : ∀ point ∈ List.replicate digitLimit (CodePoint.ofChar '0'), point.digitValue? = some 0 := by
    intro point member
    rw [List.eq_of_mem_replicate member]
    decide
  rw [paddedFive, positional_zeros_append zero]
  rfl

/-- Digits that are read do not always convert: this run denotes five, and its conversion is a fault. -/
theorem padded_five_is_not_converted :
    (digits.runWithin 0 Scope.provided).Yields paddedFive (.text paddedFive) [] ∧
      positional paddedFive = 5 ∧
      ¬ ∃ outcome, (digits.mapToInt.runWithin 0 Scope.provided paddedFive).result = .ok outcome := by
  have long : ¬ paddedFive.length ≤ digitLimit := by simp [paddedFive, Text.ofString]
  have whole : paddedFive ++ [] = paddedFive := List.append_nil _
  have read := digits_yield (Scope.provided.meaning 0) padded_five_run
  have converted := digits_convert (Scope.provided.meaning 0) padded_five_run
  rw [if_neg long] at converted
  rw [whole] at read converted
  refine ⟨read, padded_five_is_five, ?_⟩
  rintro ⟨outcome, answered⟩
  have halted : (Traced.fault (.numeralTooLong paddedFive.length)).result = .ok outcome :=
    (congrArg Traced.result converted).symm.trans answered
  cases halted

end Grammar

end TextGrammar
