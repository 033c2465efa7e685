import TextGrammar.Proofs.Numeral.Positional
import TextGrammar.Scope

/-!
Whole numbers under a limit, or under none. A run of digits is refused before it is converted if
more of it stands behind its ASCII zeros than the limit has characters. That agrees with the
comparison of the numbers unless a zero of another script stands in front. A run that is too long
to be converted is refused as well, whatever its number is.
-/

namespace TextGrammar

open Numeral Attempt

/-- A run of decimal digits up to its end, and what follows it. -/
structure DigitRun (numeral rest : Text) : Prop where
  nonempty : numeral ≠ []
  decimal : ∀ point ∈ numeral, point.isDecimalDigit = true
  boundary : EndsDigits rest

/-- A run of digits that can be converted, whose number is not above the limit and that is no longer
behind its ASCII zeros than the limit is shown. -/
structure FitsLimit (limit : Option Int) (numeral : Text) : Prop where
  convertible : numeral.length ≤ digitLimit
  below : ∀ most ∈ limit, positional numeral ≤ most
  short : ∀ most ∈ limit, (significant numeral).length ≤ (Primitive.shownBound (.int most)).length

variable {limit : Option Int} {numeral rest zeros : Text}

/-- For digits without zeros of other scripts in front the number decides. -/
theorem fits_limit_of_plain (decimal : ∀ point ∈ numeral, point.isDecimalDigit = true)
    (plain : PlainZeros numeral) (convertible : numeral.length ≤ digitLimit)
    (below : ∀ most ∈ limit, positional numeral ≤ most) : FitsLimit limit numeral where
  convertible := convertible
  below := below
  short most member := significant_fits decimal plain (below most member)

theorem DigitRun.padded (run : DigitRun numeral rest) (zero : ∀ point ∈ zeros, point.digitValue? = some 0) :
    DigitRun (zeros ++ numeral) rest where
  nonempty := by simp [run.nonempty]
  decimal := by
    intro point member
    rcases List.mem_append.mp member with padding | own
    · simp [CodePoint.isDecimalDigit, zero point padding]
    · exact run.decimal point own
  boundary := run.boundary

namespace Primitive

theorem none_longer_iff (limit : Option Int) (numeral : Text) :
    ((limit.map Bound.int).map shownBound).filter (isLongerThan numeral) = none ↔
      ∀ most ∈ limit, (significant numeral).length ≤ (shownBound (.int most)).length := by
  cases limit with
  | none => simp
  | some most => simp [isLongerThan, significant]

theorem none_exceeded_iff (limit : Option Int) (number : Int) :
    ((limit.map Bound.int).filter fun bound => bound.isExceededBy number) = none ↔
      ∀ most ∈ limit, number ≤ most := by
  cases limit with
  | none => simp
  | some most => simp [Bound.isExceededBy, Bound.numeric]

/-- What a whole number does with a run of digits. -/
theorem match_integer_cases (limit : Option Int) (run : DigitRun numeral rest) :
    FitsLimit limit numeral ∧
        matchInteger (limit.map .int) (numeral ++ rest) = .matched (.int (positional numeral)) rest ∨
      ¬ FitsLimit limit numeral ∧
        ∃ words, matchInteger (limit.map .int) (numeral ++ rest) = .failed (.saying words .mismatch) := by
  have read := leading_number_eq ((limit.map Bound.int).map shownBound) run.nonempty run.decimal run.boundary
  cases overlong : ((limit.map Bound.int).map shownBound).filter (isLongerThan numeral) with
  | some shown =>
      obtain ⟨words, worded⟩ := above_bound_says (digitCount numeral) shown
      refine Or.inr ⟨fun fits => ?_, words, ?_⟩
      · rw [(none_longer_iff limit numeral).mpr fits.short] at overlong
        exact absurd overlong (by simp)
      · simp only [matchInteger, read, overlong, worded]
  | none =>
      by_cases long : numeral.length > digitLimit
      · obtain ⟨words, worded⟩ := not_converted_says numeral
        refine Or.inr ⟨fun fits => Nat.not_lt.mpr fits.convertible long, words, ?_⟩
        simp only [matchInteger, read, overlong, if_pos long, worded]
      · cases exceeded : (limit.map Bound.int).filter fun bound => bound.isExceededBy (positional numeral) with
        | some bound =>
            obtain ⟨words, worded⟩ := above_bound_says (toString (positional numeral)) (shownBound bound)
            refine Or.inr ⟨fun fits => ?_, words, ?_⟩
            · rw [(none_exceeded_iff limit _).mpr fits.below] at exceeded
              exact absurd exceeded (by simp)
            · simp only [matchInteger, read, overlong, if_neg long, exceeded, worded]
        | none =>
            refine Or.inl ⟨⟨Nat.not_lt.mp long, (none_exceeded_iff limit _).mp exceeded,
              (none_longer_iff limit numeral).mp overlong⟩, ?_⟩
            simp only [matchInteger, read, overlong, if_neg long, exceeded]

end Primitive

namespace Grammar

/-- Whole numbers up to the limit, or of any size. -/
def integerUpTo (limit : Option Int) : Grammar := integer (limit.map .int)

/-- The limit as it is given. -/
def limitValue : Option Int → Value
  | some most => .int most
  | none => .null

theorem integer_is_built (writable : ∀ most ∈ limit, isWritable most = true) :
    integer? (limitValue limit) = .ok (integerUpTo limit) := by
  cases limit with
  | none => rfl
  | some most =>
      have printed : (Value.int most).print? = .ok (Value.int most).print := by
        simp only [Value.print?, Value.written?, Value.isWritable, writable most rfl, if_true]
        rfl
      simp only [limitValue, integer?, printed]
      rfl

section

variable (meaning : Reference → Attempts)

theorem digits_yield (run : DigitRun numeral rest) :
    (digits.attempt meaning .text).Yields (numeral ++ rest) (.text numeral) rest := by
  change ((span Primitive.digitClass).attempt meaning .text).Yields _ _ _
  exact span_yields run.nonempty run.decimal run.boundary

/-- Without a digit in front a whole number fails as digits do. -/
theorem integer_fails_like_digits (limit : Option Int) {source : Text} (boundary : EndsDigits source) :
    ∃ failure, digits.attempt meaning .text source = pure (.failed failure) ∧
      (integerUpTo limit).attempt meaning .text source = pure (.failed failure) := by
  have nothing : source.takeWhile Primitive.digitClass.contains = [] :=
    (span_parts [] source (by simp) boundary).1
  refine ⟨Primitive.noSpan Primitive.digitClass.description source, ?_, ?_⟩
  · change pure (Primitive.matchSpan Primitive.digitClass source) = _
    simp only [Primitive.matchSpan, nothing, List.isEmpty_nil, if_true]
  · change pure (Primitive.matchInteger (limit.map .int) source) = _
    simp only [Primitive.matchInteger, Primitive.leadingNumber, nothing, List.isEmpty_nil, if_true]

theorem integer_yields_fitting (run : DigitRun numeral rest) (fits : FitsLimit limit numeral) :
    ((integerUpTo limit).attempt meaning .text).Yields (numeral ++ rest) (.int (positional numeral)) rest := by
  rcases Primitive.match_integer_cases limit run with ⟨_, matched⟩ | ⟨differs, _⟩
  · exact congrArg pure matched
  · exact absurd fits differs

theorem integer_refuses_unfitting (run : DigitRun numeral rest) (differs : ¬ FitsLimit limit numeral) :
    ((integerUpTo limit).attempt meaning .text).Refuses (numeral ++ rest) .mismatch := by
  rcases Primitive.match_integer_cases limit run with ⟨fits, _⟩ | ⟨_, words, refused⟩
  · exact absurd fits differs
  · exact ⟨words, congrArg pure refused⟩

end

theorem source_begins_with_digits (source : Text) :
    EndsDigits source ∨ ∃ numeral rest, source = numeral ++ rest ∧ DigitRun numeral rest := by
  obtain ⟨numeral, rest, rfl, decimal, boundary⟩ := exists_span CodePoint.isDecimalDigit source
  by_cases nothing : numeral = []
  · subst nothing
    exact Or.inl boundary
  · exact Or.inr ⟨numeral, rest, rfl, nothing, decimal, boundary⟩

/-- How an attempt at a run of digits goes by the number of the run. -/
structure DecidesByValue (limit : Option Int) (numeral rest : Text) (attempt : Attempt Text) : Prop where
  answers : attempt.Yields (numeral ++ rest) (.int (positional numeral)) rest ∧
      (∀ most ∈ limit, positional numeral ≤ most) ∨
    attempt.Refuses (numeral ++ rest) .mismatch
  exact : numeral.length ≤ digitLimit → PlainZeros numeral →
    (attempt.Yields (numeral ++ rest) (.int (positional numeral)) rest ↔
      ∀ most ∈ limit, positional numeral ≤ most)
  overlong : digitLimit < numeral.length → attempt.Refuses (numeral ++ rest) .mismatch
  writable : numeral.length ≤ digitLimit → isWritable (positional numeral) = true

theorem decides_by_value (meaning : Reference → Attempts) (run : DigitRun numeral rest) :
    DecidesByValue limit numeral rest ((integerUpTo limit).attempt meaning .text) := by
  by_cases fits : FitsLimit limit numeral
  · have yields := integer_yields_fitting meaning run fits
    exact {
      answers := Or.inl ⟨yields, fits.below⟩
      exact := fun _ _ => iff_of_true yields fits.below
      overlong := fun long => absurd fits.convertible (Nat.not_le.mpr long)
      writable := positional_writable run.decimal }
  · have refuses := integer_refuses_unfitting meaning run fits
    exact {
      answers := Or.inr refuses
      exact := fun convertible plain => iff_of_false (fun yields => yields.not_refuses refuses)
        fun below => fits (fits_limit_of_plain run.decimal plain convertible below)
      overlong := fun _ => refuses
      writable := positional_writable run.decimal }

/-- A whole number under a limit that can be written fails as digits do where there are none, and goes
by the number of the digits where there are some. Nothing is logged and nothing faults. -/
theorem integer_reads_digit_run (limit : Option Int) (writable : ∀ most ∈ limit, isWritable most = true)
    (scope : Scope) (budget : Nat) (source : Text) :
    integer? (limitValue limit) = .ok (integerUpTo limit) ∧
    (∀ failure, digits.runWithin budget scope source = pure (.failed failure) →
      (integerUpTo limit).runWithin budget scope source = pure (.failed failure)) ∧
    ((∃ failure, digits.runWithin budget scope source = pure (.failed failure)) ∨
      ∃ numeral rest, source = numeral ++ rest ∧ DigitRun numeral rest) ∧
    ∀ numeral rest, source = numeral ++ rest → DigitRun numeral rest →
      (digits.runWithin budget scope).Yields source (.text numeral) rest ∧
        DecidesByValue limit numeral rest ((integerUpTo limit).runWithin budget scope) := by
  refine ⟨integer_is_built writable, ?_, ?_, ?_⟩
  · intro failure failed
    rcases source_begins_with_digits source with boundary | ⟨numeral, rest, rfl, run⟩
    · obtain ⟨same, digitsFail, integerFails⟩ :=
        integer_fails_like_digits (scope.meaning budget) limit boundary
      obtain rfl := Outcome.failed.inj (Traced.pure_injective (digitsFail.symm.trans failed))
      exact integerFails
    · exact absurd (Traced.pure_injective ((digits_yield _ run).symm.trans failed)) (by simp)
  · rcases source_begins_with_digits source with boundary | begins
    · obtain ⟨failure, failed, _⟩ := integer_fails_like_digits (scope.meaning budget) limit boundary
      exact Or.inl ⟨failure, failed⟩
    · exact Or.inr begins
  · rintro numeral rest rfl run
    exact ⟨digits_yield _ run, decides_by_value _ run⟩

/-- One more digit would be too many for the limit, but zeros in front are no such digits. -/
theorem ninety_nine_is_read :
    (∀ most ∈ some (99 : Int), isWritable most = true) ∧
      ((integerUpTo (some 99)).runWithin 0 Scope.provided).Yields (Text.ofString "0099x") (.int 99)
        (Text.ofString "x") := by
  have writable : ∀ most ∈ some (99 : Int), isWritable most = true := by
    rintro most ⟨rfl⟩
    decide +kernel
  have run : DigitRun (Text.ofString "0099") (Text.ofString "x") := ⟨by decide, by decide, by decide⟩
  have reads := integer_reads_digit_run (some 99) writable Scope.provided 0 (Text.ofString "0099x")
  have decides := (reads.2.2.2 _ _ rfl run).2
  have plain : PlainZeros (Text.ofString "0099") := by decide
  have below : ∀ most ∈ some (99 : Int), positional (Text.ofString "0099") ≤ most := by decide
  exact ⟨writable, (decides.exact (by decide) plain).mpr below⟩

/-- Zeros in front of a run of digits that is read keep it from being read in two cases: the run
becomes too long to be converted, or a zero that is not of ASCII makes it longer than the limit is
shown. -/
theorem padded_run_is_read_iff (most : Int) (scope : Scope) (budget : Nat) {zeros numeral rest : Text}
    {value : Value} (zero : ∀ point ∈ zeros, point.digitValue? = some 0) (run : DigitRun numeral rest)
    (read : ((integerUpTo (some most)).runWithin budget scope).Yields (numeral ++ rest) value rest) :
    (((integerUpTo (some most)).runWithin budget scope).Yields (zeros ++ (numeral ++ rest)) value rest ↔
      (zeros ++ numeral).length ≤ digitLimit ∧
        (significant (zeros ++ numeral)).length ≤ (Primitive.shownBound (.int most)).length) ∧
    ((∀ point ∈ zeros, point = '0') →
      (significant (zeros ++ numeral)).length ≤ (Primitive.shownBound (.int most)).length) ∧
    (((integerUpTo (some most)).runWithin budget scope).Yields (zeros ++ (numeral ++ rest)) value rest ∨
      ((integerUpTo (some most)).runWithin budget scope).Refuses (zeros ++ (numeral ++ rest)) .mismatch) := by
  have padded := run.padded zero
  by_cases fits : FitsLimit (some most) numeral
  · obtain ⟨rfl, _⟩ := (integer_yields_fitting (scope.meaning budget) run fits).unique read
    rw [← List.append_assoc, ← positional_zeros_append zero numeral]
    have below : ∀ limit ∈ some most, positional (zeros ++ numeral) ≤ limit := by
      rw [positional_zeros_append zero]
      exact fits.below
    have plainIsShort : (∀ point ∈ zeros, point = '0') →
        (significant (zeros ++ numeral)).length ≤ (Primitive.shownBound (.int most)).length := by
      intro plain
      rw [significant_append plain]
      exact fits.short most rfl
    by_cases fitsToo : FitsLimit (some most) (zeros ++ numeral)
    · have yields := integer_yields_fitting (scope.meaning budget) padded fitsToo
      have short := fitsToo.short most rfl
      exact ⟨iff_of_true yields ⟨fitsToo.convertible, short⟩, plainIsShort, Or.inl yields⟩
    · have refuses := integer_refuses_unfitting (scope.meaning budget) padded fitsToo
      refine ⟨iff_of_false (fun yields => yields.not_refuses refuses) ?_, plainIsShort, Or.inr refuses⟩
      rintro ⟨convertible, short⟩
      exact fitsToo ⟨convertible, below, by simpa using short⟩
  · exact absurd (integer_refuses_unfitting (scope.meaning budget) run fits) read.not_refuses

theorem padded_five_is_read :
    (∀ point ∈ Text.ofString "00", point.digitValue? = some 0) ∧
      DigitRun (Text.ofString "5") (Text.ofString "x") ∧
      ((integerUpTo (some 9)).runWithin 0 Scope.provided).Yields (Text.ofString "5x") (.int 5)
        (Text.ofString "x") ∧
      ((integerUpTo (some 9)).runWithin 0 Scope.provided).Yields (Text.ofString "005x") (.int 5)
        (Text.ofString "x") := by
  have zero : ∀ point ∈ Text.ofString "00", point.digitValue? = some 0 := by decide
  have run : DigitRun (Text.ofString "5") (Text.ofString "x") := ⟨by decide, by decide, by decide⟩
  have read : ((integerUpTo (some 9)).runWithin 0 Scope.provided).Yields (Text.ofString "5x") (.int 5)
      (Text.ofString "x") := rfl
  have padded := padded_run_is_read_iff 9 Scope.provided 0 zero run read
  exact ⟨zero, run, read, padded.1.mpr ⟨by decide, by decide⟩⟩

/-- The Arabic-Indic zero. -/
def foreignZero : CodePoint := ⟨0x660, by decide⟩

/-- Leading zeros can matter: five is not above nine, but with a foreign zero in front it is refused. -/
theorem foreign_zero_matters :
    ¬ ∀ (most : Int) (zeros numeral rest : Text) (value : Value), 0 ≤ most →
      (∀ point ∈ zeros, point.digitValue? = some 0) → DigitRun numeral rest →
        (integerUpTo (some most)).runWithin 0 Scope.provided (numeral ++ rest) = pure (.matched value rest) →
          (integerUpTo (some most)).runWithin 0 Scope.provided (zeros ++ (numeral ++ rest)) =
            pure (.matched value rest) := by
  intro law
  have zero : ∀ point ∈ [foreignZero], point.digitValue? = some 0 := by decide
  have run : DigitRun (Text.ofString "5") [] := ⟨by decide, by decide, by decide⟩
  have read : (integerUpTo (some 9)).runWithin 0 Scope.provided (Text.ofString "5" ++ []) =
      pure (.matched (.int 5) []) := rfl
  have tooLong : ¬ FitsLimit (some 9) ([foreignZero] ++ Text.ofString "5") :=
    fun fits => absurd (fits.short 9 rfl) (by decide)
  have refuses := integer_refuses_unfitting (Scope.provided.meaning 0) (run.padded zero) tooLong
  have padded := law 9 [foreignZero] (Text.ofString "5") [] (.int 5) (by decide) zero run read
  exact Yields.not_refuses padded refuses

end Grammar

end TextGrammar
