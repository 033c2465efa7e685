import TextGrammar.Numeral.Decimal
import TextGrammar.Proofs.Grammar.SignedInteger
import TextGrammar.Proofs.Text.Leading

/-!
The notation of decimal numbers: digits that may have a sign, a point with digits and an exponent with
digits. Every text of it denotes a double once the mark of the exponent is a small letter.
-/

namespace TextGrammar

open Text Language

/-- A sign, or nothing. -/
def signMarks : Language CodePoint := 1 + anyOf ['-', '+']

/-- A point and digits, or nothing. -/
def fractions : Language CodePoint := 1 + anyOf ['.'] * digitRuns

def exponentMarks : Text := ['e', 'E']

/-- The mark of an exponent, perhaps a sign, and digits, or nothing at all. -/
def exponents : Language CodePoint := 1 + anyOf exponentMarks * signMarks * digitRuns

def decimalNumerals : Language CodePoint := signMarks * digitRuns * fractions * exponents

/-- The small letter for the mark of an exponent. -/
def smallMark (point : CodePoint) : CodePoint := if point = 'E' then 'e' else point

variable {sign run part scale numeral rest : Text}

theorem exists_mark_of_sign (member : sign ∈ signMarks) : ∃ mark : Mark, sign = mark.text := by
  rcases (mem_add _ _ _).mp member with nothing | ⟨point, listed, rfl⟩
  · exact ⟨.bare, (mem_one _).mp nothing⟩
  · rcases List.mem_pair.mp listed with rfl | rfl
    · exact ⟨.minus, rfl⟩
    · exact ⟨.plus, rfl⟩

theorem fraction_cases (member : part ∈ fractions) :
    part = [] ∨ ∃ run ∈ digitRuns, part = ('.' : CodePoint) :: run := by
  rcases (mem_add _ _ _).mp member with nothing | present
  · exact Or.inl ((mem_one _).mp nothing)
  · obtain ⟨_, ⟨point, listed, rfl⟩, run, digits, rfl⟩ := mem_mul.mp present
    obtain rfl := List.mem_singleton.mp listed
    exact Or.inr ⟨run, digits, rfl⟩

theorem decimal_point_is_no_digit : ∀ point ∈ [('.' : CodePoint)], ¬ point.isDecimalDigit = true := by decide

theorem exponent_mark_is_no_digit : ∀ point ∈ exponentMarks, ¬ point.isDecimalDigit = true := by decide

theorem small_of_exponent_mark : ∀ point ∈ exponentMarks, smallMark point = 'e' := by decide

theorem exponent_cases (member : scale ∈ exponents) :
    scale = [] ∨ ∃ (point : CodePoint) (mark : Mark), smallMark point = 'e' ∧
      ∃ run ∈ digitRuns, scale = point :: (mark.text ++ run) := by
  rcases (mem_add _ _ _).mp member with nothing | present
  · exact Or.inl ((mem_one _).mp nothing)
  · obtain ⟨_, signed, run, digits, rfl⟩ := mem_mul.mp present
    obtain ⟨_, ⟨point, listed, rfl⟩, sign, signMember, rfl⟩ := mem_mul.mp signed
    obtain ⟨mark, rfl⟩ := exists_mark_of_sign signMember
    exact Or.inr ⟨point, mark, small_of_exponent_mark point listed, run, digits, rfl⟩

theorem fractions_open_with_point : OpensWith fractions (· ∈ [('.' : CodePoint)]) :=
  (any_of_opens_with.followed_by empty_not_any_of).optional

theorem exponents_open_with_mark : OpensWith exponents (· ∈ exponentMarks) :=
  ((any_of_opens_with.followed_by empty_not_any_of).followed_by (empty_not_mul empty_not_any_of)).optional

def EndsInDigit (text : Text) : Prop := ∃ point ∈ text.getLast?, point.isDecimalDigit = true

theorem ends_in_digit_append (front : Text) {text : Text} (ends : EndsInDigit text) :
    EndsInDigit (front ++ text) := by
  obtain ⟨point, last, digit⟩ := ends
  refine ⟨point, ?_, digit⟩
  rw [List.getLast?_append, Option.mem_def.mp last]
  rfl

theorem digit_run_ends_in_digit (digits : run ∈ digitRuns) : EndsInDigit run := by
  have last := List.getLast?_eq_some_getLast digits.1
  exact ⟨_, last, digits.2 _ (List.getLast_mem digits.1)⟩

/-- Neither a point nor the mark of an exponent nor a sign stands last. -/
theorem decimal_numeral_ends_in_digit (member : numeral ∈ decimalNumerals) : EndsInDigit numeral := by
  obtain ⟨_, before, scale, scaleMember, rfl⟩ := mem_mul.mp member
  obtain ⟨_, signed, part, partMember, rfl⟩ := mem_mul.mp before
  obtain ⟨sign, _, whole, digits, rfl⟩ := mem_mul.mp signed
  have wholeEnds := ends_in_digit_append sign (digit_run_ends_in_digit digits)
  have partEnds : EndsInDigit (sign ++ whole ++ part) := by
    rcases fraction_cases partMember with rfl | ⟨run, runDigits, rfl⟩
    · rwa [List.append_nil]
    · exact ends_in_digit_append _ (ends_in_digit_append [_] (digit_run_ends_in_digit runDigits))
  rcases exponent_cases scaleMember with rfl | ⟨point, mark, _, run, runDigits, rfl⟩
  · rwa [List.append_nil]
  · exact ends_in_digit_append _ (ends_in_digit_append (point :: mark.text) (digit_run_ends_in_digit runDigits))

/-! Only the mark of an exponent is changed into a small letter. -/

theorem small_mark_of_digit {point : CodePoint} (digit : point.isDecimalDigit = true) :
    smallMark point = point := by
  apply if_neg
  rintro rfl
  exact absurd digit (by decide)

theorem small_mark_of_run (digits : run ∈ digitRuns) : run.map smallMark = run := by
  rw [List.map_congr_left fun point member => small_mark_of_digit (digits.2 point member)]
  exact List.map_id' run

theorem small_mark_of_sign (mark : Mark) : mark.text.map smallMark = mark.text := by
  cases mark <;> decide

theorem small_mark_of_fraction (member : part ∈ fractions) : part.map smallMark = part := by
  rcases fraction_cases member with rfl | ⟨run, digits, rfl⟩
  · rfl
  · rw [List.map_cons, small_mark_of_run digits]
    rfl

theorem small_exponent_head (member : scale ∈ exponents) : ∀ point ∈ (scale.map smallMark).head?, point = 'e' := by
  rcases exponent_cases member with rfl | ⟨point, mark, small, run, digits, rfl⟩
  · simp
  · simp [small]

namespace Numeral

theorem digit_run_append (decimal : ∀ point ∈ run, point.isDecimalDigit = true) (boundary : EndsDigits rest) :
    digitRun (run ++ rest) = (run.filterMap CodePoint.digitValue?, rest) := by
  induction run with
  | nil =>
      cases rest with
      | nil => rfl
      | cons point text =>
          have noDigit : point.digitValue? = none := by
            simpa [CodePoint.isDecimalDigit] using boundary point rfl
          simp [digitRun, noDigit]
  | cons point run induction =>
      obtain ⟨digit, value⟩ := Option.isSome_iff_exists.mp (decimal point List.mem_cons_self)
      have later := induction fun other member => decimal other (List.mem_cons_of_mem _ member)
      simp [digitRun, value, later]

theorem digits_are_read (digits : DigitRun run rest) :
    ∃ values, digitRun (run ++ rest) = (values, rest) ∧ values.isEmpty = false := by
  refine ⟨_, digit_run_append digits.decimal digits.boundary, ?_⟩
  have counted := digit_values_length digits.decimal
  have positive := List.length_pos_iff.mpr digits.nonempty
  rw [List.isEmpty_eq_false_iff, ← List.length_pos_iff]
  omega

theorem sign_is_read (mark : Mark) (digits : DigitRun run rest) :
    ∃ negative, takeSign (mark.text ++ (run ++ rest)) = (negative, run ++ rest) := by
  cases mark with
  | bare =>
      refine ⟨false, take_sign_unsigned fun point head => ?_⟩
      simpa [Grammar.signs] using digits.unsigned point head
  | plus => exact ⟨false, rfl⟩
  | minus => exact ⟨true, rfl⟩

theorem fraction_is_read (member : part ∈ fractions) (boundary : ∀ point ∈ rest.head?, point = 'e') :
    ∃ values, readFraction? (part ++ rest) = some (values, rest) := by
  rcases fraction_cases member with rfl | ⟨run, digits, rfl⟩
  · cases rest with
    | nil => exact ⟨[], rfl⟩
    | cons point text =>
        obtain rfl := boundary point rfl
        exact ⟨[], rfl⟩
  · have ends : EndsDigits rest := fun point head => boundary point head ▸ by decide
    obtain ⟨values, read, present⟩ := digits_are_read ⟨digits.1, digits.2, ends⟩
    refine ⟨values, ?_⟩
    simp [readFraction?, read, present]

theorem exponent_is_read (member : scale ∈ exponents) :
    ∃ number, readExponent? (scale.map smallMark) = some number := by
  rcases exponent_cases member with rfl | ⟨point, mark, small, run, digits, rfl⟩
  · exact ⟨0, rfl⟩
  · have last : DigitRun run [] := ⟨digits.1, digits.2, by simp [EndsDigits]⟩
    obtain ⟨negative, signed⟩ := sign_is_read mark last
    obtain ⟨values, read, present⟩ := digits_are_read last
    rw [List.map_cons, List.map_append, small, small_mark_of_sign, small_mark_of_run digits]
    rw [List.append_nil] at signed read
    simp [readExponent?, signed, read, present]

/-- Every decimal numeral denotes a double. -/
theorem decimal_numeral_is_read (member : numeral ∈ decimalNumerals) :
    ∃ number, readDecimal? (numeral.map smallMark) = some number := by
  obtain ⟨_, before, scale, scaleMember, rfl⟩ := mem_mul.mp member
  obtain ⟨_, signed, part, partMember, rfl⟩ := mem_mul.mp before
  obtain ⟨sign, signMember, whole, digits, rfl⟩ := mem_mul.mp signed
  obtain ⟨mark, rfl⟩ := exists_mark_of_sign signMember
  have scaleHead := small_exponent_head scaleMember
  have boundary : EndsDigits (part ++ scale.map smallMark) := by
    rcases fraction_cases partMember with rfl | ⟨run, _, rfl⟩
    · exact fun point head => scaleHead point head ▸ by decide
    · exact Grammar.head_holds (by decide)
  have run : DigitRun whole (part ++ scale.map smallMark) := ⟨digits.1, digits.2, boundary⟩
  obtain ⟨negative, signRead⟩ := sign_is_read mark run
  obtain ⟨values, wholeRead, present⟩ := digits_are_read run
  obtain ⟨fraction, partRead⟩ := fraction_is_read partMember scaleHead
  obtain ⟨exponent, scaleRead⟩ := exponent_is_read scaleMember
  simp only [List.map_append, List.append_assoc, small_mark_of_sign, small_mark_of_run digits,
    small_mark_of_fraction partMember]
  simp [readDecimal?, signRead, wholeRead, present, partRead, scaleRead]

end Numeral

end TextGrammar
