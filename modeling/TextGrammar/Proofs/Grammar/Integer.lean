import TextGrammar.Proofs.Grammar.Answer

/-!
What whole numbers read: a run of decimal digits up to its end. Whether the run is
accepted depends on the run alone, and an accepted run is read as the number that
it denotes in decimal notation.
-/

namespace TextGrammar

namespace CodePoint

theorem digit_blocks_apart : ∀ first ∈ zeroDigits, ∀ interval ∈ blankRanges,
    first + 9 < interval.1 ∨ interval.2 < first := by
  decide

theorem digit_is_not_blank {point : CodePoint} (digit : point.isDecimalDigit = true) :
    point.isBlank = false := by
  obtain ⟨value, known⟩ := Option.isSome_iff_exists.mp digit
  obtain ⟨first, found, _⟩ := Option.map_eq_some_iff.mp known
  have block := List.find?_some found
  simp only [Bool.and_eq_true, decide_eq_true_eq] at block
  cases blank : point.isBlank with
  | false => rfl
  | true =>
      obtain ⟨interval, member, low, high⟩ :=
        (Ranges.contains_iff blank_ranges_increase point.toNat).mp blank
      have := digit_blocks_apart first (List.mem_of_find?_eq_some found) interval member
      omega

theorem digit_is_no_margin {point : CodePoint} (digit : point.isDecimalDigit = true) :
    point.isNumeralMargin = false := by
  rw [isNumeralMargin, digit_is_not_blank digit, Bool.false_and]

end CodePoint

namespace Numeral

variable {digits rest : Text}

/-- The number of a run of digits in decimal notation. -/
def positional (digits : Text) : Int := ofDigits (digits.filterMap CodePoint.digitValue?)

theorem drop_margins_of_digits (decimal : ∀ point ∈ digits, point.isDecimalDigit = true) :
    dropMargins digits = digits := by
  have drop : ∀ text : Text, (∀ point ∈ text, point.isDecimalDigit = true) →
      text.dropWhile CodePoint.isNumeralMargin = text := by
    intro text inside
    cases text with
    | nil => rfl
    | cons point text =>
        exact List.dropWhile_cons_of_neg (by simp [CodePoint.digit_is_no_margin (inside point (by simp))])
  have backwards : ∀ point ∈ digits.reverse, point.isDecimalDigit = true :=
    fun point member => decimal point (List.mem_reverse.mp member)
  rw [dropMargins, drop digits decimal, drop digits.reverse backwards, List.reverse_reverse]

theorem take_sign_unsigned {text : Text} (unsigned : ∀ point ∈ text.head?, point ≠ '-' ∧ point ≠ '+') :
    takeSign text = (false, text) := by
  cases text with
  | nil => rfl
  | cons point text =>
      obtain ⟨noMinus, noPlus⟩ := unsigned point rfl
      rw [takeSign, if_neg noMinus, if_neg noPlus]

theorem take_sign_of_digits (decimal : ∀ point ∈ digits, point.isDecimalDigit = true) :
    takeSign digits = (false, digits) := by
  apply take_sign_unsigned
  intro point head
  have digit := decimal point (List.mem_of_head? head)
  constructor <;> rintro rfl <;> exact absurd digit (by decide)

theorem leading_digits_of_digits {place : Place} (start : place ≠ .underscore)
    (decimal : ∀ point ∈ digits, point.isDecimalDigit = true) :
    leadingDigits? place digits = some (digits.filterMap CodePoint.digitValue?, []) := by
  induction digits generalizing place with
  | nil =>
      cases place with
      | underscore => exact absurd rfl start
      | start => rfl
      | digit => rfl
  | cons point text induction =>
      obtain ⟨digit, value⟩ := Option.isSome_iff_exists.mp (decimal point List.mem_cons_self)
      have later : leadingDigits? .digit text = some (text.filterMap CodePoint.digitValue?, []) :=
        induction (by simp) fun other member => decimal other (List.mem_cons_of_mem _ member)
      rw [List.filterMap_cons_some value]
      rw [leadingDigits?.eq_def]
      simp only [value, later, Option.map_some]

/-- Digits alone are never malformed, so only their number can be too large. -/
theorem read_whole_of_digits (nonempty : digits ≠ [])
    (decimal : ∀ point ∈ digits, point.isDecimalDigit = true) :
    readWhole digits =
      if digits.length > digitLimit then .error (.tooLong digits.length) else .ok (positional digits) := by
  have leading : leadingDigits? .start digits = some (digits.filterMap CodePoint.digitValue?, []) :=
    leading_digits_of_digits (by simp) decimal
  have count : (digits.filterMap CodePoint.digitValue?).length = digits.length :=
    List.filterMap_length_eq_length.mpr decimal
  have some_digit : (digits.filterMap CodePoint.digitValue?).isEmpty = false := by
    rw [List.isEmpty_eq_false_iff, ← List.length_pos_iff, count]
    exact List.length_pos_iff.mpr nonempty
  unfold readWhole
  simp only [drop_margins_of_digits decimal, take_sign_of_digits decimal, leading, some_digit, count]
  rfl

end Numeral

/-- A run of digits that whole numbers under the bound read to its end. -/
structure WholeNumeral (bound : Option Bound) (digits : Text) : Prop where
  nonempty : digits ≠ []
  decimal : ∀ point ∈ digits, point.isDecimalDigit = true
  accepted : ∃ value, Primitive.matchInteger bound digits = .matched value []

/-- What follows a run of digits that has ended. -/
def EndsDigits (rest : Text) : Prop := ∀ point ∈ rest.head?, point.isDecimalDigit = false

instance (rest : Text) : Decidable (EndsDigits rest) :=
  inferInstanceAs (Decidable (∀ point ∈ rest.head?, point.isDecimalDigit = false))

namespace Primitive

variable {digits : Text}

theorem above_bound_says (shown : String) (limit : Text) :
    ∃ words, aboveBound shown limit = .saying words .mismatch :=
  ⟨_, rfl⟩

theorem not_converted_says (digits : Text) : ∃ words, notConverted digits = .saying words .mismatch :=
  ⟨_, rfl⟩

/-- A run of digits is refused if it is longer than the bound is shown or too long to be converted. -/
theorem leading_number_eq (shown : Option Text) (nonempty : digits ≠ [])
    (decimal : ∀ point ∈ digits, point.isDecimalDigit = true) {rest : Text} (boundary : EndsDigits rest) :
    leadingNumber shown (digits ++ rest) =
      match shown.filter (isLongerThan digits) with
      | some bound => .error (aboveBound (digitCount digits) bound)
      | none =>
          if digits.length > digitLimit then .error (notConverted digits)
          else .ok (Numeral.positional digits, rest) := by
  obtain ⟨taken, left⟩ : (digits ++ rest).takeWhile digitClass.contains = digits ∧
      (digits ++ rest).dropWhile digitClass.contains = rest :=
    Grammar.span_parts digits rest decimal boundary
  have someDigit : digits.isEmpty = false := by simpa using nonempty
  simp only [leadingNumber, taken, left, someDigit, Bool.false_eq_true, if_false,
    Numeral.read_whole_of_digits nonempty decimal]
  cases shown.filter (isLongerThan digits) with
  | some bound => rfl
  | none =>
      by_cases long : digits.length > digitLimit
      · simp only [if_pos long]
      · simp only [if_neg long]

/-- The run alone decides whether it is read, and its number. -/
theorem leading_number_of_digits (shown : Option Text) (nonempty : digits ≠ [])
    (decimal : ∀ point ∈ digits, point.isDecimalDigit = true) :
    (∀ rest, EndsDigits rest →
      leadingNumber shown (digits ++ rest) = .ok (Numeral.positional digits, rest)) ∨
    ∃ words, ∀ rest, EndsDigits rest →
      leadingNumber shown (digits ++ rest) = .error (.saying words .mismatch) := by
  cases overlong : shown.filter (isLongerThan digits) with
  | some bound =>
      obtain ⟨words, worded⟩ := above_bound_says (digitCount digits) bound
      refine Or.inr ⟨words, fun rest boundary => ?_⟩
      simp only [leading_number_eq shown nonempty decimal boundary, overlong, worded]
  | none =>
      by_cases long : digits.length > digitLimit
      · obtain ⟨words, worded⟩ := not_converted_says digits
        refine Or.inr ⟨words, fun rest boundary => ?_⟩
        simp only [leading_number_eq shown nonempty decimal boundary, overlong, if_pos long, worded]
      · refine Or.inl fun rest boundary => ?_
        simp only [leading_number_eq shown nonempty decimal boundary, overlong, if_neg long]

theorem match_integer_of_digits (bound : Option Bound) (nonempty : digits ≠ [])
    (decimal : ∀ point ∈ digits, point.isDecimalDigit = true) :
    (∀ rest, EndsDigits rest →
      matchInteger bound (digits ++ rest) = .matched (.int (Numeral.positional digits)) rest) ∨
    ∃ words, ∀ rest, EndsDigits rest →
      matchInteger bound (digits ++ rest) = .failed (.saying words .mismatch) := by
  unfold matchInteger
  rcases leading_number_of_digits (bound.map shownBound) nonempty decimal with read | ⟨words, refused⟩
  · cases exceeded : bound.filter fun limit => limit.isExceededBy (Numeral.positional digits) with
    | none =>
        refine Or.inl fun rest boundary => ?_
        simp only [read rest boundary, exceeded]
    | some limit =>
        obtain ⟨words, worded⟩ :=
          above_bound_says (toString (Numeral.positional digits)) (shownBound limit)
        refine Or.inr ⟨words, fun rest boundary => ?_⟩
        simp only [read rest boundary, exceeded, worded]
  · refine Or.inr ⟨words, fun rest boundary => ?_⟩
    simp only [refused rest boundary]

end Primitive

namespace Grammar

open Attempt

variable {meaning : Reference → Attempts} {bound : Option Bound}

theorem integer_yields {digits rest : Text} (numeral : WholeNumeral bound digits) (boundary : EndsDigits rest) :
    ((integer bound).attempt meaning .text).Yields (digits ++ rest) (.int (Numeral.positional digits)) rest := by
  change pure (Primitive.matchInteger bound (digits ++ rest)) = _
  rcases Primitive.match_integer_of_digits bound numeral.nonempty numeral.decimal with read | ⟨words, refused⟩
  · rw [read rest boundary]
  · obtain ⟨value, accepted⟩ := numeral.accepted
    have alone := refused [] (by simp [EndsDigits])
    rw [List.append_nil, accepted] at alone
    exact absurd alone (by simp)

theorem integer_refuses_other {source : Text} (boundary : EndsDigits source) :
    ∃ kind, ((integer bound).attempt meaning .text).Refuses source kind := by
  have nothing := (span_parts [] source (by simp) boundary).1
  rw [List.nil_append] at nothing
  have isDigit : Primitive.digitClass.contains = CodePoint.isDecimalDigit := rfl
  have refused : Primitive.matchInteger bound source =
      .failed (Primitive.noSpan Primitive.digitClass.description source) := by
    simp only [Primitive.matchInteger, Primitive.leadingNumber, isDigit, nothing, List.isEmpty_nil, if_true]
  change ∃ kind words, pure (Primitive.matchInteger bound source) = _
  rw [refused]
  cases source with
  | nil => exact ⟨_, _, rfl⟩
  | cons point text => exact ⟨_, _, rfl⟩

/-- A source begins with a whole numeral that is read up to its end, or nothing is read. -/
theorem integer_answers (source : Text) :
    (∃ digits rest, source = digits ++ rest ∧ WholeNumeral bound digits ∧ EndsDigits rest) ∨
      ∃ kind, ((integer bound).attempt meaning .text).Refuses source kind := by
  obtain ⟨digits, rest, rfl, decimal, boundary⟩ := exists_span CodePoint.isDecimalDigit source
  by_cases nothing : digits = []
  · subst nothing
    exact Or.inr (integer_refuses_other boundary)
  · rcases Primitive.match_integer_of_digits bound nothing decimal with read | ⟨words, refused⟩
    · have alone := read [] (by simp [EndsDigits])
      rw [List.append_nil] at alone
      exact Or.inl ⟨digits, rest, rfl, ⟨nothing, decimal, _, alone⟩, boundary⟩
    · exact Or.inr ⟨.mismatch, words, congrArg pure (refused rest boundary)⟩

end Grammar

end TextGrammar
