import TextGrammar.Grammar.Number
import TextGrammar.Proofs.Grammar.BoundedInteger

/-!
Whole numbers with a sign under a limit. The digits may go one above the limit, because a minus
sign makes the least number of the range of that, and so the one number that passes the limit
without a sign is refused only afterwards. Any other number out of the range is refused as a run
of digits, before the sign is looked at.
-/

namespace TextGrammar

open Numeral Attempt

/-- What may stand in front of the digits of a number. -/
inductive Mark where
  | bare
  | plus
  | minus

namespace Mark

def text : Mark → Text
  | bare => []
  | plus => ['+']
  | minus => ['-']

/-- The sign that stands for the mark; a bare number is taken for one with a plus. -/
def shown : Mark → Text
  | minus => ['-']
  | _ => ['+']

def apply : Mark → Int → Int
  | minus, number => -number
  | _, number => number

theorem exists_mark (source : Text) :
    ∃ (mark : Mark) (text : Text), source = mark.text ++ text ∧
      (mark = bare → ∀ point ∈ text.head?, point ∉ Grammar.signs.text) := by
  by_cases minusFirst : ∃ text : Text, source = ('-' : CodePoint) :: text
  · obtain ⟨text, rfl⟩ := minusFirst
    exact ⟨minus, text, rfl, by simp⟩
  · by_cases plusFirst : ∃ text : Text, source = ('+' : CodePoint) :: text
    · obtain ⟨text, rfl⟩ := plusFirst
      exact ⟨plus, text, rfl, by simp⟩
    · refine ⟨bare, source, rfl, fun _ point first => ?_⟩
      have noMinus := Grammar.head_differs minusFirst point first
      have noPlus := Grammar.head_differs plusFirst point first
      simp [Grammar.signs, noMinus, noPlus]

end Mark

variable {limit : Option Int} {numeral rest source : Text}

theorem DigitRun.unsigned (run : DigitRun numeral rest) :
    ∀ point ∈ (numeral ++ rest).head?, point ∉ Grammar.signs.text := by
  cases numeral with
  | nil => exact absurd rfl run.nonempty
  | cons first others =>
      apply Grammar.head_holds
      have digit := run.decimal first List.mem_cons_self
      intro member
      have signs : ∀ point ∈ Grammar.signs.text, point.isDecimalDigit = false := by decide
      exact absurd digit (by simp [signs first member])

namespace Grammar

section

variable (meaning : Reference → Attempts) {magnitude : Option Bound}

theorem sign_refuses (unsigned : ∀ point ∈ source.head?, point ∉ signs.text) :
    (sign.attempt meaning .text).Refuses source .exhausted :=
  one_of_refuses unsigned

theorem sign_yields {point : CodePoint} (member : point ∈ signs.text) (rest : Text) :
    (sign.attempt meaning .text).Yields (point :: rest) (.text [point]) rest :=
  one_of_yields member rest

/-- The mark is taken, and a plus stands for a mark that is not there. -/
theorem mark_yields (mark : Mark) {text : Text}
    (unsigned : mark = .bare → ∀ point ∈ text.head?, point ∉ signs.text) :
    ((sign.optional (.text "+")).attempt meaning .text).Yields (mark.text ++ text) (.text mark.shown)
      text := by
  cases mark with
  | bare => exact (sign_refuses meaning (unsigned rfl)).optional _
  | plus => exact (sign_yields meaning (by decide) text).optional _
  | minus => exact (sign_yields meaning (by decide) text).optional _

theorem apply_sign_eq (mark : Mark) (number : Int) :
    applySign.apply (.tuple [.text mark.shown, .int number]) = .ok (.int (mark.apply number)) := by
  cases mark <;> rfl

theorem magnitude_yields (mark : Mark) {text : Text} {number : Int}
    (unsigned : mark = .bare → ∀ point ∈ text.head?, point ∉ signs.text)
    (yields : ((integer magnitude).attempt meaning .text).Yields text (.int number) rest) :
    ((signedMagnitude magnitude).attempt meaning .text).Yields (mark.text ++ text)
      (.int (mark.apply number)) rest := by
  have pair := (mark_yields meaning mark unsigned).followed_by yields
  apply pair.map
  rw [apply_sign_eq]
  rfl

theorem magnitude_refuses (mark : Mark) {text : Text} {kind : FailureKind}
    (unsigned : mark = .bare → ∀ point ∈ text.head?, point ∉ signs.text)
    (refuses : ((integer magnitude).attempt meaning .text).Refuses text kind) :
    ((signedMagnitude magnitude).attempt meaning .text).Refuses (mark.text ++ text) kind :=
  ((mark_yields meaning mark unsigned).followed_by_refusal refuses).map

end

/-- Whole numbers with a sign up to the limit and down to one below its opposite, or of any size. -/
def signedUpTo (limit : Option Int) : Grammar := signedInteger (limit.map .int)

/-- The limit of the digits. -/
def magnitudeLimit (limit : Option Int) : Option Int := limit.map (· + 1)

theorem signed_integer_is_built (nonneg : ∀ most ∈ limit, 0 ≤ most)
    (writable : ∀ most ∈ limit, isWritable (most + 1) = true) :
    signedInteger? (limitValue limit) = .ok (signedUpTo limit) := by
  cases limit with
  | none => rfl
  | some most =>
      have nextWritable : isWritable (most + 1) = true := writable most rfl
      have mostWritable : isWritable most = true := by
        have above := nonneg most rfl
        have room := of_decide_eq_true nextWritable
        apply decide_eq_true
        omega
      have next : Value.add (.int most) (.int 1) = .ok (.int (most + 1)) := rfl
      have writtenNext : (Value.int (most + 1)).written? = .ok (.int (most + 1)) := by
        simp only [Value.written?, Value.isWritable, nextWritable, if_true]
      have writtenMost : (Value.int most).written? = .ok (.int most) := by
        simp only [Value.written?, Value.isWritable, mostWritable, if_true]
      simp only [limitValue, signedInteger?, next, bind, Except.bind, writtenNext, writtenMost]
      rfl

/-- The numbers from one below the opposite of the limit up to the limit. -/
def InRange (limit : Option Int) (value : Int) : Prop := ∀ most ∈ limit, -most - 1 ≤ value ∧ value ≤ most

theorem allows_iff (most value : Int) : (Bound.int most).allows value = true ↔ InRange (some most) value := by
  simp [Bound.allows, Bound.numeric, InRange]

theorem mark_apply_writable (mark : Mark) (run : DigitRun numeral rest)
    (convertible : numeral.length ≤ digitLimit) : isWritable (mark.apply (positional numeral)) = true := by
  have writable := positional_writable run.decimal convertible
  cases mark with
  | minus => simpa [Mark.apply, isWritable] using writable
  | bare => exact writable
  | plus => exact writable

theorem refusal_of_writable {value : Int} (writable : isWritable value = true) (refuser : String) :
    ∃ words, refusal refuser (.int value) = .ok (.saying words .rejected) := by
  simp only [refusal, Value.print?, Value.written?, Value.isWritable, writable, if_true]
  exact ⟨_, rfl⟩

section

variable (meaning : Reference → Attempts)

/-- What a number does with a mark and a run of digits. -/
theorem signed_run_cases (limit : Option Int) (mark : Mark) (run : DigitRun numeral rest) :
    FitsLimit (magnitudeLimit limit) numeral ∧ InRange limit (mark.apply (positional numeral)) ∧
        ((signedUpTo limit).attempt meaning .text).Yields (mark.text ++ (numeral ++ rest))
          (.int (mark.apply (positional numeral))) rest ∨
      FitsLimit (magnitudeLimit limit) numeral ∧ ¬ InRange limit (mark.apply (positional numeral)) ∧
        ((signedUpTo limit).attempt meaning .text).Refuses (mark.text ++ (numeral ++ rest)) .rejected ∨
      ¬ FitsLimit (magnitudeLimit limit) numeral ∧
        ((signedUpTo limit).attempt meaning .text).Refuses (mark.text ++ (numeral ++ rest)) .mismatch := by
  by_cases fits : FitsLimit (magnitudeLimit limit) numeral
  · have digits := integer_yields_fitting meaning run fits
    have yields := magnitude_yields meaning mark (fun _ => run.unsigned) digits
    cases limit with
    | none => exact Or.inl ⟨fits, by simp [InRange], yields⟩
    | some most =>
        by_cases inside : InRange (some most) (mark.apply (positional numeral))
        · refine Or.inl ⟨fits, inside, yields.filter ?_⟩
          exact congrArg pure ((allows_iff _ _).mpr inside)
        · have writable := mark_apply_writable mark run fits.convertible
          obtain ⟨words, refused⟩ := refusal_of_writable writable "in_range"
          refine Or.inr (Or.inl ⟨fits, inside, yields.filter_refusal ?_ refused⟩)
          exact congrArg pure (Bool.eq_false_iff.mpr fun allowed => inside ((allows_iff _ _).mp allowed))
  · have digits := integer_refuses_unfitting meaning run fits
    have refuses := magnitude_refuses meaning mark (fun _ => run.unsigned) digits
    refine Or.inr (Or.inr ⟨fits, ?_⟩)
    cases limit with
    | none => exact refuses
    | some most => exact refuses.filter

theorem signed_refuses_other (limit : Option Int) (mark : Mark) {text : Text} (boundary : EndsDigits text)
    (unsigned : mark = .bare → ∀ point ∈ text.head?, point ∉ signs.text) :
    ∃ kind, ((signedUpTo limit).attempt meaning .text).Refuses (mark.text ++ text) kind := by
  have refused (magnitude : Option Bound) :
      ∃ kind, ((signedMagnitude magnitude).attempt meaning .text).Refuses (mark.text ++ text) kind := by
    have refuses : ∃ kind, ((integer magnitude).attempt meaning .text).Refuses text kind :=
      integer_refuses_other boundary
    obtain ⟨kind, refuses⟩ := refuses
    exact ⟨kind, magnitude_refuses meaning mark unsigned refuses⟩
  cases limit with
  | none => exact refused none
  | some most =>
      obtain ⟨kind, refuses⟩ := refused (some (.int (most + 1)))
      exact ⟨kind, refuses.filter⟩

/-- What stands in front of a text: a mark, and then a run of digits or none. -/
theorem source_begins_with_mark (source : Text) :
    (∃ (mark : Mark) (numeral rest : Text), source = mark.text ++ (numeral ++ rest) ∧ DigitRun numeral rest) ∨
      ∃ (mark : Mark) (text : Text), source = mark.text ++ text ∧ EndsDigits text ∧
        (mark = .bare → ∀ point ∈ text.head?, point ∉ signs.text) := by
  obtain ⟨mark, text, rfl, unsigned⟩ := Mark.exists_mark source
  rcases source_begins_with_digits text with boundary | ⟨numeral, rest, rfl, run⟩
  · exact Or.inr ⟨mark, text, rfl, boundary, unsigned⟩
  · exact Or.inl ⟨mark, numeral, rest, rfl, run⟩

/-- There is an outcome on every text. -/
theorem signed_answers (limit : Option Int) (source : Text) :
    ∃ outcome, (signedUpTo limit).attempt meaning .text source = pure outcome := by
  rcases source_begins_with_mark source with
    ⟨mark, numeral, rest, rfl, run⟩ | ⟨mark, text, rfl, boundary, unsigned⟩
  · rcases signed_run_cases meaning limit mark run with
      ⟨_, _, yields⟩ | ⟨_, _, words, refused⟩ | ⟨_, words, refused⟩
    · exact ⟨_, yields⟩
    · exact ⟨_, refused⟩
    · exact ⟨_, refused⟩
  · obtain ⟨kind, words, refused⟩ := signed_refuses_other meaning limit mark boundary unsigned
    exact ⟨_, refused⟩

end

theorem in_range_not_next {value : Int} (inside : InRange limit value) :
    ¬ ∃ most ∈ limit, value = most + 1 := by
  rintro ⟨most, member, rfl⟩
  have above := (inside most member).2
  omega

/-- Out of the range and still within the limit of the digits is only the number above the range. -/
theorem next_of_below (nonneg : ∀ most ∈ limit, 0 ≤ most) (mark : Mark) {size : Nat}
    (below : ∀ most ∈ magnitudeLimit limit, (size : Int) ≤ most)
    (outside : ¬ InRange limit (mark.apply size)) : ∃ most ∈ limit, mark.apply size = most + 1 := by
  cases limit with
  | none => exact absurd (by simp [InRange]) outside
  | some most =>
      refine ⟨most, rfl, ?_⟩
      have above : 0 ≤ most := nonneg most rfl
      have bounded : (size : Int) ≤ most + 1 := below (most + 1) rfl
      simp only [InRange, Option.mem_some_iff, forall_eq'] at outside
      cases mark <;> simp only [Mark.apply] at outside ⊢ <;> omega

/-- Above the limit of the digits every number is out of the range, and none is the number above it. -/
theorem outside_of_above (nonneg : ∀ most ∈ limit, 0 ≤ most) (mark : Mark) {size : Nat}
    (above : ¬ ∀ most ∈ magnitudeLimit limit, (size : Int) ≤ most) :
    ¬ InRange limit (mark.apply size) ∧ ¬ ∃ most ∈ limit, mark.apply size = most + 1 := by
  cases limit with
  | none => exact absurd (by simp [magnitudeLimit]) above
  | some most =>
      have positive : 0 ≤ most := nonneg most rfl
      simp only [magnitudeLimit, Option.map_some, Option.mem_some_iff, forall_eq', not_le] at above
      simp only [InRange, Option.mem_some_iff, forall_eq', exists_eq_left']
      cases mark <;> simp only [Mark.apply] <;> omega

/-- How an attempt at digits with a mark goes by the number that they stand for. -/
structure DecidesByRange (limit : Option Int) (value : Int) (source rest : Text) (attempt : Attempt Text) :
    Prop where
  matched : attempt.Yields source (.int value) rest ↔ InRange limit value
  rejected : attempt.Refuses source .rejected ↔ ∃ most ∈ limit, value = most + 1
  mismatched : attempt.Refuses source .mismatch ↔
    ¬ InRange limit value ∧ ¬ ∃ most ∈ limit, value = most + 1

theorem decides_by_range (meaning : Reference → Attempts) (nonneg : ∀ most ∈ limit, 0 ≤ most) (mark : Mark)
    (run : DigitRun numeral rest) (convertible : numeral.length ≤ digitLimit) (plain : PlainZeros numeral) :
    DecidesByRange limit (mark.apply (positional numeral)) (mark.text ++ (numeral ++ rest)) rest
      ((signedUpTo limit).attempt meaning .text) := by
  rcases signed_run_cases meaning limit mark run with
    ⟨_, inside, yields⟩ | ⟨fits, outside, refuses⟩ | ⟨differs, refuses⟩
  · have notNext := in_range_not_next inside
    exact {
      matched := iff_of_true yields inside
      rejected := iff_of_false yields.not_refuses notNext
      mismatched := iff_of_false yields.not_refuses fun without => without.1 inside }
  · have next := next_of_below nonneg mark fits.below outside
    exact {
      matched := iff_of_false (fun yields => yields.not_refuses refuses) outside
      rejected := iff_of_true refuses next
      mismatched := iff_of_false (fun other => absurd (refuses.kind_unique other) (by decide))
        fun without => without.2 next }
  · have above : ¬ ∀ most ∈ magnitudeLimit limit, (positional numeral : Int) ≤ most :=
      fun below => differs (fits_limit_of_plain run.decimal plain convertible below)
    have outside := outside_of_above nonneg mark above
    exact {
      matched := iff_of_false (fun yields => yields.not_refuses refuses) outside.1
      rejected := iff_of_false (fun other => absurd (refuses.kind_unique other) (by decide)) outside.2
      mismatched := iff_of_true refuses outside }

/-- A whole number with a sign is read exactly if it is in the range: digits that can be converted go by
the number that they stand for with their mark, and a text without digits fails. Nothing is logged and
nothing faults. -/
theorem signed_integer_reads_range (limit : Option Int) (nonneg : ∀ most ∈ limit, 0 ≤ most)
    (writable : ∀ most ∈ limit, isWritable (most + 1) = true) (scope : Scope) (budget : Nat) (source : Text) :
    signedInteger? (limitValue limit) = .ok (signedUpTo limit) ∧
    (∀ (mark : Mark) numeral rest, source = mark.text ++ (numeral ++ rest) → DigitRun numeral rest →
      numeral.length ≤ digitLimit → PlainZeros numeral →
        DecidesByRange limit (mark.apply (positional numeral)) source rest
          ((signedUpTo limit).runWithin budget scope)) ∧
    ((∃ (mark : Mark) (numeral rest : Text), source = mark.text ++ (numeral ++ rest) ∧ DigitRun numeral rest) ∨
      ∃ kind, ((signedUpTo limit).runWithin budget scope).Refuses source kind) ∧
    ∃ outcome, (signedUpTo limit).runWithin budget scope source = pure outcome := by
  refine ⟨signed_integer_is_built nonneg writable, ?_, ?_, ?_⟩
  · rintro mark numeral rest rfl run convertible plain
    exact decides_by_range _ nonneg mark run convertible plain
  · rcases source_begins_with_mark source with begins | ⟨mark, text, rfl, boundary, unsigned⟩
    · exact Or.inl begins
    · exact Or.inr (signed_refuses_other _ limit mark boundary unsigned)
  · exact signed_answers _ limit source

/-- The range of eight bits: it goes one further down than it goes up. -/
theorem eight_bit_range_is_read :
    (∀ most ∈ some (127 : Int), 0 ≤ most) ∧ (∀ most ∈ some (127 : Int), isWritable (most + 1) = true) ∧
      ((signedUpTo (some 127)).runWithin 0 Scope.provided).Yields (Text.ofString "-128x") (.int (-128))
        (Text.ofString "x") ∧
      ((signedUpTo (some 127)).runWithin 0 Scope.provided).Refuses (Text.ofString "+128x") .rejected ∧
      ((signedUpTo (some 127)).runWithin 0 Scope.provided).Refuses (Text.ofString "-129x") .mismatch := by
  have nonneg : ∀ most ∈ some (127 : Int), 0 ≤ most := by decide
  have writable : ∀ most ∈ some (127 : Int), isWritable (most + 1) = true := by
    rintro most ⟨rfl⟩
    decide +kernel
  have reads := signed_integer_reads_range (some 127) nonneg writable Scope.provided 0
  have least := (reads (Text.ofString "-128x")).2.1 .minus (Text.ofString "128") (Text.ofString "x") rfl
    ⟨by decide, by decide, by decide⟩ (by decide) (by decide)
  have next := (reads (Text.ofString "+128x")).2.1 .plus (Text.ofString "128") (Text.ofString "x") rfl
    ⟨by decide, by decide, by decide⟩ (by decide) (by decide)
  have below := (reads (Text.ofString "-129x")).2.1 .minus (Text.ofString "129") (Text.ofString "x") rfl
    ⟨by decide, by decide, by decide⟩ (by decide) (by decide)
  have leastInside : InRange (some 127) (-128) := by
    rintro most ⟨rfl⟩
    decide
  have belowOutside : ¬ InRange (some 127) (-129) ∧ ¬ ∃ most ∈ some (127 : Int), (-129 : Int) = most + 1 :=
    ⟨fun inside => absurd (inside 127 rfl).1 (by decide), by simp⟩
  exact ⟨nonneg, writable, least.matched.mpr leastInside, next.rejected.mpr ⟨127, rfl, rfl⟩,
    below.mismatched.mpr belowOutside⟩

end Grammar

end TextGrammar
