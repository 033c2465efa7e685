import TextGrammar.Proofs.Attempt.Leading
import TextGrammar.Proofs.Numeral.DecimalNotation

/-!
Decimal numbers take the longest numeral. The parts are tried one after the other and each takes what
it can. A point or an exponent without digits is given back as a whole, and what a part did not take
is nothing that a later part could begin with.
-/

namespace TextGrammar

open Text Language Attempt

namespace Grammar

variable (meaning : Reference → Attempts) {opens : CodePoint → Prop}

theorem one_of_takes_leading (word : Word) :
    ((oneOf word).attempt meaning .text).TakesLeading (anyOf word.text) opens (fun text value =>
      value = .text text) := by
  intro source
  by_cases begins : ∃ point ∈ source.head?, point ∈ word.text
  · obtain ⟨point, head, listed⟩ := begins
    obtain ⟨rest, rfl⟩ := List.head?_eq_some_iff.mp head
    exact Or.inl ⟨[point], rest, _, any_of_leads listed, rfl, one_of_yields listed rest⟩
  · have differ : ∀ point ∈ source.head?, point ∉ word.text :=
      fun point head listed => begins ⟨point, head, listed⟩
    exact Or.inr ⟨any_of_absent differ, .exhausted, one_of_refuses differ⟩

theorem character_takes_leading (point : CodePoint) :
    ((character point).attempt meaning .text).TakesLeading (anyOf [point]) opens (fun text value =>
      value = .text text) := by
  intro source
  by_cases begins : ∃ text : Text, source = point :: text
  · obtain ⟨rest, rfl⟩ := begins
    exact Or.inl ⟨[point], rest, _, any_of_leads (by simp), rfl, character_yields point rest⟩
  · have differ := head_differs begins
    refine Or.inr ⟨any_of_absent fun head first => ?_, character_refuses_other differ⟩
    simpa using differ head first

theorem digits_lead {numeral rest : Text} (run : DigitRun numeral rest) :
    Leads digitRuns (fun point => ¬ point.isDecimalDigit = true) (numeral ++ rest) numeral rest where
  parts := rfl
  member := ⟨run.nonempty, run.decimal⟩
  others := by
    rintro other ⟨_, decimal⟩ more parts
    rcases List.append_eq_append_iff.mp parts with ⟨left, rfl, rfl⟩ | ⟨excess, rfl, rfl⟩
    · cases left with
      | nil => simp
      | cons point left =>
          -- A shorter run is cut off in front of a digit.
          have digit := run.decimal point (by simp)
          exact Or.inr ⟨by simp, head_holds (not_not_intro digit)⟩
    · cases excess with
      | nil => simp
      | cons point excess =>
          have digit := decimal point (by simp)
          exact absurd digit (by simp [run.boundary point rfl])

theorem digits_absent {source : Text} (boundary : EndsDigits source) : Absent digitRuns source := by
  rintro run digits ⟨more, rfl⟩
  obtain ⟨nonempty, decimal⟩ := digits
  cases run with
  | nil => exact nonempty rfl
  | cons point run => exact absurd (decimal point List.mem_cons_self) (by simp [boundary point rfl])

theorem digits_take_leading :
    (digits.attempt meaning .text).TakesLeading digitRuns (fun point => ¬ point.isDecimalDigit = true)
      fun text value => value = .text text := by
  intro source
  rcases source_begins_with_digits source with boundary | ⟨numeral, rest, rfl, run⟩
  · have refuses : ∃ kind, ((span Primitive.digitClass).attempt meaning .text).Refuses source kind :=
      span_refuses boundary
    exact Or.inr ⟨digits_absent boundary, refuses⟩
  · exact Or.inl ⟨numeral, rest, _, digits_lead run, rfl, digits_yield meaning run⟩

/-- The value of a part is its text with a small mark of the exponent. -/
def Shown (text : Text) (value : Value) : Prop := value = .text (text.map smallMark)

theorem digits_are_shown :
    (digits.attempt meaning .text).TakesLeading digitRuns (fun point => ¬ point.isDecimalDigit = true)
      Shown := by
  apply (digits_take_leading meaning).weaken (fun _ => id)
  rintro run member value rfl
  rw [Shown, small_mark_of_run member]

theorem optional_sign_takes :
    (optionalSign.attempt meaning .text).TakesLeading signMarks (fun point => point.isDecimalDigit = true)
      Shown := by
  have plain : ∀ point ∈ signs.text, smallMark point = point ∧ ¬ point.isDecimalDigit = true := by decide
  have signTakes : (sign.attempt meaning .text).TakesLeading (anyOf signs.text)
      (fun point => point.isDecimalDigit = true) Shown := by
    apply (one_of_takes_leading meaning signs).weaken (fun _ => id)
    rintro text ⟨point, listed, rfl⟩ value rfl
    simp only [Shown, List.map_cons, List.map_nil, (plain point listed).1]
  apply signTakes.optional _ empty_not_any_of rfl
  intro text member point head
  exact (plain point (any_of_opens_with text member point head)).2

theorem decimal_point_takes :
    ((character '.').attempt meaning .text).TakesLeading (anyOf ['.']) (fun _ => True)
      fun text _ => text = [('.' : CodePoint)] := by
  apply (character_takes_leading meaning '.').weaken (fun _ => id)
  rintro text ⟨point, listed, rfl⟩ value _
  rw [List.mem_singleton.mp listed]

/-- Of a point and digits the digits are kept, and then the point is put in front of them again. -/
theorem pointed_digits_take :
    (((digits.precededBy (character '.')).map (.prepend (.text ['.']))).attempt meaning .text).TakesLeading
      (anyOf ['.'] * digitRuns) (· ∈ exponentMarks) Shown := by
  have digitsTake := (digits_are_shown meaning).weaken exponent_mark_is_no_digit fun _ _ _ => id
  have pairTakes := (decimal_point_takes meaning).followed_by digitsTake (fun _ _ _ _ => trivial)
    fun _ _ _ => trivial
  have keptTakes : ((digits.precededBy (character '.')).attempt meaning .text).TakesLeading
      (anyOf ['.'] * digitRuns) (· ∈ exponentMarks)
      fun text value => ∃ run : Text, text = ('.' : CodePoint) :: run ∧ Shown run value := by
    apply pairTakes.map
    rintro _ _ _ ⟨_, run, left, right, rfl, rfl, rfl, shown⟩
    exact ⟨right, rfl, run, rfl, shown⟩
  apply keptTakes.map
  rintro _ _ _ ⟨run, rfl, rfl⟩
  exact ⟨_, rfl, rfl⟩

theorem fraction_takes :
    (fraction.attempt meaning .text).TakesLeading fractions (· ∈ exponentMarks) Shown := by
  have heads : OpensWith (anyOf ['.'] * digitRuns) (· ∈ [('.' : CodePoint)]) :=
    any_of_opens_with.followed_by empty_not_any_of
  have closed : ∀ point ∈ [('.' : CodePoint)], ¬ point ∈ exponentMarks := by decide
  exact (pointed_digits_take meaning).optional (heads.mono closed) (empty_not_mul empty_not_any_of) rfl

theorem exponent_mark_takes :
    ((oneOf ⟨['e', 'E'], by simp⟩).attempt meaning .text).TakesLeading (anyOf exponentMarks) (fun _ => True)
      fun text _ => text.map smallMark = [('e' : CodePoint)] := by
  apply (one_of_takes_leading meaning ⟨exponentMarks, by simp [exponentMarks]⟩).weaken (fun _ => id)
  rintro text ⟨point, listed, rfl⟩ value _
  rw [List.map_singleton, small_of_exponent_mark point listed]

/-- The mark itself is not kept, and a small letter is put in its place. -/
theorem marked_digits_take :
    (((((oneOf ⟨['e', 'E'], by simp⟩).followedBy optionalSign).followedBy digits).map
      joinExponent).attempt meaning .text).TakesLeading (anyOf exponentMarks * signMarks * digitRuns)
      (fun _ => False) Shown := by
  have signedTake := (exponent_mark_takes meaning).followed_by (optional_sign_takes meaning)
    (fun _ _ _ _ => trivial) fun _ _ _ => trivial
  have digitsTake := (digits_are_shown meaning).weaken (fun _ => False.elim) fun _ _ _ => id
  have tripleTakes := signedTake.followed_by digitsTake digit_run_opens_with
    fun empty => absurd empty empty_not_digit_run
  apply tripleTakes.map
  rintro _ _ _ ⟨_, run, _, _, rfl, rfl, ⟨mark, sign, _, _, rfl, rfl, small, rfl⟩, rfl⟩
  refine ⟨.text (('e' : CodePoint) :: sign.map smallMark ++ run.map smallMark), rfl, ?_⟩
  rw [Shown, List.map_append, List.map_append, small]
  rfl

theorem exponent_takes :
    (exponent.attempt meaning .text).TakesLeading exponents (fun _ => False) Shown :=
  (marked_digits_take meaning).optional (fun _ _ _ _ => id) (empty_not_mul (empty_not_mul empty_not_any_of)) rfl

theorem decimal_number_takes :
    (decimalNumber.attempt meaning .text).TakesLeading decimalNumerals (fun _ => False)
      fun text value => ∃ number, Numeral.readDecimal? (text.map smallMark) = some number ∧
        value = .float number := by
  have signedTake := (optional_sign_takes meaning).followed_by (digits_are_shown meaning)
    digit_run_opens_with fun empty => absurd empty empty_not_digit_run
  have partTake := signedTake.followed_by (fraction_takes meaning)
    (fractions_open_with_point.mono decimal_point_is_no_digit) fun _ => exponent_mark_is_no_digit
  have allTake := partTake.followed_by (exponent_takes meaning) exponents_open_with_mark
    fun _ _ => False.elim
  apply allTake.map
  rintro _ member _
    ⟨_, scale, _, _, rfl, rfl, ⟨_, part, _, _, rfl, rfl, ⟨sign, whole, _, _, rfl, rfl, rfl, rfl⟩, rfl⟩, rfl⟩
  obtain ⟨number, read⟩ := Numeral.decimal_numeral_is_read member
  refine ⟨.float number, ?_, number, read, rfl⟩
  have joined : toDouble (.text (sign.map smallMark ++ whole.map smallMark ++ part.map smallMark ++
      scale.map smallMark)) = .ok (.float number) := by
    simp only [← List.map_append, toDouble, read]
  exact congrArg Traced.ofExcept joined

/-- A decimal number matches where a decimal numeral stands in front. It takes the longest one, which
ends in a digit, and its value is the double that the numeral with a small mark of the exponent denotes.
On every text there is an outcome. -/
theorem decimal_number_takes_longest_numeral (scope : Scope) (budget : Nat) (source : Text) :
    ((∃ value rest, (decimalNumber.runWithin budget scope).Yields source value rest) ↔
      ∃ numeral ∈ decimalNumerals, numeral <+: source) ∧
    (∀ value rest, (decimalNumber.runWithin budget scope).Yields source value rest →
      ∃ numeral number, LongestPrefix decimalNumerals source numeral rest ∧ EndsInDigit numeral ∧
        Numeral.readDecimal? (numeral.map smallMark) = some number ∧ value = .float number) ∧
    ((∃ value rest, (decimalNumber.runWithin budget scope).Yields source value rest) ∨
      ∃ kind, (decimalNumber.runWithin budget scope).Refuses source kind) := by
  rcases decimal_number_takes (scope.meaning budget) source with
    ⟨numeral, rest, value, leads, ⟨number, read, rfl⟩, yields⟩ | ⟨absent, kind, refuses⟩
  · refine ⟨iff_of_true ⟨_, _, yields⟩ ⟨numeral, leads.member, rest, leads.parts⟩, ?_, Or.inl ⟨_, _, yields⟩⟩
    intro value left yieldsToo
    obtain ⟨rfl, rfl⟩ := yields.unique yieldsToo
    exact ⟨numeral, number, leads.longest_prefix, decimal_numeral_ends_in_digit leads.member, read, rfl⟩
  · refine ⟨iff_of_false ?_ ?_, ?_, Or.inr ⟨kind, refuses⟩⟩
    · rintro ⟨value, rest, yields⟩
      exact yields.not_refuses refuses
    · rintro ⟨numeral, member, leading⟩
      exact absent numeral member leading
    · intro value rest yields
      exact absurd refuses yields.not_refuses

end Grammar

end TextGrammar
