import TextGrammar.Proofs.Attempt.Miss
import TextGrammar.Proofs.Grammar.Answer
import TextGrammar.Proofs.Repetition.Progress
import TextGrammar.Proofs.Repetition.Rounds
import TextGrammar.Proofs.Suffix

/-!
Repetitions with a separator as compositions. The composition repeats pairs of an element and a
separator and then takes one more element if there is one. It tries the last element twice, once in a
pair that fails, while the loop with the separator keeps it and stops. Both come to the same values
and leave the same text, provided that elements take something and separators give nothing back.
-/

namespace TextGrammar

open Traced

namespace Repetition

variable {element separator : Attempt Text} {source middle next : Text} {value skipped : Value}
  {failure : Failure} {reason : Halt}

section

variable {gap : Option (Attempt Text)}

theorem run_result_of_halt (halted : (element source).result = .error reason) :
    (run Medium.text.size element gap source).result = .error reason := by
  rw [run_eq_round]
  exact result_bind_of_error halted _

theorem run_result_of_failure (failed : (element source).result = .ok (.failed failure)) :
    (run Medium.text.size element gap source).result = .ok ⟨[], source, .failed failure⟩ := by
  rw [run_eq_round]
  exact result_bind_of_ok failed _

theorem run_result_of_gap_halt (matched : element.Matches source value middle)
    (halted : (afterElement gap middle).result = .error reason) :
    (run Medium.text.size element gap source).result = .error reason := by
  rw [run_eq_round, result_bind_of_ok matched]
  exact result_bind_of_error halted _

theorem run_result_of_step (matched : element.Matches source value middle) {separated : Bool}
    (behind : (afterElement gap middle).result = .ok (next, separated)) (shorter : next.length < source.length) :
    (run Medium.text.size element gap source).result =
      if separated then
        (fun later => { later with values := value :: later.values }) <$>
          (run Medium.text.size element gap next).result
      else .ok ⟨[value], next, .unseparated⟩ := by
  rw [run_eq_round, result_bind_of_ok matched]
  dsimp only
  rw [result_bind_of_ok behind]
  rw [conclude_round_of_text, if_pos shorter]
  cases separated with
  | false => rfl
  | true => exact result_bind_pure _ _

end

/-- An element with a separator behind it, of which the element's value is kept. -/
def pair (element separator : Attempt Text) : Attempt Text :=
  (element.followedBy separator).map fun value => ofExcept (Transformer.first.apply value)

theorem pair_of_halt (halted : (element source).result = .error reason) :
    (pair element separator source).result = .error reason :=
  Attempt.on_match_of_halt (Attempt.on_match_of_halt halted _) _

theorem pair_of_failure (failed : (element source).result = .ok (.failed failure)) :
    (pair element separator source).result = .ok (.failed failure) :=
  Attempt.on_match_of_failure (Attempt.on_match_of_failure failed _) _

section

variable (matched : element.Matches source value middle)

include matched

theorem pair_of_separator_halt (halted : (separator middle).result = .error reason) :
    (pair element separator source).result = .error reason := by
  apply Attempt.on_match_of_halt
  unfold Attempt.followedBy
  rw [Attempt.on_match_of_match matched, Attempt.on_match_of_halt halted]

theorem pair_of_separator_failure (failed : (separator middle).result = .ok (.failed failure)) :
    (pair element separator source).result = .ok (.failed failure) := by
  apply Attempt.on_match_of_failure
  unfold Attempt.followedBy
  rw [Attempt.on_match_of_match matched, Attempt.on_match_of_failure failed]

theorem pair_matches (separated : separator.Matches middle skipped next) :
    (pair element separator).Matches source value next :=
  Attempt.map_matches.mpr
    ⟨_, Attempt.followed_by_matches.mpr ⟨value, skipped, middle, matched, separated, rfl⟩, rfl⟩

end

/-- What a row of elements comes to: the values of those with a separator behind them, that of a
final one without a separator if there is one, and what is left. -/
structure Row where
  separated : List Value
  final : Option Value
  rest : Text

namespace Row

def elements (row : Row) : List Value := row.separated ++ row.final.toList

/-- The row of the values and what one more element came to. -/
def ending (separated : List Value) (source : Text) : Outcome Text → Row
  | .matched value rest => ⟨separated, some value, rest⟩
  | .failed _ => ⟨separated, none, source⟩

def cons (value : Value) (row : Row) : Row := { row with separated := value :: row.separated }

theorem cons_ending (value : Value) (separated : List Value) (source : Text) (outcome : Outcome Text) :
    (ending separated source outcome).cons value = ending (value :: separated) source outcome := by
  cases outcome <;> rfl

end Row

/-- The pairs and then one more element, as far as they are there. -/
def composed (element separator : Attempt Text) (source : Text) : Except Halt Row := do
  let pairs ← (run Medium.text.size (pair element separator) none source).result
  let outcome ← (element pairs.rest).result
  return .ending pairs.values pairs.rest outcome

theorem composed_of_halt (halted : (pair element separator source).result = .error reason) :
    composed element separator source = .error reason := by
  unfold composed
  rw [run_result_of_halt halted]
  rfl

theorem composed_of_failure (failed : (pair element separator source).result = .ok (.failed failure))
    {outcome : Outcome Text} (answered : (element source).result = .ok outcome) :
    composed element separator source = .ok (.ending [] source outcome) := by
  unfold composed
  rw [run_result_of_failure failed]
  simp only [bind, Except.bind, answered]
  rfl

theorem composed_of_pair (matched : (pair element separator).Matches source value next)
    (shorter : next.length < source.length) :
    composed element separator source = Row.cons value <$> composed element separator next := by
  have nothing : (afterElement none next : Traced (Text × Bool)).result = .ok (next, true) := rfl
  unfold composed
  rw [run_result_of_step matched nothing shorter, if_pos rfl, bind_map_left]
  simp only [map_bind, map_pure, Row.cons_ending]

/-- The values of a course and what it left. -/
def outline (course : Repetition Text) : List Value × Text := (course.values, course.rest)

/-- The loop and the composition come to the same row, and they halt alike. -/
theorem run_is_composed
    (shortens : element.Leaves fun rest source => rest.length < source.length)
    (keeps : separator.Leaves fun rest source => rest.length ≤ source.length) (source : Text) :
    outline <$> (run Medium.text.size element (some separator) source).result =
      (fun row => (row.elements, row.rest)) <$> composed element separator source := by
  cases begun : (element source).result with
  | error reason =>
      rw [run_result_of_halt begun, composed_of_halt (pair_of_halt begun)]
      rfl
  | ok outcome =>
      cases outcome with
      | failed failure =>
          rw [run_result_of_failure begun, composed_of_failure (pair_of_failure begun) begun]
          rfl
      | matched value middle =>
          have progress := shortens source value middle begun
          cases ended : (separator middle).result with
          | error reason =>
              have behind : (afterElement (some separator) middle).result = .error reason :=
                result_bind_of_error ended _
              rw [run_result_of_gap_halt begun behind, composed_of_halt (pair_of_separator_halt begun ended)]
              rfl
          | ok other =>
              cases other with
              | failed failure =>
                  -- The loop keeps the element; the composition runs it once more.
                  have behind : (afterElement (some separator) middle).result = .ok (middle, false) :=
                    result_bind_of_ok ended _
                  rw [run_result_of_step begun behind progress,
                    composed_of_failure (pair_of_separator_failure begun ended) begun]
                  rfl
              | matched skipped next =>
                  have shorter := Nat.lt_of_le_of_lt (keeps middle skipped next ended) progress
                  have behind : (afterElement (some separator) middle).result = .ok (next, true) :=
                    result_bind_of_ok ended _
                  have later := congrArg (fun found => (fun row => (value :: row.1, row.2)) <$> found)
                    (run_is_composed shortens keeps next)
                  rw [Functor.map_map, Functor.map_map] at later
                  rw [run_result_of_step begun behind shorter, if_pos rfl, Functor.map_map,
                    composed_of_pair (pair_matches begun ended) shorter, Functor.map_map]
                  exact later
termination_by source.length

theorem conclude_result (name : String) (course : Repetition Text) :
    (course.conclude name false).result = .ok (.matched (.list course.values) course.rest) := by
  cases course with
  | mk values rest stop => cases stop <;> rfl

theorem repeated_result (name : String) (gap : Option (Attempt Text)) (source : Text) :
    (Attempt.repeated name Medium.text.size element gap false source).result =
      (fun course : Repetition Text => .matched (.list course.values) course.rest) <$>
        (run Medium.text.size element gap source).result := by
  unfold Attempt.repeated
  rw [result_bind, map_eq_pure_bind]
  simp only [conclude_result]
  rfl

theorem optional_result (nothing : Value) (source : Text) :
    (element.optional nothing source).result =
      (fun outcome => .matched ((Row.ending [] source outcome).final.getD nothing)
        (Row.ending [] source outcome).rest) <$> (element source).result := by
  unfold Attempt.optional
  rw [result_bind, map_eq_pure_bind]
  apply congrArg ((element source).result >>= ·)
  funext outcome
  cases outcome <;> rfl

/-- The outcome of the composition, with a value that stands for a final element that is not there. -/
theorem composition_result (name : String) (nothing : Value) (source : Text) :
    ((Attempt.repeated name Medium.text.size (pair element separator) none false).followedBy
        (element.optional nothing) source).result =
      (fun row => .matched (.tuple [.list row.separated, row.final.getD nothing]) row.rest) <$>
        composed element separator source := by
  unfold Attempt.followedBy Attempt.onMatch composed
  rw [result_bind, repeated_result, bind_map_left, map_bind]
  apply congrArg ((run Medium.text.size (pair element separator) none source).result >>= ·)
  funext pairs
  simp only [result_bind, optional_result, bind_map_left, map_bind, map_pure]
  apply congrArg ((element pairs.rest).result >>= ·)
  funext outcome
  cases outcome <;> rfl

/-- With a value the need of one makes no difference. -/
theorem repeated_needs {gap : Option (Attempt Text)} {name other : String} {values : List Value} {rest : Text} :
    (Attempt.repeated name Medium.text.size element gap true).Matches source (.list values) rest ↔
      values ≠ [] ∧ (Attempt.repeated other Medium.text.size element gap false).Matches source (.list values) rest := by
  constructor
  · intro matched
    obtain ⟨course, repeated, same, rfl, counted⟩ := Attempt.repeated_concludes matched
    obtain rfl := Value.list.inj same
    refine ⟨counted rfl, ?_⟩
    unfold Attempt.Matches
    rw [repeated_result, repeated]
    rfl
  · rintro ⟨counted, matched⟩
    obtain ⟨course, repeated, same, rfl, _⟩ := Attempt.repeated_concludes matched
    obtain rfl := Value.list.inj same
    unfold Attempt.Matches Attempt.repeated
    rw [result_bind_of_ok repeated]
    have some : course.values.isEmpty = false := by simpa using counted
    unfold conclude
    simp only [some, Bool.and_false, Bool.false_eq_true, if_false]
    cases course.stop <;> rfl

theorem conclude_fails (name : String) {words : Text} (shown : failure.message.display? = .ok words)
    (rest : Text) :
    ∃ refused, (conclude name true ⟨[], rest, .failed failure⟩).result = .ok (.failed refused) := by
  simp only [conclude, warn, noElement, shown]
  exact ⟨_, rfl⟩

section

variable (shortens : element.Leaves fun rest source => rest.length < source.length)
  (keeps : separator.Leaves fun rest source => rest.length ≤ source.length)

include shortens keeps

/-- Where an element matches a value is kept. -/
theorem failure_of_no_values {course : Repetition Text}
    (answered : (run Medium.text.size element (some separator) source).result = .ok course)
    (nothing : course.values = []) :
    ∃ failure, (element source).result = .ok (.failed failure) ∧ course.stop = .failed failure := by
  have keepsAll : ∀ attempt ∈ some separator,
      attempt.Leaves fun rest source => rest.length ≤ source.length := by
    rintro attempt ⟨rfl⟩
    exact keeps
  rw [run_keeps_values shortens keepsAll] at answered
  obtain ⟨outcome, begun, afterwards⟩ := result_bind_eq_ok.mp answered
  cases outcome with
  | failed failure =>
      obtain rfl := result_pure_eq_ok.mp afterwards
      exact ⟨failure, begun, rfl⟩
  | matched value middle =>
      obtain ⟨behind, _, counted⟩ := result_bind_eq_ok.mp afterwards
      exact absurd nothing (keep_value_counts counted)

theorem repeated_fails
    (shown : ∀ failure, (element source).result = .ok (.failed failure) →
      ∃ words, failure.message.display? = .ok words)
    {name other : String} {rest : Text}
    (matched : (Attempt.repeated other Medium.text.size element (some separator) false).Matches source (.list [])
      rest) :
    Attempt.Fails (Attempt.repeated name Medium.text.size element (some separator) true) source := by
  obtain ⟨⟨values, left, stop⟩, repeated, same, rfl, _⟩ := Attempt.repeated_concludes matched
  obtain rfl : [] = values := Value.list.inj same
  obtain ⟨failure, failed, rfl⟩ := failure_of_no_values shortens keeps repeated rfl
  obtain ⟨words, display⟩ := shown failure failed
  unfold Attempt.Fails Attempt.repeated
  rw [result_bind_of_ok repeated]
  exact conclude_fails name display rest

end

end Repetition

namespace Grammar

/-- Pairs of an element and a separator, and then one more element, or the value that stands for
none. -/
def composition (element separator : Grammar) (nothing : Value) : Grammar :=
  ((element.skipping separator).many false).followedBy (element.optional nothing)

/-- The composition takes the values and then the final element or nothing, whatever value stands for
nothing. -/
def TakesRow (meaning : Reference → Attempts) (element separator : Grammar) (source : Text)
    (values : List Value) (final : Option Value) (rest : Text) : Prop :=
  ∀ nothing, ((composition element separator nothing).attempt meaning .text).Matches source
    (.tuple [.list values, final.getD nothing]) rest

section

variable (meaning : Reference → Attempts) (element separator : Grammar)

/-- How the two repetitions with a separator go by what the composition does. The failure without a
value quotes the message of the element, which has to have a display form, as every text has. -/
structure GoesByComposition (source : Text) : Prop where
  matched : ∀ values rest,
    ((element.separatedBy separator false).attempt meaning .text).Matches source (.list values) rest ↔
      ∃ row final, values = row ++ final.toList ∧ TakesRow meaning element separator source row final rest
  halted : ∀ reason,
    ((element.separatedBy separator false).attempt meaning .text source).result = .error reason ↔
      ∀ nothing, ((composition element separator nothing).attempt meaning .text source).result = .error reason
  needed : ∀ values rest,
    ((element.separatedBy separator true).attempt meaning .text).Matches source (.list values) rest ↔
      values ≠ [] ∧
        ((element.separatedBy separator false).attempt meaning .text).Matches source (.list values) rest
  missing :
    (∀ failure, (element.attempt meaning .text source).result = .ok (.failed failure) →
      ∃ words, failure.message.display? = .ok words) →
    ∀ rest, ((element.separatedBy separator false).attempt meaning .text).Matches source (.list []) rest →
      ((element.separatedBy separator true).attempt meaning .text).Fails source

/-- What the composition does in terms of the row of elements. -/
theorem composition_course (nothing : Value) (source : Text) :
    ((composition element separator nothing).attempt meaning .text source).result =
      (fun row => .matched (.tuple [.list row.separated, row.final.getD nothing]) row.rest) <$>
        Repetition.composed (element.attempt meaning .text) (separator.attempt meaning .text) source :=
  Repetition.composition_result _ nothing source

/-- What the repetition does in the same terms. -/
theorem separated_course
    (shortens : (element.attempt meaning .text).Leaves fun rest source => rest.length < source.length)
    (keeps : (separator.attempt meaning .text).Leaves fun rest source => rest.length ≤ source.length)
    (source : Text) :
    ((element.separatedBy separator false).attempt meaning .text source).result =
      (fun row => .matched (.list row.elements) row.rest) <$>
        Repetition.composed (element.attempt meaning .text) (separator.attempt meaning .text) source := by
  have course := congrArg (fun found => (fun row => Outcome.matched (.list row.1) row.2) <$> found)
    (Repetition.run_is_composed shortens keeps source)
  rw [Functor.map_map, Functor.map_map] at course
  exact (Repetition.repeated_result _ _ source).trans course

end

/-- A final element is told apart from the values that can stand for none. -/
theorem final_unique {one two : Option Value} (same : ∀ nothing : Value, one.getD nothing = two.getD nothing) :
    one = two := by
  cases one with
  | none =>
      cases two with
      | none => rfl
      | some value => exact absurd ((same .null).trans (same (.bool true)).symm) (by simp)
  | some value =>
      cases two with
      | none => exact absurd ((same .null).symm.trans (same (.bool true))) (by simp)
      | some other => exact congrArg some (same .null)

variable {meaning : Reference → Attempts} {element separator : Grammar} {source : Text}

theorem takes_row_iff {values : List Value} {final : Option Value} {rest : Text} :
    TakesRow meaning element separator source values final rest ↔
      Repetition.composed (element.attempt meaning .text) (separator.attempt meaning .text) source =
        .ok ⟨values, final, rest⟩ := by
  unfold TakesRow Attempt.Matches
  simp only [composition_course]
  cases Repetition.composed (element.attempt meaning .text) (separator.attempt meaning .text) source with
  | error reason =>
      refine iff_of_false ?_ (by simp)
      intro takes
      cases takes .null
  | ok row =>
      constructor
      · intro takes
        have fields (nothing : Value) := Outcome.matched.inj (Except.ok.inj (takes nothing))
        have pairs (nothing : Value) := List.cons.inj (Value.tuple.inj (fields nothing).1)
        obtain rfl := Value.list.inj (pairs .null).1
        obtain rfl := (fields .null).2
        obtain rfl := final_unique fun nothing => (List.cons.inj (pairs nothing).2).1
        rfl
      · rintro ⟨rfl⟩ nothing
        rfl

/-- An attempt that answers every text has a response. -/
theorem exists_response {attempt : Attempt Text} (answers : ∀ text, ∃ outcome, (attempt text).result = .ok outcome) :
    ∃ response : Response, attempt = response.attempt := by
  refine ⟨⟨fun text => (attempt text).log, fun text => (answers text).choose⟩, ?_⟩
  funext text
  exact congrArg (Traced.mk _) (answers text).choose_spec

/-- A repetition with a separator takes what its composition takes, provided that every match of the
element takes something and what a separator leaves is a suffix. The values are those of the pairs and
that of the final element. Where a value is needed, the same values are taken if there is one, and
without one the repetition fails. Parts that answer every text lead to a match. -/
theorem separated_is_composition (meaning : Reference → Attempts) (element separator : Grammar)
    (shortens : (element.attempt meaning .text).Leaves fun rest source => rest.length < source.length)
    (suffixes : Attempts.LeaveSuffixes (separator.attempt meaning)) (source : Text) :
    GoesByComposition meaning element separator source ∧
      ((∀ text, ∃ outcome, (element.attempt meaning .text text).result = .ok outcome) →
        (∀ text, ∃ outcome, (separator.attempt meaning .text text).result = .ok outcome) →
          ∃ values rest,
            ((element.separatedBy separator false).attempt meaning .text).Matches source (.list values) rest) := by
  have keeps : (separator.attempt meaning .text).Leaves fun rest source => rest.length ≤ source.length :=
    fun source value rest matched => (suffixes source value rest matched).length_le
  have course := separated_course meaning element separator shortens keeps source
  refine ⟨?_, ?_⟩
  · refine {
      matched := ?_
      halted := ?_
      needed := fun values rest => Repetition.repeated_needs
      missing := fun shown rest => Repetition.repeated_fails shortens keeps shown }
    · intro values rest
      simp only [takes_row_iff, Attempt.Matches, course]
      cases Repetition.composed (element.attempt meaning .text) (separator.attempt meaning .text) source with
      | error reason => exact iff_of_false (by rintro ⟨⟩) (by simp)
      | ok row =>
          constructor
          · intro matched
            obtain ⟨same, rfl⟩ := Outcome.matched.inj (Except.ok.inj matched)
            obtain rfl := Value.list.inj same
            exact ⟨row.separated, row.final, rfl, rfl⟩
          · rintro ⟨values, final, rfl, ⟨rfl⟩⟩
            rfl
    · intro reason
      simp only [composition_course, course]
      cases Repetition.composed (element.attempt meaning .text) (separator.attempt meaning .text) source with
      | error given => exact ⟨fun halted _ => halted, fun halted => halted .null⟩
      | ok row =>
          refine iff_of_false (by rintro ⟨⟩) ?_
          intro halted
          cases halted .null
  · intro elementAnswers separatorAnswers
    obtain ⟨elementResponse, elementSame⟩ := exists_response elementAnswers
    obtain ⟨separatorResponse, separatorSame⟩ := exists_response separatorAnswers
    obtain ⟨last, _, _, matched, _⟩ := repetition_follows_rounds meaning element (some separator)
      ⟨elementResponse, some separatorResponse⟩ source elementSame (congrArg some separatorSame)
    exact ⟨_, _, congrArg Traced.result matched⟩

/-- Behind the last number no comma follows, so the composition reads that number once more. -/
theorem last_number_is_read_again :
    ((integer none).attempt (Scope.provided.meaning 0) .text).Leaves
        (fun rest source => rest.length < source.length) ∧
      Attempts.LeaveSuffixes ((character ',').attempt (Scope.provided.meaning 0)) ∧
      TakesRow (Scope.provided.meaning 0) (integer none) (character ',') (Text.ofString "1,2x") [.int 1]
        (some (.int 2)) (Text.ofString "x") ∧
      (((integer none).separatedBy (character ',') true).runWithin 0 Scope.provided).Matches
        (Text.ofString "1,2x") (.list [.int 1, .int 2]) (Text.ofString "x") := by
  have shortens : ((integer none).attempt (Scope.provided.meaning 0) .text).Leaves
      fun rest source => rest.length < source.length := Primitive.leaf_shortens (by simp)
  have suffixes : Attempts.LeaveSuffixes ((character ',').attempt (Scope.provided.meaning 0)) :=
    Primitive.attempts_leave_suffixes _
  have one : ((integer none).attempt (Scope.provided.meaning 0) .text).Yields (Text.ofString "1,2x") (.int 1)
      (Text.ofString ",2x") := rfl
  have two : ((integer none).attempt (Scope.provided.meaning 0) .text).Yields (Text.ofString "2x") (.int 2)
      (Text.ofString "x") := rfl
  have comma : ((character ',').attempt (Scope.provided.meaning 0) .text).Yields (Text.ofString ",2x")
      (.text [',']) (Text.ofString "2x") := rfl
  have noComma : ((character ',').attempt (Scope.provided.meaning 0) .text).Refuses (Text.ofString "x")
      .mismatch := ⟨_, rfl⟩
  obtain ⟨failure, stopped⟩ := Repetition.run_of_refusal (two.followed_by_refusal noComma).map
  have pairs := Repetition.run_of_step (skipping_yields one comma) (by decide) stopped
  have takes : TakesRow (Scope.provided.meaning 0) (integer none) (character ',') (Text.ofString "1,2x")
      [.int 1] (some (.int 2)) (Text.ofString "x") := by
    intro nothing
    have row : ((((integer none).skipping (character ',')).many false).attempt (Scope.provided.meaning 0)
        .text).Yields (Text.ofString "1,2x") (.list [.int 1]) (Text.ofString "2x") :=
      Repetition.repeated_yields pairs (by simp)
    exact congrArg Traced.result (row.followed_by (two.optional nothing))
  have separated := separated_is_composition _ _ _ shortens suffixes (Text.ofString "1,2x")
  have found := (separated.1.matched [.int 1, .int 2] (Text.ofString "x")).mpr ⟨_, _, rfl, takes⟩
  exact ⟨shortens, suffixes, takes, (separated.1.needed _ _).mpr ⟨by simp, found⟩⟩

end Grammar

end TextGrammar
