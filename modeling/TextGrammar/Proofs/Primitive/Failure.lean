import TextGrammar.Primitive.Unordered
import TextGrammar.Proofs.Attempt.Match
import TextGrammar.Proofs.Text.Occurrence

/-!
How primitives fail. Where a primitive fails its failure is known from the text alone, and the kind of
the failure tells whether there was any text: without any each primitive fails for want of input, and a
text that is there is a mismatch.
-/

namespace TextGrammar.Primitive

open Traced

variable {source : Text} {failure : Failure}

theorem character_failure {point expected : CodePoint}
    (failed : matchCharacter expected (point :: source) = .failed failure) :
    failure = notExpected (quotedPoint point) (Text.excerpt (point :: source)) expected := by
  simp only [matchCharacter] at failed
  split at failed
  · exact absurd failed (by simp)
  · exact (Outcome.failed.inj failed).symm

theorem span_failure {members : CodePointClass} (failed : matchSpan members source = .failed failure) :
    failure = noSpan members.description source := by
  unfold matchSpan at failed
  dsimp only at failed
  split at failed
  · exact (Outcome.failed.inj failed).symm
  · exact absurd failed (by simp)

theorem tested_span_failure {description : String} {test : Value → Traced Bool}
    (failed : (spanOfText description test source).result = .ok (.failed failure)) :
    failure = noSpan description source := by
  obtain ⟨span, _, afterwards⟩ := result_bind_eq_ok.mp failed
  split at afterwards
  · exact (Outcome.failed.inj (result_pure_eq_ok.mp afterwards)).symm
  · exact absurd (result_pure_eq_ok.mp afterwards) (by simp)

theorem literal_failure {word : Word} (nonempty : source ≠ [])
    (failed : matchLiteral word source = .failed failure) : failure = notFound word source := by
  unfold matchLiteral at failed
  rw [if_neg (by simpa using nonempty)] at failed
  split at failed
  · exact absurd failed (by simp)
  · exact (Outcome.failed.inj failed).symm

theorem up_to_failure {delimiter : Word} (failed : matchUpTo delimiter source = .failed failure) :
    failure = noDelimiter delimiter source := by
  unfold matchUpTo at failed
  split at failed
  · exact absurd failed (by simp)
  · exact (Outcome.failed.inj failed).symm

theorem through_failure {delimiter : Word} (failed : matchThrough delimiter source = .failed failure) :
    failure = noDelimiter delimiter source := by
  unfold matchThrough at failed
  split at failed
  · exact absurd failed (by simp)
  · exact (Outcome.failed.inj failed).symm

theorem no_span_mismatch (description : String) (some : source ≠ []) :
    (noSpan description source).kind = .mismatch := by
  unfold noSpan
  rw [if_neg (by simpa using some)]
  rfl

theorem no_delimiter_mismatch (delimiter : Word) (some : source ≠ []) :
    (noDelimiter delimiter source).kind = .mismatch :=
  if_neg (by simpa using some)

theorem no_delimiter_in_nothing (delimiter : Word) : Text.cut? delimiter.text [] = none := by
  rw [Text.cut_eq_none_iff, List.infix_nil]
  exact delimiter.nonempty

theorem leading_number_mismatch {shown : Option Text} (some : source ≠ [])
    (refused : leadingNumber shown source = .error failure) : failure.kind = .mismatch := by
  unfold leadingNumber at refused
  dsimp only at refused
  split at refused
  · obtain rfl := Except.error.inj refused
    exact no_span_mismatch _ some
  · split at refused
    · obtain rfl := Except.error.inj refused
      rfl
    · split at refused
      · exact absurd refused (by simp)
      · obtain rfl := Except.error.inj refused
        rfl

theorem integer_mismatch {bound : Option Bound} (some : source ≠ [])
    (failed : matchInteger bound source = .failed failure) : failure.kind = .mismatch := by
  unfold matchInteger at failed
  split at failed
  · rename_i refused
    obtain rfl := Outcome.failed.inj failed
    exact leading_number_mismatch some refused
  · split at failed
    · obtain rfl := Outcome.failed.inj failed
      rfl
    · exact absurd failed (by simp)

theorem unordered_mismatch {bound : Value} (some : source ≠ [])
    (failed : matchUnordered bound source = .ok (.failed failure)) : failure.kind = .mismatch := by
  unfold matchUnordered at failed
  split at failed
  · rename_i refused
    obtain rfl := Outcome.failed.inj (Except.ok.inj failed)
    exact leading_number_mismatch some refused
  · rename_i number rest read
    cases compared : (Value.int number).greater bound with
    | error reason => exact absurd failed (by simp [compared, bind, Except.bind])
    | ok above =>
        rw [compared] at failed
        cases above with
        | true =>
            obtain rfl := Outcome.failed.inj (Except.ok.inj failed)
            rfl
        | false => exact absurd failed (by simp [bind, Except.bind, pure, Except.pure])

end TextGrammar.Primitive
