import TextGrammar.Primitive.Unordered
import TextGrammar.Proofs.Attempt.Match

/-!
What the primitives for texts take. The value is the very text that stands between the
source and the rest, and so it is for spans of what passes a test. Whole numbers take
the digits that they are read from. Most primitives take something.
-/

namespace TextGrammar

open Traced

/-- The value is the text in front of the rest. -/
def Text.Takes (source : Text) (value : Value) (rest : Text) : Prop :=
  ∃ taken, value = .text taken ∧ source = taken ++ rest

theorem Text.Takes.suffix {source rest : Text} {value : Value} (takes : source.Takes value rest) :
    rest <:+ source := by
  obtain ⟨taken, _, parts⟩ := takes
  exact ⟨taken, parts.symm⟩

theorem Text.Takes.shorter {source rest : Text} {value : Value} (takes : source.Takes value rest)
    (something : value ≠ .text []) : rest.length < source.length := by
  obtain ⟨taken, rfl, rfl⟩ := takes
  have present : taken ≠ [] := fun nothing => something (congrArg Value.text nothing)
  have counted := List.length_pos_iff.mpr present
  rw [List.length_append]
  omega

namespace Primitive

theorem character_takes {expected : CodePoint} {source rest : Text} {value : Value}
    (answered : matchCharacter expected source = .matched value rest) : source.Takes value rest := by
  cases source with
  | nil => exact absurd answered (by simp [matchCharacter])
  | cons point text =>
      simp only [matchCharacter] at answered
      split at answered
      · obtain ⟨rfl, rfl⟩ := Outcome.matched.inj answered
        exact ⟨[point], rfl, rfl⟩
      · exact absurd answered (by simp)

theorem any_takes {source rest : Text} {value : Value}
    (answered : matchAny source = .matched value rest) : source.Takes value rest := by
  cases source with
  | nil => exact absurd answered (by simp [matchAny])
  | cons point text =>
      obtain ⟨rfl, rfl⟩ := Outcome.matched.inj answered
      exact ⟨[point], rfl, rfl⟩

theorem span_takes {members : CodePointClass} {source rest : Text} {value : Value}
    (answered : matchSpan members source = .matched value rest) : source.Takes value rest := by
  unfold matchSpan at answered
  dsimp only at answered
  split at answered
  · exact absurd answered (by simp)
  · obtain ⟨rfl, rfl⟩ := Outcome.matched.inj answered
    exact ⟨_, rfl, List.takeWhile_append_dropWhile.symm⟩

theorem literal_takes {word : Word} {source rest : Text} {value : Value}
    (answered : matchLiteral word source = .matched value rest) : source.Takes value rest := by
  unfold matchLiteral at answered
  split at answered
  · exact absurd answered (by simp)
  · split at answered
    · rename_i found
      obtain ⟨rfl, rfl⟩ := Outcome.matched.inj answered
      exact ⟨word.text, rfl, Text.after_eq_some.mp found⟩
    · exact absurd answered (by simp)

theorem up_to_takes {delimiter : Word} {source rest : Text} {value : Value}
    (answered : matchUpTo delimiter source = .matched value rest) : source.Takes value rest := by
  unfold matchUpTo at answered
  split at answered
  · rename_i before after found
    obtain ⟨rfl, rfl⟩ := Outcome.matched.inj answered
    have parts := Text.cut_parts found
    rw [List.append_assoc] at parts
    exact ⟨before, rfl, parts⟩
  · exact absurd answered (by simp)

theorem through_takes {delimiter : Word} {source rest : Text} {value : Value}
    (answered : matchThrough delimiter source = .matched value rest) : source.Takes value rest := by
  unfold matchThrough at answered
  split at answered
  · rename_i before after found
    obtain ⟨rfl, rfl⟩ := Outcome.matched.inj answered
    exact ⟨before ++ delimiter.text, rfl, Text.cut_parts found⟩
  · exact absurd answered (by simp)

theorem leading_number_takes {shown : Option Text} {source rest : Text} {number : Int}
    (read : leadingNumber shown source = .ok (number, rest)) :
    ∃ digits, digits ≠ [] ∧ source = digits ++ rest := by
  unfold leadingNumber at read
  dsimp only at read
  split at read
  · exact absurd read (by simp)
  · rename_i present
    split at read
    · exact absurd read (by simp)
    · split at read
      · obtain ⟨_, rfl⟩ := Prod.mk.inj (Except.ok.inj read)
        exact ⟨_, by simpa using present, List.takeWhile_append_dropWhile.symm⟩
      · exact absurd read (by simp)

theorem integer_takes {bound : Option Bound} {source rest : Text} {value : Value}
    (answered : matchInteger bound source = .matched value rest) :
    ∃ digits, digits ≠ [] ∧ source = digits ++ rest := by
  unfold matchInteger at answered
  split at answered
  · exact absurd answered (by simp)
  · rename_i number left read
    split at answered
    · exact absurd answered (by simp)
    · obtain ⟨_, rfl⟩ := Outcome.matched.inj answered
      exact leading_number_takes read

/-- A bound that is no number can fault the comparison, but it moves no rest. -/
theorem unordered_takes {bound : Value} {source rest : Text} {value : Value}
    (answered : (unordered bound .text).Matches source value rest) :
    ∃ digits, digits ≠ [] ∧ source = digits ++ rest := by
  have matched : matchUnordered bound source = .ok (.matched value rest) :=
    result_of_except_eq_ok.mp answered
  unfold matchUnordered at matched
  split at matched
  · exact absurd matched (by simp [pure, Except.pure])
  · rename_i number left read
    cases compared : (Value.int number).greater bound with
    | error reason => exact absurd matched (by simp [compared, bind, Except.bind])
    | ok above =>
        cases above with
        | true => exact absurd matched (by simp [compared, bind, Except.bind, pure, Except.pure])
        | false =>
            rw [compared] at matched
            obtain ⟨_, rfl⟩ := Outcome.matched.inj (Except.ok.inj matched)
            exact leading_number_takes read

/-- Whole numbers alone have values that are no texts. -/
def IsTextual : Primitive → Prop
  | integer _ => False
  | _ => True

theorem textual_takes {leaf : Primitive} (textual : leaf.IsTextual) {source rest : Text} {value : Value}
    (answered : (leaf.attempts .text).Matches source value rest) : source.Takes value rest := by
  have same : leaf.attempt source = .matched value rest := Attempt.matches_of_function.mp answered
  cases leaf with
  | character point => exact character_takes same
  | anyCharacter => exact any_takes same
  | span members => exact span_takes same
  | literal word => exact literal_takes same
  | textUpTo delimiter => exact up_to_takes same
  | textThrough delimiter => exact through_takes same
  | integer bound => exact textual.elim

theorem leading_span_parts {α : Type} {test : α → Traced Bool} {items : List α} {span : List α × List α}
    (result : (leadingSpan test items).result = .ok span) : items = span.1 ++ span.2 := by
  induction items generalizing span with
  | nil =>
      obtain rfl := result_pure_eq_ok.mp result
      rfl
  | cons item items induction =>
      unfold leadingSpan at result
      obtain ⟨passed, _, later⟩ := result_bind_eq_ok.mp result
      cases passed with
      | true =>
          obtain ⟨rest, spanned, same⟩ := result_bind_eq_ok.mp later
          obtain rfl := result_pure_eq_ok.mp same
          exact congrArg (item :: ·) (induction spanned)
      | false =>
          obtain rfl := result_pure_eq_ok.mp later
          rfl

theorem span_of_takes {description : String} {test : Value → Traced Bool} {source rest : Text} {value : Value}
    (answered : (spanOf description test .text).Matches source value rest) : source.Takes value rest := by
  obtain ⟨span, spanned, later⟩ := result_bind_eq_ok.mp answered
  split at later
  · exact absurd (result_pure_eq_ok.mp later) (by simp)
  · obtain ⟨rfl, rfl⟩ := Outcome.matched.inj (result_pure_eq_ok.mp later)
    exact ⟨span.1, rfl, leading_span_parts spanned⟩

theorem shorter_of_digits {source rest : Text} (taken : ∃ digits, digits ≠ [] ∧ source = digits ++ rest) :
    rest.length < source.length := by
  obtain ⟨digits, present, rfl⟩ := taken
  have counted := List.length_pos_iff.mpr present
  rw [List.length_append]
  omega

/-- Only the text up to a delimiter can be empty. -/
theorem value_is_something {leaf : Primitive} (other : ∀ delimiter, leaf ≠ textUpTo delimiter)
    {source rest : Text} {value : Value} (answered : leaf.attempt source = .matched value rest) :
    value ≠ .text [] := by
  cases leaf with
  | character point =>
      cases source with
      | nil => exact absurd answered (by simp [attempt, matchCharacter])
      | cons first text =>
          simp only [attempt, matchCharacter] at answered
          split at answered
          · obtain ⟨rfl, _⟩ := Outcome.matched.inj answered
            simp
          · exact absurd answered (by simp)
  | anyCharacter =>
      cases source with
      | nil => exact absurd answered (by simp [attempt, matchAny])
      | cons first text =>
          obtain ⟨rfl, _⟩ := Outcome.matched.inj answered
          simp
  | span members =>
      simp only [attempt, matchSpan] at answered
      split at answered
      · exact absurd answered (by simp)
      · rename_i present
        obtain ⟨rfl, _⟩ := Outcome.matched.inj answered
        simpa using present
  | literal word =>
      simp only [attempt, matchLiteral] at answered
      split at answered
      · exact absurd answered (by simp)
      · split at answered
        · obtain ⟨rfl, _⟩ := Outcome.matched.inj answered
          simpa using word.nonempty
        · exact absurd answered (by simp)
  | textUpTo delimiter => exact absurd rfl (other delimiter)
  | textThrough delimiter =>
      simp only [attempt, matchThrough] at answered
      split at answered
      · obtain ⟨rfl, _⟩ := Outcome.matched.inj answered
        simp [delimiter.nonempty]
      · exact absurd answered (by simp)
  | integer bound =>
      simp only [attempt, matchInteger] at answered
      split at answered
      · exact absurd answered (by simp)
      · split at answered
        · exact absurd answered (by simp)
        · obtain ⟨rfl, _⟩ := Outcome.matched.inj answered
          simp

theorem leaf_shortens {leaf : Primitive} (other : ∀ delimiter, leaf ≠ textUpTo delimiter) :
    (leaf.attempts .text).Leaves fun rest source => rest.length < source.length := by
  intro source value rest answered
  have same : leaf.attempt source = .matched value rest := Attempt.matches_of_function.mp answered
  cases leaf with
  | integer bound => exact shorter_of_digits (integer_takes same)
  | _ =>
      refine (textual_takes ?_ answered).shorter (value_is_something other same)
      trivial

theorem span_of_shortens (description : String) (test : Value → Traced Bool) :
    (spanOf description test .text).Leaves fun rest source => rest.length < source.length := by
  intro source value rest answered
  apply (span_of_takes answered).shorter
  obtain ⟨span, _, later⟩ := result_bind_eq_ok.mp answered
  split at later
  · exact absurd (result_pure_eq_ok.mp later) (by simp)
  · rename_i present
    obtain ⟨rfl, _⟩ := Outcome.matched.inj (result_pure_eq_ok.mp later)
    simpa using present

end Primitive

end TextGrammar
