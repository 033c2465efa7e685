import TextGrammar.Grammar.Combinator
import TextGrammar.Proofs.Attempt.Row
import TextGrammar.Scope

/-!
Grammars in a row, put in brackets two by two. Every way of bracketing them runs the same grammars one
after another from the left, so nothing but the nesting of the pairs depends on it. The values that the
pairs hold are found by going down along the brackets, since a value may be a pair itself.
-/

namespace TextGrammar

open Traced

/-- Grammars in brackets. What stands in a pair of brackets is one grammar followed by another. -/
inductive Bracketing where
  | single (grammar : Grammar)
  | pair (first second : Bracketing)

namespace Bracketing

def grammar : Bracketing → Grammar
  | single grammar => grammar
  | pair first second => first.grammar.followedBy second.grammar

/-- The grammars without the brackets. -/
def row : Bracketing → List Grammar
  | single grammar => [grammar]
  | pair first second => first.row ++ second.row

/-- The values inside the pairs that the brackets make. -/
def flatten? : Bracketing → Value → Option (List Value)
  | single _, value => some [value]
  | pair first second, .tuple [one, two] => do return (← first.flatten? one) ++ (← second.flatten? two)
  | pair _ _, _ => none

theorem flatten_pair {first second : Bracketing} {one two : Value} {values others : List Value}
    (flat : first.flatten? one = some values) (flatToo : second.flatten? two = some others) :
    (first.pair second).flatten? (.tuple [one, two]) = some (values ++ others) := by
  simp only [flatten?, flat, flatToo]
  rfl

/-- The outcome is that of the row, with the values nested as the brackets have them. -/
inductive Nests {σ : Type} (bracketing : Bracketing) : Outcome σ → Except Failure (List Value × σ) → Prop
  | matched {value : Value} {values : List Value} (flat : bracketing.flatten? value = some values) (rest : σ) :
      Nests bracketing (.matched value rest) (.ok (values, rest))
  | failed (failure : Failure) : Nests bracketing (.failed failure) (.error failure)

section

variable (meaning : Reference → Attempts) (medium : Medium)

def attempts (bracketing : Bracketing) : List (Attempt medium.Source) :=
  bracketing.row.map fun grammar => grammar.attempt meaning medium

/-- A bracketing runs its row: it logs the same and halts alike, and the first failure of the row is
its own. -/
theorem runs_row (bracketing : Bracketing) (source : medium.Source) :
    Corresponds bracketing.Nests (bracketing.grammar.attempt meaning medium source)
      (Attempt.inOrder (bracketing.attempts meaning medium) source) := by
  induction bracketing generalizing source with
  | single grammar =>
      rw [Bracketing.grammar, ← Traced.bind_pure (grammar.attempt meaning medium source)]
      have run : Corresponds Eq (grammar.attempt meaning medium source)
          (grammar.attempt meaning medium source) := .self fun _ _ => rfl
      apply run.bind
      intro outcome _ same
      subst same
      cases outcome with
      | failed failure => exact .of_pure (.failed failure)
      | matched value rest => exact .of_pure (.matched rfl rest)
  | pair first second induction inductionToo =>
      have parts : (first.pair second).attempts meaning medium =
          first.attempts meaning medium ++ second.attempts meaning medium := List.map_append
      rw [parts, Attempt.in_order_append]
      apply Corresponds.bind (induction source)
      intro outcome row nests
      cases nests with
      | failed failure => exact .of_pure (.failed failure)
      | matched flat middle =>
          apply Corresponds.bind (inductionToo middle)
          intro other later nests
          cases nests with
          | failed failure => exact .of_pure (.failed failure)
          | matched flatToo rest => exact .of_pure (.matched (flatten_pair flat flatToo) rest)

/-- How two bracketings answer that have the same row. -/
inductive AnswerAlike (one two : Bracketing) (source : medium.Source) : Prop
  /-- Both match, and the values inside are those of the row. -/
  | matched {value other : Value} {values : List Value} {rest : medium.Source}
      (row : (Attempt.inOrder (one.attempts meaning medium) source).result = .ok (.ok (values, rest)))
      (first : (one.grammar.attempt meaning medium).Matches source value rest)
      (second : (two.grammar.attempt meaning medium).Matches source other rest)
      (flat : one.flatten? value = some values) (flatToo : two.flatten? other = some values)
  /-- Both fail as the first grammar of the row that fails does. -/
  | failed {failure : Failure}
      (row : Attempt.FirstFailure (one.attempts meaning medium) source failure)
      (first : (one.grammar.attempt meaning medium source).result = .ok (.failed failure))
      (second : (two.grammar.attempt meaning medium source).result = .ok (.failed failure))
  | halted {reason : Halt} (first : (one.grammar.attempt meaning medium source).result = .error reason)
      (second : (two.grammar.attempt meaning medium source).result = .error reason)

theorem answer_alike {one two : Bracketing} (same : one.row = two.row) (source : medium.Source) :
    (one.grammar.attempt meaning medium source).log = (two.grammar.attempt meaning medium source).log ∧
      AnswerAlike meaning medium one two source := by
  have first := one.runs_row meaning medium source
  have second := two.runs_row meaning medium source
  have attempts : two.attempts meaning medium = one.attempts meaning medium :=
    congrArg (List.map _) same.symm
  rw [attempts] at second
  refine ⟨first.log_eq.trans second.log_eq.symm, ?_⟩
  cases row : (Attempt.inOrder (one.attempts meaning medium) source).result with
  | error reason => exact .halted (first.result_of_error row) (second.result_of_error row)
  | ok found =>
      obtain ⟨outcome, answered, nests⟩ := first.result_of_ok row
      obtain ⟨other, answeredToo, nestsToo⟩ := second.result_of_ok row
      cases nests with
      | failed failure =>
          cases nestsToo with
          | failed => exact .failed (Attempt.in_order_failure row) answered answeredToo
      | matched flat rest =>
          cases nestsToo with
          | matched flatToo => exact .matched row answered answeredToo flat flatToo

end

end Bracketing

namespace Grammar

variable (meaning : Reference → Attempts) (medium : Medium)

theorem between_is_skipping (left content right : Grammar) :
    (between left content right).attempt meaning medium =
      ((content.precededBy left).skipping right).attempt meaning medium := by
  simp only [between, precededBy, skipping, attempt, Attempt.map, Attempt.followedBy, Attempt.on_match_on_match]
  rfl

theorem split_is_preceded (left separator right : Grammar) :
    (split left separator right).attempt meaning medium =
      (left.followedBy (right.precededBy separator)).attempt meaning medium := by
  simp only [split, precededBy, skipping, attempt, Attempt.map, Attempt.followedBy, Attempt.on_match_on_match]
  rfl

end Grammar

namespace Bracketing

/-- How grammars in a row are bracketed is of no account, and neither is in which order the values are left
out that are not kept. -/
theorem sequencing_is_associative (meaning : Reference → Attempts) (medium : Medium) :
    (∀ one two : Bracketing, one.row = two.row → ∀ source,
      (one.grammar.attempt meaning medium source).log = (two.grammar.attempt meaning medium source).log ∧
        AnswerAlike meaning medium one two source) ∧
      (∀ left content right,
        (Grammar.between left content right).attempt meaning medium =
          ((content.precededBy left).skipping right).attempt meaning medium) ∧
      ∀ left separator right,
        (Grammar.split left separator right).attempt meaning medium =
          (left.followedBy (right.precededBy separator)).attempt meaning medium :=
  ⟨fun _ _ same source => answer_alike meaning medium same source,
    Grammar.between_is_skipping meaning medium, Grammar.split_is_preceded meaning medium⟩

/-- The comma is observed, so both log something. -/
theorem bracketed_numbers_answer_alike :
    let number := single (Grammar.integer none)
    let comma := single ((Grammar.character ',').debug none)
    ((number.pair comma).pair number).row = (number.pair (comma.pair number)).row ∧
      (((number.pair comma).pair number).grammar.runWithin 0 Scope.provided (Text.ofString "1,2x")).log =
        ((number.pair (comma.pair number)).grammar.runWithin 0 Scope.provided (Text.ofString "1,2x")).log ∧
      AnswerAlike (Scope.provided.meaning 0) .text ((number.pair comma).pair number)
        (number.pair (comma.pair number)) (Text.ofString "1,2x") ∧
      (((number.pair comma).pair number).grammar.runWithin 0 Scope.provided).Matches (Text.ofString "1,2x")
        (.tuple [.tuple [.int 1, .text [',']], .int 2]) (Text.ofString "x") := by
  intro number comma
  have same : ((number.pair comma).pair number).row = (number.pair (comma.pair number)).row := rfl
  have alike := (sequencing_is_associative (Scope.provided.meaning 0) .text).1 _ _ same (Text.ofString "1,2x")
  exact ⟨same, alike.1, alike.2, rfl⟩

end Bracketing

end TextGrammar
