import TextGrammar.Proofs.Attempt.Answer
import TextGrammar.Proofs.Repetition.Progress

/-!
Repetitions that need a value. With a value they match as those that need none. Without one they fail,
and the kind is that of the element's failure on the whole text, unless the element matched there and
took nothing. What the separator does is of no account for it, since no round came to its end.
-/

namespace TextGrammar.Repetition

open Traced Attempt

variable {element : Attempt Text} {separator : Option (Attempt Text)} {source rest : Text}
  {values : List Value} {stop : Stop} {kind : FailureKind} {failure : Failure}

theorem needing_yields (name : String)
    (answered : run Medium.text.size element separator source = pure ⟨values, rest, stop⟩)
    (progressed : stop ≠ .stalled) (counted : values ≠ []) :
    (repeated name Medium.text.size element separator true).Yields source (.list values) rest := by
  have enough : (true && values.isEmpty) = false := by simpa using counted
  exact (bind_of_pure answered _).trans (conclude_of_enough name progressed enough)

theorem needing_refuses (name : String) (refuses : element.Refuses source kind) :
    (repeated name Medium.text.size element separator true).Refuses source kind := by
  obtain ⟨words, refused⟩ := refuses
  have stopped : run Medium.text.size element separator source =
      pure ⟨[], source, .failed (.saying words kind)⟩ := by
    rw [run]
    exact bind_of_pure refused _
  unfold Refuses repeated
  rw [bind_of_pure stopped]
  exact ⟨_, rfl⟩

/-- A failure that ended the loop before there was a value is one of the first round. -/
theorem failure_of_first_round {course : Repetition Text}
    (answered : (run Medium.text.size element separator source).result = .ok course)
    (nothing : course.values = []) (stopped : course.stop = .failed failure) :
    (element source).result = .ok (.failed failure) := by
  rw [run_eq_round] at answered
  obtain ⟨outcome, begun, afterwards⟩ := result_bind_eq_ok.mp answered
  cases outcome with
  | failed given =>
      obtain rfl := result_pure_eq_ok.mp afterwards
      obtain rfl := Stop.failed.inj stopped
      exact begun
  | matched value middle =>
      obtain ⟨behind, _, concluded⟩ := result_bind_eq_ok.mp afterwards
      rw [conclude_round_of_text] at concluded
      split at concluded
      · exact absurd nothing (keep_value_counts concluded)
      · obtain rfl := result_pure_eq_ok.mp concluded
        exact absurd stopped (by simp)

theorem no_element_kind {name : String} (worded : noElement name stop = .ok failure) :
    (∃ given, stop = .failed given ∧ failure.kind = given.kind) ∨ failure.kind = .mismatch := by
  cases stop with
  | failed given =>
      cases shown : given.message.display? with
      | error reason => exact absurd worded (by simp [noElement, shown, bind, Except.bind])
      | ok words =>
          simp only [noElement, shown] at worded
          obtain rfl := Except.ok.inj worded
          exact Or.inl ⟨given, rfl, rfl⟩
  | stalled =>
      obtain rfl := Except.ok.inj worded
      exact Or.inr rfl
  | unseparated =>
      obtain rfl := Except.ok.inj worded
      exact Or.inr rfl

/-- Why a repetition that needs a value failed: its element did, or nothing was taken. -/
theorem needing_failure {name : String}
    (failed : (repeated name Medium.text.size element separator true source).result = .ok (.failed failure)) :
    (∃ given, (element source).result = .ok (.failed given) ∧ failure.kind = given.kind) ∨
      failure.kind = .mismatch := by
  obtain ⟨course, answered, concluded⟩ := result_bind_eq_ok.mp failed
  obtain ⟨_, _, decided⟩ := result_bind_eq_ok.mp concluded
  split at decided
  · rename_i missing
    have nothing : course.values = [] := by simpa using missing
    obtain ⟨refused, worded, same⟩ := result_bind_eq_ok.mp decided
    obtain rfl := Outcome.failed.inj (result_pure_eq_ok.mp same)
    rcases no_element_kind (result_of_except_eq_ok.mp worded) with ⟨given, stopped, sameKind⟩ | mismatch
    · exact Or.inl ⟨given, failure_of_first_round answered nothing stopped, sameKind⟩
    · exact Or.inr mismatch
  · exact absurd (result_pure_eq_ok.mp decided) (by simp)

end TextGrammar.Repetition
