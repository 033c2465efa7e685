import TextGrammar.Proofs.Congruence.Attempt

/-!
Repetitions that cannot stall. When every match of the element leaves a shorter text and
the separator leaves no longer one, the loop does what it would do without looking at the
lengths: it keeps each value that the element matched, and the only records are those of
the parts.
-/

namespace TextGrammar

namespace Traced

variable {α β : Type}

theorem bind_congr_results {first : Traced α} {next other : α → Traced β}
    (same : ∀ value, first.result = .ok value → next value = other value) :
    (first >>= next) = (first >>= other) := by
  change first.bind next = first.bind other
  cases answered : first.result with
  | error reason => rw [bind_of_error answered, bind_of_error answered]
  | ok value => rw [bind_of_ok answered, bind_of_ok answered, same value answered]

theorem log_bind_of_silent {first : Traced α} {next : α → Traced β}
    (silent : ∀ value, first.result = .ok value → (next value).log = []) :
    (first >>= next).log = first.log := by
  change (first.bind next).log = first.log
  cases answered : first.result with
  | error reason => rw [bind_of_error answered]
  | ok value => simp only [bind_of_ok answered, silent value answered, List.append_nil]

theorem log_of_except (given : Except Fault α) : (ofExcept given).log = [] := by
  cases given <;> rfl

end Traced

open Traced

namespace Repetition

/-- What a loop does behind an element and its separator if it keeps every value. -/
def keepValue (more : Text → Traced (Repetition Text)) (value : Value) (behind : Text × Bool) :
    Traced (Repetition Text) :=
  if behind.2 then do
    let later ← more behind.1
    return { later with values := value :: later.values }
  else return ⟨[value], behind.1, .unseparated⟩

theorem keep_value_counts {more : Text → Traced (Repetition Text)} {value : Value} {behind : Text × Bool}
    {course : Repetition Text} (answered : (keepValue more value behind).result = .ok course) :
    course.values ≠ [] := by
  unfold keepValue at answered
  split at answered
  · obtain ⟨later, _, same⟩ := result_bind_eq_ok.mp answered
    obtain rfl := result_pure_eq_ok.mp same
    simp
  · obtain rfl := result_pure_eq_ok.mp answered
    simp

/-- In texts a round keeps its value if it made the text shorter, and ends the loop otherwise. -/
theorem conclude_round_of_text (more : Text → Traced (Repetition Text)) (source : Text) (value : Value)
    (behind : Text × Bool) :
    concludeRound Medium.text.size more source value behind =
      if behind.1.length < source.length then keepValue more value behind
      else pure ⟨[], source, .stalled⟩ :=
  rfl

section

variable {element : Attempt Text} {separator : Option (Attempt Text)}
  (shortens : element.Leaves fun rest source => rest.length < source.length)

include shortens

/-- Whatever the separator does, a loop stalls only where the separator made the text longer. -/
theorem stall_is_of_separator (source : Text) {course : Repetition Text}
    (answered : (run Medium.text.size element separator source).result = .ok course)
    (stalled : course.stop = .stalled) :
    ∃ attempt ∈ separator, ∃ rest skipped next,
      attempt.Matches rest skipped next ∧ rest.length < next.length := by
  rw [run_eq_round] at answered
  obtain ⟨outcome, matched, afterwards⟩ := result_bind_eq_ok.mp answered
  cases outcome with
  | failed failure =>
      obtain rfl := result_pure_eq_ok.mp afterwards
      exact absurd stalled (by simp)
  | matched value rest =>
      obtain ⟨behind, taken, concluded⟩ := result_bind_eq_ok.mp afterwards
      have progress := shortens source value rest matched
      rw [conclude_round_of_text] at concluded
      by_cases shorter : behind.1.length < source.length
      · rw [if_pos shorter, keepValue] at concluded
        split at concluded
        · obtain ⟨later, repeated, same⟩ := result_bind_eq_ok.mp concluded
          obtain rfl := result_pure_eq_ok.mp same
          exact stall_is_of_separator behind.1 repeated stalled
        · obtain rfl := result_pure_eq_ok.mp concluded
          exact absurd stalled (by simp)
      · rcases after_element_takes taken with same | ⟨attempt, member, skipped, separated⟩
        · exact absurd (same ▸ progress) shorter
        · exact ⟨attempt, member, rest, skipped, behind.1, separated, by omega⟩
termination_by source.length

variable (keeps : ∀ attempt ∈ separator, attempt.Leaves fun rest source => rest.length ≤ source.length)

include keeps

theorem run_never_stalls (source : Text) {course : Repetition Text}
    (answered : (run Medium.text.size element separator source).result = .ok course) :
    course.stop ≠ .stalled := by
  intro stalled
  obtain ⟨attempt, member, rest, skipped, next, separated, longer⟩ :=
    stall_is_of_separator shortens source answered stalled
  exact absurd (keeps attempt member rest skipped next separated) (Nat.not_le.mpr longer)

/-- The loop without the guard. -/
theorem run_keeps_values (source : Text) :
    run Medium.text.size element separator source = (do
      match ← element source with
      | .failed failure => return ⟨[], source, .failed failure⟩
      | .matched value rest =>
          keepValue (run Medium.text.size element separator) value (← afterElement separator rest)) := by
  rw [run_eq_round]
  apply bind_congr_results
  intro outcome answered
  cases outcome with
  | failed failure => rfl
  | matched value rest =>
      apply bind_congr_results
      intro behind taken
      have progress := shortens source value rest answered
      have shorter : behind.1.length < source.length := by
        rcases after_element_takes taken with same | ⟨attempt, member, skipped, separated⟩
        · rw [same]
          exact progress
        · exact Nat.lt_of_le_of_lt (keeps attempt member rest skipped behind.1 separated) progress
      rw [conclude_round_of_text, if_pos shorter]

end

theorem conclude_log {σ : Type} (name : String) (atLeastOne : Bool) {repetition : Repetition σ}
    (going : repetition.stop ≠ .stalled) : (repetition.conclude name atLeastOne).log = [] := by
  have silent : (warn name repetition.stop).log = [] := by
    cases stopped : repetition.stop with
    | stalled => exact absurd stopped going
    | failed failure => rfl
    | unseparated => rfl
  unfold conclude
  rw [log_bind_of_silent, silent]
  intro _ _
  split
  · rw [log_bind_of_silent, log_of_except]
    exact fun _ _ => rfl
  · rfl

end Repetition

/-- A repetition that has no use for the guard: its loop goes on until a part fails, what the loop
kept is its value, and the loop logs all that it logs. -/
structure Repetition.KeepsValues (element : Attempt Text) (separator : Option (Attempt Text))
    (repetition : Attempt Text) : Prop where
  loop : ∀ source, run Medium.text.size element separator source = (do
    match ← element source with
    | .failed failure => return ⟨[], source, .failed failure⟩
    | .matched value rest =>
        keepValue (run Medium.text.size element separator) value (← afterElement separator rest))
  goesOn : ∀ source course, (run Medium.text.size element separator source).result = .ok course →
    course.stop ≠ .stalled
  values : ∀ source value rest, repetition.Matches source value rest →
    ∃ course, (run Medium.text.size element separator source).result = .ok course ∧
      value = .list course.values ∧ rest = course.rest
  log : ∀ source, (repetition source).log = (run Medium.text.size element separator source).log

theorem Attempt.repeated_keeps_values {element : Attempt Text} {separator : Option (Attempt Text)}
    (shortens : element.Leaves fun rest source => rest.length < source.length)
    (keeps : ∀ attempt ∈ separator, attempt.Leaves fun rest source => rest.length ≤ source.length)
    (name : String) (atLeastOne : Bool) :
    Repetition.KeepsValues element separator
      (Attempt.repeated name Medium.text.size element separator atLeastOne) where
  loop := Repetition.run_keeps_values shortens keeps
  goesOn source _ answered := Repetition.run_never_stalls shortens keeps source answered
  values source value rest matched := by
    obtain ⟨course, repeated, found, left, _⟩ := repeated_concludes matched
    exact ⟨course, repeated, found, left⟩
  log source := by
    apply log_bind_of_silent
    intro course answered
    exact Repetition.conclude_log name atLeastOne (Repetition.run_never_stalls shortens keeps source answered)

end TextGrammar
