import Mathlib.Logic.Relation
import TextGrammar.Proofs.Attempt.Miss

/-!
The places that a repetition comes to. It tries its element where it begins and wherever
a round goes on, and its separator behind every element that matches. A repetition needs
a placeholder that has no definition only when one of these attempts does.
-/

namespace TextGrammar

open Traced

variable {σ : Type} {name : String}

namespace Repetition

variable {size : σ → Except Fault Nat} {element : Attempt σ} {separator : Option (Attempt σ)}
  {source next place : σ}

/-- Both sources have a size, and that of the first is less. -/
def Shrinks (size : σ → Except Fault Nat) (next source : σ) : Prop :=
  ∃ after before, size next = .ok after ∧ size source = .ok before ∧ after < before

theorem Shrinks.measure_lt (shorter : Shrinks size next source) : measure size next < measure size source := by
  obtain ⟨after, before, afterwards, beforehand, less⟩ := shorter
  simp [measure, afterwards, beforehand, Except.toOption, less]

/-- The element and the separator behind it match, and less is left behind the two. -/
def GoesOn (size : σ → Except Fault Nat) (element : Attempt σ) (separator : Option (Attempt σ))
    (source next : σ) : Prop :=
  ∃ value rest, element.Matches source value rest ∧
    (afterElement separator rest).result = .ok (next, true) ∧ Shrinks size next source

/-- The repetition that begins with the source tries its element at the place. -/
def Visits (size : σ → Except Fault Nat) (element : Attempt σ) (separator : Option (Attempt σ)) :
    σ → σ → Prop :=
  Relation.ReflTransGen (GoesOn size element separator)

theorem conclude_round_misses {more : σ → Traced (Repetition σ)} {value : Value} {behind : σ × Bool}
    (sized : ∀ source, BlamesNoPlaceholder (size source))
    (misses : (concludeRound size more source value behind).Misses name) :
    behind.2 = true ∧ Shrinks size behind.1 source ∧ (more behind.1).Misses name := by
  unfold concludeRound at misses
  split at misses
  · rename_i reason measured
    exact absurd (measured.trans (congrArg Except.error (fault_misses misses))) (sized _ name)
  · rename_i reason measured
    exact absurd (measured.trans (congrArg Except.error (fault_misses misses))) (sized _ name)
  · rename_i after before afterwards beforehand
    split at misses
    · rename_i shorter
      split at misses
      · rename_i separated
        have later := misses_before misses fun _ => pure_misses_nothing _
        exact ⟨separated, ⟨after, before, afterwards, beforehand, shorter⟩, later⟩
      · exact absurd misses (pure_misses_nothing _)
    · exact absurd misses (pure_misses_nothing _)

theorem misses_conclude_round {more : σ → Traced (Repetition σ)} {value : Value}
    (shorter : Shrinks size next source) (misses : (more next).Misses name) :
    (concludeRound size more source value (next, true)).Misses name := by
  obtain ⟨after, before, afterwards, beforehand, less⟩ := shorter
  simp only [concludeRound, afterwards, beforehand, less, if_true]
  exact misses.bind _

/-- What a repetition can halt at in the round that begins at a place. -/
def RoundMisses (element : Attempt σ) (separator : Option (Attempt σ)) (place : σ) (name : String) : Prop :=
  (element place).Misses name ∨
    ∃ value rest, element.Matches place value rest ∧ ∃ attempt ∈ separator, (attempt rest).Misses name

theorem after_element_misses {rest : σ} (misses : (afterElement separator rest).Misses name) :
    ∃ attempt ∈ separator, (attempt rest).Misses name := by
  cases separator with
  | none => exact absurd misses (pure_misses_nothing _)
  | some attempt =>
      refine ⟨attempt, rfl, misses_before misses ?_⟩
      intro outcome
      cases outcome <;> exact pure_misses_nothing _

theorem run_misses (sized : ∀ source, BlamesNoPlaceholder (size source)) (source : σ)
    (misses : (run size element separator source).Misses name) :
    ∃ place, Visits size element separator source place ∧ RoundMisses element separator place name := by
  rw [run_eq_round] at misses
  rcases misses_cases misses with before | ⟨outcome, answered, behind⟩
  · exact ⟨source, .refl, Or.inl before⟩
  · cases outcome with
    | failed failure => exact absurd behind (pure_misses_nothing _)
    | matched value rest =>
        rcases misses_cases behind with between | ⟨⟨next, separated⟩, taken, later⟩
        · exact ⟨source, .refl, Or.inr ⟨value, rest, answered, after_element_misses between⟩⟩
        · -- The round goes on, and what is behind it is shorter.
          obtain ⟨rfl, shorter, missed⟩ := conclude_round_misses sized later
          obtain ⟨place, visits, round⟩ := run_misses sized next missed
          exact ⟨place, .head ⟨value, rest, answered, taken, shorter⟩ visits, round⟩
termination_by measure size source
decreasing_by exact shorter.measure_lt

theorem misses_round (round : RoundMisses element separator source name) :
    (run size element separator source).Misses name := by
  rw [run_eq_round]
  rcases round with begins | ⟨value, rest, matched, attempt, present, missed⟩
  · exact begins.bind _
  · obtain rfl := present
    have between : (afterElement (some attempt) rest).Misses name := missed.bind _
    exact Misses.after matched (between.bind _)

theorem misses_run (visits : Visits size element separator source place)
    (round : RoundMisses element separator place name) : (run size element separator source).Misses name := by
  induction visits using Relation.ReflTransGen.head_induction_on with
  | refl => exact misses_round round
  | head goesOn _ induction =>
      obtain ⟨value, rest, matched, taken, shorter⟩ := goesOn
      rw [run_eq_round]
      exact Misses.after matched (Misses.after taken (misses_conclude_round shorter induction))

theorem conclude_misses_nothing (label : String) (atLeastOne : Bool) (repetition : Repetition σ) :
    ¬ (repetition.conclude label atLeastOne).Misses name := by
  have warned : ¬ (warn label repetition.stop).Misses name := by
    cases repetition.stop with
    | stalled => simp [warn, Misses, write]
    | failed failure => exact pure_misses_nothing _
    | unseparated => exact pure_misses_nothing _
  apply bind_misses_nothing warned
  intro _
  split
  · apply bind_misses_nothing (of_except_misses_nothing (.no_element label _))
    exact fun _ => pure_misses_nothing _
  · exact pure_misses_nothing _

end Repetition

namespace Attempt

variable {size : σ → Except Fault Nat} {element : Attempt σ} {separator : Option (Attempt σ)}
  {label : String} {atLeastOne : Bool} {source place : σ}

theorem repeated_misses (sized : ∀ source, BlamesNoPlaceholder (size source))
    (misses : (Attempt.repeated label size element separator atLeastOne source).Misses name) :
    ∃ place, Repetition.Visits size element separator source place ∧
      Repetition.RoundMisses element separator place name :=
  Repetition.run_misses sized source (misses_before misses (Repetition.conclude_misses_nothing label atLeastOne))

theorem misses_repeated (visits : Repetition.Visits size element separator source place)
    (round : Repetition.RoundMisses element separator place name) :
    (Attempt.repeated label size element separator atLeastOne source).Misses name :=
  (Repetition.misses_run visits round).bind _

end Attempt
end TextGrammar
