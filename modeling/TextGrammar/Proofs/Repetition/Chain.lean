import TextGrammar.Proofs.Attempt.Match

/-!
The chain of steps behind the answer of a repetition. Each step takes one value and
leaves a shorter source; the repetition leaves what the last step left. Nothing is
said here about where a chain ends.
-/

namespace TextGrammar

open Traced

variable {σ : Type}

namespace Repetition

/-- Steps one after the other, with the values that they take. -/
inductive Chain (step : σ → Value → σ → Prop) : σ → List Value → σ → Prop
  | stop (source : σ) : Chain step source [] source
  | next {source middle rest : σ} {value : Value} {values : List Value}
      (taken : step source value middle) (later : Chain step middle values rest) :
      Chain step source (value :: values) rest

theorem Chain.related {step : σ → Value → σ → Prop} {related : σ → σ → Prop}
    (reflexive : ∀ source, related source source)
    (transitive : ∀ {rest middle source}, related rest middle → related middle source → related rest source)
    (stepRelated : ∀ source value next, step source value next → related next source)
    {source rest : σ} {values : List Value} (chain : Chain step source values rest) :
    related rest source := by
  induction chain with
  | stop source => exact reflexive source
  | next taken later induction => exact transitive induction (stepRelated _ _ _ taken)

/-- The element matches, and it leaves less together with the separator behind it. A separator
that is missing or fails takes nothing. -/
def Step (size : σ → Except Fault Nat) (element : Attempt σ) (separator : Option (Attempt σ))
    (source : σ) (value : Value) (next : σ) : Prop :=
  ∃ rest, element.Matches source value rest ∧
    (next = rest ∨ ∃ attempt ∈ separator, ∃ skipped, attempt.Matches rest skipped next) ∧
    ∃ after before, size next = .ok after ∧ size source = .ok before ∧ after < before

theorem after_element_takes {separator : Option (Attempt σ)} {rest next : σ} {separated : Bool}
    (answered : (afterElement separator rest).result = .ok (next, separated)) :
    next = rest ∨ ∃ attempt ∈ separator, ∃ skipped, attempt.Matches rest skipped next := by
  cases separator with
  | none => exact Or.inl (congrArg Prod.fst (result_pure_eq_ok.mp answered)).symm
  | some attempt =>
      obtain ⟨outcome, attempted, later⟩ := result_bind_eq_ok.mp answered
      cases outcome with
      | matched skipped middle =>
          obtain ⟨rfl, _⟩ := Prod.mk.inj (result_pure_eq_ok.mp later)
          exact Or.inr ⟨attempt, rfl, skipped, attempted⟩
      | failed failure => exact Or.inl (congrArg Prod.fst (result_pure_eq_ok.mp later)).symm

/-- What one round of the run did: it took no value, or it took a step and either stopped behind it
or went on from there. -/
theorem run_cases {size : σ → Except Fault Nat} {element : Attempt σ} {separator : Option (Attempt σ)}
    {source : σ} {repetition : Repetition σ}
    (answered : (run size element separator source).result = .ok repetition) :
    repetition.values = [] ∧ repetition.rest = source ∨
      ∃ value next, Step size element separator source value next ∧
        (repetition.values = [value] ∧ repetition.rest = next ∨
          ∃ later, (run size element separator next).result = .ok later ∧
            repetition.values = value :: later.values ∧ repetition.rest = later.rest) := by
  rw [run] at answered
  obtain ⟨outcome, attempted, afterwards⟩ := result_bind_eq_ok.mp answered
  cases outcome with
  | failed failure =>
      obtain rfl := result_pure_eq_ok.mp afterwards
      exact Or.inl ⟨rfl, rfl⟩
  | matched value rest =>
      obtain ⟨⟨next, separated⟩, taken, measured⟩ := result_bind_eq_ok.mp afterwards
      dsimp only at measured
      split at measured
      · exact absurd measured (by simp [fault, halt])
      · exact absurd measured (by simp [fault, halt])
      · rename_i after before afterwards beforehand
        split at measured
        · rename_i shorter
          have step : Step size element separator source value next :=
            ⟨rest, attempted, after_element_takes taken, after, before, afterwards, beforehand, shorter⟩
          refine Or.inr ⟨value, next, step, ?_⟩
          cases separated with
          | false =>
              obtain rfl := result_pure_eq_ok.mp measured
              exact Or.inl ⟨rfl, rfl⟩
          | true =>
              obtain ⟨later, repeated, same⟩ := result_bind_eq_ok.mp measured
              obtain rfl := result_pure_eq_ok.mp same
              exact Or.inr ⟨later, repeated, rfl, rfl⟩
        · obtain rfl := result_pure_eq_ok.mp measured
          exact Or.inl ⟨rfl, rfl⟩

theorem run_chain {size : σ → Except Fault Nat} {element : Attempt σ} {separator : Option (Attempt σ)}
    {source : σ} {repetition : Repetition σ}
    (answered : (run size element separator source).result = .ok repetition) :
    Chain (Step size element separator) source repetition.values repetition.rest := by
  rcases run_cases answered with ⟨values, rest⟩ | ⟨value, next, step, stopped | ⟨later, repeated, values, rest⟩⟩
  · rw [values, rest]
    exact .stop source
  · rw [stopped.1, stopped.2]
    exact .next step (.stop next)
  · rw [values, rest]
    exact .next step (run_chain repeated)
termination_by measure size source
decreasing_by
  obtain ⟨_, _, _, after, before, afterwards, beforehand, shorter⟩ := step
  simp [measure, afterwards, beforehand, Except.toOption, shorter]

end Repetition

theorem Attempt.repeated_concludes {name : String} {size : σ → Except Fault Nat} {element : Attempt σ}
    {separator : Option (Attempt σ)} {atLeastOne : Bool} {source rest : σ} {value : Value}
    (answered : (Attempt.repeated name size element separator atLeastOne).Matches source value rest) :
    ∃ repetition, (Repetition.run size element separator source).result = .ok repetition ∧
      value = .list repetition.values ∧ rest = repetition.rest ∧
        (atLeastOne = true → repetition.values ≠ []) := by
  unfold Attempt.Matches Attempt.repeated at answered
  obtain ⟨repetition, repeated, concluded⟩ := result_bind_eq_ok.mp answered
  obtain ⟨_, _, decided⟩ := result_bind_eq_ok.mp concluded
  split at decided
  · obtain ⟨_, _, failed⟩ := result_bind_eq_ok.mp decided
    exact absurd (result_pure_eq_ok.mp failed) (by simp)
  · rename_i enough
    obtain ⟨rfl, rfl⟩ := Outcome.matched.inj (result_pure_eq_ok.mp decided)
    exact ⟨repetition, repeated, rfl, rfl, by simpa using enough⟩

theorem Attempt.repeated_matches {name : String} {size : σ → Except Fault Nat} {element : Attempt σ}
    {separator : Option (Attempt σ)} {atLeastOne : Bool} {source rest : σ} {value : Value}
    (answered : (Attempt.repeated name size element separator atLeastOne).Matches source value rest) :
    ∃ values, value = .list values ∧ (atLeastOne = true → values ≠ []) ∧
      Repetition.Chain (Repetition.Step size element separator) source values rest := by
  obtain ⟨repetition, repeated, rfl, rfl, counted⟩ := repeated_concludes answered
  exact ⟨repetition.values, rfl, counted, Repetition.run_chain repeated⟩

end TextGrammar
