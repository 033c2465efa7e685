import TextGrammar.Proofs.Congruence.Attempt
import TextGrammar.Proofs.Repetition.Rounds
import TextGrammar.Proofs.Repetition.Visits

/-!
Repetitions of an element whose values are converted. A loop looks at what is left of a
source and never at a value, so it takes the same rounds whether the element's values are
converted before they are kept or the kept ones afterwards. The values of a separator are
not even kept, and converting them changes nothing.
-/

namespace TextGrammar

open Traced

variable {σ : Type}

/-- The outcome with the value of a match converted. -/
def Outcome.convertValue (convert : Value → Value) : Outcome σ → Outcome σ
  | .matched value rest => .matched (convert value) rest
  | .failed failure => .failed failure

namespace Attempt

/-- The attempt with each value put through a function that always has a result. -/
def converted (attempt : Attempt σ) (convert : Value → Value) : Attempt σ :=
  attempt.map fun value => pure (convert value)

theorem converted_eq (attempt : Attempt σ) (convert : Value → Value) (source : σ) :
    attempt.converted convert source = attempt source >>= fun outcome => pure (outcome.convertValue convert) := by
  apply congrArg (attempt source >>= ·)
  funext outcome
  cases outcome <;> rfl

end Attempt

namespace Repetition

/-- The kept values converted. Where the loop stopped and why stays as it is. -/
def convertValues (convert : Value → Value) (repetition : Repetition σ) : Repetition σ :=
  { repetition with values := repetition.values.map convert }

variable {size : σ → Except Fault Nat} {element : Attempt σ} {separator : Option (Attempt σ)}
  {convert convertSkipped : Value → Value}

/-- Nothing but the rest of the separator's match counts. -/
theorem after_converted (rest : σ) :
    afterElement (separator.map fun attempt => attempt.converted convertSkipped) rest =
      afterElement separator rest := by
  cases separator with
  | none => rfl
  | some attempt =>
      simp only [Option.map_some, afterElement, Attempt.converted_eq, bind_assoc]
      apply congrArg (attempt rest >>= ·)
      funext outcome
      cases outcome <;> rfl

theorem conclude_round_converted {more moreConverted : σ → Traced (Repetition σ)} {source : σ}
    (later : ∀ next, Shrinks size next source →
      moreConverted next = more next >>= fun repetition => pure (repetition.convertValues convert))
    (value : Value) (behind : σ × Bool) :
    concludeRound size moreConverted source (convert value) behind =
      concludeRound size more source value behind >>= fun repetition =>
        pure (repetition.convertValues convert) := by
  unfold concludeRound
  cases afterwards : size behind.1 with
  | error reason => rfl
  | ok after =>
      cases beforehand : size source with
      | error reason => rfl
      | ok before =>
          dsimp only
          by_cases shorter : after < before
          · simp only [if_pos shorter]
            cases behind.2 with
            | false => rfl
            | true =>
                simp only [if_true, later behind.1 ⟨after, before, afterwards, beforehand, shorter⟩,
                  bind_assoc, pure_bind]
                rfl
          · simp only [if_neg shorter]
            rfl

/-- The loop takes the same rounds, logs the same records and halts alike. -/
theorem run_converted (source : σ) :
    run size (element.converted convert) (separator.map fun attempt => attempt.converted convertSkipped) source =
      run size element separator source >>= fun repetition => pure (repetition.convertValues convert) := by
  rw [run_eq_round, run_eq_round, Attempt.converted_eq, bind_assoc, bind_assoc]
  apply congrArg (element source >>= ·)
  funext outcome
  rw [pure_bind]
  cases outcome with
  | failed failure => rfl
  | matched value rest =>
      simp only [Outcome.convertValue, after_converted, bind_assoc]
      apply congrArg (afterElement separator rest >>= ·)
      funext behind
      apply conclude_round_converted
      intro next shorter
      exact run_converted next
termination_by measure size source
decreasing_by exact shorter.measure_lt

/-- The items of a list converted one by one. -/
def convertItems (convert : Value → Value) : Value → Value
  | .list items => .list (items.map convert)
  | value => value

theorem conclude_converted (name : String) (atLeastOne : Bool) (repetition : Repetition σ) :
    (repetition.convertValues convert).conclude name atLeastOne =
      repetition.conclude name atLeastOne >>= fun outcome =>
        pure (outcome.convertValue (convertItems convert)) := by
  unfold conclude
  rw [bind_assoc]
  apply congrArg (warn name repetition.stop >>= ·)
  funext _
  -- A conversion keeps the count of the values, so whether one was needed and missing stays as well.
  simp only [convertValues, List.isEmpty_map]
  split
  · rw [bind_assoc]
    rfl
  · rfl

/-- A repetition of converted values is the repetition with its list converted item by item. -/
theorem repeated_converted (name : String) (separator : Option (Attempt σ))
    (convertSkipped : Value → Value) (atLeastOne : Bool) (source : σ) :
    Attempt.repeated name size (element.converted convert)
        (separator.map fun attempt => attempt.converted convertSkipped) atLeastOne source =
      (Attempt.repeated name size element separator atLeastOne).converted (convertItems convert) source := by
  rw [Attempt.converted_eq]
  unfold Attempt.repeated
  rw [run_converted, bind_assoc, bind_assoc]
  apply congrArg (run size element separator source >>= ·)
  funext repetition
  rw [pure_bind, conclude_converted]

end Repetition

namespace Grammar

/-- The grammar with its values put through a function that always has a result, under the name that
it had. -/
def converted (grammar : Grammar) (description : String) (convert : Value → Value) : Grammar :=
  (grammar.map (.total description convert)).named grammar.name

theorem repetition_repeats (meaning : Reference → Attempts) (element : Grammar) (separator : Option Grammar)
    (atLeastOne : Bool) (medium : Medium) :
    (element.repetition separator atLeastOne).attempt meaning medium =
      .repeated (element.repetition separator atLeastOne).name medium.size (element.attempt meaning medium)
        (separator.map fun grammar => grammar.attempt meaning medium) atLeastOne := by
  cases separator <;> rfl

/-- Any of the four repetitions of converted values is the repetition of the values as they were, its
list converted item by item, and it does not matter what the values of the separator are. The two
runs are the same in their outcome, the messages and kinds of failures included, in what they log and
in where they halt. -/
theorem repetition_converts_values (meaning : Reference → Attempts) (element : Grammar)
    (separator : Option Grammar) (atLeastOne : Bool) (convert convertSkipped : Value → Value)
    (description descriptionSkipped descriptionListed : String) (medium : Medium) (source : medium.Source) :
    ((element.converted description convert).repetition
        (separator.map fun grammar => grammar.converted descriptionSkipped convertSkipped)
        atLeastOne).attempt meaning medium source =
      ((element.repetition separator atLeastOne).map
        (.total descriptionListed (Repetition.convertItems convert))).attempt meaning medium source := by
  have names : ((element.converted description convert).repetition
      (separator.map fun grammar => grammar.converted descriptionSkipped convertSkipped) atLeastOne).name =
        (element.repetition separator atLeastOne).name := by
    cases separator <;> cases atLeastOne <;> rfl
  have skipped : (separator.map fun grammar => grammar.converted descriptionSkipped convertSkipped).map
      (fun grammar => grammar.attempt meaning medium) =
        (separator.map fun grammar => grammar.attempt meaning medium).map
          fun attempt => attempt.converted convertSkipped := by
    cases separator <;> rfl
  have repeats := repetition_repeats meaning element separator atLeastOne medium
  rw [repetition_repeats, names, skipped]
  change Attempt.repeated _ _ ((element.attempt meaning medium).converted convert) _ _ _ =
    ((element.repetition separator atLeastOne).attempt meaning medium).converted _ _
  rw [repeats, Repetition.repeated_converted]

end Grammar

end TextGrammar
