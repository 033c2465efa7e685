import TextGrammar.Attempt.Basic
import TextGrammar.Value.Written

/-!
Alternatives. Each one is tried on the same source, in order, and the first match
wins; no alternative after it is run.
-/

namespace TextGrammar.Attempt

variable {σ : Type}

/-- What stands between the messages of the two sides of an `either`. -/
def eitherConnective : String := " AND "

/-- What the message of a `choice` without a match begins with. -/
def choiceNotice : String := "choice: No parsers matched."

/-- The display forms of two messages with the connective between them. -/
def bothMessages (one two : Value) : Except Fault Text := do
  return (← one.display?) ++ Text.ofString eitherConnective ++ (← two.display?)

/-- The value tells which side matched. -/
def either (first second : Attempt σ) : Attempt σ := fun source => do
  match ← first source with
  | .matched value rest => return .matched (.left value) rest
  | .failed one =>
      match ← second source with
      | .matched value rest => return .matched (.right value) rest
      | .failed two => fail (← Traced.ofExcept (bothMessages one.message two.message)) .exhausted

/-- The outcome of the first attempt that matches, or the messages of all attempts. -/
def firstMatch (source : σ) : List (Attempt σ) → Traced (Except (List Value) (Outcome σ))
  | [] => return .error []
  | attempt :: others => do
      match ← attempt source with
      | .matched value rest => return .ok (.matched value rest)
      | .failed failure =>
          match ← firstMatch source others with
          | .ok outcome => return .ok outcome
          | .error messages => return .error (failure.message :: messages)

/-- The messages of all alternatives, which have to be texts, in parentheses. -/
def choiceMessage (messages : List Value) : Except Fault Text := do
  let texts ← Value.textsFrom 0 messages
  return Text.ofString (choiceNotice ++ " (") ++ (Text.ofString "; ").intercalate texts ++ Text.ofString ")"

def choice (attempts : List (Attempt σ)) : Attempt σ := fun source => do
  match ← firstMatch source attempts with
  | .ok outcome => return outcome
  | .error messages => fail (← Traced.ofExcept (choiceMessage messages)) .exhausted

end TextGrammar.Attempt
