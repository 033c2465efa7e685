import TextGrammar.Attempt.Basic
import TextGrammar.Value.Written

/-!
Repetition of an element, with or without a separator after each one. A step
counts only when element and separator together leave a shorter source, which is
why every repetition ends. The value of a step that does not count is dropped and
the source before it is what remains.
-/

namespace TextGrammar

variable {σ : Type}

/-- Why a repetition took no further step. -/
inductive Stop where
  | failed (failure : Failure)
  /-- The element matched and the source did not get shorter. -/
  | stalled
  /-- The element counted and no separator followed it. -/
  | unseparated

structure Repetition (σ : Type) where
  values : List Value
  rest : σ
  stop : Stop

namespace Repetition

/-- The source after the separator, and whether another element may follow. -/
def afterElement (separator : Option (Attempt σ)) (rest : σ) : Traced (σ × Bool) :=
  match separator with
  | none => return (rest, true)
  | some attempt => do
      match ← attempt rest with
      | .matched _ later => return (later, true)
      | .failed _ => return (rest, false)

/-- The size of a source; one without a size counts as nothing. -/
def measure (size : σ → Except Fault Nat) (source : σ) : Nat := (size source).toOption.getD 0

/-- The sizes of what is left and of what there was are taken in this order, and a source that
has none is a fault. -/
def run (size : σ → Except Fault Nat) (element : Attempt σ) (separator : Option (Attempt σ))
    (source : σ) : Traced (Repetition σ) := do
  match ← element source with
  | .failed failure => return ⟨[], source, .failed failure⟩
  | .matched value rest =>
      let (next, separated) ← afterElement separator rest
      match _ : size next, _ : size source with
      | .error reason, _ => Traced.fault reason
      | .ok _, .error reason => Traced.fault reason
      | .ok after, .ok before =>
          if after < before then
            if separated then
              let later ← run size element separator next
              return { later with values := value :: later.values }
            else return ⟨[value], next, .unseparated⟩
          else return ⟨[], source, .stalled⟩
termination_by measure size source
decreasing_by simp_all [measure, Except.toOption]

/-- The failure of a repetition that needed a value and has none. -/
def noElement (name : String) : Stop → Except Fault Failure
  | .failed failure => do
      let reason ← failure.message.display?
      return .saying (Text.ofString (name ++ ": Expected at least one element. ") ++ reason)
        failure.kind
  | _ => return .saying (name ++ ": Expected at least one element that consumes input.") .mismatch

def warn (name : String) : Stop → Traced Unit
  | .stalled =>
      Traced.write .warning (name ++ ": an iteration matched without consuming input, stopping.")
  | _ => return ()

def conclude (name : String) (atLeastOne : Bool) (repetition : Repetition σ) : Traced (Outcome σ) := do
  warn name repetition.stop
  if atLeastOne && repetition.values.isEmpty then
    return .failed (← Traced.ofExcept (noElement name repetition.stop))
  else return .matched (.list repetition.values) repetition.rest

end Repetition

def Attempt.repeated (name : String) (size : σ → Except Fault Nat) (element : Attempt σ)
    (separator : Option (Attempt σ)) (atLeastOne : Bool) : Attempt σ := fun source => do
  (← Repetition.run size element separator source).conclude name atLeastOne

end TextGrammar
