import TextGrammar.Traced

/-!
Attempts: what a grammar does with a source. An attempt answers with a value and
the source that is left after the part that it recognised, or with a failure. A
failure keeps no source, so whoever tries something else starts again from the
same one. Nothing here depends on what a source is.
-/

namespace TextGrammar

inductive Outcome (σ : Type) where
  | matched (value : Value) (rest : σ)
  | failed (failure : Failure)

namespace Outcome

variable {σ τ : Type}

def isMatch : Outcome σ → Bool
  | .matched .. => true
  | .failed _ => false

/-- The same outcome with the rest as a source of another type. -/
def mapRest (convert : σ → τ) : Outcome σ → Outcome τ
  | .matched value rest => .matched value (convert rest)
  | .failed failure => .failed failure

/-- An outcome as a value that other grammars can pass on. -/
def toValue : Outcome Value → Value
  | .matched value rest => .matched value rest
  | .failed failure => .failed failure.message failure.kind

end Outcome

abbrev Attempt (σ : Type) := σ → Traced (Outcome σ)

namespace Attempt

variable {σ : Type}

/-- An attempt that logs nothing and always answers. -/
def ofFunction (answer : σ → Outcome σ) : Attempt σ := fun source => pure (answer source)

def fail (message : Text) (kind : FailureKind) : Traced (Outcome σ) :=
  pure (.failed (.saying message kind))

/-- Continues after a match; a failure is passed on as it is. -/
def onMatch (attempt : Attempt σ) (next : Value → σ → Traced (Outcome σ)) : Attempt σ := fun source => do
  match ← attempt source with
  | .matched value rest => next value rest
  | .failed failure => return .failed failure

def map (attempt : Attempt σ) (transform : Value → Traced Value) : Attempt σ :=
  attempt.onMatch fun value rest => return .matched (← transform value) rest

/-- Changes the message of a failure and keeps its kind. -/
def mapError (attempt : Attempt σ) (reword : Value → Except Fault Value) : Attempt σ := fun source => do
  match ← attempt source with
  | .matched value rest => return .matched value rest
  | .failed failure => return .failed ⟨← Traced.ofExcept (reword failure.message), failure.kind⟩

/-- Lets a value pass that the test holds for and refuses any other by the given failure. -/
def filter (attempt : Attempt σ) (test : Value → Traced Bool) (refuse : Value → Except Fault Failure) :
    Attempt σ :=
  attempt.onMatch fun value rest => do
    if ← test value then return .matched value rest
    else return .failed (← Traced.ofExcept (refuse value))

/-- Logs a line about the outcome and leaves the outcome alone. Records are taken to be
formatted at once, by a handler that lets errors out, so a line with a value that cannot be written is a fault. -/
def observe (attempt : Attempt σ) (line : σ → Outcome σ → Except Fault Text) : Attempt σ :=
  fun source => do
    let outcome ← attempt source
    Traced.write .debug (← Traced.ofExcept (line source outcome))
    return outcome

/-- A failure becomes a match of the default that consumes nothing. -/
def optional (attempt : Attempt σ) (default : Value) : Attempt σ := fun source => do
  match ← attempt source with
  | .matched value rest => return .matched value rest
  | .failed _ => return .matched default source

/-- One attempt after the other; the value is the pair of the two values. -/
def followedBy (first second : Attempt σ) : Attempt σ :=
  first.onMatch fun value rest =>
    second.onMatch (fun other left => return .matched (.tuple [value, other]) left) rest

end Attempt

end TextGrammar
