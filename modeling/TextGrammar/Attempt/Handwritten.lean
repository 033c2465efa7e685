import TextGrammar.Medium
import TextGrammar.Value.Arithmetic

/-!
Attempts written by hand, which no primitive bounds. They show what a grammar
must expect from the attempts of its callers: one leaves more than it was given,
one takes nothing at all, most do not mind a source that is no text, and the
failures are of kinds that the caller chose.
-/

namespace TextGrammar.Attempt

/-- Matches the whole source and leaves a longer one. -/
def grow : Attempts
  | .text => .ofFunction fun source => .matched (.text source) (source ++ Text.ofString "!")
  | .value => fun source => do
      return .matched source (← Traced.ofExcept (source.add (.text (Text.ofString "!"))))

/-- The leading item of a sequence as a sequence of at most one. -/
def leadingItem (source : Value) : Except Fault Value :=
  if source.items?.isSome then .ok (source.take 1)
  else .error (.misuse (.noItems source.typeName))

/-- Matches the first code point, if there is one, and takes nothing. -/
def peek : Attempts
  | .text => .ofFunction fun source => .matched (.text (source.take 1)) source
  | .value => fun source => return .matched (← Traced.ofExcept (leadingItem source)) source

/-- Matches the whole source, the empty one included. -/
def takeAll : Attempts
  | .text => .ofFunction fun source => .matched (.text source) []
  | .value => .ofFunction fun source => .matched source (.text [])

def failMismatch : Attempts := fun _ _ => fail "Custom failure." .mismatch

def failRejected : Attempts := fun _ _ => fail "Custom rejection." .rejected

def failSilent : Attempts := fun _ _ => fail "" .emptyInput

def handwrittenName : String := "parser"

def handwritten : List (String × Attempts) :=
  [("grow", grow), ("peek", peek), ("rest", takeAll), ("fail", failMismatch),
   ("reject", failRejected), ("empty_kind", failSilent)]

end TextGrammar.Attempt
