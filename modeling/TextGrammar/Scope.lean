import TextGrammar.Provided

/-!
Running grammars on texts. A scope finds the grammar that a reference stands for; the
search is done each time the reference is reached, so a placeholder may be
defined after it was used in other grammars. How deeply references are expanded
inside one another is bounded by a budget. A run that spends it has no outcome.
-/

namespace TextGrammar

abbrev Scope := Reference → Except Fault Grammar

namespace Scope

/-- Only the grammars that types provide. -/
def provided : Scope
  | .provided provider => .ok provider.grammar
  | .placeholder _ name => .error (.undefinedPlaceholder name)
  | .stored variableName _ => .error (.unknownVariable variableName)

/-- What references do when at most `budget` of them are expanded inside one another. -/
def meaning (scope : Scope) : Nat → Reference → Attempts
  | 0, _ => fun _ _ => Traced.halt .outOfBudget
  | budget + 1, reference =>
      match scope reference with
      | .ok grammar => grammar.attempt (scope.meaning budget)
      | .error reason => fun _ _ => Traced.fault reason

/-- How many references may be expanded inside one another without a code point consumed in
between. -/
def idleBudget : Nat := 10000

/-- Enough for every grammar that consumes text before it comes back to a reference. -/
def usualBudget (source : Text) : Nat := source.length + idleBudget

end Scope

namespace Grammar

def runWithin (budget : Nat) (scope : Scope) (grammar : Grammar) : Attempt Text :=
  grammar.attempt (scope.meaning budget) .text

/-- The outcome on the text; some of the text may be left over. -/
def runIn (scope : Scope) (grammar : Grammar) : Attempt Text := fun source =>
  grammar.runWithin (Scope.usualBudget source) scope source

/-- The value of an outcome, if it is a match of the whole text. -/
def wholeValue (name : String) : Outcome Text → Except Fault Value
  | .failed failure => .error (.noMatch failure)
  | .matched value rest => if rest.isEmpty then .ok value else .error (.excess name rest)

/-- The value of the whole text; a failure and a rest are faults. -/
def parseIn (scope : Scope) (grammar : Grammar) (source : Text) : Traced Value := do
  Traced.ofExcept (wholeValue grammar.name (← grammar.runIn scope source))

def print : Grammar → String
  | deferred (.placeholder _ name) => "<Forward " ++ name ++ ">"
  | grammar => "<Parser " ++ grammar.name ++ ">"

end Grammar

end TextGrammar
