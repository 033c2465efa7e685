import TextGrammar.Scope

/-!
Calculation: reads a whole text as an expression and evaluates it.
-/

namespace TextGrammar

def calculate (source : Text) : Traced Float := do
  let expression ← Grammar.expression.parseIn Scope.provided source
  Traced.ofExcept expression.evaluate

end TextGrammar
