import TextGrammar.Text.CodePoint

/-!
The four operators of the expression language.
-/

namespace TextGrammar

inductive Operator where
  | plus
  | minus
  | multiply
  | divide
  deriving DecidableEq

namespace Operator

def all : List Operator := [.plus, .minus, .multiply, .divide]

def toChar : Operator → Char
  | .plus => '+'
  | .minus => '-'
  | .multiply => '*'
  | .divide => '/'

def symbol : Operator → String
  | .plus => "PLUS"
  | .minus => "MINUS"
  | .multiply => "MULTIPLY"
  | .divide => "DIVIDE"

def ofString? (s : String) : Option Operator := all.find? fun operator => operator.toChar.toString == s

end Operator

end TextGrammar
