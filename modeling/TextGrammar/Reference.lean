import TextGrammar.Text.Quoted

/-!
References to grammars that are looked up each time they are run: a placeholder
that is defined later, a variable that may be bound anew, and a type of the
library that provides a grammar of its own.
-/

namespace TextGrammar

/-- The types that provide a grammar. -/
inductive Provider where
  | expression
  | number
  | operation
  | operator
  | point
  | tree
  deriving DecidableEq

namespace Provider

def all : List Provider := [.expression, .number, .operation, .operator, .point, .tree]

def typeName : Provider → String
  | .expression => "Expr"
  | .number => "Number"
  | .operation => "Operation"
  | .operator => "Operator"
  | .point => "Point"
  | .tree => "Tree"

def ofTypeName? (name : String) : Option Provider := all.find? fun provider => provider.typeName == name

end Provider

inductive Reference where
  /-- Placeholders are told apart by their index; the name is for messages only. -/
  | placeholder (index : Nat) (name : String)
  /-- What a variable holds; the label names whoever looks it up. -/
  | stored (variableName label : String)
  | provided (provider : Provider)
  deriving DecidableEq

def Reference.name : Reference → String
  | placeholder _ name => name
  | stored _ label => "lazily_provided(" ++ label ++ ")"
  | provided provider => "provided(" ++ provider.typeName ++ ")"

end TextGrammar
