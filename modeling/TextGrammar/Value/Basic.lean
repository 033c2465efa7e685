import TextGrammar.FailureKind
import TextGrammar.Operator

/-!
The values that grammars produce. A grammar is put together at run time, so the
values of its parts are known only then and share one type. Beside plain data
there are the two sides of an alternative, the outcome of a grammar that was run
on a value, and the nodes of the languages that come with the library.
-/

namespace TextGrammar

inductive Value where
  | null
  | bool (truth : Bool)
  | int (number : Int)
  | float (number : Float)
  | text (text : Text)
  | list (items : List Value)
  | tuple (items : List Value)
  | left (value : Value)
  | right (value : Value)
  | matched (value rest : Value)
  | failed (message : Value) (kind : FailureKind)
  | operator (operator : Operator)
  | number (number : Int)
  | operation (operator : Operator) (operands : List Value)
  | point (x y : Value)
  | tree (children : List Value)
  deriving Inhabited

namespace Value

/-- Nothing, false, zero, what is empty and a failure count as false. -/
def isTrue : Value → Bool
  | .null => false
  | .bool truth => truth
  | .int whole => whole != 0
  | .float real => real != 0.0
  | .text points => !points.isEmpty
  | .list items => !items.isEmpty
  | .tuple items => !items.isEmpty
  | .failed .. => false
  | _ => true

/-- The name of a value's type in messages. -/
def typeName : Value → String
  | .null => "NoneType"
  | .bool _ => "bool"
  | .int _ => "int"
  | .float _ => "float"
  | .text _ => "str"
  | .list _ => "list"
  | .tuple _ => "tuple"
  | .left _ => "Left"
  | .right _ => "Right"
  | .matched .. => "Matched"
  | .failed .. => "Failed"
  | .operator _ => "Operator"
  | .number _ => "Number"
  | .operation .. => "Operation"
  | .point .. => "Point"
  | .tree _ => "Tree"

end Value

end TextGrammar
