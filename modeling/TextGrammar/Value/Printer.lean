import TextGrammar.Binary64.Written
import TextGrammar.Numeral.Whole
import TextGrammar.Text.Quoted
import TextGrammar.Value.Basic

/-!
The printed form of a value, in which names and messages show it, and its
display form, in which a text stands for itself. A value that holds a whole
number of more than 4300 digits has neither.
-/

namespace TextGrammar.Value

/-- A tuple of one keeps its comma. -/
def tupled : List String → String
  | [only] => "(" ++ only ++ ",)"
  | items => "(" ++ String.intercalate ", " items ++ ")"

def listed (items : List String) : String := "[" ++ String.intercalate ", " items ++ "]"

def record (name : String) (fields : List (String × String)) : String :=
  name ++ "(" ++ String.intercalate ", " (fields.map fun field => field.1 ++ "=" ++ field.2) ++ ")"

/-- A member of an enumeration with the datum it stands for. -/
def member (enumeration symbol datum : String) : String :=
  "<" ++ enumeration ++ "." ++ symbol ++ ": " ++ datum ++ ">"

def printedKind (kind : FailureKind) : String :=
  member "FailureKind" kind.symbol (quotedString kind.word)

def printedOperator (op : Operator) : String :=
  member "Operator" op.symbol (quotedString op.toChar.toString)

mutual

def print : Value → String
  | .null => "None"
  | .bool true => "True"
  | .bool false => "False"
  | .int whole => toString whole
  | .float real => Binary64.written real
  | .text points => points.quoted
  | .list items => listed (printEach items)
  | .tuple items => tupled (printEach items)
  | .left value => record "Left" [("value", print value)]
  | .right value => record "Right" [("value", print value)]
  | .matched value rest => record "Matched" [("value", print value), ("remainder", print rest)]
  | .failed message kind =>
      record "Failed" [("message", print message), ("kind", printedKind kind)]
  | .operator op => printedOperator op
  | .number whole => record "Number" [("value", toString whole)]
  | .operation op operands =>
      record "Operation"
        [("operator", printedOperator op), ("operands", tupled (printEach operands))]
  | .point x y => record "Point" [("x", print x), ("y", print y)]
  | .tree children => record "Tree" [("children", tupled (printEach children))]

def printEach : List Value → List String
  | [] => []
  | value :: values => print value :: printEach values

end

mutual

/-- Whether every whole number in the value is short enough to be written. -/
def isWritable : Value → Bool
  | .int whole => Numeral.isWritable whole
  | .number whole => Numeral.isWritable whole
  | .list items => areWritable items
  | .tuple items => areWritable items
  | .left value => isWritable value
  | .right value => isWritable value
  | .matched value rest => isWritable value && isWritable rest
  | .failed message _ => isWritable message
  | .operation _ operands => areWritable operands
  | .point x y => isWritable x && isWritable y
  | .tree children => areWritable children
  | _ => true

def areWritable : List Value → Bool
  | [] => true
  | value :: values => isWritable value && areWritable values

end

/-- A text stands for itself and an operator for its symbol; all else is printed. -/
def display : Value → Text
  | .text points => points
  | .operator op => Text.ofString ("Operator." ++ op.symbol)
  | value => Text.ofString value.print

end TextGrammar.Value
