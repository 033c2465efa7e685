import TextGrammar.Grammar.Combinator
import TextGrammar.Value.Arithmetic

/-!
The expression language: a number, or an operation in parentheses with its
operator in front and its operands separated by blanks. Operands refer back to
the expression itself.
-/

namespace TextGrammar

namespace Grammar

def operator : Grammar :=
  (choiceOf ((character Operator.plus.toChar).mapConstant (.operator .plus))
    ([Operator.minus, .multiply, .divide].map fun sign =>
      (character sign.toChar).mapConstant (.operator sign))).named "operator"

def toNumber : Transformer :=
  .ofPartial "Number" fun
    | .int number => some (.number number)
    | _ => none

def number : Grammar := ((integer (some .int64)).map toNumber).named "number"

def toOperation : Transformer :=
  .ofPartial anonymous fun
    | .tuple [.operator sign, .list operands] => some (.operation sign operands)
    | _ => none

def operands : Grammar := (deferred (.provided .expression)).separatedBy whitespace false

def operation : Grammar :=
  ((between (character '(') (operator.skippingSomeWhitespace.followedBy operands)
    (character ')')).map toOperation).named "operation"

def expression : Grammar := ((number.either operation).map .unwrap).named "expr"

end Grammar

namespace Value

mutual

/-- The double that an expression denotes, for any meaning of the operators. An operation needs
two operands, which is found out before any of them is evaluated; then the operands are folded
from left to right, each step before the next operand is evaluated. -/
def evaluateWith (apply : Operator → Float → Float → Except Fault Float) : Value → Except Fault Float
  | .number whole => (Numeric.int whole).toFloat
  | .operation sign operands =>
      match operands with
      | first :: second :: others => do
          let start ← evaluateWith apply first
          foldOperands apply sign start (second :: others)
      | few => .error (.tooFewOperands sign few.length)
  | value => value.print?.bind fun printed => .error (.noExpression printed)

def foldOperands (apply : Operator → Float → Float → Except Fault Float) (sign : Operator)
    (total : Float) : List Value → Except Fault Float
  | [] => .ok total
  | operand :: operands => do
      let right ← evaluateWith apply operand
      foldOperands apply sign (← apply sign total right) operands

end

def evaluate (expression : Value) : Except Fault Float := evaluateWith Operator.applyFloat expression

end Value

end TextGrammar
