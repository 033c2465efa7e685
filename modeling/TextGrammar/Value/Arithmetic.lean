import TextGrammar.Value.Numeric
import TextGrammar.Value.Sequence

/-!
Arithmetic on numbers. Two whole numbers stay exact, except that their quotient
is the nearest double; beside a double a whole number is first converted to the
nearest double, the left one before the right one. Sequences can be added to one
another and repeated.
-/

namespace TextGrammar

namespace Numeric

def toFloat : Numeric → Except Fault Float
  | .float number => .ok number
  | .int number =>
      match Binary64.ofInt? number with
      | some converted => .ok converted
      | none => .error .intTooLarge

end Numeric

namespace Operator

/-- Only a quotient can fail, and only on a zero divisor. -/
def applyFloat (operator : Operator) (left right : Float) : Except Fault Float :=
  match operator with
  | .plus => .ok (left + right)
  | .minus => .ok (left - right)
  | .multiply => .ok (left * right)
  | .divide => if right == 0.0 then .error .floatDivisionByZero else .ok (left / right)

/-- The double nearest to the quotient of two whole numbers. A zero quotient of a negative
divisor is negative zero. -/
def divideInt (left right : Int) : Except Fault Float :=
  if right = 0 then .error .divisionByZero
  else
    match Binary64.nearest? (decide (left < 0) != decide (right < 0)) left.natAbs right.natAbs with
    | some quotient => .ok quotient
    | none => .error .quotientTooLarge

def applyInt (operator : Operator) (left right : Int) : Except Fault Numeric :=
  match operator with
  | .plus => .ok (.int (left + right))
  | .minus => .ok (.int (left - right))
  | .multiply => .ok (.int (left * right))
  | .divide => (divideInt left right).map .float

def apply (operator : Operator) (left right : Numeric) : Except Fault Numeric :=
  match left, right with
  | .int a, .int b => operator.applyInt a b
  | a, b => do
      let x ← a.toFloat
      let y ← b.toFloat
      (operator.applyFloat x y).map .float

end Operator

namespace Value

def calculate (a : Value) (operator : Operator) (b : Value) : Except Fault Value :=
  match a.numeric?, b.numeric? with
  | some x, some y => (operator.apply x y).map Numeric.value
  | _, _ => .error (.misuse (.badOperands operator.toChar.toString a.typeName b.typeName))

/-- The sum of two numbers, and two sequences of one type in a row. -/
def add : Value → Value → Except Fault Value
  | .text a, .text b => .ok (.text (a ++ b))
  | .list as, .list bs => .ok (.list (as ++ bs))
  | .tuple as, .tuple bs => .ok (.tuple (as ++ bs))
  | a, b =>
      if a.items?.isSome then .error (.misuse (.badAppendix a.typeName b.typeName))
      else a.calculate .plus b

def negate (value : Value) : Except Fault Value :=
  match value.numeric? with
  | some (.int whole) => .ok (.int (-whole))
  | some (.float real) => .ok (.float (-real))
  | none => .error (.misuse (.badOperand "-" value.typeName))

/-- How often a sequence is repeated; a negative count is as good as none. -/
def count (value : Value) : Except Fault Nat :=
  match value.numeric? with
  | some (.int whole) => .ok whole.toNat
  | _ => .error (.misuse (.badCount value.typeName))

/-- The product of two numbers, and a sequence repeated, whichever side it stands on. -/
def multiply (a b : Value) : Except Fault Value :=
  match a.items?, b.items? with
  | some _, _ => do return a.repeated (← b.count)
  | none, some _ => do return b.repeated (← a.count)
  | none, none => a.calculate .multiply b

def operate (operator : Operator) (a b : Value) : Except Fault Value :=
  match operator with
  | .plus => a.add b
  | .multiply => a.multiply b
  | _ => a.calculate operator b

end Value

end TextGrammar
