import TextGrammar.Binary64.Nearest
import TextGrammar.Binary64.Order
import TextGrammar.Value.Basic

/-!
The numbers among the values. The two truth values count as one and zero, and
a whole number and a double are compared exactly.
-/

namespace TextGrammar

inductive Numeric where
  | int (number : Int)
  | float (number : Float)

namespace Numeric

def exact : Numeric → Binary64.Exact
  | .int number => .ofInt number
  | .float number => Binary64.exact number

def compare? (a b : Numeric) : Option Ordering := a.exact.compare? b.exact

def atMost (a b : Numeric) : Bool :=
  match a.compare? b with
  | some .gt => false
  | some _ => true
  | none => false

def value : Numeric → Value
  | .int number => .int number
  | .float number => .float number

def isEven : Numeric → Bool
  | .int number => number % 2 = 0
  | .float number => (Binary64.exact number).isEven

end Numeric

def Value.numeric? : Value → Option Numeric
  | .bool truth => some (.int truth.toNat)
  | .int whole => some (.int whole)
  | .float real => some (.float real)
  | _ => none

end TextGrammar
