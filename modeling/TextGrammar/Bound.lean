import TextGrammar.Value.Numeric
import TextGrammar.Value.Printer

/-!
Bounds of whole numbers: a number of any sort, a truth value counting as one or
zero. A message shows a bound as it was given, so a bound is not only the number.
-/

namespace TextGrammar

inductive Bound where
  | int (limit : Int)
  | float (limit : Float)
  | bool (truth : Bool)

/-- The greatest whole number of 64 bits with a sign. -/
def int64Max : Int := (Nat.pow 2 63 : Int) - 1

namespace Bound

def ofValue? : Value → Option Bound
  | .int limit => some (.int limit)
  | .float limit => some (.float limit)
  | .bool truth => some (.bool truth)
  | _ => none

def value : Bound → Value
  | .int limit => .int limit
  | .float limit => .float limit
  | .bool truth => .bool truth

/-- The form in which names and messages show the bound. -/
def print (bound : Bound) : String := bound.value.print

def numeric : Bound → Numeric
  | .int limit => .int limit
  | .float limit => .float limit
  | .bool truth => .int truth.toNat

def int64 : Bound := .int int64Max

/-- Whether the bound is the default one, which no double is equal to. -/
def isDefault (bound : Bound) : Bool :=
  match bound.numeric with
  | .int limit => limit = int64Max
  | .float _ => false

def isExceededBy (bound : Bound) (number : Int) : Bool :=
  match bound.numeric with
  | .int limit => limit < number
  | .float limit => (Numeric.int number).compare? (.float limit) == some .gt

def next (bound : Bound) : Bound :=
  match bound.numeric with
  | .int limit => .int (limit + 1)
  | .float limit => .float (limit + 1.0)

/-- Whether the number lies between one below the negated bound and the bound. -/
def allows (bound : Bound) (number : Int) : Bool :=
  match bound.numeric with
  | .int limit => -limit - 1 ≤ number && number ≤ limit
  | .float limit =>
      (Numeric.float (-limit - 1.0)).atMost (.int number) && (Numeric.int number).atMost (.float limit)

end Bound

end TextGrammar
