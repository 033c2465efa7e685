import TextGrammar.Text.UpperCase
import TextGrammar.Value.Arithmetic
import TextGrammar.Value.Written

/-!
Functions on values, each with the description that names show. A function that
is given a value of a type that it is not defined for faults. Messages of failures
are values, so the same functions change them.
-/

namespace TextGrammar

/-- The description of a function that has no name. -/
def anonymous : String := "<lambda>"

structure Transformer where
  description : String
  apply : Value → Except Fault Value

namespace Value

/-- Adds the numbers of a sequence from left to right, starting from zero. -/
def sum (value : Value) : Except Fault Value :=
  match value.items? with
  | some items => items.foldlM add (.int 0)
  | none => .error (.misuse (.notIterable value.typeName))

/-- The texts in a sequence, one after the other. -/
def join (value : Value) : Except Fault Text :=
  match value.items? with
  | some items => (textsFrom 0 items).map List.flatten
  | none => .error (.misuse .notJoinable)

/-- A text as a whole number, a number without its fraction. -/
def toInt : Value → Except Fault Int
  | .text points => (Numeral.readWhole points).mapError (Fault.ofNumeralError points)
  | .bool truth => .ok truth.toNat
  | .int whole => .ok whole
  | .float real =>
      match Binary64.exact real with
      | .finite negative significand exponent =>
          .ok (Binary64.Exact.truncated negative significand exponent)
      | .infinite _ => .error .truncatedInfinity
      | .nan => .error .truncatedNaN
  | value => .error (.misuse (.notNumeral value.typeName))

/-- The first two items of a sequence in reverse; the second one is looked up first. -/
def swap (value : Value) : Except Fault Value := do
  let second ← value.item 1
  let first ← value.item 0
  return .tuple [second, first]

/-- What a value with a single datum holds. -/
def unwrap : Value → Except Fault Value
  | .left value => .ok value
  | .right value => .ok value
  | .matched value _ => .ok value
  | .number whole => .ok (.int whole)
  | .operator sign => .ok (.text [sign.toChar])
  | value => .error (.misuse (.noField value.typeName "value"))

def upper : Value → Except Fault Value
  | .text points => .ok (.text points.upperCase)
  | value => .error (.misuse (.noText "upper" value.typeName))

end Value

namespace Transformer

/-- A function that is only used where it has a result. -/
def ofPartial (description : String) (apply : Value → Option Value) : Transformer :=
  ⟨description, fun value =>
    match apply value with
    | some result => .ok result
    | none => .error (.notApplicable description)⟩

def total (description : String) (apply : Value → Value) : Transformer :=
  ⟨description, fun value => .ok (apply value)⟩

def length : Transformer := ⟨"len", fun value => value.length.map fun size => .int size⟩

def display : Transformer := ⟨"str", fun value => value.display?.map .text⟩

def print : Transformer := ⟨"repr", fun value => value.print?.map fun s => .text (Text.ofString s)⟩

def sum : Transformer := ⟨"sum", Value.sum⟩

def negate : Transformer := ⟨"neg", Value.negate⟩

def upper : Transformer := ⟨"upper", Value.upper⟩

def join : Transformer := ⟨"join", fun value => value.join.map .text⟩

def increment : Transformer := ⟨"increment", fun value => value.add (.int 1)⟩

def double : Transformer := ⟨anonymous, fun value => value.multiply (.int 2)⟩

def first : Transformer := ⟨anonymous, fun value => value.item 0⟩

def second : Transformer := ⟨anonymous, fun value => value.item 1⟩

def swap : Transformer := ⟨anonymous, Value.swap⟩

def unwrap : Transformer := ⟨anonymous, Value.unwrap⟩

def identity : Transformer := .total "Identity()" id

def constant (value : Value) : Transformer := .total anonymous fun _ => value

/-- Adds the value to a text or to another value in front of it. -/
def prepend (lead : Value) : Transformer := ⟨anonymous, lead.add⟩

def toInt : Transformer := ⟨"int", fun value => value.toInt.map .int⟩

end Transformer

end TextGrammar
