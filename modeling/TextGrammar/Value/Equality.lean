import TextGrammar.Fault
import TextGrammar.Value.Numeric

/-!
Equality and order of values. Numbers are equal when they denote the same
number; a list never equals a tuple. Any two values may be compared for equality,
but only some have an order.
-/

namespace TextGrammar.Value

mutual

def equal : Value → Value → Bool
  | .null, .null => true
  | .text a, .text b => a = b
  | .list as, .list bs => equalEach as bs
  | .tuple as, .tuple bs => equalEach as bs
  | .left a, .left b => equal a b
  | .right a, .right b => equal a b
  | .matched a rest, .matched b remains => equal a b && equal rest remains
  | .failed a kind, .failed b other => equal a b && kind = other
  | .operator a, .operator b => a = b
  | .number a, .number b => a = b
  | .operation a as, .operation b bs => a = b && equalEach as bs
  | .point a b, .point c d => equal a c && equal b d
  | .tree as, .tree bs => equalEach as bs
  | a, b =>
      match a.numeric?, b.numeric? with
      | some m, some n => m.compare? n = some .eq
      | _, _ => false

def equalEach : List Value → List Value → Bool
  | [], [] => true
  | a :: as, b :: bs => equal a b && equalEach as bs
  | _, _ => false

end

/-- Texts are ordered by their code points, the shorter of two that begin alike first. -/
def textGreater : Text → Text → Bool
  | [], _ => false
  | _ :: _, [] => true
  | a :: as, b :: bs => if a = b then textGreater as bs else b.toNat < a.toNat

mutual

/-- Whether the first value is greater. Sequences are ordered by the first place where they
differ. -/
def greater : Value → Value → Except Fault Bool
  | .text a, .text b => .ok (textGreater a b)
  | .list as, .list bs => greaterEach as bs
  | .tuple as, .tuple bs => greaterEach as bs
  | a, b =>
      match a.numeric?, b.numeric? with
      | some m, some n => .ok (m.compare? n == some .gt)
      | _, _ => .error (.misuse (.unordered ">" a.typeName b.typeName))

def greaterEach : List Value → List Value → Except Fault Bool
  | [], _ => .ok false
  | _ :: _, [] => .ok true
  | a :: as, b :: bs => if equal a b then greaterEach as bs else greater a b

end

def atLeast (a b : Value) : Except Fault Bool :=
  match a.numeric?, b.numeric? with
  | some m, some n => .ok (n.atMost m)
  | _, _ => .error (.misuse (.unordered ">=" a.typeName b.typeName))

/-- Whether the value at one place equals itself there. Only a NaN does not; a value that holds one
does. -/
def equalsItself : Value → Bool
  | .float real => real == real
  | _ => true

def equalities (values : List Value) : List (List Bool) :=
  let placed := values.zipIdx
  placed.map fun a => placed.map fun b =>
    if a.2 = b.2 then a.1.equalsItself else equal a.1 b.1

end TextGrammar.Value
