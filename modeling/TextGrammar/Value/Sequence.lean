import TextGrammar.Fault
import TextGrammar.Value.Basic

/-!
Sequences: the texts, lists and tuples among the values. A sequence has items and
a length, and it can be cut; the items of a text are its code points, each as a
text of its own.
-/

namespace TextGrammar.Value

def singleTexts (points : Text) : List Value := points.map fun point => .text [point]

def items? : Value → Option (List Value)
  | .text points => some (singleTexts points)
  | .list items => some items
  | .tuple items => some items
  | _ => none

def length : Value → Except Fault Nat
  | .text points => .ok points.length
  | .list items => .ok items.length
  | .tuple items => .ok items.length
  | value => .error (.misuse (.noLength value.typeName))

/-- The leading items; what is no sequence stays whole. -/
def take (count : Nat) : Value → Value
  | .text points => .text (points.take count)
  | .list items => .list (items.take count)
  | .tuple items => .tuple (items.take count)
  | value => value

def drop (count : Nat) : Value → Value
  | .text points => .text (points.drop count)
  | .list items => .list (items.drop count)
  | .tuple items => .tuple (items.drop count)
  | value => value

def repeated (count : Nat) : Value → Value
  | .text points => .text (List.replicate count points).flatten
  | .list items => .list (List.replicate count items).flatten
  | .tuple items => .tuple (List.replicate count items).flatten
  | value => value

/-- The word for a sequence of the value's type. -/
def sequenceName : Value → String
  | .text _ => "string"
  | value => value.typeName

/-- The item at a place, counted from zero. -/
def item (value : Value) (place : Nat) : Except Fault Value :=
  match value.items? with
  | none => .error (.misuse (.noItems value.typeName))
  | some items =>
      match items[place]? with
      | some found => .ok found
      | none => .error (.misuse (.noSuchItem value.sequenceName))

/-- The values as texts, which all of them have to be. The first one has the given place. -/
def textsFrom : Nat → List Value → Except Fault (List Text)
  | _, [] => .ok []
  | place, .text points :: values => (textsFrom (place + 1) values).map (points :: ·)
  | place, value :: _ => .error (.misuse (.badPart place value.typeName))

end TextGrammar.Value
