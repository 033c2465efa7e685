import TextGrammar.Grammar.Combinator
import TextGrammar.Numeral.Decimal

/-!
Grammars for numbers with a sign. The bound of a signed whole number leaves room
for one more below zero than above it. A decimal number takes as much of the text
as it can; a point or an exponent mark without digits after it is left.
-/

namespace TextGrammar.Grammar

/-- The signs of a number, in the order in which they are tried. -/
def signs : Word := ⟨['-', '+'], by simp⟩

def sign : Grammar := (oneOf signs).named "sign()"

/-- Negates the number of a sign and a number, if the sign is a minus. -/
def applySign : Transformer :=
  .ofPartial "apply_sign" fun
    | .tuple [.text mark, .int number] =>
        some (.int (if mark = Text.ofString "-" then -number else number))
    | _ => none

/-- From one below the negated bound up to the bound. -/
def inRange (bound : Bound) : Predicate :=
  .ofPartial "in_range" fun
    | .int number => some (bound.allows number)
    | _ => none

def signedMagnitude (magnitude : Option Bound) : Grammar :=
  ((sign.optional (.text "+")).followedBy (integer magnitude)).map applySign

def signedIntegerName (bound : Bound) : String :=
  if bound.isDefault then "signed_integer()"
  else "signed_integer(max_value=" ++ bound.print ++ ")"

def signedInteger : Option Bound → Grammar
  | none => (signedMagnitude none).named "signed_integer()"
  | some bound =>
      ((signedMagnitude (some bound.next)).filter (inRange bound)).named (signedIntegerName bound)

/-- A whole number with a sign under a bound to which one can be added. The names of the bound and
of the one above it have to be writable. -/
def signedInteger? : Value → Except Fault Grammar
  | .null => .ok (signedInteger none)
  | given => do
      let _ ← (← given.add (.int 1)).written?
      let _ ← given.written?
      match Bound.ofValue? given with
      | some bound => return signedInteger (some bound)
      | none => .error (.notApplicable "signed_integer")

/-- A point and digits, or nothing. -/
def fraction : Grammar :=
  ((digits.precededBy (character '.')).map (.prepend (.text ['.']))).optional (.text [])

/-- Writes the mark of an exponent as a small letter. -/
def joinExponent : Transformer :=
  ⟨anonymous, fun
    | .tuple [.tuple [_, mark], digits] => do
        (← Value.add (.text ['e']) mark).add digits
    | _ => .error (.notApplicable anonymous)⟩

def optionalSign : Grammar := sign.optional (.text [])

/-- An exponent with its mark, an optional sign and digits, or nothing. -/
def exponent : Grammar :=
  ((((oneOf ⟨['e', 'E'], by simp⟩).followedBy optionalSign).followedBy digits).map
    joinExponent).optional (.text [])

/-- The double that a decimal numeral denotes. -/
def toDouble : Value → Except Fault Value
  | .text numeral =>
      match Numeral.readDecimal? numeral with
      | some number => .ok (.float number)
      | none => .error (.notApplicable "float")
  | _ => .error (.notApplicable "float")

/-- The double that the four parts of a decimal number denote. -/
def joinDecimal : Transformer :=
  ⟨anonymous, fun
    | .tuple [.tuple [.tuple [mark, whole], part], scale] => do
        toDouble (← (← (← Value.add mark whole).add part).add scale)
    | _ => .error (.notApplicable anonymous)⟩

def decimalNumber : Grammar :=
  ((((optionalSign.followedBy digits).followedBy fraction).followedBy exponent).map
    joinDecimal).named "decimal_number()"

end TextGrammar.Grammar
