/-!
Misuses: what is asked of a value that values of its type do not offer. A misuse
knows the names of the types at hand and nothing of the values.
-/

namespace TextGrammar

inductive Misuse where
  /-- A value that is no sequence was asked for its length. -/
  | noLength (type : String)
  /-- A value that is no sequence was asked for an item. -/
  | noItems (type : String)
  | noSuchItem (sequence : String)
  | noField (type field : String)
  /-- A method of texts was applied to another value. -/
  | noText (method type : String)
  | notIterable (type : String)
  /-- What was to be joined is no sequence. -/
  | notJoinable
  | badPart (place : Nat) (type : String)
  | badOperand (sign type : String)
  | badOperands (sign left right : String)
  | badAppendix (sequence appended : String)
  | unordered (sign left right : String)
  /-- Only a text can occur in a text. -/
  | badMember (type : String)
  | noMembers (type : String)
  | notNumeral (type : String)
  /-- A sequence can be repeated only a whole number of times. -/
  | badCount (type : String)
  deriving DecidableEq

namespace Misuse

def quotedName (name : String) : String := "'" ++ name ++ "'"

def message : Misuse → String
  | noLength type => "object of type " ++ quotedName type ++ " has no len()"
  | noItems type => quotedName type ++ " object is not subscriptable"
  | noSuchItem sequence => sequence ++ " index out of range"
  | noField type field => quotedName type ++ " object has no attribute " ++ quotedName field
  | noText method type =>
      "descriptor " ++ quotedName method ++ " for 'str' objects doesn't apply to a " ++
        quotedName type ++ " object"
  | notIterable type => quotedName type ++ " object is not iterable"
  | notJoinable => "can only join an iterable"
  | badPart place type =>
      "sequence item " ++ toString place ++ ": expected str instance, " ++ type ++ " found"
  | badOperand sign type => "bad operand type for unary " ++ sign ++ ": " ++ quotedName type
  | badOperands sign left right =>
      "unsupported operand type(s) for " ++ sign ++ ": " ++ quotedName left ++ " and " ++
        quotedName right
  | badAppendix sequence appended =>
      "can only concatenate " ++ sequence ++ " (not \"" ++ appended ++ "\") to " ++ sequence
  | unordered sign left right =>
      quotedName sign ++ " not supported between instances of " ++ quotedName left ++ " and " ++
        quotedName right
  | badMember type => "'in <string>' requires string as left operand, not " ++ type
  | noMembers type => "argument of type " ++ quotedName type ++ " is not iterable"
  | notNumeral type =>
      "int() argument must be a string, a bytes-like object or a real number, not " ++
        quotedName type
  | badCount type => "can't multiply sequence by non-int of type " ++ quotedName type

end Misuse

end TextGrammar
