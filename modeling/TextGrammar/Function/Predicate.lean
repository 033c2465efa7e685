import TextGrammar.Text.Letter
import TextGrammar.Text.Blank
import TextGrammar.Text.DecimalDigit
import TextGrammar.Function.Transformer
import TextGrammar.Value.Equality

/-!
Tests on values, each with the description that names and messages show, and
classes of code points. A class is a test that has an answer for every code point
as a text of its own. The usual classes hold for a longer text when it consists
of members only.
-/

namespace TextGrammar

structure Predicate where
  description : String
  holds : Value → Except Fault Bool

structure CodePointClass extends Predicate where
  contains : CodePoint → Bool
  holds_single : ∀ point, holds (.text [point]) = .ok (contains point)

def Text.includes (text word : Text) : Bool :=
  match text with
  | [] => word.isEmpty
  | point :: rest => word.isPrefixOf (point :: rest) || includes rest word

theorem Text.includes_single (text : Text) (point : CodePoint) :
    text.includes [point] = text.contains point := by
  induction text with
  | nil => rfl
  | cons first rest induction =>
      rw [Text.includes, induction, List.contains_cons]
      simp [List.isPrefixOf]

namespace Predicate

def total (description : String) (holds : Value → Bool) : Predicate :=
  ⟨description, fun value => .ok (holds value)⟩

/-- A test that is only used where it has a result. -/
def ofPartial (description : String) (holds : Value → Option Bool) : Predicate :=
  ⟨description, fun value =>
    match holds value with
    | some truth => .ok truth
    | none => .error (.notApplicable description)⟩

/-- A text is taken for a format with the operand two, and what that gives is never even. -/
def isEven : Predicate :=
  ⟨"is_even", fun
    | .text points =>
        match Format.check points with
        | .ok () => .ok false
        | .error reason => .error (.badFormat reason)
    | value =>
        match value.numeric? with
        | some number => .ok number.isEven
        | none => .error (.misuse (.badOperands "%" value.typeName "int"))⟩

def greaterThan (bound : Value) : Predicate := ⟨anonymous, fun value => value.greater bound⟩

def lengthAtLeast (least : Value) : Predicate :=
  ⟨anonymous, fun value => do (Value.int (← value.length)).atLeast least⟩

/-- Whether the value, which has to be a text, occurs in the text. -/
def within (text : Text) : Value → Except Fault Bool
  | .text points => .ok (text.includes points)
  | value => .error (.misuse (.badMember value.typeName))

/-- Whether the value equals an item of the container, or occurs in it as part of a text. -/
def holdsMember : Value → Value → Except Fault Bool
  | .text text, value => within text value
  | .list items, value => .ok (items.any fun item => item.equal value)
  | .tuple items, value => .ok (items.any fun item => item.equal value)
  | container, _ => .error (.misuse (.noMembers container.typeName))

def memberOf (container : Value) : Predicate := ⟨anonymous, holdsMember container⟩

def oneOfDescription (items : Value) : String := "OneOf(items=" ++ items.print ++ ")"

def described (predicate : Predicate) (description : String) : Predicate :=
  { predicate with description }

/-- Holds where the other does not, and has no description. -/
def complement (predicate : Predicate) : Predicate :=
  ⟨anonymous, fun value => (predicate.holds value).map not⟩

end Predicate

namespace CodePointClass

/-- The class of a property of code points, under the name of the method that tests texts. -/
def ofMethod (method : String) (contains : CodePoint → Bool) : CodePointClass where
  description := method
  holds
    | .text points => .ok (!points.isEmpty && points.all contains)
    | value => .error (.misuse (.noText method value.typeName))
  contains := contains
  holds_single := by simp

def letters : CodePointClass := .ofMethod "isalpha" CodePoint.isLetter

def blanks : CodePointClass := .ofMethod "isspace" CodePoint.isBlank

def decimalDigits : CodePointClass := .ofMethod "isdecimal" CodePoint.isDecimalDigit

/-- The empty text consists of ASCII alone. -/
def ascii : CodePointClass where
  description := "isascii"
  holds
    | .text points => .ok (points.all CodePoint.isAscii)
    | value => .error (.misuse (.noText "isascii" value.typeName))
  contains := CodePoint.isAscii
  holds_single := by simp

def truth : CodePointClass where
  toPredicate := .total "bool" Value.isTrue
  contains _ := true
  holds_single _ := rfl

def always : CodePointClass where
  toPredicate := .total anonymous fun _ => true
  contains _ := true
  holds_single _ := rfl

def never : CodePointClass where
  toPredicate := .total anonymous fun _ => false
  contains _ := false
  holds_single _ := rfl

def memberOf? (container : Value) : Option CodePointClass :=
  match container with
  | .text text => some {
      toPredicate := .memberOf (.text text)
      contains := fun point => text.contains point
      holds_single := fun point => congrArg Except.ok (text.includes_single point) }
  | .list items => some {
      toPredicate := .memberOf (.list items)
      contains := fun point => items.any fun item => item.equal (.text [point])
      holds_single := fun _ => rfl }
  | .tuple items => some {
      toPredicate := .memberOf (.tuple items)
      contains := fun point => items.any fun item => item.equal (.text [point])
      holds_single := fun _ => rfl }
  | _ => none

def complement (members : CodePointClass) : CodePointClass where
  toPredicate := members.toPredicate.complement
  contains point := !members.contains point
  holds_single point := by simp [Predicate.complement, members.holds_single, Except.map]

def described (members : CodePointClass) (description : String) : CodePointClass :=
  { members with description }

end CodePointClass

end TextGrammar
