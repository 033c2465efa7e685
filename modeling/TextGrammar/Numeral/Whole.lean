import TextGrammar.Text.Blank
import TextGrammar.Text.DecimalDigit

/-!
Whole numbers written in a text: blanks around it, one sign, decimal digits of
any script and single underscores between two digits. A run of more than 4300
digits is not converted.
-/

namespace TextGrammar

/-- The longest run of digits that is converted to a number or written for one. -/
def digitLimit : Nat := 4300

inductive NumeralError where
  | malformed
  | tooLong (digits : Nat)
  deriving DecidableEq

namespace Numeral

/-- The number that a list of digits denotes, the leading one first. -/
def ofDigits (digits : List Nat) : Nat := digits.foldl (fun number digit => 10 * number + digit) 0

/-- Where the reader of a run stands: at its start, after a digit or after an underscore. -/
inductive Place where
  | start
  | digit
  | underscore

/-- The digits of the leading run and the text after it. An underscore must stand between
two digits. -/
def leadingDigits? : Place → Text → Option (List Nat × Text)
  | .underscore, [] => none
  | _, [] => some ([], [])
  | place, point :: text =>
      match point.digitValue? with
      | some digit => (leadingDigits? .digit text).map fun run => (digit :: run.1, run.2)
      | none =>
          match place with
          | .underscore => none
          | .start => if point = '_' then none else some ([], point :: text)
          | .digit => if point = '_' then leadingDigits? .underscore text else some ([], point :: text)

/-- Whether a minus sign stands first, and the text after the sign. -/
def takeSign : Text → Bool × Text
  | [] => (false, [])
  | point :: text =>
      if point = '-' then (true, text)
      else if point = '+' then (false, text)
      else (false, point :: text)

def dropMargins (text : Text) : Text :=
  ((text.dropWhile CodePoint.isNumeralMargin).reverse.dropWhile CodePoint.isNumeralMargin).reverse

/-- An underscore out of place wins over the length of the run, and the length over
whatever follows the run. -/
def readWhole (text : Text) : Except NumeralError Int :=
  let signed := takeSign (dropMargins text)
  match leadingDigits? .start signed.2 with
  | none => .error .malformed
  | some (digits, rest) =>
      if digits.length > digitLimit then .error (.tooLong digits.length)
      else if digits.isEmpty || !rest.isEmpty then .error .malformed
      else
        let number : Int := ofDigits digits
        .ok (if signed.1 then -number else number)

/-- A number of more digits has no written form. -/
def isWritable (number : Int) : Bool := number.natAbs < Nat.pow 10 digitLimit

end Numeral

end TextGrammar
