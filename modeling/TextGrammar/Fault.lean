import TextGrammar.Failure
import TextGrammar.Misuse
import TextGrammar.Text.Format
import TextGrammar.Value.Printer

/-!
Faults: what ends a run or a construction without an answer. A failure is no
fault, unless a caller who needs a whole text to match turns it into one. The
wording of every fault stands here, but for that of the misuses of values.
-/

namespace TextGrammar

inductive Fault where
  /-- The whole text was to match and the grammar failed. -/
  | noMatch (failure : Failure)
  /-- The whole text was to match and some of it is left over. -/
  | excess (name : String) (rest : Text)
  | badCharacter (given : Text)
  | emptyLiteral
  | emptyDelimiter
  | noAlternatives
  | noCharacters
  | badQuoteLength
  | quoteIsEscape
  /-- Neither a grammar nor a text stands where one of the two belongs. -/
  | noGrammar
  | undefinedPlaceholder (name : String)
  | definedTwice (name : String)
  | unknownVariable (name : String)
  | malformedNumeral (text : Text)
  | numeralTooLong (digits : Nat)
  /-- A whole number has too many digits to be written. -/
  | unwritable
  | divisionByZero
  | floatDivisionByZero
  | intTooLarge
  | quotientTooLarge
  | truncatedInfinity
  | truncatedNaN
  | tooFewOperands (operator : Operator) (count : Nat)
  | noExpression (printed : String)
  | misuse (cause : Misuse)
  /-- A text that is taken for a format does not go with its operand. -/
  | badFormat (error : FormatError)
  /-- A function was given a value that it is not defined for. -/
  | notApplicable (function : String)

namespace Fault

/-- How much of a malformed numeral's quoted form a message shows. -/
def numeralExcerpt : Nat := 200

def ofNumeralError (text : Text) : NumeralError → Fault
  | .malformed => malformedNumeral text
  | .tooLong digits => numeralTooLong digits

def limitExceeded : String :=
  "Exceeds the limit (" ++ toString digitLimit ++ " digits) for integer string conversion"

/-- A conversion that is no printable ASCII character is shown as a question mark. -/
def conversionName (point : CodePoint) : String :=
  match point.toChar? with
  | some c => if 31 ≤ point.toNat && point.toNat ≤ 126 then c.toString else "?"
  | none => "?"

def formatMessage : FormatError → String
  | .incomplete => "incomplete format"
  | .widthTooLarge => "width too big"
  | .precisionTooLarge => "precision too big"
  | .tooManyDigits => "precision too large"
  | .outOfMemory => ""
  | .badConversion point place =>
      "unsupported format character '" ++ conversionName point ++ "' (0x" ++
        hexadecimal 1 point.toNat ++ ") at index " ++ toString place
  | .needsMapping => "format requires a mapping"
  | .noOperandLeft => "not enough arguments for format string"
  | .unusedOperand => "not all arguments converted during string formatting"

def message : Fault → Text
  | noMatch failure => failure.message.display
  | excess name rest => "Unconsumed input after " ++ name ++ ": " ++ rest.excerpt
  | badCharacter given => "Expected a single character, got " ++ given.quoted ++ "."
  | emptyLiteral => "Literal can't be empty."
  | emptyDelimiter => "Delimiter can't be empty."
  | noAlternatives => "At least one parser required."
  | noCharacters => "At least one character required."
  | badQuoteLength => "The quote and escape must be single characters."
  | quoteIsEscape => "The quote and escape must be different characters."
  | noGrammar => ""
  | undefinedPlaceholder name =>
      "Forward parser " ++ quotedString name ++ " was used before being defined."
  | definedTwice name => "Forward parser " ++ quotedString name ++ " is already defined."
  | unknownVariable name => quotedString name
  | malformedNumeral text =>
      "invalid literal for int() with base 10: " ++
        String.ofList (text.quoted.toList.take numeralExcerpt)
  | numeralTooLong digits =>
      limitExceeded ++ ": value has " ++ toString digits ++
        " digits; use sys.set_int_max_str_digits() to increase the limit"
  | unwritable => limitExceeded ++ "; use sys.set_int_max_str_digits() to increase the limit"
  | divisionByZero => "division by zero"
  | floatDivisionByZero => "float division by zero"
  | intTooLarge => "int too large to convert to float"
  | quotientTooLarge => "integer division result too large for a float"
  | truncatedInfinity => "cannot convert float infinity to integer"
  | truncatedNaN => "cannot convert float NaN to integer"
  | tooFewOperands operator count =>
      "\x60" ++ operator.toChar.toString ++ "\x60 needs at least two operands, got " ++
        toString count ++ "."
  | noExpression printed => "Not an expression node: " ++ printed
  | misuse cause => cause.message
  | badFormat error => formatMessage error
  | notApplicable function => function ++ " is not defined for the value"

/-- The kind of the failure that a fault comes from. -/
def kind? : Fault → Option FailureKind
  | noMatch failure => some failure.kind
  | excess .. => some .mismatch
  | _ => none

/-- The text that a match of too little left over. -/
def leftover? : Fault → Option Text
  | excess _ rest => some rest
  | _ => none

/-- The sorts of fault that callers tell apart. -/
inductive Category where
  | unmatched
  | leftover
  | badValue
  | badUse
  | assertion
  | missing
  | badType
  | badIndex
  | badField
  | zeroDivision
  | overflow
  | memory
  deriving DecidableEq

def Category.ofMisuse : Misuse → Category
  | .noSuchItem _ => .badIndex
  | .noField .. => .badField
  | _ => .badType

def Category.ofFormatError : FormatError → Category
  | .needsMapping | .noOperandLeft | .unusedOperand => .badType
  | .tooManyDigits => .overflow
  | .outOfMemory => .memory
  | _ => .badValue

def category : Fault → Category
  | noMatch _ => .unmatched
  | excess .. => .leftover
  | noGrammar => .assertion
  | undefinedPlaceholder _ | definedTwice _ => .badUse
  | unknownVariable _ => .missing
  | divisionByZero | floatDivisionByZero => .zeroDivision
  | intTooLarge | quotientTooLarge | truncatedInfinity => .overflow
  | misuse cause => .ofMisuse cause
  | badFormat error => .ofFormatError error
  | noExpression _ | notApplicable _ => .badType
  | _ => .badValue

end Fault

end TextGrammar
