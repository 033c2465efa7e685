import TextGrammar.Attempt.Basic
import TextGrammar.Bound
import TextGrammar.Function.Predicate
import TextGrammar.Text.Occurrence
import TextGrammar.Text.Word

/-!
Primitive grammars: one code point, a span of a class, a fixed word, the text up
to a word and unsigned whole numbers. On a text none of them logs or faults, and
none quotes more of the text than an excerpt or the length of its own word.
-/

namespace TextGrammar

inductive Primitive where
  | character (point : CodePoint)
  | anyCharacter
  /-- The longest span of members of a class, which must not be empty. -/
  | span (members : CodePointClass)
  | literal (word : Word)
  | textUpTo (delimiter : Word)
  | textThrough (delimiter : Word)
  /-- Without a bound a whole number may be of any size. -/
  | integer (bound : Option Bound)

namespace Primitive

def nothingLeft (expected : String) : Failure :=
  .saying ("String is empty, expected " ++ expected ++ ".") .emptyInput

def quotedPoint (point : CodePoint) : String := Text.quoted [point]

def notExpected (found excerpt : String) (expected : CodePoint) : Failure :=
  .saying (found ++ " from " ++ excerpt ++ " is not " ++ quotedPoint expected ++ ".") .mismatch

/-- What messages call the code point that `anyCharacter` needs. -/
def anyName : String := "any character"

def matchCharacter (expected : CodePoint) : Text → Outcome Text
  | [] => .failed (nothingLeft (quotedPoint expected))
  | point :: rest =>
      if point = expected then .matched (.text [point]) rest
      else .failed (notExpected (quotedPoint point) (Text.excerpt (point :: rest)) expected)

def matchAny : Text → Outcome Text
  | [] => .failed (nothingLeft anyName)
  | point :: rest => .matched (.text [point]) rest

/-- The failure of a span on a source that is not empty. -/
def noLeading (description excerpt : String) : Failure :=
  .saying ("Didn't find any leading " ++ description ++ " in " ++ excerpt ++ ".") .mismatch

/-- The failure of a span without a first code point. -/
def noSpan (description : String) (source : Text) : Failure :=
  if source.isEmpty then nothingLeft description else noLeading description source.excerpt

def matchSpan (members : CodePointClass) (source : Text) : Outcome Text :=
  let span := source.takeWhile members.contains
  if span.isEmpty then .failed (noSpan members.description source)
  else .matched (.text span) (source.dropWhile members.contains)

/-- The failure on a text that begins with something else than the word. -/
def notFound (word : Word) (source : Text) : Failure :=
  .saying ("Expected " ++ word.quoted ++ ", found " ++
    Text.quoted (source.take word.text.length) ++ ".") .mismatch

def matchLiteral (word : Word) (source : Text) : Outcome Text :=
  if source.isEmpty then .failed (nothingLeft word.quoted)
  else
    match Text.after? word.text source with
    | some rest => .matched (.text word.text) rest
    | none => .failed (notFound word source)

def noDelimiter (delimiter : Word) (source : Text) : Failure :=
  .saying ("Delimiter " ++ delimiter.quoted ++ " not found in " ++ Text.excerpt source ++ ".")
    (if source.isEmpty then .emptyInput else .mismatch)

/-- The delimiter stays in the rest. -/
def matchUpTo (delimiter : Word) (source : Text) : Outcome Text :=
  match Text.cut? delimiter.text source with
  | some (before, after) => .matched (.text before) (delimiter.text ++ after)
  | none => .failed (noDelimiter delimiter source)

/-- The delimiter ends the value. -/
def matchThrough (delimiter : Word) (source : Text) : Outcome Text :=
  match Text.cut? delimiter.text source with
  | some (before, after) => .matched (.text (before ++ delimiter.text)) after
  | none => .failed (noDelimiter delimiter source)

/-- The failure of a whole number above its bound, both as messages show them. -/
def aboveBound (shown : String) (bound : Text) : Failure :=
  .saying (Text.ofString ("Integer " ++ shown ++ " is greater than the maximum ") ++ bound ++
    Text.ofString ".") .mismatch

def digitCount (digits : Text) : String := "with " ++ toString digits.length ++ " digits"

def notConverted (digits : Text) : Failure :=
  .saying ("Integer " ++ digitCount digits ++ " can't be converted.") .mismatch

/-- Whether there are more digits than code points in the bound, ASCII zeros at the head not
counted. -/
def isLongerThan (digits bound : Text) : Bool :=
  bound.length < (digits.dropWhile fun point : CodePoint => point = '0').length

/-- The class of decimal digits under the name that messages use. -/
def digitClass : CodePointClass := CodePointClass.decimalDigits.described "digits"

/-- The number that the leading digits denote and the text after them. Digits that are longer
than the bound is shown are refused before they are converted. -/
def leadingNumber (shown : Option Text) (source : Text) : Except Failure (Int × Text) :=
  let digits := source.takeWhile digitClass.contains
  if digits.isEmpty then .error (noSpan digitClass.description source)
  else
    match shown.filter (isLongerThan digits) with
    | some bound => .error (aboveBound (digitCount digits) bound)
    | none =>
        match Numeral.readWhole digits with
        | .ok number => .ok (number, source.dropWhile digitClass.contains)
        | .error _ => .error (notConverted digits)

def shownBound (bound : Bound) : Text := Text.ofString bound.print

def matchInteger (bound : Option Bound) (source : Text) : Outcome Text :=
  match leadingNumber (bound.map shownBound) source with
  | .error failure => .failed failure
  | .ok (number, rest) =>
      match bound.filter fun limit => limit.isExceededBy number with
      | some limit => .failed (aboveBound (toString number) (shownBound limit))
      | none => .matched (.int number) rest

def attempt : Primitive → Text → Outcome Text
  | character point => matchCharacter point
  | anyCharacter => matchAny
  | span members => matchSpan members
  | literal word => matchLiteral word
  | textUpTo delimiter => matchUpTo delimiter
  | textThrough delimiter => matchThrough delimiter
  | integer bound => matchInteger bound

def boundedName (printed : String) : String := "integer(max_value=" ++ printed ++ ")"

def integerName : Option Bound → String
  | some bound => if bound.isDefault then "integer()" else boundedName bound.print
  | none => boundedName "None"

def name : Primitive → String
  | character point => quotedPoint point
  | anyCharacter => "any_character()"
  | span members => "string_matching(" ++ members.description ++ ")"
  | literal word => "literal(" ++ word.quoted ++ ")"
  | textUpTo delimiter => "text_up_to(" ++ delimiter.quoted ++ ")"
  | textThrough delimiter => "text_through(" ++ delimiter.quoted ++ ")"
  | integer bound => integerName bound

end Primitive

end TextGrammar
