import TextGrammar.Grammar.Number
import TextGrammar.Grammar.QuotedText

/-!
The constants of the library under the names by which they can be asked for.
-/

namespace TextGrammar

def constants : List (String × Value) :=
  [("DECIMAL", .list (Value.singleTexts "0123456789")),
   ("HEXADECIMAL", .list (Value.singleTexts Grammar.hexDigits.text)),
   ("SIGNS", .tuple (Value.singleTexts Grammar.signs.text)),
   ("INT64_MAX", .int int64Max),
   ("EXCERPT_LENGTH", .int Text.excerptLength),
   ("EITHER_CONNECTIVE", .text Attempt.eitherConnective),
   ("CHOICE_NOTICE", .text Attempt.choiceNotice),
   ("GENERAL_ESCAPES",
     .list (Quotation.generalEscapes.map fun escape => .list [.text [escape.1], .text escape.2]))]

end TextGrammar
