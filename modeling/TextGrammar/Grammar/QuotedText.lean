import TextGrammar.Grammar.Combinator

/-!
Quoted text. Between two quotes every code point stands for itself, except the
escape: with `u` and four hexadecimal digits it stands for the code point of that
number, with a key for the text of that key, and with any other code point for
that one. The number is tried before the keys.
-/

namespace TextGrammar

/-- The two marks of quoted text and the texts of its escape keys, each key once. -/
structure Quotation where
  quote : CodePoint
  escape : CodePoint
  differ : quote ≠ escape
  escapes : List (CodePoint × Text)

namespace Quotation

/-- Backspace, form feed, line feed, carriage return and tab under their usual letters. -/
def generalEscapes : List (CodePoint × Text) :=
  [('b', ['\x08']), ('f', ['\x0c']), ('n', ['\n']), ('r', ['\r']), ('t', ['\t'])]

/-- A later text for a key takes the place of an earlier one. -/
def insertEscape : List (CodePoint × Text) → CodePoint → Text → List (CodePoint × Text)
  | [], key, text => [(key, text)]
  | (known, given) :: rest, key, text =>
      if known = key then (known, text) :: rest else (known, given) :: insertEscape rest key text

/-- Every key has to be a single code point. -/
def escapes? (pairs : List (Text × Text)) : Except Fault (List (CodePoint × Text)) :=
  pairs.foldlM (fun known pair =>
    match pair.1 with
    | [key] => .ok (insertEscape known key pair.2)
    | given => .error (.badCharacter given)) []

def ofTexts? (quote escape : Text) (pairs : List (Text × Text)) : Except Fault Quotation :=
  match quote, escape with
  | [mark], [lead] =>
      if equal : mark = lead then .error .quoteIsEscape
      else do
        let escapes ← escapes? pairs
        return ⟨mark, lead, equal, escapes⟩
  | _, _ => .error .badQuoteLength

/-- Double quotes, a backslash and the usual letters. -/
def general : Quotation := ⟨'"', '\\', by decide, generalEscapes⟩

/-- The class of the code points that stand for themselves: all but the two marks. -/
def plain (quotation : Quotation) : CodePointClass where
  toPredicate := .total "unquoted text" fun value =>
    !value.equal (.text [quotation.quote]) && !value.equal (.text [quotation.escape])
  contains point := point ≠ quotation.quote && point ≠ quotation.escape
  holds_single point := by simp [Predicate.total, Value.equal]

end Quotation

namespace Grammar

def hexDigits : Word := ⟨Text.ofString "0123456789ABCDEFabcdef", by decide⟩

def hexDigit : Grammar := oneOf hexDigits

/-- The texts of a pair as one text. -/
def joinPair : Transformer :=
  .ofPartial anonymous fun
    | .tuple [.text first, .text second] => some (.text (first ++ second))
    | _ => none

/-- One hexadecimal digit and as many more as are asked for. -/
def hexCode : Nat → Grammar
  | 0 => hexDigit
  | more + 1 => ((hexCode more).followedBy hexDigit).map joinPair

/-- The number that hexadecimal digits denote. -/
def hexNumber? (points : Text) : Option Nat :=
  points.foldlM (fun number point => point.hexValue?.map (16 * number + ·)) 0

def toCodePoint : Transformer :=
  .ofPartial anonymous fun
    | .text points => do
        let point ← CodePoint.ofNat? (← hexNumber? points)
        return .text [point]
    | _ => none

def unicodeEscape : Grammar :=
  (((hexCode 3).precededBy (character 'u')).map toCodePoint).named "unicode_escape()"

def escapeKey (escape : CodePoint × Text) : Grammar := (character escape.1).mapConstant (.text escape.2)

def escaped (quotation : Quotation) : Grammar :=
  (choiceOf unicodeEscape (quotation.escapes.map escapeKey ++ [anyCharacter])).precededBy
    (character quotation.escape)

def quotedBody (quotation : Quotation) : Grammar :=
  ((choiceOf (span quotation.plain) [escaped quotation]).many false).map .join

def quotedText (quotation : Quotation) : Grammar :=
  (between (character quotation.quote) (quotedBody quotation) (character quotation.quote)).named
    ("quoted_string(" ++ Text.quoted [quotation.quote] ++ ")")

end Grammar

end TextGrammar
