import TextGrammar.Grammar.Basic
import TextGrammar.Primitive.Unordered

/-!
Combinators made of the basic ones, with names of their own, and the checked
constructions that take texts. A text that stands for a grammar becomes one
code point or a literal, depending on its length.
-/

namespace TextGrammar.Grammar

def character (point : CodePoint) : Grammar := primitive (.character point)

def anyCharacter : Grammar := primitive .anyCharacter

def span (members : CodePointClass) : Grammar := primitive (.span members)

def letters : Grammar := (span (CodePointClass.letters.described "letters")).named "letters()"

def whitespace : Grammar := (span (CodePointClass.blanks.described "whitespace")).named "whitespace()"

def digits : Grammar := (span Primitive.digitClass).named "digits()"

def literal (word : Word) : Grammar := primitive (.literal word)

def textUpTo (delimiter : Word) : Grammar := primitive (.textUpTo delimiter)

def textThrough (delimiter : Word) : Grammar := primitive (.textThrough delimiter)

def integer (bound : Option Bound) : Grammar := primitive (.integer bound)

/-- Digits under a bound of any sort; nothing stands for no bound. The name shows the bound, which
has to be writable. -/
def integer? : Value → Except Fault Grammar
  | .null => .ok (integer none)
  | bound => do
      let printed ← bound.print?
      match Bound.ofValue? bound with
      | some limit => return integer (some limit)
      | none => return custom (Primitive.boundedName printed) (Primitive.unordered bound)

def character? : Text → Except Fault Grammar
  | [point] => .ok (character point)
  | given => .error (.badCharacter given)

def literal? (text : Text) : Except Fault Grammar :=
  match Word.ofText? text with
  | some word => .ok (literal word)
  | none => .error .emptyLiteral

def textUpTo? (text : Text) : Except Fault Grammar :=
  match Word.ofText? text with
  | some word => .ok (textUpTo word)
  | none => .error .emptyDelimiter

def textThrough? (text : Text) : Except Fault Grammar :=
  match Word.ofText? text with
  | some word => .ok (textThrough word)
  | none => .error .emptyDelimiter

/-- Discards the value for a fixed one. -/
def mapConstant (grammar : Grammar) (value : Value) : Grammar :=
  (grammar.map (.constant value)).named
    (grammar.name ++ ".map_constant(" ++ value.print ++ ")")

/-- Converts the matched text to a whole number, which must be possible. -/
def mapToInt (grammar : Grammar) : Grammar :=
  (grammar.map .toInt).named (grammar.name ++ ".map_to_int()")

/-- Keeps the value of the first of two grammars in a row. -/
def skipping (kept skipped : Grammar) : Grammar :=
  ((kept.followedBy skipped).map .first).named
    (kept.name ++ ".skipping(" ++ skipped.name ++ ")")

/-- Keeps the value of the second of two grammars in a row; the second is named first. -/
def precededBy (kept skipped : Grammar) : Grammar :=
  ((skipped.followedBy kept).map .second).named
    (kept.name ++ ".preceded_by(" ++ skipped.name ++ ")")

def skippingWhitespace (grammar : Grammar) : Grammar :=
  (grammar.skipping (whitespace.optional (.text []))).named
    (grammar.name ++ ".skipping_whitespace()")

def skippingSomeWhitespace (grammar : Grammar) : Grammar :=
  (grammar.skipping whitespace).named (grammar.name ++ ".skipping_at_least_one_whitespace()")

/-- The content of three grammars in a row. -/
def innerValue : Transformer :=
  .ofPartial anonymous fun
    | .tuple [.tuple [_, content], _] => some content
    | _ => none

def between (left content right : Grammar) : Grammar :=
  (((left.followedBy content).followedBy right).map innerValue).named
    ("between(" ++ left.name ++ ", " ++ content.name ++ ", " ++ right.name ++ ")")

/-- The values on the two sides of a separator. -/
def split (left separator right : Grammar) : Grammar :=
  ((left.skipping separator).followedBy right).named
    ("split(" ++ left.name ++ ", " ++ separator.name ++ ", " ++ right.name ++ ")")

def choiceOf (first : Grammar) (others : List Grammar) : Grammar :=
  choice fun index : Fin (others.length + 1) => (first :: others).get index

def choice? : List Grammar → Except Fault Grammar
  | [] => .error .noAlternatives
  | first :: others => .ok (choiceOf first others)

/-- A single code point of the word. -/
def oneOf (word : Word) : Grammar :=
  match word.text, word.nonempty with
  | first :: others, _ =>
      (choiceOf (character first) (others.map character)).named ("one_of(" ++ word.quoted ++ ")")

def oneOf? (text : Text) : Except Fault Grammar :=
  match Word.ofText? text with
  | some word => .ok (oneOf word)
  | none => .error .noCharacters

/-- One code point stands for itself and a longer word for a literal. -/
def ofWord (word : Word) : Grammar :=
  match word.text with
  | [point] => character point
  | _ => literal word

/-- What may be given in the place of a grammar. -/
inductive Part where
  | grammar (grammar : Grammar)
  | text (text : Text)
  /-- Something of another type. -/
  | other (type : String)

namespace Part

/-- The grammar of a bound or a separator, for which a text may stand. -/
def toGrammar : Part → Except Fault Grammar
  | .grammar given => .ok given
  | .text points =>
      match Word.ofText? points with
      | some word => .ok (ofWord word)
      | none => .error .emptyLiteral
  | .other _ => .error .noGrammar

/-- The grammar of an operand, for which nothing else may stand: what is given is asked for a field
that only a grammar has. -/
def having (field : String) : Part → Except Fault Grammar
  | .grammar given => .ok given
  | .text points => .error (.misuse (.noField (Value.text points).typeName field))
  | .other type => .error (.misuse (.noField type field))

end Part

end TextGrammar.Grammar
