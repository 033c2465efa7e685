import TextGrammar.Primitive.Span

/-!
Primitive grammars on values. A text is treated as a source of its own. A list or
a tuple can begin with a character or with a span; what counts as false is taken
for an empty source; anything else is a misuse of the value.
-/

namespace TextGrammar.Primitive

/-- Matches the first item if it is a text of the one code point. -/
def examineCharacter (expected : CodePoint) (source : Value) : Except Fault (Outcome Value) :=
  if source.isTrue then do
    let first ← source.item 0
    if first.equal (.text [expected]) then return .matched (.text [expected]) (source.drop 1)
    else return .failed (notExpected (← first.print?) (← source.excerpt?) expected)
  else return .failed (nothingLeft (quotedPoint expected))

def examineAny (source : Value) : Except Fault (Outcome Value) :=
  if source.isTrue then return .matched (← source.item 0) (source.drop 1)
  else return .failed (nothingLeft anyName)

/-- Only a text begins with a word. -/
def examineLiteral (word : Word) (source : Value) : Except Fault (Outcome Value) :=
  if source.isTrue then .error (.misuse (.noField source.typeName "startswith"))
  else return .failed (nothingLeft word.quoted)

/-- Why digits that are no text are no number. A bound asks for their count first. -/
def noNumeral (bounded : Bool) (digits : Value) : Misuse :=
  if bounded then .noField digits.typeName "lstrip" else .notNumeral digits.typeName

def examineInteger (bounded : Bool) : Attempt Value :=
  (spanOfItems digitClass.description fun item => Traced.ofExcept (digitClass.holds item)).onMatch
    fun digits _ => Traced.fault (.misuse (noNumeral bounded digits))

/-- What a primitive does with a value that is no text. -/
def examineOther : Primitive → Attempt Value
  | character point => fun source => Traced.ofExcept (examineCharacter point source)
  | anyCharacter => fun source => Traced.ofExcept (examineAny source)
  | span members => spanOfItems members.description fun item => Traced.ofExcept (members.holds item)
  | literal word => fun source => Traced.ofExcept (examineLiteral word source)
  | textUpTo _ => fun source => Traced.fault (.misuse (.noField source.typeName "find"))
  | textThrough _ => fun source => Traced.fault (.misuse (.noField source.typeName "find"))
  | integer bound => examineInteger bound.isSome

def examine (leaf : Primitive) : Attempt Value
  | .text points => return (leaf.attempt points).mapRest .text
  | source => leaf.examineOther source

def attempts (leaf : Primitive) : Attempts
  | .text => .ofFunction leaf.attempt
  | .value => leaf.examine

end TextGrammar.Primitive
