import TextGrammar.Medium
import TextGrammar.Primitive.Basic

/-!
Spans of what passes a test that may log and fault. A text is tested code point by
code point and any other sequence item by item, up to the first that does not pass.
-/

namespace TextGrammar.Primitive

/-- The leading items that pass, and the rest. -/
def leadingSpan {α : Type} (test : α → Traced Bool) : List α → Traced (List α × List α)
  | [] => return ([], [])
  | item :: rest => do
      if ← test item then
        let span ← leadingSpan test rest
        return (item :: span.1, span.2)
      else return ([], item :: rest)

def spanOfText (description : String) (test : Value → Traced Bool) : Attempt Text := fun source => do
  let span ← leadingSpan (fun point => test (.text [point])) source
  if span.1.isEmpty then return .failed (noSpan description source)
  else return .matched (.text span.1) span.2

/-- What counts as false is taken for an empty source. -/
def spanOfItems (description : String) (test : Value → Traced Bool) : Attempt Value := fun source => do
  if source.isTrue then
    match source.items? with
    | none => Traced.fault (.misuse (.noLength source.typeName))
    | some items =>
        let passed := (← leadingSpan test items).1.length
        if passed = 0 then
          return .failed (noLeading description (← Traced.ofExcept source.excerpt?))
        else return .matched (source.take passed) (source.drop passed)
  else return .failed (nothingLeft description)

def spanOf (description : String) (test : Value → Traced Bool) : Attempts
  | .text => spanOfText description test
  | .value => spanOfItems description test

end TextGrammar.Primitive
