import TextGrammar.Attempt.Basic
import TextGrammar.Value.Written

/-!
Media: what a grammar is run on. It is mostly a text. When the value of one grammar
is handed to another, the source may be any value, a text among them; what cannot
be done with such a source is a misuse of the value.
-/

namespace TextGrammar

inductive Medium where
  | text
  | value
  deriving DecidableEq

namespace Medium

abbrev Source : Medium → Type
  | .text => Text
  | .value => Value

/-- The length by which progress is measured. -/
def size : (medium : Medium) → medium.Source → Except Fault Nat
  | .text, source => .ok source.length
  | .value, source => Value.length source

/-- The form in which log records show a source. -/
def print : (medium : Medium) → medium.Source → Except Fault String
  | .text, source => .ok (Text.quoted source)
  | .value, source => Value.print? source

end Medium

/-- What a grammar does on each medium. -/
abbrev Attempts := (medium : Medium) → Attempt medium.Source

end TextGrammar
