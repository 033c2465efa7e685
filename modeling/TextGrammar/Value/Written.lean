import TextGrammar.Value.Printer
import TextGrammar.Value.Sequence

/-!
Writing values. A value that holds an overlong whole number cannot be written in
any form, and that is a fault.
-/

namespace TextGrammar.Value

/-- The value itself, if it can be written. -/
def written? (value : Value) : Except Fault Value :=
  if value.isWritable then .ok value else .error .unwritable

def print? (value : Value) : Except Fault String := value.written?.map print

def display? (value : Value) : Except Fault Text := value.written?.map display

theorem display_text (points : Text) : display? (.text points) = .ok points := rfl

/-- The printed form of the leading items of a sequence, with dots for those left out. -/
def excerpt? (sequence : Value) : Except Fault String := do
  if (← sequence.length) ≤ Text.excerptLength then sequence.print?
  else return (← (sequence.take Text.excerptLength).print?) ++ "..."

end TextGrammar.Value
