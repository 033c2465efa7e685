/-!
The kinds of failures, which say why a grammar did not match beside the message.
-/

namespace TextGrammar

inductive FailureKind where
  /-- A grammar needed at least one code point and had none. -/
  | emptyInput
  /-- The text differs from what was expected. -/
  | mismatch
  | exhausted
  /-- The grammar matched and a predicate refused the value. -/
  | rejected
  deriving DecidableEq

namespace FailureKind

def word : FailureKind → String
  | .emptyInput => "empty_input"
  | .mismatch => "mismatch"
  | .exhausted => "exhausted"
  | .rejected => "rejected"

def symbol : FailureKind → String
  | .emptyInput => "EMPTY_INPUT"
  | .mismatch => "MISMATCH"
  | .exhausted => "EXHAUSTED"
  | .rejected => "REJECTED"

end FailureKind

end TextGrammar
