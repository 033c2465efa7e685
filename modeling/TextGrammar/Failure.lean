import TextGrammar.Value.Basic

/-!
Failures: the answer of a grammar that does not match. A failure is an ordinary
answer and not an error. Its message is a text, unless a function on messages
has made another value of it.
-/

namespace TextGrammar

structure Failure where
  message : Value
  kind : FailureKind

/-- A failure whose message is a text. -/
def Failure.saying (words : Text) (kind : FailureKind) : Failure := ⟨.text words, kind⟩

end TextGrammar
