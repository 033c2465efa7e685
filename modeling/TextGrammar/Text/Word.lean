import TextGrammar.Text.Quoted

/-!
Words: the texts that are not empty. Literals and delimiters are words, so that
finding one always takes some text.
-/

namespace TextGrammar

structure Word where
  text : Text
  nonempty : text ≠ []

namespace Word

def ofText? (text : Text) : Option Word :=
  if nonempty : text ≠ [] then some ⟨text, nonempty⟩ else none

def quoted (word : Word) : String := Text.quoted word.text

end Word

end TextGrammar
