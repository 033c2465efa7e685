import TextGrammar.Expression
import TextGrammar.Grammar.QuotedText

/-!
Properties of grammars that do not look at names and that a choice has as soon as all its
alternatives have it. The choices of the library are gone through here once for all such
properties.
-/

namespace TextGrammar.Grammar

structure Structural (shape : Grammar → Prop) : Prop where
  named : ∀ {grammar : Grammar} {label : String}, shape grammar → shape (grammar.named label)
  choice : ∀ {others : Nat} {alternatives : Fin (others + 1) → Grammar},
    (∀ index, shape (alternatives index)) → shape (.choice alternatives)

namespace Structural

variable {shape : Grammar → Prop} (structural : Structural shape)

include structural

theorem choice_of {first : Grammar} {others : List Grammar}
    (every : ∀ grammar ∈ first :: others, shape grammar) : shape (choiceOf first others) :=
  structural.choice fun index => every _ (List.get_mem (first :: others) index)

theorem one_of (characters : ∀ point, shape (character point)) (word : Word) : shape (oneOf word) := by
  unfold oneOf
  split
  apply structural.named
  apply structural.choice_of
  intro grammar member
  rcases List.mem_cons.mp member with rfl | later
  · exact characters _
  · obtain ⟨point, _, rfl⟩ := List.mem_map.mp later
    exact characters point

theorem operator (signs : ∀ sign : Operator, shape ((character sign.toChar).mapConstant (.operator sign))) :
    shape operator := by
  apply structural.named
  apply structural.choice_of
  intro grammar member
  rcases List.mem_cons.mp member with rfl | later
  · exact signs .plus
  · obtain ⟨sign, _, rfl⟩ := List.mem_map.mp later
    exact signs sign

/-- What may stand behind an escape. -/
theorem escapes (unicode : shape unicodeEscape) (keys : ∀ escape, shape (escapeKey escape))
    (any : shape anyCharacter) (quotation : Quotation) :
    shape (choiceOf unicodeEscape (quotation.escapes.map escapeKey ++ [anyCharacter])) := by
  apply structural.choice_of
  intro grammar member
  rcases List.mem_cons.mp member with rfl | later
  · exact unicode
  · rcases List.mem_append.mp later with keyed | last
    · obtain ⟨key, _, rfl⟩ := List.mem_map.mp keyed
      exact keys key
    · obtain rfl := List.mem_singleton.mp last
      exact any

/-- What a quoted text repeats. -/
theorem pieces {quotation : Quotation} (plain : shape (span quotation.plain))
    (escape : shape (escaped quotation)) : shape (choiceOf (span quotation.plain) [escaped quotation]) := by
  apply structural.choice_of
  intro grammar member
  rcases List.mem_cons.mp member with rfl | other
  · exact plain
  · obtain rfl := List.mem_singleton.mp other
    exact escape

end Structural

end TextGrammar.Grammar
