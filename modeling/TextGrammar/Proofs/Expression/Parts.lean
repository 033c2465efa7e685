import TextGrammar.Expression
import TextGrammar.Proofs.Expression.Language

/-!
How the parts of the expression grammar answer, whatever references mean: blanks,
operators, and operations whose operands are a repetition that has been run.
-/

namespace TextGrammar

open Attempt

theorem BlankRun.ends_digits {blanks : Text} (apart : BlankRun blanks) (rest : Text) :
    EndsDigits (blanks ++ rest) := by
  cases blanks with
  | nil => exact absurd rfl apart.nonempty
  | cons point text =>
      apply Grammar.head_holds
      have blank := apart.blank point List.mem_cons_self
      cases digit : point.isDecimalDigit with
      | false => rfl
      | true => exact absurd (CodePoint.digit_is_not_blank digit) (by simp [blank])

theorem ends_digits_of_open (rest : Text) : EndsDigits (openBracket :: rest) :=
  Grammar.head_holds (by decide)

theorem ends_digits_of_close (rest : Text) : EndsDigits (closeBracket :: rest) :=
  Grammar.head_holds (by decide)

/-- What a run of blanks cannot go on with. -/
def EndsBlanks (rest : Text) : Prop := ∀ point ∈ rest.head?, point.isBlank = false

theorem ends_blanks_of_open (rest : Text) : EndsBlanks (openBracket :: rest) :=
  Grammar.head_holds (by decide)

theorem ends_blanks_of_close (rest : Text) : EndsBlanks (closeBracket :: rest) :=
  Grammar.head_holds (by decide)

theorem WrittenExpression.ends_blanks {text : Text} {tree : Value} (written : WrittenExpression text tree)
    (rest : Text) : EndsBlanks (text ++ rest) := by
  cases written with
  | @number digits numeral =>
      cases text with
      | nil => exact absurd rfl numeral.nonempty
      | cons point text =>
          exact Grammar.head_holds (CodePoint.digit_is_not_blank (numeral.decimal point List.mem_cons_self))
  | bare sign apart => exact ends_blanks_of_open _
  | operation sign apart written ended => exact ends_blanks_of_open _

namespace Grammar

variable {meaning : Reference → Attempts} {kind : FailureKind}

theorem whitespace_yields {blanks rest : Text} (apart : BlankRun blanks) (boundary : EndsBlanks rest) :
    (whitespace.attempt meaning .text).Yields (blanks ++ rest) (.text blanks) rest := by
  change ((span (CodePointClass.blanks.described "whitespace")).attempt meaning .text).Yields _ _ _
  exact span_yields apart.nonempty apart.blank boundary

theorem whitespace_refuses {source : Text} (boundary : EndsBlanks source) :
    ∃ kind, (whitespace.attempt meaning .text).Refuses source kind := by
  change ∃ kind, ((span (CodePointClass.blanks.described "whitespace")).attempt meaning .text).Refuses _ kind
  exact span_refuses boundary

theorem whitespace_answers (meaning : Reference → Attempts) (source : Text) :
    (∃ blanks rest, source = blanks ++ rest ∧ BlankRun blanks ∧ EndsBlanks rest) ∨
      ∃ kind, (whitespace.attempt meaning .text).Refuses source kind := by
  obtain ⟨blanks, rest, rfl, blank, boundary⟩ := exists_span CodePoint.isBlank source
  by_cases nothing : blanks = []
  · subst nothing
    exact Or.inr (whitespace_refuses boundary)
  · exact Or.inl ⟨blanks, rest, rfl, ⟨nothing, blank⟩, boundary⟩

/-- The alternative of one operator. -/
def operatorSign (given : Operator) : Grammar := (character given.toChar).mapConstant (.operator given)

theorem operator_sign_refuses {given : Operator} {source : Text}
    (absent : ∀ point ∈ source.head?, point ≠ given.toChar) :
    ∃ kind, ((operatorSign given).attempt meaning .text).Refuses source kind := by
  obtain ⟨kind, refuses⟩ := character_refuses_other absent
  exact ⟨kind, map_constant_refuses refuses⟩

theorem mem_operators (given : Operator) : given ∈ Operator.all := by
  cases given <;> decide

theorem to_char_injective {left right : Operator}
    (same : (left.toChar : CodePoint) = right.toChar) : left = right := by
  revert same
  cases left <;> cases right <;> decide

theorem operator_yields (given : Operator) (rest : Text) :
    (operator.attempt meaning .text).Yields (given.toChar :: rest) (.operator given) rest := by
  obtain ⟨before, after, split, absent⟩ := List.eq_append_cons_of_mem (mem_operators given)
  have listed : Operator.all.map operatorSign =
      before.map operatorSign ++ operatorSign given :: after.map operatorSign := by
    rw [split, List.map_append, List.map_cons]
  apply choice_of_yields listed _ (map_constant_yields (character_yields _ rest))
  intro alternative earlier
  obtain ⟨other, member, rfl⟩ := List.mem_map.mp earlier
  apply operator_sign_refuses
  apply head_holds
  intro same
  exact absent (to_char_injective same ▸ member)

theorem operator_answers (meaning : Reference → Attempts) (source : Text) :
    (∃ (given : Operator) (rest : Text), source = (given.toChar : CodePoint) :: rest) ∨
      (operator.attempt meaning .text).Refuses source .exhausted := by
  by_cases begins : ∃ (given : Operator) (rest : Text), source = (given.toChar : CodePoint) :: rest
  · exact Or.inl begins
  · right
    apply choice_of_refuses
    intro alternative member
    obtain ⟨given, _, rfl⟩ := List.mem_map.mp (show alternative ∈ Operator.all.map operatorSign from member)
    apply operator_sign_refuses
    apply head_differs
    intro found
    exact begins ⟨given, found⟩

end Grammar

end TextGrammar
