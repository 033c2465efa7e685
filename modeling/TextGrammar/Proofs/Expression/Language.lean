import TextGrammar.Proofs.Numeral.Positional
import TextGrammar.Proofs.Repetition.Separated

/-!
The texts of the expression language and the trees that they stand for, said
without a parser: numbers, and operations that hold their operands in a row.
-/

namespace TextGrammar

abbrev openBracket : CodePoint := '('

abbrev closeBracket : CodePoint := ')'

structure BlankRun (text : Text) : Prop where
  nonempty : text ≠ []
  blank : ∀ point ∈ text, point.isBlank = true

/-- A text that is an expression, and its tree. -/
inductive WrittenExpression : Text → Value → Prop
  | number {digits : Text} (numeral : WholeNumeral (some .int64) digits) :
      WrittenExpression digits (.number (Numeral.positional digits))
  | bare (sign : Operator) {blanks : Text} (apart : BlankRun blanks) :
      WrittenExpression (openBracket :: sign.toChar :: (blanks ++ [closeBracket])) (.operation sign [])
  | operation (sign : Operator) {blanks listed trailing : Text} {operands : List Value}
      (apart : BlankRun blanks) (written : Separated BlankRun WrittenExpression listed operands)
      (ended : trailing = [] ∨ BlankRun trailing) :
      WrittenExpression (openBracket :: sign.toChar :: (blanks ++ (listed ++ (trailing ++ [closeBracket]))))
        (.operation sign operands)

namespace WrittenExpression

theorem nonempty (text : Text) (tree : Value) (written : WrittenExpression text tree) : text ≠ [] := by
  cases written with
  | number numeral => exact numeral.nonempty
  | bare sign apart => simp
  | operation sign apart written ended => simp

/-- A run of digits is a text of the number that has the values of the digits as its places to the base ten,
the last of them the lowest. -/
theorem number_iff {text : Text} {whole : Int} :
    WrittenExpression text (.number whole) ↔
      WholeNumeral (some .int64) text ∧
        whole = (Nat.ofDigits 10 (text.filterMap CodePoint.digitValue?).reverse : Nat) := by
  rw [← Numeral.positional_eq]
  constructor
  · intro written
    cases written with
    | number numeral => exact ⟨numeral, rfl⟩
  · intro found
    obtain ⟨numeral, rfl⟩ := found
    exact .number numeral

/-- The decimal digits of a number are a text of it exactly if it is not above the greatest of 64 bits. -/
theorem decimal_iff {number : Nat} :
    WrittenExpression (Numeral.decimal number) (.number number) ↔ (number : Int) ≤ int64Max := by
  rw [number_iff, ← Numeral.positional_eq, Numeral.positional_decimal]
  constructor
  · intro found
    have bounded := found.1.bounded.2
    rwa [Numeral.positional_decimal] at bounded
  · intro below
    exact ⟨whole_numeral_decimal below, rfl⟩

end WrittenExpression

end TextGrammar
