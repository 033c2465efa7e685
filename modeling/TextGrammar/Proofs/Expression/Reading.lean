import TextGrammar.Proofs.Expression.Parts
import TextGrammar.Session

/-!
The grammar of expressions reads the expression language. The budget bounds how deep
operands lie inside one another, and each of them is at least an opening bracket
shorter than the text around it, so the induction is on the budget.
-/

namespace TextGrammar

open Attempt

namespace Grammar

section

variable {meaning : Reference → Attempts} (given : Operator) {source rest : Text} {blanks : Text}
  {values : List Value} {stop : Stop} {kind : FailureKind}

/-- The run of the operands. -/
def operandsRun (meaning : Reference → Attempts) (source : Text) : Traced (Repetition Text) :=
  Repetition.run Medium.text.size ((deferred (.provided .expression)).attempt meaning .text)
    (some (whitespace.attempt meaning .text)) source

theorem content_yields (apart : BlankRun blanks) (boundary : EndsBlanks source)
    (answered : operandsRun meaning source = pure ⟨values, rest, stop⟩) (counted : stop ≠ .stalled) :
    ((operator.skippingSomeWhitespace.followedBy operands).attempt meaning .text).Yields
      (given.toChar :: (blanks ++ source)) (.tuple [.operator given, .list values]) rest := by
  have begins : (operator.skippingSomeWhitespace.attempt meaning .text).Yields
      (given.toChar :: (blanks ++ source)) (.operator given) source :=
    skipping_yields (operator_yields given _) (whitespace_yields apart boundary)
  have listed : (operands.attempt meaning .text).Yields source (.list values) rest :=
    Repetition.repeated_yields answered counted
  exact begins.followed_by listed

theorem operation_yields (apart : BlankRun blanks) (boundary : EndsBlanks source)
    (answered : operandsRun meaning source = pure ⟨values, closeBracket :: rest, stop⟩)
    (counted : stop ≠ .stalled) :
    (operation.attempt meaning .text).Yields (openBracket :: given.toChar :: (blanks ++ source))
      (.operation given values) rest := by
  have content := content_yields given apart boundary answered counted
  have closes : ((character closeBracket).attempt meaning .text).Yields (closeBracket :: rest) _ rest :=
    character_yields closeBracket rest
  have bracketed := between_yields (character_yields openBracket _) content closes
  exact bracketed.map rfl

theorem operation_refuses_other (absent : ∀ point ∈ source.head?, point ≠ openBracket) :
    ∃ kind, (operation.attempt meaning .text).Refuses source kind := by
  obtain ⟨kind, refuses⟩ := character_refuses_other absent
  exact ⟨kind, (between_refuses_open refuses).map⟩

theorem operation_refuses_operator (refuses : (operator.attempt meaning .text).Refuses source kind) :
    (operation.attempt meaning .text).Refuses (openBracket :: source) kind := by
  have content : ((operator.skippingSomeWhitespace.followedBy operands).attempt meaning .text).Refuses
      source kind := refuses.followed_by.map.followed_by
  exact (between_refuses_content (character_yields openBracket source) content).map

theorem operation_refuses_spacing (refuses : (whitespace.attempt meaning .text).Refuses source kind) :
    (operation.attempt meaning .text).Refuses (openBracket :: given.toChar :: source) kind := by
  have content : ((operator.skippingSomeWhitespace.followedBy operands).attempt meaning .text).Refuses
      (given.toChar :: source) kind :=
    ((operator_yields given source).followed_by_refusal refuses).map.followed_by
  exact (between_refuses_content (character_yields openBracket _) content).map

theorem operation_refuses_closing (apart : BlankRun blanks) (boundary : EndsBlanks source)
    (answered : operandsRun meaning source = pure ⟨values, rest, stop⟩) (counted : stop ≠ .stalled)
    (unclosed : ∀ point ∈ rest.head?, point ≠ closeBracket) :
    ∃ kind, (operation.attempt meaning .text).Refuses
      (openBracket :: given.toChar :: (blanks ++ source)) kind := by
  have content := content_yields given apart boundary answered counted
  obtain ⟨kind, refuses⟩ := character_refuses_other unclosed
  exact ⟨kind, (between_refuses_close (character_yields openBracket _) content refuses).map⟩

theorem expression_yields_number {digits : Text} (numeral : WholeNumeral (some .int64) digits)
    (boundary : EndsDigits rest) :
    (expression.attempt meaning .text).Yields (digits ++ rest) (.number (Numeral.positional digits)) rest := by
  have read : (number.attempt meaning .text).Yields (digits ++ rest)
      (.number (Numeral.positional digits)) rest := (integer_yields numeral boundary).map rfl
  exact read.either.map rfl

theorem number_refuses_other (boundary : EndsDigits source) :
    ∃ kind, (number.attempt meaning .text).Refuses source kind := by
  obtain ⟨kind, refuses⟩ := integer_refuses_other boundary
  exact ⟨kind, refuses.map⟩

theorem expression_yields_operation {tree : Value}
    (number_refuses : ∃ kind, (number.attempt meaning .text).Refuses source kind)
    (yields : (operation.attempt meaning .text).Yields source tree rest) :
    (expression.attempt meaning .text).Yields source tree rest := by
  obtain ⟨kind, refuses⟩ := number_refuses
  exact (refuses.either yields).map rfl

theorem expression_refuses (number_refuses : ∃ kind, (number.attempt meaning .text).Refuses source kind)
    (operation_refuses : ∃ kind, (operation.attempt meaning .text).Refuses source kind) :
    (expression.attempt meaning .text).Refuses source .exhausted := by
  obtain ⟨kind, refuses⟩ := number_refuses
  obtain ⟨other, refusesToo⟩ := operation_refuses
  exact (refuses.either_refusal refusesToo).map

theorem expression_refuses_close (rest : Text) :
    (expression.attempt meaning .text).Refuses (closeBracket :: rest) .exhausted := by
  apply expression_refuses (number_refuses_other (ends_digits_of_close rest))
  exact operation_refuses_other (head_holds (by decide))

/-- An expression that is no number. -/
def WrittenOperation (text : Text) (tree : Value) : Prop :=
  WrittenExpression text tree ∧ ∀ whole, tree ≠ .number whole

theorem operation_reads {bound : Nat}
    (items : ∀ source, source.length ≤ bound →
      ((deferred (.provided .expression)).attempt meaning .text).Reads WrittenExpression source)
    (source : Text) (short : source.length ≤ bound + 1) :
    (operation.attempt meaning .text).Reads WrittenOperation source := by
  have gaps : ∀ source, (whitespace.attempt meaning .text).Reads (fun space _ => BlankRun space) source := by
    intro source
    rcases whitespace_answers meaning source with ⟨blanks, rest, rfl, apart, boundary⟩ | refuses
    · exact Or.inl ⟨blanks, _, rest, rfl, apart, whitespace_yields apart boundary⟩
    · exact Or.inr refuses
  by_cases opened : ∃ text : Text, source = openBracket :: text
  · obtain ⟨text, rfl⟩ := opened
    rcases operator_answers meaning text with ⟨given, later, rfl⟩ | refuses
    · rcases whitespace_answers meaning later with ⟨blanks, body, rfl, apart, boundary⟩ | ⟨kind, refuses⟩
      · have shortBody : body.length ≤ bound := by
          simp only [List.length_cons, List.length_append] at short
          omega
        obtain ⟨values, rest, stop, answered, counted, found⟩ :=
          Repetition.run_reads_items WrittenExpression.nonempty items gaps body shortBody
        by_cases closed : ∃ after : Text, rest = closeBracket :: after
        · obtain ⟨after, rfl⟩ := closed
          have yields := operation_yields given apart boundary answered counted
          rcases found with ⟨rfl, rfl⟩ | ⟨listed, trailing, rfl, written, ended⟩
          · exact Or.inl ⟨_, _, after, by simp, ⟨.bare given apart, by simp⟩, yields⟩
          · exact Or.inl ⟨_, _, after, by simp, ⟨.operation given apart written ended, by simp⟩, yields⟩
        · exact Or.inr (operation_refuses_closing given apart boundary answered counted (head_differs closed))
      · exact Or.inr ⟨kind, operation_refuses_spacing given refuses⟩
    · exact Or.inr ⟨.exhausted, operation_refuses_operator refuses⟩
  · exact Or.inr (operation_refuses_other (head_differs opened))

end

/-- What may follow a tree. A number goes on as long as there are digits. -/
def EndsTree (tree : Value) (rest : Text) : Prop := ∀ whole, tree = .number whole → EndsDigits rest

section

variable {scope : Scope} (knows : scope (.provided .expression) = .ok expression)

include knows

theorem operand_is_expression (budget : Nat) :
    (deferred (.provided .expression)).attempt (scope.meaning (budget + 1)) .text =
      expression.attempt (scope.meaning budget) .text := by
  simp only [attempt, Scope.meaning, knows]

theorem expression_reads (budget : Nat) (source : Text) (short : source.length ≤ budget) :
    (∃ text tree rest, source = text ++ rest ∧ WrittenExpression text tree ∧ EndsTree tree rest ∧
      (expression.attempt (scope.meaning budget) .text).Yields source tree rest) ∨
    (expression.attempt (scope.meaning budget) .text).Refuses source .exhausted := by
  induction budget generalizing source with
  | zero =>
      obtain rfl := List.length_eq_zero_iff.mp (Nat.le_zero.mp short)
      have nothing : EndsDigits [] := by simp [EndsDigits]
      exact Or.inr (expression_refuses (number_refuses_other nothing) (operation_refuses_other (by simp)))
  | succ budget induction =>
      rcases integer_answers source with ⟨digits, rest, rfl, numeral, boundary⟩ | ⟨kind, refuses⟩
      · exact Or.inl ⟨digits, _, rest, rfl, .number numeral, fun _ _ => boundary,
          expression_yields_number numeral boundary⟩
      · have number_refuses : ∃ kind, (number.attempt (scope.meaning (budget + 1)) .text).Refuses source kind :=
          ⟨kind, refuses.map⟩
        -- Operands have one budget less, and they begin behind an opening bracket.
        have operands : ∀ source, source.length ≤ budget →
            ((deferred (.provided .expression)).attempt (scope.meaning (budget + 1)) .text).Reads
              WrittenExpression source := by
          intro source short
          rw [operand_is_expression knows]
          rcases induction source short with ⟨text, tree, rest, parts, written, _, yields⟩ | refuses
          · exact Or.inl ⟨text, tree, rest, parts, written, yields⟩
          · exact Or.inr ⟨.exhausted, refuses⟩
        rcases operation_reads operands source short with
          ⟨text, tree, rest, parts, ⟨written, noNumber⟩, yields⟩ | operation_refuses
        · exact Or.inl ⟨text, tree, rest, parts, written, fun whole same => absurd same (noNumber whole),
            expression_yields_operation number_refuses yields⟩
        · exact Or.inr (expression_refuses number_refuses operation_refuses)

theorem written_operation_yields {budget : Nat} (given : Operator) {blanks listed trailing : Text}
    {values : List Value}
    (operands : ∀ text tree rest, WrittenExpression text tree → text.length ≤ budget → EndsDigits rest →
      (expression.attempt (scope.meaning budget) .text).Yields (text ++ rest) tree rest)
    (apart : BlankRun blanks) (written : Separated BlankRun WrittenExpression listed values)
    (ended : trailing = [] ∨ BlankRun trailing) (short : listed.length ≤ budget) (rest : Text) :
    (operation.attempt (scope.meaning (budget + 1)) .text).Yields
      (openBracket :: given.toChar :: (blanks ++ (listed ++ (trailing ++ closeBracket :: rest))))
      (.operation given values) rest := by
  have gaps : ∀ space text tree later, BlankRun space → WrittenExpression text tree →
      EndsDigits (space ++ (text ++ later)) ∧ ∃ skipped,
        (whitespace.attempt (scope.meaning (budget + 1)) .text).Yields (space ++ (text ++ later)) skipped
          (text ++ later) := by
    intro space text tree later spacing begins
    exact ⟨spacing.ends_digits _, _, whitespace_yields spacing (begins.ends_blanks later)⟩
  have follows : EndsDigits (trailing ++ closeBracket :: rest) := by
    rcases ended with rfl | spacing
    · exact ends_digits_of_close rest
    · exact spacing.ends_digits _
  have closing : ∃ kind, (expression.attempt (scope.meaning budget) .text).Refuses (closeBracket :: rest) kind :=
    ⟨.exhausted, expression_refuses_close rest⟩
  have stops : (trailing = [] ∧
        ∃ kind, (whitespace.attempt (scope.meaning (budget + 1)) .text).Refuses (closeBracket :: rest) kind) ∨
      (∃ skipped, (whitespace.attempt (scope.meaning (budget + 1)) .text).Yields
        (trailing ++ closeBracket :: rest) skipped (closeBracket :: rest)) ∧
      ∃ kind, (expression.attempt (scope.meaning budget) .text).Refuses (closeBracket :: rest) kind := by
    rcases ended with rfl | spacing
    · exact Or.inl ⟨rfl, whitespace_refuses (ends_blanks_of_close rest)⟩
    · exact Or.inr ⟨⟨_, whitespace_yields spacing (ends_blanks_of_close rest)⟩, closing⟩
  obtain ⟨stop, answered, counted⟩ :=
    Repetition.run_of_items WrittenExpression.nonempty operands gaps follows stops written short
  rw [← operand_is_expression knows] at answered
  obtain ⟨first, tree, others, rfl, begins⟩ := written.begins
  have boundary : EndsBlanks (first ++ others ++ (trailing ++ closeBracket :: rest)) := by
    rw [List.append_assoc]
    exact begins.ends_blanks _
  exact operation_yields given apart boundary answered counted

theorem bare_operation_yields (budget : Nat) (given : Operator) {blanks : Text} (apart : BlankRun blanks)
    (rest : Text) :
    (operation.attempt (scope.meaning (budget + 1)) .text).Yields
      (openBracket :: given.toChar :: (blanks ++ closeBracket :: rest)) (.operation given []) rest := by
  have closing : ((deferred (.provided .expression)).attempt (scope.meaning (budget + 1)) .text).Refuses
      (closeBracket :: rest) .exhausted := by
    rw [operand_is_expression knows]
    exact expression_refuses_close rest
  obtain ⟨failure, answered⟩ := Repetition.run_of_refusal closing
  exact operation_yields given apart (ends_blanks_of_close rest) answered (by simp)

theorem written_expression_yields (budget : Nat) (text : Text) (tree : Value) (rest : Text)
    (written : WrittenExpression text tree) (short : text.length ≤ budget) (follows : EndsTree tree rest) :
    (expression.attempt (scope.meaning budget) .text).Yields (text ++ rest) tree rest := by
  induction budget generalizing text tree rest with
  | zero => exact absurd (List.length_eq_zero_iff.mp (Nat.le_zero.mp short)) (written.nonempty _ _)
  | succ budget induction =>
      cases written with
      | number numeral => exact expression_yields_number numeral (follows _ rfl)
      | @bare given blanks apart =>
          have yields := bare_operation_yields knows budget given apart rest
          simp only [List.cons_append, List.append_assoc, List.nil_append]
          exact expression_yields_operation (number_refuses_other (ends_digits_of_open _)) yields
      | @operation given blanks listed trailing operands apart written ended =>
          have shorter : listed.length ≤ budget := by
            simp only [List.length_cons, List.length_append] at short
            omega
          have elements : ∀ text tree rest, WrittenExpression text tree → text.length ≤ budget →
              EndsDigits rest →
                (expression.attempt (scope.meaning budget) .text).Yields (text ++ rest) tree rest := by
            intro text tree rest written short boundary
            exact induction text tree rest written short fun _ _ => boundary
          have yields := written_operation_yields knows given elements apart written ended shorter rest
          simp only [List.cons_append, List.append_assoc, List.nil_append]
          exact expression_yields_operation (number_refuses_other (ends_digits_of_open _)) yields

end

theorem expression_yields_iff (session : Session) (source : Text) (spare : Nat) (tree : Value) (rest : Text) :
    expression.runWithin (source.length + spare) session.scope source = pure (.matched tree rest) ↔
      ∃ text, source = text ++ rest ∧ WrittenExpression text tree ∧ EndsTree tree rest := by
  have knows : session.scope (.provided .expression) = .ok expression := rfl
  constructor
  · intro matched
    rcases expression_reads knows (source.length + spare) source (Nat.le_add_right _ _) with
      ⟨text, read, left, parts, written, follows, yields⟩ | ⟨words, refused⟩
    · obtain ⟨rfl, rfl⟩ := Outcome.matched.inj (Traced.pure_injective (yields.symm.trans matched))
      exact ⟨text, parts, written, follows⟩
    · exact absurd (Traced.pure_injective (refused.symm.trans matched)) (by simp)
  · intro begins
    obtain ⟨text, rfl, written, follows⟩ := begins
    apply written_expression_yields knows _ text tree rest written _ follows
    simp only [List.length_append]
    omega

/-- The decimal digits of a number are read as that number and nothing is left of them, as long as the
number is not above the greatest of 64 bits. -/
theorem decimal_yields_iff (session : Session) (number spare : Nat) :
    expression.runWithin ((Numeral.decimal number).length + spare) session.scope (Numeral.decimal number) =
        pure (.matched (.number number) []) ↔
      (number : Int) ≤ int64Max := by
  have nothing : EndsTree (.number number) [] := fun _ _ => by simp [EndsDigits]
  rw [expression_yields_iff, ← WrittenExpression.decimal_iff]
  constructor
  · intro begins
    obtain ⟨text, parts, written, _⟩ := begins
    rwa [parts, List.append_nil]
  · intro written
    exact ⟨_, (List.append_nil _).symm, written, nothing⟩

/-- In every session the grammar reads from the front of a text exactly what the language puts there,
and fails on a text that begins with no expression. The length of the text is budget enough, whatever
is left to spare. A number in decimal digits is read back if it is not above the greatest of 64 bits. -/
theorem expression_reads_language (session : Session) (source : Text) (spare : Nat) :
    (∀ tree rest, expression.runWithin (source.length + spare) session.scope source =
        pure (.matched tree rest) ↔
      ∃ text, source = text ++ rest ∧ WrittenExpression text tree ∧ EndsTree tree rest) ∧
    ((∃ text tree rest, source = text ++ rest ∧ WrittenExpression text tree ∧ EndsTree tree rest) ∨
      ∃ words, expression.runWithin (source.length + spare) session.scope source =
        pure (.failed (.saying words .exhausted))) ∧
    ∀ number : Nat,
      expression.runWithin ((Numeral.decimal number).length + spare) session.scope (Numeral.decimal number) =
          pure (.matched (.number number) []) ↔
        (number : Int) ≤ int64Max := by
  have knows : session.scope (.provided .expression) = .ok expression := rfl
  refine ⟨expression_yields_iff session source spare, ?_, fun number => decimal_yields_iff session number spare⟩
  rcases expression_reads knows (source.length + spare) source (Nat.le_add_right _ _) with
    ⟨text, tree, rest, parts, written, follows, _⟩ | ⟨words, refused⟩
  · exact Or.inl ⟨text, tree, rest, parts, written, follows⟩
  · exact Or.inr ⟨words, refused⟩

end Grammar

end TextGrammar
