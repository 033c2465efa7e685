import TextGrammar.Proofs.Budget
import TextGrammar.Proofs.Expression.Reading

/-!
The trees of the expression language. The grammar returns numbers of 63 bits and
operations on any number of operands, to any depth, and each such tree has a text.
-/

namespace TextGrammar

/-- Numbers from zero to the greatest whole number of 64 bits with a sign, and operations on trees. -/
inductive ExpressionTree : Value → Prop
  | number {whole : Int} (least : 0 ≤ whole) (most : whole ≤ int64Max) : ExpressionTree (.number whole)
  | operation (sign : Operator) {operands : List Value}
      (every : ∀ operand ∈ operands, ExpressionTree operand) : ExpressionTree (.operation sign operands)

theorem Separated.item_of_mem {gap : Text → Prop} {item : Text → Value → Prop} {listed : Text}
    {values : List Value} (written : Separated gap item listed values) :
    ∀ value ∈ values, ∃ text, item text value ∧ text.length ≤ listed.length := by
  induction written with
  | one read =>
      intro value member
      obtain rfl := List.mem_singleton.mp member
      exact ⟨_, read, Nat.le_refl _⟩
  | @more text space listed value values read apart others induction =>
      intro other member
      rcases List.mem_cons.mp member with rfl | later
      · exact ⟨text, read, by simp⟩
      · obtain ⟨part, readToo, short⟩ := induction other later
        refine ⟨part, readToo, ?_⟩
        simp only [List.length_append]
        omega

theorem WrittenExpression.tree {text : Text} {tree : Value} (written : WrittenExpression text tree) :
    ExpressionTree tree := by
  cases written with
  | number numeral => exact .number numeral.bounded.1 numeral.bounded.2
  | bare sign apart => exact .operation sign (by simp)
  | @operation sign blanks listed trailing operands apart written ended =>
      apply ExpressionTree.operation sign
      intro operand member
      obtain ⟨part, read, short⟩ := written.item_of_mem operand member
      exact read.tree
termination_by text.length
decreasing_by
  simp only [List.length_cons, List.length_append]
  omega

/-- A blank stands between an operator and its operands, and one between any two of them. -/
theorem ExpressionTree.written {tree : Value} (expression : ExpressionTree tree) :
    ∃ text, WrittenExpression text tree := by
  have blank : BlankRun [' '] := ⟨by simp, by decide⟩
  have row : ∀ (first : Value) (others : List Value),
      (∀ operand ∈ first :: others, ∃ text, WrittenExpression text operand) →
        ∃ listed, Separated BlankRun WrittenExpression listed (first :: others) := by
    intro first others
    induction others generalizing first with
    | nil =>
        intro each
        obtain ⟨text, read⟩ := each first List.mem_cons_self
        exact ⟨text, .one read⟩
    | cons second others induction =>
        intro each
        obtain ⟨text, read⟩ := each first List.mem_cons_self
        obtain ⟨listed, later⟩ := induction second fun operand member => each operand (List.mem_cons_of_mem _ member)
        exact ⟨_, .more read blank later⟩
  induction expression with
  | @number whole least most =>
      obtain ⟨number, rfl⟩ := Int.eq_ofNat_of_zero_le least
      exact ⟨_, WrittenExpression.decimal_iff.mpr most⟩
  | @operation sign operands every induction =>
      cases operands with
      | nil => exact ⟨_, .bare sign blank⟩
      | cons first others =>
          obtain ⟨listed, written⟩ := row first others induction
          exact ⟨_, .operation sign blank written (Or.inl rfl)⟩

namespace Grammar

/-- Whatever expressions are read from, they are trees of the language, and every such tree is read
from some text. -/
theorem expression_returns_trees (session : Session) (tree : Value) :
    (∃ budget source rest, (expression.runWithin budget session.scope source).result =
      .ok (.matched tree rest)) ↔ ExpressionTree tree := by
  have knows : session.scope (.provided .expression) = .ok expression := rfl
  constructor
  · intro returned
    obtain ⟨budget, source, rest, matched⟩ := returned
    have ends : (expression.runWithin budget session.scope source).Ends := by simp [Traced.Ends, matched]
    have larger := run_within_larger ends (Nat.le_max_left budget source.length)
    rcases expression_reads knows (max budget source.length) source (Nat.le_max_right _ _) with
      ⟨text, read, left, _, written, _, yields⟩ | ⟨words, refused⟩
    · have same : expression.runWithin budget session.scope source = pure (.matched read left) :=
        larger.symm.trans yields
      rw [same] at matched
      obtain ⟨rfl, _⟩ := Outcome.matched.inj (Except.ok.inj matched)
      exact written.tree
    · have same : expression.runWithin budget session.scope source = _ := larger.symm.trans refused
      rw [same] at matched
      exact absurd (Except.ok.inj matched) (by simp)
  · intro isTree
    obtain ⟨text, written⟩ := isTree.written
    have follows : EndsTree tree [] := fun _ _ => by simp [EndsDigits]
    have yields := written_expression_yields knows text.length text tree [] written (Nat.le_refl _) follows
    exact ⟨text.length, text ++ [], [], congrArg Traced.result yields⟩

end Grammar

end TextGrammar
