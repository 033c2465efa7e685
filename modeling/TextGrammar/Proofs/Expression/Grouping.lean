import TextGrammar.Proofs.Expression.Shape

/-!
Chains of operands grouped to the left. An operation on many operands does the same
steps, in the same order, as operations on two operands inside one another, so
neither its double nor its fault depends on how the chain is grouped.
-/

namespace TextGrammar.Value

/-- Puts the two leading operands into an operation of their own until only two are left. -/
def groupLeft (sign : Operator) : List Value → Value
  | first :: second :: third :: others =>
      groupLeft sign (.operation sign [first, second] :: third :: others)
  | operands => .operation sign operands
termination_by operands => operands.length

mutual

/-- The tree with the operands of every operation grouped to the left. -/
def binarize : Value → Value
  | .operation sign operands => groupLeft sign (binarizeEach operands)
  | value => value

def binarizeEach : List Value → List Value
  | [] => []
  | value :: values => binarize value :: binarizeEach values

end

variable (apply : Operator → Float → Float → Except Fault Float)

theorem evaluate_group_left (sign : Operator) (operands : List Value) :
    evaluateWith apply (groupLeft sign operands) = evaluateWith apply (.operation sign operands) := by
  fun_induction groupLeft sign operands with
  | case1 first second third others induction =>
      -- The inner operation is the first step of the fold, taken before the others are evaluated.
      rw [induction, evaluate_operation, evaluate_operation, evaluate_operation, bind_assoc]
      apply congrArg (evaluateWith apply first >>= ·)
      funext start
      exact (fold_append start [second] (third :: others)).symm
  | case2 operands few => rfl

mutual

theorem evaluate_binarize (tree : Value) :
    evaluateWith apply (binarize tree) = evaluateWith apply tree := by
  cases tree with
  | operation sign operands =>
      rw [binarize, evaluate_group_left]
      match operands with
      | [] => rfl
      | [only] => rfl
      | first :: second :: others =>
          simp only [binarizeEach, evaluate_operation, evaluate_binarize first]
          apply congrArg (evaluateWith apply first >>= ·)
          funext start
          exact fold_binarize_each sign start (second :: others)
  | _ => rfl

theorem fold_binarize_each (sign : Operator) (total : Float) (operands : List Value) :
    foldOperands apply sign total (binarizeEach operands) = foldOperands apply sign total operands := by
  cases operands with
  | nil => rfl
  | cons operand operands =>
      simp only [binarizeEach, fold_operand, evaluate_binarize operand]
      apply congrArg (evaluateWith apply operand >>= ·)
      funext right
      apply congrArg (apply sign total right >>= ·)
      funext next
      exact fold_binarize_each sign next operands

end

theorem group_left_binary (sign : Operator) (operands : List Value) (every : EveryOperationIn (· ≤ 2) operands) :
    EveryOperation (· ≤ 2) (groupLeft sign operands) := by
  fun_induction groupLeft sign operands with
  | case1 first second third others induction =>
      obtain ⟨firstBinary, secondBinary, later⟩ := every
      exact induction ⟨⟨Nat.le_refl 2, firstBinary, secondBinary, trivial⟩, later⟩
  | case2 operands few =>
      match operands, few with
      | [], _ => exact ⟨Nat.zero_le 2, every⟩
      | [only], _ => exact ⟨Nat.le_succ 1, every⟩
      | [first, second], _ => exact ⟨Nat.le_refl 2, every⟩
      | first :: second :: third :: others, few => exact (few first second third others rfl).elim

mutual

theorem binarize_binary (tree : Value) : EveryOperation (· ≤ 2) (binarize tree) := by
  cases tree with
  | operation sign operands => exact group_left_binary sign _ (binarize_each_binary operands)
  | _ => trivial

theorem binarize_each_binary (operands : List Value) : EveryOperationIn (· ≤ 2) (binarizeEach operands) := by
  cases operands with
  | nil => trivial
  | cons operand operands => exact ⟨binarize_binary operand, binarize_each_binary operands⟩

end

/-- Grouped to the left, every operation has at most two operands, and the tree denotes the same double
or has the same fault, whatever the four operators mean. -/
theorem left_grouping_keeps_evaluation (tree : Value) :
    EveryOperation (· ≤ 2) (binarize tree) ∧
      evaluateWith apply (binarize tree) = evaluateWith apply tree :=
  ⟨binarize_binary tree, evaluate_binarize apply tree⟩

end TextGrammar.Value
