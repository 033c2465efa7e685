import TextGrammar.Expression

/-!
The shape of expression trees: how many operands their operations have, and what
the evaluation of an operation owes to each of its operands.
-/

namespace TextGrammar.Value

mutual

/-- The number of operands of every operation in the tree, at any depth, is as given. -/
def EveryOperation (counted : Nat → Prop) : Value → Prop
  | .operation _ operands => counted operands.length ∧ EveryOperationIn counted operands
  | _ => True

def EveryOperationIn (counted : Nat → Prop) : List Value → Prop
  | [] => True
  | operand :: operands => EveryOperation counted operand ∧ EveryOperationIn counted operands

end

variable {apply : Operator → Float → Float → Except Fault Float} {sign : Operator}

theorem evaluate_operation (first second : Value) (others : List Value) :
    evaluateWith apply (.operation sign (first :: second :: others)) = (do
      let start ← evaluateWith apply first
      foldOperands apply sign start (second :: others)) := by
  rw [evaluateWith]

theorem evaluate_few {operands : List Value} (few : operands.length < 2) :
    evaluateWith apply (.operation sign operands) = .error (.tooFewOperands sign operands.length) := by
  match operands, few with
  | [], _ => simp [evaluateWith]
  | [only], _ => simp [evaluateWith]
  | first :: second :: others, few =>
      simp only [List.length_cons] at few
      omega

theorem fold_operand (total : Float) (operand : Value) (operands : List Value) :
    foldOperands apply sign total (operand :: operands) = (do
      let right ← evaluateWith apply operand
      let next ← apply sign total right
      foldOperands apply sign next operands) := by
  rw [foldOperands]

/-- The operands in front are folded first, and the others onto what they come to. -/
theorem fold_append (total : Float) (operands others : List Value) :
    foldOperands apply sign total (operands ++ others) = (do
      let next ← foldOperands apply sign total operands
      foldOperands apply sign next others) := by
  induction operands generalizing total with
  | nil =>
      rw [List.nil_append, foldOperands]
      rfl
  | cons operand operands induction =>
      simp only [List.cons_append, fold_operand, induction, bind_assoc]

end TextGrammar.Value
