import TextGrammar.Proofs.Binary64.Whole
import TextGrammar.Proofs.Expression.Shape
import TextGrammar.Proofs.Expression.Tree

/-!
Evaluation as a row of checks. A tree says in which order it is checked: an operation
counts its operands before it evaluates any of them, and each step of its fold looks
at the divisor before the next operand is evaluated. The first check that fails is the
fault of the evaluation, and without one the tree denotes a double.
-/

namespace TextGrammar

/-- What the operator makes of two doubles when nothing is checked. -/
def Operator.unchecked : Operator → Float → Float → Float
  | .plus => (· + ·)
  | .minus => (· - ·)
  | .multiply => (· * ·)
  | .divide => (· / ·)

namespace Value

mutual

/-- The double that the tree comes to when nothing is checked. -/
def denoted : Value → Float
  | .number whole => (Binary64.ofInt? whole).getD 0.0
  | .operation sign (first :: others) => foldDenoted sign (denoted first) others
  | _ => 0.0

def foldDenoted (sign : Operator) (total : Float) : List Value → Float
  | [] => total
  | operand :: operands => foldDenoted sign (sign.unchecked total (denoted operand)) operands

end

/-- Something that an evaluation depends on. -/
inductive Check where
  /-- An operation has this many operands. -/
  | operands (sign : Operator) (count : Nat)
  /-- The operator is applied with this operand on its right. -/
  | step (sign : Operator) (operand : Value)

def Check.fault? : Check → Option Fault
  | .operands sign count => if count < 2 then some (.tooFewOperands sign count) else none
  | .step .divide divisor => if divisor.denoted == 0.0 then some .floatDivisionByZero else none
  | .step _ _ => none

mutual

/-- The checks of a tree in their order. -/
def checks : Value → List Check
  | .operation sign [] => [.operands sign 0]
  | .operation sign (first :: others) =>
      .operands sign (others.length + 1) :: (checks first ++ stepChecks sign others)
  | _ => []

def stepChecks (sign : Operator) : List Value → List Check
  | [] => []
  | operand :: operands => checks operand ++ .step sign operand :: stepChecks sign operands

end

/-- The fault of the first check that has one, or else the result. -/
def judged (checks : List Check) (result : Float) : Except Fault Float :=
  match checks.findSome? Check.fault? with
  | some reason => .error reason
  | none => .ok result

/-- Some step of a fold divides by zero. -/
def DividesByZero (tree : Value) : Prop :=
  ∃ divisor, Check.step .divide divisor ∈ tree.checks ∧ (divisor.denoted == 0.0) = true

theorem judged_bind {before behind : List Check} {value result : Float} {next : Float → Except Fault Float}
    (later : next value = judged behind result) : judged before value >>= next = judged (before ++ behind) result := by
  unfold judged
  rw [List.findSome?_append]
  cases before.findSome? Check.fault? with
  | some reason => rfl
  | none => exact later

theorem judged_step (sign : Operator) (total : Float) (operand : Value) :
    sign.applyFloat total operand.denoted =
      judged [.step sign operand] (sign.unchecked total operand.denoted) := by
  cases sign with
  | divide =>
      by_cases zero : (operand.denoted == 0.0) = true
      · simp [judged, Operator.applyFloat, Check.fault?, zero]
      · simp [judged, Operator.applyFloat, Operator.unchecked, Check.fault?, zero]
  | _ => rfl

theorem judged_fold {operands : List Value}
    (every : ∀ operand ∈ operands, evaluate operand = judged operand.checks operand.denoted) (sign : Operator)
    (total : Float) :
    foldOperands Operator.applyFloat sign total operands =
      judged (stepChecks sign operands) (foldDenoted sign total operands) := by
  induction operands generalizing total with
  | nil => rw [foldOperands]; rfl
  | cons operand operands induction =>
      have own := every operand List.mem_cons_self
      have later := induction fun other member => every other (List.mem_cons_of_mem _ member)
      unfold evaluate at own
      rw [fold_operand, own, stepChecks, foldDenoted]
      apply judged_bind
      rw [judged_step]
      exact judged_bind (later _)

theorem evaluate_judged {tree : Value} (expression : ExpressionTree tree) :
    evaluate tree = judged tree.checks tree.denoted := by
  induction expression with
  | @number whole least most =>
      have small : whole.natAbs < Nat.pow 2 64 := by
        have room : int64Max < Nat.pow 2 64 := by decide
        omega
      obtain ⟨converted, known⟩ := Binary64.whole_has_double small
      simp [evaluate, evaluateWith, Numeric.toFloat, checks, denoted, judged, known]
  | @operation sign operands every induction =>
      rcases operands with _ | ⟨first, _ | ⟨second, others⟩⟩
      · exact evaluate_few (by simp)
      · exact evaluate_few (by simp)
      · have start := induction first List.mem_cons_self
        have fold := judged_fold (fun operand member => induction operand (List.mem_cons_of_mem _ member)) sign
          first.denoted
        unfold evaluate at start ⊢
        rw [evaluate_operation, start, checks, denoted]
        have enough : Check.fault? (.operands sign ((second :: others).length + 1)) = none := by
          simp [Check.fault?]
        simp only [judged, List.findSome?_cons, enough]
        exact judged_bind fold

mutual

theorem every_operation_iff_checks {counted : Nat → Prop} (tree : Value) :
    EveryOperation counted tree ↔ ∀ sign count, Check.operands sign count ∈ tree.checks → counted count := by
  cases tree with
  | operation sign operands =>
      cases operands with
      | nil => simp [EveryOperation, EveryOperationIn, checks]
      | cons first others =>
          simp only [EveryOperation, EveryOperationIn, checks, List.length_cons, List.mem_cons,
            List.mem_append, Check.operands.injEq]
          rw [every_operation_iff_checks first, every_operation_in_iff_checks sign others]
          constructor
          · rintro ⟨own, inFirst, inOthers⟩ other count (⟨_, rfl⟩ | made | made)
            · exact own
            · exact inFirst other count made
            · exact inOthers other count made
          · intro every
            exact ⟨every sign _ (Or.inl ⟨rfl, rfl⟩), fun other count made => every other count (Or.inr (Or.inl made)),
              fun other count made => every other count (Or.inr (Or.inr made))⟩
  | _ => simp [EveryOperation, checks]

theorem every_operation_in_iff_checks {counted : Nat → Prop} (sign : Operator) (operands : List Value) :
    EveryOperationIn counted operands ↔
      ∀ other count, Check.operands other count ∈ stepChecks sign operands → counted count := by
  cases operands with
  | nil => simp [EveryOperationIn, stepChecks]
  | cons operand operands =>
      simp only [EveryOperationIn, stepChecks, List.mem_append, List.mem_cons, reduceCtorEq, false_or]
      rw [every_operation_iff_checks operand, every_operation_in_iff_checks sign operands]
      constructor
      · rintro ⟨inFirst, inOthers⟩ other count (made | made)
        · exact inFirst other count made
        · exact inOthers other count made
      · intro every
        exact ⟨fun other count made => every other count (Or.inl made),
          fun other count made => every other count (Or.inr made)⟩

end

theorem judged_ok {checks : List Check} {result number : Float} (passed : judged checks result = .ok number) :
    ∀ check ∈ checks, check.fault? = none := by
  unfold judged at passed
  split at passed
  · exact absurd passed (by simp)
  · rename_i none
    exact List.findSome?_eq_none_iff.mp none

theorem judged_error {checks : List Check} {result : Float} {reason : Fault}
    (failed : judged checks result = .error reason) : ∃ check ∈ checks, check.fault? = some reason := by
  unfold judged at failed
  split at failed
  · rename_i first found
    obtain rfl := Except.error.inj failed
    exact List.exists_of_findSome?_eq_some found
  · exact absurd failed (by simp)

theorem fault_cases {tree : Value} {check : Check} {reason : Fault} (made : check ∈ tree.checks)
    (fails : check.fault? = some reason) :
    (∃ sign count, reason = .tooFewOperands sign count ∧ count < 2 ∧ Check.operands sign count ∈ tree.checks) ∨
      reason = .floatDivisionByZero ∧ tree.DividesByZero := by
  cases check with
  | operands sign count =>
      obtain ⟨few, rfl⟩ : count < 2 ∧ Fault.tooFewOperands sign count = reason := by
        simpa [Check.fault?] using fails
      exact Or.inl ⟨sign, count, rfl, few, made⟩
  | step sign operand =>
      cases sign with
      | divide =>
          obtain ⟨zero, rfl⟩ : (operand.denoted == 0.0) = true ∧ Fault.floatDivisionByZero = reason := by
            simpa [Check.fault?] using fails
          exact Or.inr ⟨rfl, operand, made, zero⟩
      | _ => exact absurd fails (by simp [Check.fault?])

/-- What the expression grammar returns are the trees of the language. Evaluating such a tree comes to
the first of its checks that fails, or else to its double: it has a double only if every operation has
two operands, with two operands everywhere only a division by zero is left to fail, and there are no
other faults. -/
theorem first_failed_check_decides_evaluation :
    (∀ (session : Session) (tree : Value),
      (∃ budget source rest, (Grammar.expression.runWithin budget session.scope source).result =
        .ok (.matched tree rest)) ↔ ExpressionTree tree) ∧
    ∀ tree, ExpressionTree tree →
      evaluate tree = judged tree.checks tree.denoted ∧
      (∀ number, evaluate tree = .ok number → tree.EveryOperation (2 ≤ ·)) ∧
      (tree.EveryOperation (2 ≤ ·) →
        tree.DividesByZero ∧ evaluate tree = .error .floatDivisionByZero ∨
          ¬ tree.DividesByZero ∧ evaluate tree = .ok tree.denoted) ∧
      ∀ reason, evaluate tree = .error reason →
        reason.category = .badValue ∧ (∃ sign count, reason = .tooFewOperands sign count ∧ count < 2 ∧
            Check.operands sign count ∈ tree.checks) ∨
          reason.category = .zeroDivision ∧ reason = .floatDivisionByZero ∧ tree.DividesByZero := by
  refine ⟨Grammar.expression_returns_trees, fun tree expression => ?_⟩
  have judgement := evaluate_judged expression
  refine ⟨judgement, ?_, ?_, ?_⟩
  · intro number answered
    rw [judgement] at answered
    rw [every_operation_iff_checks]
    intro sign count made
    have passed := judged_ok answered _ made
    rcases Nat.lt_or_ge count 2 with few | enough
    · exact absurd passed (by simp [Check.fault?, few])
    · exact enough
  · intro enough
    rw [every_operation_iff_checks] at enough
    cases answered : evaluate tree with
    | ok number =>
        rw [judgement] at answered
        have passed := judged_ok answered
        refine Or.inr ⟨?_, ?_⟩
        · rintro ⟨divisor, made, zero⟩
          exact absurd (passed _ made) (by simp [Check.fault?, zero])
        · unfold judged at answered
          rw [List.findSome?_eq_none_iff.mpr passed] at answered
          exact answered.symm
    | error reason =>
        rw [judgement] at answered
        obtain ⟨check, made, fails⟩ := judged_error answered
        rcases fault_cases made fails with ⟨sign, count, rfl, few, counted⟩ | ⟨rfl, divides⟩
        · exact absurd (enough sign count counted) (by omega)
        · exact Or.inl ⟨divides, rfl⟩
  · intro reason answered
    rw [judgement] at answered
    obtain ⟨check, made, fails⟩ := judged_error answered
    rcases fault_cases made fails with ⟨sign, count, rfl, found⟩ | ⟨rfl, divides⟩
    · exact Or.inl ⟨rfl, sign, count, rfl, found⟩
    · exact Or.inr ⟨rfl, rfl, divides⟩

/-- One over a zero difference, and over a sum of nothing behind that. -/
def overNothing : Value :=
  .operation .divide [.number 1, .operation .minus [.number 2, .number 2], .operation .plus []]

/-- The step that divides by zero comes before the sum that has no operands. -/
theorem division_comes_before_bare_sum :
    ExpressionTree overNothing ∧ evaluate overNothing = .error .floatDivisionByZero := by
  have small : ∀ number ∈ [(1 : Int), 2], ExpressionTree (.number number) := by
    intro number member
    have bounds : ∀ number ∈ [(1 : Int), 2], 0 ≤ number ∧ number ≤ int64Max := by decide
    exact .number (bounds number member).1 (bounds number member).2
  have tree : ExpressionTree overNothing := by
    apply ExpressionTree.operation
    simp only [List.forall_mem_cons]
    refine ⟨small 1 (by simp), .operation .minus ?_, .operation .plus (by simp), by simp⟩
    simp only [List.forall_mem_cons]
    exact ⟨small 2 (by simp), small 2 (by simp), by simp⟩
  exact ⟨tree, (first_failed_check_decides_evaluation.2 overNothing tree).1.trans rfl⟩

end Value

end TextGrammar
