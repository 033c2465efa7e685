import TextGrammar.Proofs.Congruence.Rewriting

/-!
Budgets for the expansion of references. A run that ends is the same under every
larger budget, so a run without a bound has at most one answer.
-/

namespace TextGrammar

namespace Traced

variable {α β : Type}

/-- If the first computation ends, then it is the second one. -/
def Approximates (one two : Traced α) : Prop := one.Ends → one = two

theorem Approximates.trans {one two three : Traced α} (first : one.Approximates two)
    (second : two.Approximates three) : one.Approximates three := by
  intro ends
  have same := first ends
  rw [same] at ends ⊢
  exact second ends

theorem ends_of_bind {first : Traced α} {next : α → Traced β} (ends : (first >>= next).Ends) : first.Ends := by
  intro stopped
  apply ends
  change (first.bind next).result = _
  rw [bind_of_error stopped]

theorem Approximates.bind {one two : Traced α} {next after : α → Traced β} (same : one.Approximates two)
    (later : ∀ value, one.result = .ok value → (next value).Approximates (after value)) :
    (one >>= next).Approximates (two >>= after) := by
  intro ends
  have equal := same (ends_of_bind ends)
  rw [← equal]
  change one.bind next = one.bind after
  change (one.bind next).Ends at ends
  cases answered : one.result with
  | error reason => rw [bind_of_error answered, bind_of_error answered]
  | ok value =>
      rw [bind_of_ok answered] at ends ⊢
      rw [bind_of_ok answered, later value answered ends]

/-- The members of the family end less often than the computation. -/
def below (ι : Type) : Congruence ι where
  Relates family given := ∀ index, (family index).Approximates given
  self _ _ _ := rfl
  bind := by
    intro _ _ family given nexts next related later index
    apply (related index).bind
    intro value answered
    apply later value
    rw [← related index (by simp [Ends, answered])]
    exact answered

/-- The members of the family end more often than the computation. -/
def above (ι : Type) : Congruence ι where
  Relates family given := ∀ index, given.Approximates (family index)
  self _ _ _ := rfl
  bind related later index := (related index).bind fun value answered => later value answered index

theorem below_is_reflexive (ι : Type) : (below ι).IsReflexive := fun _ _ _ => rfl

theorem above_is_reflexive (ι : Type) : (above ι).IsReflexive := fun _ _ _ => rfl

end Traced

open Traced

theorem Grammar.attempt_approximates {meaning more : Reference → Attempts}
    (approximates : ∀ (reference : Reference) (medium : Medium) (source : medium.Source),
      (meaning reference medium source).Approximates (more reference medium source))
    (grammar : Grammar) (medium : Medium) (source : medium.Source) :
    (grammar.attempt meaning medium source).Approximates (grammar.attempt more medium source) := by
  have alike : Alike (below Unit) (fun _ => meaning) more (fun _ => grammar) grammar :=
    alike_self (below_is_reflexive Unit)
      (fun reference medium source _ => approximates reference medium source) grammar
  exact alike.attempt medium source ()

/-- The reference spends one of the budget on what its definition does without. -/
theorem Scope.meaning_of_definition {scope : Scope} {reference : Reference} {definition : Grammar}
    (found : scope reference = .ok definition) (budget : Nat) :
    scope.meaning (budget + 1) reference = definition.attempt (scope.meaning budget) := by
  simp only [meaning, found]

theorem Scope.meaning_approximates (scope : Scope) (budget : Nat) (reference : Reference) (medium : Medium)
    (source : medium.Source) :
    (scope.meaning budget reference medium source).Approximates
      (scope.meaning (budget + 1) reference medium source) := by
  induction budget generalizing reference medium with
  | zero =>
      intro ends
      exact absurd rfl ends
  | succ budget induction =>
      cases found : scope reference with
      | error reason =>
          simp only [meaning, found]
          exact fun _ => rfl
      | ok grammar =>
          rw [meaning_of_definition found, meaning_of_definition found]
          exact grammar.attempt_approximates induction medium source

namespace Grammar

variable {scope : Scope} {grammar : Grammar} {source : Text}

theorem run_within_more {budget : Nat} (ends : (grammar.runWithin budget scope source).Ends) (more : Nat) :
    grammar.runWithin (budget + more) scope source = grammar.runWithin budget scope source := by
  induction more with
  | zero => rfl
  | succ more induction =>
      have later : (grammar.runWithin (budget + more) scope source).Ends := by
        rw [induction]
        exact ends
      have same := grammar.attempt_approximates (scope.meaning_approximates (budget + more)) .text source later
      exact same.symm.trans induction

theorem run_within_larger {budget larger : Nat} (ends : (grammar.runWithin budget scope source).Ends)
    (enough : budget ≤ larger) :
    grammar.runWithin larger scope source = grammar.runWithin budget scope source := by
  have same := run_within_more ends (larger - budget)
  rwa [Nat.add_sub_cancel' enough] at same

/-- What a run that may expand references without a bound comes to, if it ends. -/
def Answers (scope : Scope) (grammar : Grammar) (source : Text) (answer : Traced (Outcome Text)) : Prop :=
  answer.Ends ∧ ∃ budget, grammar.runWithin budget scope source = answer

theorem Answers.unique {one two : Traced (Outcome Text)} (first : grammar.Answers scope source one)
    (second : grammar.Answers scope source two) : one = two := by
  obtain ⟨firstEnds, budget, rfl⟩ := first
  obtain ⟨secondEnds, larger, rfl⟩ := second
  have fromFirst := run_within_larger firstEnds (Nat.le_max_left budget larger)
  have fromSecond := run_within_larger secondEnds (Nat.le_max_right budget larger)
  exact fromFirst.symm.trans fromSecond

end Grammar

end TextGrammar
