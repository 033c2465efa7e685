import TextGrammar.Proofs.Grammar.Structural
import TextGrammar.Scope

/-!
References inside grammars. What a reference means is settled by a budget, so a
property of the attempts of grammars is proved once for a grammar whose references
have it, and then it holds of everything that definitions lead to.
-/

namespace TextGrammar

namespace Grammar

/-- Every reference has the property, among the parts that may be run on the text itself. Parts that
only read or check values are left out. -/
def EveryReference (property : Reference → Prop) : Grammar → Prop
  | primitive _ => True
  | custom _ _ => True
  | deferred reference => property reference
  | named grammar _ => grammar.EveryReference property
  | map grammar _ => grammar.EveryReference property
  | mapThrough grammar _ => grammar.EveryReference property
  | mapError grammar _ => grammar.EveryReference property
  | filter grammar _ => grammar.EveryReference property
  | filterMatching grammar _ => grammar.EveryReference property
  | spanWhere _ _ => True
  | spanMatching _ _ => True
  | debug grammar _ => grammar.EveryReference property
  | optional grammar _ => grammar.EveryReference property
  | followedBy first second => first.EveryReference property ∧ second.EveryReference property
  | many element _ => element.EveryReference property
  | separatedBy element separator _ => element.EveryReference property ∧ separator.EveryReference property
  | either first second => first.EveryReference property ∧ second.EveryReference property
  | choice alternatives => ∀ index, (alternatives index).EveryReference property

variable {property weaker : Reference → Prop}

theorem every_reference_of_forall (every : ∀ reference, property reference) (grammar : Grammar) :
    grammar.EveryReference property := by
  induction grammar <;> simp_all [EveryReference]

theorem every_reference_structural (property : Reference → Prop) : Structural (EveryReference property) where
  named every := every
  choice every := every

theorem EveryReference.mono (weaken : ∀ reference, property reference → weaker reference) {grammar : Grammar}
    (every : grammar.EveryReference property) : grammar.EveryReference weaker := by
  induction grammar <;> simp_all [EveryReference]

end Grammar

namespace Scope

/-- The references of the set lead to definitions of the given shape, whose references are of the set
again. -/
def Closed (scope : Scope) (among : Reference → Prop) (shape : Grammar → Prop) : Prop :=
  ∀ reference, among reference → ∀ definition, scope reference = .ok definition →
    definition.EveryReference among ∧ shape definition

theorem Closed.mono {scope : Scope} {among : Reference → Prop} {shape weaker : Grammar → Prop}
    (weaken : ∀ definition, shape definition → weaker definition) (closed : scope.Closed among shape) :
    scope.Closed among weaker := by
  intro reference member definition found
  obtain ⟨references, shaped⟩ := closed reference member definition found
  exact ⟨references, weaken definition shaped⟩

/-- A property passes from the references of a grammar to the grammar, and by the budget to all
references of a closed set. -/
theorem Closed.meaning {scope : Scope} {among : Reference → Prop} {shape : Grammar → Prop}
    {property : Attempts → Prop} (closed : scope.Closed among shape)
    (halted : ∀ reason, property fun _ _ => Traced.halt reason)
    (step : ∀ (meaning : Reference → Attempts) (definition : Grammar), shape definition →
      definition.EveryReference (fun reference => property (meaning reference)) →
        property (definition.attempt meaning))
    (budget : Nat) (reference : Reference) (member : among reference) :
    property (scope.meaning budget reference) := by
  induction budget generalizing reference with
  | zero => exact halted .outOfBudget
  | succ budget induction =>
      unfold Scope.meaning
      cases found : scope reference with
      | error reason => exact halted (.fault reason)
      | ok definition =>
          obtain ⟨references, shaped⟩ := closed reference member definition found
          exact step _ definition shaped (references.mono induction)

end Scope

end TextGrammar
