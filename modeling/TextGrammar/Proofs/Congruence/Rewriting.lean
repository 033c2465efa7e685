import TextGrammar.Proofs.Congruence.Grammar
import TextGrammar.Scope

/-!
Grammars of which parts are rewritten. A rule says what may take the place of a part,
given the part and what it has become by itself; it can be used at any number of places,
inside the parts that read or check values and inside definitions as well.
-/

namespace TextGrammar

open Traced

variable {ι : Type}

namespace Grammar

/-- The grammars of the family arise from the single one when the rule is used at some places, the
same ones for all members. A label that is made from the names of parts may be made anew, as long as
it comes to the same. -/
inductive Rewritten (rule : (ι → Grammar) → Grammar → (ι → Grammar) → Prop) :
    (ι → Grammar) → Grammar → Prop
  | primitive (leaf : Primitive) : Rewritten rule (fun _ => .primitive leaf) (.primitive leaf)
  | custom (label : String) (attempts : Attempts) :
      Rewritten rule (fun _ => .custom label attempts) (.custom label attempts)
  | deferred (reference : Reference) : Rewritten rule (fun _ => .deferred reference) (.deferred reference)
  | named {family : ι → Grammar} {grammar : Grammar} {labels : ι → String} {label : String}
      (rewritten : Rewritten rule family grammar) (same : ∀ index, labels index = label) :
      Rewritten rule (fun index => (family index).named (labels index)) (grammar.named label)
  | map {family : ι → Grammar} {grammar : Grammar} (rewritten : Rewritten rule family grammar)
      (transformer : Transformer) :
      Rewritten rule (fun index => (family index).map transformer) (grammar.map transformer)
  | mapThrough {family readers : ι → Grammar} {grammar reader : Grammar}
      (rewritten : Rewritten rule family grammar) (rewrittenToo : Rewritten rule readers reader) :
      Rewritten rule (fun index => (family index).mapThrough (readers index)) (grammar.mapThrough reader)
  | mapError {family : ι → Grammar} {grammar : Grammar} (rewritten : Rewritten rule family grammar)
      (transformer : Transformer) :
      Rewritten rule (fun index => (family index).mapError transformer) (grammar.mapError transformer)
  | filter {family : ι → Grammar} {grammar : Grammar} (rewritten : Rewritten rule family grammar)
      (predicate : Predicate) :
      Rewritten rule (fun index => (family index).filter predicate) (grammar.filter predicate)
  | filterMatching {family checkers : ι → Grammar} {grammar checker : Grammar}
      (rewritten : Rewritten rule family grammar) (rewrittenToo : Rewritten rule checkers checker) :
      Rewritten rule (fun index => (family index).filterMatching (checkers index))
        (grammar.filterMatching checker)
  | spanWhere (predicate : Predicate) (description : Option String) :
      Rewritten rule (fun _ => .spanWhere predicate description) (.spanWhere predicate description)
  | spanMatching {checkers : ι → Grammar} {checker : Grammar} (rewritten : Rewritten rule checkers checker)
      (description : Option String) :
      Rewritten rule (fun index => .spanMatching (checkers index) description)
        (.spanMatching checker description)
  | debug {family : ι → Grammar} {grammar : Grammar} (rewritten : Rewritten rule family grammar)
      (label : Option String) : Rewritten rule (fun index => (family index).debug label) (grammar.debug label)
  | optional {family : ι → Grammar} {grammar : Grammar} (rewritten : Rewritten rule family grammar)
      (default : Value) :
      Rewritten rule (fun index => (family index).optional default) (grammar.optional default)
  | followedBy {family others : ι → Grammar} {grammar other : Grammar}
      (rewritten : Rewritten rule family grammar) (rewrittenToo : Rewritten rule others other) :
      Rewritten rule (fun index => (family index).followedBy (others index)) (grammar.followedBy other)
  | many {family : ι → Grammar} {grammar : Grammar} (rewritten : Rewritten rule family grammar)
      (atLeastOne : Bool) :
      Rewritten rule (fun index => (family index).many atLeastOne) (grammar.many atLeastOne)
  | separatedBy {family separators : ι → Grammar} {grammar separator : Grammar}
      (rewritten : Rewritten rule family grammar) (rewrittenToo : Rewritten rule separators separator)
      (atLeastOne : Bool) :
      Rewritten rule (fun index => (family index).separatedBy (separators index) atLeastOne)
        (grammar.separatedBy separator atLeastOne)
  | either {family others : ι → Grammar} {grammar other : Grammar}
      (rewritten : Rewritten rule family grammar) (rewrittenToo : Rewritten rule others other) :
      Rewritten rule (fun index => (family index).either (others index)) (grammar.either other)
  | choice {count : Nat} {families : ι → Fin (count + 1) → Grammar}
      {alternatives : Fin (count + 1) → Grammar}
      (rewritten : ∀ place, Rewritten rule (fun index => families index place) (alternatives place)) :
      Rewritten rule (fun index => .choice (families index)) (.choice alternatives)
  | rewrite {family others : ι → Grammar} {grammar : Grammar} (rewritten : Rewritten rule family grammar)
      (ruled : rule family grammar others) : Rewritten rule others grammar

variable {rule : (ι → Grammar) → Grammar → (ι → Grammar) → Prop}

/-- The rule is used at no place. -/
theorem Rewritten.refl (grammar : Grammar) : Rewritten rule (fun _ => grammar) grammar := by
  induction grammar with
  | named grammar label rewritten => exact .named rewritten fun _ => rfl
  | _ => constructor <;> assumption

variable {congruence : Congruence ι} {meanings : ι → Reference → Attempts} {meaning : Reference → Attempts}

/-- When what the rule puts in the place of a part is like the part, whatever it makes of a grammar is
like the grammar. -/
theorem Rewritten.alike (reflexive : congruence.IsReflexive)
    (ruled : ∀ family grammar others, rule family grammar others →
      Alike congruence meanings meaning family grammar → Alike congruence meanings meaning others grammar)
    (related : ReferencesAlike congruence meanings meaning)
    {family : ι → Grammar} {grammar : Grammar} (rewritten : Rewritten rule family grammar) :
    Alike congruence meanings meaning family grammar := by
  induction rewritten with
  | primitive leaf => exact .of_reflexive reflexive fun _ => rfl
  | custom label attempts => exact .of_reflexive reflexive fun _ => rfl
  | deferred reference => exact .deferred related reference
  | named _ same alike =>
      simp only [same]
      exact alike.named _
  | map _ transformer alike => exact alike.map transformer
  | mapThrough _ _ alike alikeToo => exact alike.mapThrough alikeToo
  | mapError _ transformer alike => exact alike.mapError transformer
  | filter _ predicate alike => exact alike.filter predicate
  | filterMatching _ _ alike alikeToo => exact alike.filterMatching alikeToo
  | spanWhere predicate description => exact .of_reflexive reflexive fun _ => rfl
  | spanMatching _ description alike => exact alike.spanMatching description
  | debug _ label alike => exact alike.debug label
  | optional _ default alike => exact alike.optional default
  | followedBy _ _ alike alikeToo => exact alike.followedBy alikeToo
  | many _ atLeastOne alike => exact alike.many atLeastOne
  | separatedBy _ _ atLeastOne alike alikeToo => exact alike.separatedBy alikeToo atLeastOne
  | either _ _ alike alikeToo => exact alike.either alikeToo
  | choice _ alike => exact .choice alike
  | rewrite _ used alike => exact ruled _ _ _ used alike

/-- A grammar is like itself under references that mean related attempts. -/
theorem alike_self (reflexive : congruence.IsReflexive)
    (related : ReferencesAlike congruence meanings meaning) (grammar : Grammar) :
    Alike congruence meanings meaning (fun _ => grammar) grammar :=
  Rewritten.alike reflexive (fun _ _ _ impossible => impossible.elim) related
    (@Rewritten.refl ι (fun _ _ _ => False) grammar)

end Grammar

/-- What references lead to is rewritten under the rule as well, and the same references lead to
nothing. -/
def Scope.Rewritten (rule : (ι → Grammar) → Grammar → (ι → Grammar) → Prop) (scopes : ι → Scope)
    (scope : Scope) : Prop :=
  ∀ reference,
    (∃ reason, scope reference = .error reason ∧ ∀ index, scopes index reference = .error reason) ∨
      ∃ definition family, scope reference = .ok definition ∧
        (∀ index, scopes index reference = .ok (family index)) ∧ Grammar.Rewritten rule family definition

theorem Scope.Rewritten.refl {rule : (ι → Grammar) → Grammar → (ι → Grammar) → Prop} (scope : Scope) :
    Scope.Rewritten rule (fun _ => scope) scope := by
  intro reference
  cases found : scope reference with
  | error reason => exact Or.inl ⟨reason, rfl, fun _ => found⟩
  | ok definition => exact Or.inr ⟨definition, fun _ => definition, rfl, fun _ => found, .refl definition⟩

end TextGrammar
