import TextGrammar.Proofs.Congruence.Attempt
import TextGrammar.Grammar.Basic

/-!
Grammars that are alike: they have one name, and what they do is related on every
source. Names are part of it because messages and log records quote the names of
the parts. Grammars made in the same way from parts that are alike are alike.
-/

namespace TextGrammar.Grammar

open Traced

variable {ι : Type} {congruence : Congruence ι} {meanings : ι → Reference → Attempts}
  {meaning : Reference → Attempts}

/-- The grammars of the family have the name of the single one, and what they do is related to what
it does on every source. -/
structure Alike (congruence : Congruence ι) (meanings : ι → Reference → Attempts)
    (meaning : Reference → Attempts) (family : ι → Grammar) (grammar : Grammar) : Prop where
  name : ∀ index, (family index).name = grammar.name
  attempt : ∀ (medium : Medium) (source : medium.Source),
    congruence.Relates (fun index => (family index).attempt (meanings index) medium source)
      (grammar.attempt meaning medium source)

/-- What references mean is related on every source. -/
def ReferencesAlike (congruence : Congruence ι) (meanings : ι → Reference → Attempts)
    (meaning : Reference → Attempts) : Prop :=
  ∀ (reference : Reference) (medium : Medium) (source : medium.Source),
    congruence.Relates (fun index => meanings index reference medium source) (meaning reference medium source)

namespace Alike

variable {family others : ι → Grammar} {grammar other : Grammar}

theorem of_reflexive (reflexive : congruence.IsReflexive) {leaf : Grammar}
    (free : ∀ index, leaf.attempt (meanings index) = leaf.attempt meaning) :
    Alike congruence meanings meaning (fun _ => leaf) leaf where
  name _ := rfl
  attempt medium source := by
    simp only [free]
    exact reflexive _

theorem deferred (related : ReferencesAlike congruence meanings meaning) (reference : Reference) :
    Alike congruence meanings meaning (fun _ => .deferred reference) (.deferred reference) where
  name _ := rfl
  attempt := related reference

section

variable (alike : Alike congruence meanings meaning family grammar)

include alike

theorem named (label : String) :
    Alike congruence meanings meaning (fun index => (family index).named label) (grammar.named label) where
  name _ := rfl
  attempt := alike.attempt

theorem map (transformer : Transformer) :
    Alike congruence meanings meaning (fun index => (family index).map transformer)
      (grammar.map transformer) where
  name index := congrArg (· ++ ".map(" ++ transformer.description ++ ")") (alike.name index)
  attempt medium source := by
    apply Congruence.map (alike.attempt medium source)
    intro value
    exact congruence.self (ends_of_except _)

theorem mapError (transformer : Transformer) :
    Alike congruence meanings meaning (fun index => (family index).mapError transformer)
      (grammar.mapError transformer) where
  name index := congrArg (· ++ ".map_error(" ++ transformer.description ++ ")") (alike.name index)
  attempt medium source := Congruence.map_error (alike.attempt medium source)

theorem filter (predicate : Predicate) :
    Alike congruence meanings meaning (fun index => (family index).filter predicate)
      (grammar.filter predicate) where
  name index := congrArg (· ++ ".where(" ++ predicate.description ++ ")") (alike.name index)
  attempt medium source := by
    apply Congruence.filter (alike.attempt medium source)
    intro value
    exact congruence.self (ends_of_except _)

/-- Whether the outcome is a match is all that a check of a value is used for. -/
theorem matches_related (medium : Medium) (source : medium.Source) :
    congruence.Relates
      (fun index => return (← (family index).attempt (meanings index) medium source).isMatch)
      (return (← grammar.attempt meaning medium source).isMatch) := by
  apply congruence.bind (alike.attempt medium source)
  intro outcome _
  exact congruence.pure_related _

theorem spanMatching (description : Option String) :
    Alike congruence meanings meaning (fun index => .spanMatching (family index) description)
      (.spanMatching grammar description) where
  name index := congrArg (fun name => "string_matching(" ++ description.getD name ++ ")") (alike.name index)
  attempt medium source := by
    simp only [Grammar.attempt, alike.name]
    exact Congruence.span_of (alike.matches_related .value) medium source

theorem debug (label : Option String) :
    Alike congruence meanings meaning (fun index => (family index).debug label) (grammar.debug label) where
  name := alike.name
  attempt medium source := by
    simp only [Grammar.attempt, alike.name]
    exact Congruence.observe (alike.attempt medium source)

theorem optional (default : Value) :
    Alike congruence meanings meaning (fun index => (family index).optional default)
      (grammar.optional default) where
  name index := congrArg (· ++ ".optional(" ++ default.print ++ ")") (alike.name index)
  attempt medium source := Congruence.optional (alike.attempt medium source)

theorem many (atLeastOne : Bool) :
    Alike congruence meanings meaning (fun index => (family index).many atLeastOne)
      (grammar.many atLeastOne) := by
  have names : ∀ index, ((family index).many atLeastOne).name = (grammar.many atLeastOne).name := by
    intro index
    cases atLeastOne with
    | false => exact congrArg (· ++ ".zero_or_more()") (alike.name index)
    | true => exact congrArg (· ++ ".one_or_more()") (alike.name index)
  refine ⟨names, fun medium source => ?_⟩
  simp only [Grammar.attempt, names]
  apply Congruence.repeated_everywhere (alike.attempt medium)
  intro rest
  exact congruence.pure_related (rest, true)

variable (alikeToo : Alike congruence meanings meaning others other)

include alikeToo

theorem mapThrough :
    Alike congruence meanings meaning (fun index => (family index).mapThrough (others index))
      (grammar.mapThrough other) where
  name index := by
    change (family index).name ++ ".map(" ++ (others index).name ++ ")" = _
    rw [alike.name, alikeToo.name]
    rfl
  attempt medium source := by
    apply Congruence.map (alike.attempt medium source)
    intro value
    apply congruence.bind (alikeToo.attempt .value value)
    intro outcome _
    exact congruence.pure_related _

theorem filterMatching :
    Alike congruence meanings meaning (fun index => (family index).filterMatching (others index))
      (grammar.filterMatching other) where
  name index := by
    change (family index).name ++ ".where(" ++ (others index).name ++ ")" = _
    rw [alike.name, alikeToo.name]
    rfl
  attempt medium source := by
    simp only [Grammar.attempt, alikeToo.name]
    exact Congruence.filter (alike.attempt medium source) (alikeToo.matches_related .value)

theorem followedBy :
    Alike congruence meanings meaning (fun index => (family index).followedBy (others index))
      (grammar.followedBy other) where
  name index := by
    change (family index).name ++ ".followed_by(" ++ (others index).name ++ ")" = _
    rw [alike.name, alikeToo.name]
    rfl
  attempt medium source := by
    apply Congruence.followed_by (alike.attempt medium source)
    intro _ rest _
    exact alikeToo.attempt medium rest

theorem separatedBy (atLeastOne : Bool) :
    Alike congruence meanings meaning
      (fun index => (family index).separatedBy (others index) atLeastOne)
      (grammar.separatedBy other atLeastOne) := by
  have names : ∀ index, ((family index).separatedBy (others index) atLeastOne).name =
      (grammar.separatedBy other atLeastOne).name := by
    intro index
    cases atLeastOne with
    | false =>
        change (family index).name ++ ".separated_by(" ++ (others index).name ++ ")" = _
        rw [alike.name, alikeToo.name]
        rfl
    | true =>
        change (family index).name ++ ".separated_by1(" ++ (others index).name ++ ")" = _
        rw [alike.name, alikeToo.name]
        rfl
  refine ⟨names, fun medium source => ?_⟩
  simp only [Grammar.attempt, names]
  apply Congruence.repeated_everywhere (alike.attempt medium)
  intro rest
  exact Congruence.after_separator (alikeToo.attempt medium rest)

theorem either :
    Alike congruence meanings meaning (fun index => (family index).either (others index))
      (grammar.either other) where
  name index := by
    change "either(" ++ (family index).name ++ ", " ++ (others index).name ++ ")" = _
    rw [alike.name, alikeToo.name]
    rfl
  attempt medium source := Congruence.either (alike.attempt medium source) (alikeToo.attempt medium source)

end

theorem choice {count : Nat} {families : ι → Fin (count + 1) → Grammar}
    {alternatives : Fin (count + 1) → Grammar}
    (alike : ∀ place, Alike congruence meanings meaning (fun index => families index place)
      (alternatives place)) :
    Alike congruence meanings meaning (fun index => .choice (families index)) (.choice alternatives) where
  name index := by
    have names : (fun place => (families index place).name) = fun place => (alternatives place).name :=
      funext fun place => (alike place).name index
    exact congrArg (fun names => "choice(" ++ String.intercalate ", " (List.ofFn names) ++ ")") names
  attempt medium source := Congruence.choice fun place => (alike place).attempt medium source

end Alike

end TextGrammar.Grammar
