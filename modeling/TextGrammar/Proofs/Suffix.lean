import TextGrammar.Attempt.Handwritten
import TextGrammar.Proofs.Handwritten
import TextGrammar.Proofs.Primitive.Taken
import TextGrammar.Proofs.Reference
import TextGrammar.Proofs.Repetition.Chain
import TextGrammar.Session

/-!
What a grammar leaves of a text is a suffix of it. Transformers and predicates are
arbitrary; grammars written by hand are taken to keep the rule. Behind a reference
any grammar may stand, the one that refers to it included, so the proof goes by the
budget of references first and by the grammar inside.
-/

namespace TextGrammar

open Traced

/-- Every match on a text leaves a suffix of it. -/
def Attempts.LeaveSuffixes (attempts : Attempts) : Prop :=
  (attempts .text).Leaves fun rest source => rest <:+ source

namespace Primitive

theorem attempts_leave_suffixes (leaf : Primitive) : leaf.attempts.LeaveSuffixes := by
  intro source value rest answered
  cases leaf with
  | integer bound =>
      obtain ⟨digits, _, parts⟩ := integer_takes (Attempt.matches_of_function.mp answered)
      exact ⟨digits, parts.symm⟩
  | _ =>
      refine (textual_takes ?_ answered).suffix
      trivial

theorem unordered_leaves_suffixes (bound : Value) : (unordered bound).LeaveSuffixes := by
  intro source value rest answered
  obtain ⟨digits, _, parts⟩ := unordered_takes answered
  exact ⟨digits, parts.symm⟩

theorem span_of_leaves_suffixes (description : String) (test : Value → Traced Bool) :
    (spanOf description test).LeaveSuffixes := by
  intro source value rest answered
  exact (span_of_takes answered).suffix

end Primitive

namespace Attempt

variable {attempt first second : Attempt Text}

theorem followed_by_leaves {σ : Type} {first second : Attempt σ} {one two both : σ → σ → Prop}
    (firstLeaves : first.Leaves one) (secondLeaves : second.Leaves two)
    (compose : ∀ rest middle source, two rest middle → one middle source → both rest source) :
    (first.followedBy second).Leaves both := by
  intro source value rest answered
  obtain ⟨_, _, middle, begun, ended, _⟩ := followed_by_matches.mp answered
  exact compose rest middle source (secondLeaves _ _ _ ended) (firstLeaves _ _ _ begun)

/-- Element and separator may each leave any suffix, so the steps together leave one. -/
theorem repeated_leaves_suffixes {name : String} {size : Text → Except Fault Nat} {element : Attempt Text}
    {separator : Option (Attempt Text)} {atLeastOne : Bool}
    (elementLeaves : element.Leaves fun rest source => rest <:+ source)
    (separatorLeaves : ∀ attempt ∈ separator, attempt.Leaves fun rest source => rest <:+ source) :
    (Attempt.repeated name size element separator atLeastOne).Leaves fun rest source => rest <:+ source := by
  intro source value rest answered
  obtain ⟨values, _, _, chain⟩ := repeated_matches answered
  apply chain.related List.suffix_refl List.IsSuffix.trans
  intro source value next taken
  obtain ⟨left, matched, separated, _⟩ := taken
  have behindElement := elementLeaves _ _ _ matched
  rcases separated with rfl | ⟨attempt, member, skipped, separated⟩
  · exact behindElement
  · exact (separatorLeaves attempt member _ _ _ separated).trans behindElement

end Attempt

namespace Grammar

/-- Under a bound of any sort a whole number is the primitive or compares with what is no number. -/
theorem integer_cases {bound : Value} {grammar : Grammar} (built : integer? bound = .ok grammar) :
    (∃ limit, grammar = integer limit) ∨ ∃ label, grammar = custom label (Primitive.unordered bound) := by
  unfold integer? at built
  split at built
  · exact Or.inl ⟨none, (Except.ok.inj built).symm⟩
  · cases printed : bound.print? with
    | error reason => exact absurd built (by simp [printed, bind, Except.bind])
    | ok text =>
        simp only [printed, bind, Except.bind] at built
        cases known : Bound.ofValue? bound with
        | some limit =>
            simp only [known] at built
            exact Or.inl ⟨some limit, (Except.ok.inj built).symm⟩
        | none =>
            simp only [known] at built
            exact Or.inr ⟨_, (Except.ok.inj built).symm⟩

/-- Whole numbers under a bound of any sort leave suffixes as well. -/
theorem integer_leaves_suffixes {bound : Value} {grammar : Grammar} (built : integer? bound = .ok grammar) :
    grammar.EveryHandwritten Attempts.LeaveSuffixes := by
  rcases integer_cases built with ⟨limit, rfl⟩ | ⟨label, rfl⟩
  · trivial
  · exact Primitive.unordered_leaves_suffixes bound

theorem attempt_leaves_suffixes {meaning : Reference → Attempts} {grammar : Grammar}
    (handwritten : grammar.EveryHandwritten Attempts.LeaveSuffixes)
    (references : grammar.EveryReference fun reference => Attempts.LeaveSuffixes (meaning reference)) :
    Attempts.LeaveSuffixes (grammar.attempt meaning) := by
  -- A reference is a leaf here. What its definition leaves is settled by the budget, not by the tree.
  induction grammar with
  | primitive leaf => exact leaf.attempts_leave_suffixes
  | custom label attempts => exact handwritten
  | deferred reference => exact references
  | named grammar label induction => exact induction handwritten references
  | map grammar transformer induction =>
      intro source value rest answered
      obtain ⟨given, matched, _⟩ := Attempt.map_matches.mp answered
      exact induction handwritten references source given rest matched
  | mapThrough grammar reader induction _ =>
      intro source value rest answered
      obtain ⟨given, matched, _⟩ := Attempt.map_matches.mp answered
      exact induction handwritten references source given rest matched
  | mapError grammar transformer induction =>
      intro source value rest answered
      exact induction handwritten references source value rest (Attempt.map_error_matches.mp answered)
  | filter grammar predicate induction =>
      intro source value rest answered
      exact induction handwritten references source value rest (Attempt.filter_matches.mp answered).1
  | filterMatching grammar checker induction _ =>
      intro source value rest answered
      exact induction handwritten references source value rest (Attempt.filter_matches.mp answered).1
  | spanWhere predicate description => exact Primitive.span_of_leaves_suffixes _ _
  | spanMatching checker description _ => exact Primitive.span_of_leaves_suffixes _ _
  | debug grammar label induction =>
      intro source value rest answered
      exact induction handwritten references source value rest (Attempt.observe_matches answered)
  | optional grammar default induction =>
      intro source value rest answered
      rcases Attempt.optional_matches.mp answered with matched | ⟨_, _, rfl⟩
      · exact induction handwritten references source value rest matched
      · exact List.suffix_refl _
  | followedBy first second firstInduction secondInduction =>
      exact Attempt.followed_by_leaves (firstInduction handwritten.1 references.1)
        (secondInduction handwritten.2 references.2) fun rest middle source later earlier => List.IsSuffix.trans later earlier
  | many element atLeastOne induction =>
      exact Attempt.repeated_leaves_suffixes (induction handwritten references) (by simp)
  | separatedBy element separator atLeastOne elementInduction separatorInduction =>
      apply Attempt.repeated_leaves_suffixes (elementInduction handwritten.1 references.1)
      intro attempt member
      obtain rfl := Option.mem_some.mp member
      exact separatorInduction handwritten.2 references.2
  | either first second firstInduction secondInduction =>
      intro source value rest answered
      rcases Attempt.either_matches.mp answered with ⟨inner, matched, _⟩ | ⟨_, inner, matched, _⟩
      · exact firstInduction handwritten.1 references.1 source inner rest matched
      · exact secondInduction handwritten.2 references.2 source inner rest matched
  | choice alternatives induction =>
      intro source value rest answered
      obtain ⟨attempt, member, matched⟩ := Attempt.choice_matches answered
      obtain ⟨index, rfl⟩ := List.mem_ofFn.mp member
      exact induction index (handwritten index) (references index) source value rest matched

end Grammar

namespace Scope

/-- Every definition that the scope finds keeps the rule in its handwritten parts. -/
def LeavesSuffixes (scope : Scope) : Prop :=
  ∀ reference definition, scope reference = .ok definition →
    definition.EveryHandwritten Attempts.LeaveSuffixes

/-- Only the definitions that a closed set of references leads to have to keep the rule. -/
theorem Closed.leaves_suffixes {scope : Scope} {among : Reference → Prop}
    (closed : scope.Closed among (Grammar.EveryHandwritten Attempts.LeaveSuffixes)) (budget : Nat)
    (reference : Reference) (member : among reference) :
    Attempts.LeaveSuffixes (scope.meaning budget reference) := by
  apply closed.meaning _ _ budget reference member
  · intro reason source value rest answered
    exact absurd answered (by simp [Attempt.Matches, halt])
  · intro meaning definition handwritten references
    exact Grammar.attempt_leaves_suffixes handwritten references

theorem LeavesSuffixes.closed {scope : Scope} (definitions : scope.LeavesSuffixes) :
    scope.Closed (fun _ => True) (Grammar.EveryHandwritten Attempts.LeaveSuffixes) := by
  intro reference _ definition found
  exact ⟨Grammar.every_reference_of_forall (fun _ => trivial) definition, definitions reference definition found⟩

end Scope

namespace Grammar

theorem run_leaves_suffix {scope : Scope} {grammar : Grammar} (definitions : scope.LeavesSuffixes)
    (handwritten : grammar.EveryHandwritten Attempts.LeaveSuffixes) (budget : Nat) :
    (grammar.runWithin budget scope).Leaves fun rest source => rest <:+ source :=
  attempt_leaves_suffixes handwritten (every_reference_of_forall
    (fun reference => definitions.closed.leaves_suffixes budget reference trivial) grammar)

/-- A rest is a fault only behind a match that left it. -/
theorem excess_left_over {scope : Scope} {grammar : Grammar} {source rest : Text} {name : String}
    {outcome : Outcome Text} (answered : (grammar.runIn scope source).result = .ok outcome)
    (excess : (grammar.parseIn scope source).result = .error (.fault (.excess name rest))) :
    rest ≠ [] ∧ ∃ value, Attempt.Matches (grammar.runIn scope) source value rest := by
  have whole : (Traced.ofExcept (wholeValue grammar.name outcome)).result =
      .error (.fault (.excess name rest)) := by
    rw [← excess]
    change _ = ((grammar.runIn scope source).bind _).result
    rw [bind_of_ok answered]
  cases outcome with
  | failed failure => exact absurd whole (by simp [wholeValue, Traced.ofExcept, fault, halt])
  | matched value left =>
      simp only [wholeValue] at whole
      split at whole
      · exact absurd whole (by simp [Traced.ofExcept, Traced.pure])
      · rename_i remains
        simp only [Traced.ofExcept, fault, halt, Except.error.injEq, Halt.fault.injEq,
          Fault.excess.injEq] at whole
        obtain ⟨_, rfl⟩ := whole
        exact ⟨by simpa using remains, value, answered⟩

/-- Whatever a grammar leaves of a text is the end of that text. When a whole text was to match and
the run itself did not halt, what is reported as left over is an end of it that is not empty. -/
theorem rest_is_suffix (scope : Scope) (grammar : Grammar) (source : Text)
    (definitions : scope.LeavesSuffixes)
    (handwritten : grammar.EveryHandwritten Attempts.LeaveSuffixes) :
    (∀ budget value rest, (grammar.runWithin budget scope source).result = .ok (.matched value rest) →
        ∃ consumed, source = consumed ++ rest) ∧
      ∀ outcome, (grammar.runIn scope source).result = .ok outcome → ∀ name rest,
        (grammar.parseIn scope source).result = .error (.fault (.excess name rest)) →
          rest ≠ [] ∧ ∃ consumed, source = consumed ++ rest := by
  have suffix : ∀ budget value rest,
      (grammar.runWithin budget scope source).result = .ok (.matched value rest) →
        ∃ consumed, source = consumed ++ rest := by
    intro budget value rest answered
    obtain ⟨consumed, parts⟩ := run_leaves_suffix definitions handwritten budget source value rest answered
    exact ⟨consumed, parts.symm⟩
  refine ⟨suffix, ?_⟩
  intro outcome answered name rest excess
  obtain ⟨remains, value, matched⟩ := excess_left_over answered excess
  exact ⟨remains, suffix _ value rest matched⟩

/-- A one in any number of brackets, through a placeholder that its own definition refers to. -/
def bracketed : Session where
  bindings := []
  definitions :=
    [some ((character '1').either
      (between (character '(') (deferred (.placeholder 0 "nested")) (character ')')))]

/-- Looks at the first code point by hand and then reads nested brackets. -/
def peekedBrackets : Grammar :=
  (custom "parser" Attempt.peek).followedBy (deferred (.placeholder 0 "nested"))

theorem peek_leaves_suffixes : Attempts.LeaveSuffixes Attempt.peek := by
  intro source value rest answered
  obtain ⟨_, rfl⟩ := Outcome.matched.inj (Attempt.matches_of_function.mp answered)
  exact List.suffix_refl _

theorem bracketed_leaves_suffixes : bracketed.scope.LeavesSuffixes := by
  intro reference definition found
  cases reference with
  | provided provider =>
      obtain rfl := Except.ok.inj found
      exact every_handwritten_provided provider
  | stored variableName label => exact absurd found (by simp [bracketed, Session.scope, Session.lookup])
  | placeholder index name =>
      cases index with
      | zero =>
          obtain rfl := Except.ok.inj found
          exact ⟨trivial, ⟨trivial, trivial⟩, trivial⟩
      | succ index =>
          exact absurd found (by simp [bracketed, Session.scope, Session.definition?])

theorem unmatched_bracket_is_suffix :
    (peekedBrackets.parseIn bracketed.scope (Text.ofString "(1))")).result =
        .error (.fault (.excess peekedBrackets.name (Text.ofString ")"))) ∧
      Text.ofString ")" ≠ [] ∧ ∃ consumed, Text.ofString "(1))" = consumed ++ Text.ofString ")" :=
  ⟨rfl, (rest_is_suffix bracketed.scope peekedBrackets (Text.ofString "(1))")
    bracketed_leaves_suffixes ⟨peek_leaves_suffixes, trivial⟩).2 _ rfl _ _ rfl⟩

end Grammar

end TextGrammar
