import TextGrammar.Proofs.LateBinding

/-!
Two ways to recursion. A placeholder is defined by a body that contains it; a grammar
that is provided lazily is looked up at every attempt, and its body, which is built
anew each time, contains it under the name of the placeholder. Nothing tells the two
apart: each expansion of the one is an expansion of the other, and names, which get
into messages and records, are the same everywhere.
-/

namespace TextGrammar

open Traced

section

variable {scope : Scope} {knot copy : Reference} {body rebuilt : Grammar}

/-- One level of the body is the same with either reference, as long as the two mean the same in it. -/
theorem Grammar.attempt_rebuilt {meaning : Reference → Attempts} (same : meaning copy = meaning knot)
    (places : Rewritten (Inlines knot (.deferred copy)) (fun _ => rebuilt) body) :
    rebuilt.attempt meaning = body.attempt meaning := by
  have alike : Alike (identical Unit) (fun _ => meaning) meaning (fun _ => rebuilt) body := by
    apply inlined_alike (identical_is_reflexive Unit) _ _ places
    · exact fun _ _ _ _ => rfl
    · intro medium source _
      change meaning copy medium source = meaning knot medium source
      rw [same]
  funext medium source
  exact alike.attempt medium source ()

theorem Scope.meaning_rebuilt (tied : scope knot = .ok body) (provided : scope copy = .ok rebuilt)
    (places : Grammar.Rewritten (Grammar.Inlines knot (.deferred copy)) (fun _ => rebuilt) body)
    (budget : Nat) : scope.meaning budget copy = scope.meaning budget knot := by
  induction budget with
  | zero => rfl
  | succ budget induction =>
      rw [meaning_of_definition tied, meaning_of_definition provided]
      exact Grammar.attempt_rebuilt induction places

end

namespace Grammar

/-- A placeholder that is defined by a body that contains it does, and logs, what a lazily provided
grammar of its name does, when the latter is provided with the body that contains the provided grammar
in the placeholder's stead. -/
theorem lazy_recursion_ties_knot {session defined : Session} {index : Nat}
    {name variableName label : String} {body rebuilt : Grammar} (made : index < session.definitions.length)
    (given : (session.define (.deferred (.placeholder index name)) body).result = .ok defined)
    (steps : List Step) (provided : (defined.after steps).lookup variableName = .ok rebuilt)
    (places : Rewritten (Inlines (.placeholder index name) (.deferred (.stored variableName label)))
      (fun _ => rebuilt) body) :
    (∀ budget source,
      (deferred (.placeholder index name)).runWithin budget (defined.after steps).scope source =
        ((deferred (.stored variableName label)).named name).runWithin budget (defined.after steps).scope
          source) ∧
      ∀ source answer,
        (deferred (.placeholder index name)).Answers (defined.after steps).scope source answer ↔
          ((deferred (.stored variableName label)).named name).Answers (defined.after steps).scope source
            answer := by
  have known := Session.after_keeps_definition (Session.definition_of_define made given) steps
  have tied : (defined.after steps).scope (.placeholder index name) = .ok body := by
    simp only [Session.scope, known]
  have found : (defined.after steps).scope (.stored variableName label) = .ok rebuilt := provided
  have same : ∀ budget source,
      (deferred (.placeholder index name)).runWithin budget (defined.after steps).scope source =
        ((deferred (.stored variableName label)).named name).runWithin budget (defined.after steps).scope
          source := by
    intro budget source
    have meaning := Scope.meaning_rebuilt tied found places budget
    exact (congrFun (congrFun meaning .text) source).symm
  refine ⟨same, ?_⟩
  intro source answer
  simp only [Answers, same]

/-- A one in any number of brackets, which are observed under the name of what is in them. -/
def observedNesting (inner : Grammar) : Grammar :=
  (character '1').either (between (character '(') (inner.debug none) (character ')'))

def nestedKnot : Grammar := .deferred nested

def nestedCopy : Grammar := (deferred (.stored "copy" anonymous)).named "nested"

def nestedMade : Session := Session.empty.after [.forward "nested" "nested"]

def nestedDefined : Session := { nestedMade with definitions := [some (observedNesting nestedKnot)] }

def observedNestingAnswer : Traced (Outcome Text) where
  log := [⟨.debug, Text.ofString "nested matched Left(value='1'), remainder ')'"⟩]
  result := .ok (.matched (.right (.left (.text ['1']))) [])

theorem observed_nesting_is_alike :
    nestedKnot.Answers (nestedDefined.after [.store "copy" (observedNesting nestedCopy)]).scope
        (Text.ofString "(1)") observedNestingAnswer ∧
      nestedCopy.Answers (nestedDefined.after [.store "copy" (observedNesting nestedCopy)]).scope
        (Text.ofString "(1)") observedNestingAnswer := by
  have places : Rewritten (Inlines nested (.deferred (.stored "copy" anonymous)))
      (fun _ => observedNesting nestedCopy) (observedNesting nestedKnot) := by
    have inner : Rewritten (Inlines nested (.deferred (.stored "copy" anonymous)))
        (fun _ => nestedCopy) nestedKnot := .rewrite (.deferred nested) ⟨rfl, rfl⟩
    apply Rewritten.either
    · exact .refl _
    · apply Rewritten.named
      · exact .map (.followedBy (.followedBy (.refl _) (.debug inner none)) (.refl _)) innerValue
      · exact fun _ => rfl
  have given : (nestedMade.define (deferred (.placeholder 0 "nested")) (observedNesting nestedKnot)).result =
      .ok nestedDefined := rfl
  have alike := lazy_recursion_ties_knot (by decide) given [.store "copy" (observedNesting nestedCopy)] rfl
    places
  have answers : nestedKnot.Answers (nestedDefined.after [.store "copy" (observedNesting nestedCopy)]).scope
      (Text.ofString "(1)") observedNestingAnswer := ⟨by simp [Ends, observedNestingAnswer], 3, rfl⟩
  exact ⟨answers, (alike.2 _ _).mp answers⟩

end Grammar

end TextGrammar
