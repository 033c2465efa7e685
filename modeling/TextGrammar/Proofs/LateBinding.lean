import TextGrammar.Proofs.Budget
import TextGrammar.Proofs.Session.Step

/-!
Placeholders bind late. Once a placeholder has its definition, it does what the
definition does under its name, wherever it was put before or after that: in grammars,
in copies under other names, in variables and in definitions, its own among them.
-/

namespace TextGrammar

open Traced

namespace Session

variable {session : Session} {index : Nat} {definition : Grammar}

theorem definition_of_define {name : String} {defined : Session} (made : index < session.definitions.length)
    (given : (session.define (.deferred (.placeholder index name)) definition).result = .ok defined) :
    defined.definition? index = some definition := by
  cases known : session.definition? index with
  | some other =>
      rw [define_again known] at given
      exact absurd given (by simp [fault, halt])
  | none =>
      rw [define_first known] at given
      obtain rfl := Except.ok.inj given
      exact definition_of_set made definition

theorem step_keeps_definition (known : session.definition? index = some definition) (request : Step) :
    (session.step request).1.definition? index = some definition := by
  rcases step_cases session request with ⟨kept, _⟩ | ⟨variableName, grammar, rfl⟩ |
    ⟨variableName, name, rfl⟩ | ⟨variableName, grammar, place, name, rfl, found, undefined⟩
  · rw [kept]
    exact known
  · exact known
  · exact (definition_of_forward session variableName name index).trans known
  · have apart : place ≠ index := by
      rintro rfl
      exact absurd known (by simp [undefined])
    rw [step_define_first found undefined, definition_beside_set apart]
    exact known

/-- The session after some steps, one behind the other. -/
def after (session : Session) (steps : List Step) : Session :=
  steps.foldl (fun current request => (current.step request).1) session

theorem after_keeps_definition (known : session.definition? index = some definition) (steps : List Step) :
    (session.after steps).definition? index = some definition := by
  induction steps generalizing session with
  | nil => exact known
  | cons request steps induction => exact induction (step_keeps_definition known request)

section

variable (session : Session) (variableName name : String) (definition : Grammar)

theorem forward_is_undefined :
    (session.forward variableName name).definition? session.definitions.length = none := by
  simp [definition?, forward]

/-- A placeholder that is made and then defined has its definition, whatever is done afterwards. -/
theorem definition_of_forward_define (steps : List Step) :
    (session.after (.forward variableName name :: .define variableName definition :: steps)).definition?
      session.definitions.length = some definition := by
  have found : (session.forward variableName name).lookup variableName =
      .ok (.deferred (.placeholder session.definitions.length name)) := by
    simp [lookup, forward, placeholder]
  have undefined := forward_is_undefined session variableName name
  have made : session.definitions.length < (session.forward variableName name).definitions.length := by
    simp [forward]
  have known : ((session.forward variableName name).step (.define variableName definition)).1.definition?
      session.definitions.length = some definition := by
    rw [step_define_first found undefined]
    exact definition_of_set made definition
  exact after_keeps_definition known steps

end

end Session

namespace Grammar

/-- What a reference leads to is put in its place, under the name of the reference. -/
def Inlines (reference : Reference) (definition : Grammar) (_ : Unit → Grammar) (grammar : Grammar)
    (others : Unit → Grammar) : Prop :=
  grammar = .deferred reference ∧ others = fun _ => definition.named reference.name

variable {reference : Reference} {definition : Grammar} {congruence : Congruence Unit}
  {meanings : Unit → Reference → Attempts} {meaning : Reference → Attempts}

theorem inlined_alike (reflexive : congruence.IsReflexive)
    (related : ReferencesAlike congruence meanings meaning)
    (bound : ∀ (medium : Medium) (source : medium.Source),
      congruence.Relates (fun index => definition.attempt (meanings index) medium source)
        (meaning reference medium source))
    {family : Unit → Grammar} {grammar : Grammar}
    (inlined : Rewritten (Inlines reference definition) family grammar) :
    Alike congruence meanings meaning family grammar := by
  apply inlined.alike reflexive _ related
  intro _ grammar others used _
  obtain ⟨rfl, rfl⟩ := used
  exact ⟨fun _ => rfl, bound⟩

end Grammar

namespace Scope

variable {scope inlined : Scope} {reference : Reference} {definition : Grammar}

theorem inlined_above {budget : Nat} (found : scope reference = .ok definition)
    (related : ∀ (reference : Reference) (medium : Medium) (source : medium.Source),
      (scope.meaning budget reference medium source).Approximates
        (inlined.meaning budget reference medium source))
    {family : Unit → Grammar} {grammar : Grammar}
    (rewritten : Grammar.Rewritten (Grammar.Inlines reference definition) family grammar) :
    Grammar.Alike (above Unit) (fun _ => inlined.meaning budget) (scope.meaning budget) family grammar := by
  -- The reference does at this budget what its definition does at the one below, which is less.
  apply Grammar.inlined_alike (above_is_reflexive Unit) _ _ rewritten
  · exact fun other medium source _ => related other medium source
  · intro medium source _
    apply (scope.meaning_approximates budget reference medium source).trans
    rw [meaning_of_definition found]
    exact definition.attempt_approximates related medium source

theorem meaning_approximates_inlined (found : scope reference = .ok definition)
    (elsewhere : Scope.Rewritten (Grammar.Inlines reference definition) (fun _ => inlined) scope)
    (budget : Nat) (other : Reference) (medium : Medium) (source : medium.Source) :
    (scope.meaning budget other medium source).Approximates (inlined.meaning budget other medium source) := by
  induction budget generalizing other medium with
  | zero => exact fun _ => rfl
  | succ budget induction =>
      rcases elsewhere other with ⟨reason, halted, halts⟩ | ⟨grammar, family, leads, leadsToo, inlines⟩
      · have same := halts ()
        simp only [meaning, halted, same]
        exact fun _ => rfl
      · rw [meaning_of_definition leads, meaning_of_definition (leadsToo ())]
        exact (inlined_above found induction inlines).attempt medium source ()

theorem inlined_below {budget : Nat} (found : scope reference = .ok definition)
    (related : ∀ (reference : Reference) (medium : Medium) (source : medium.Source),
      (inlined.meaning budget reference medium source).Approximates
        (scope.meaning (2 * budget) reference medium source))
    {family : Unit → Grammar} {grammar : Grammar}
    (rewritten : Grammar.Rewritten (Grammar.Inlines reference definition) family grammar) :
    Grammar.Alike (below Unit) (fun _ => inlined.meaning budget) (scope.meaning (2 * budget + 1)) family
      grammar := by
  apply Grammar.inlined_alike (below_is_reflexive Unit) _ _ rewritten
  · intro other medium source _
    exact (related other medium source).trans (scope.meaning_approximates _ other medium source)
  · intro medium source _
    rw [meaning_of_definition found]
    exact definition.attempt_approximates related medium source

/-- Every expansion of the inlined definitions is at most one of those and one of the reference. -/
theorem inlined_meaning_approximates (found : scope reference = .ok definition)
    (elsewhere : Scope.Rewritten (Grammar.Inlines reference definition) (fun _ => inlined) scope)
    (budget : Nat) (other : Reference) (medium : Medium) (source : medium.Source) :
    (inlined.meaning budget other medium source).Approximates
      (scope.meaning (2 * budget) other medium source) := by
  induction budget generalizing other medium with
  | zero => exact fun _ => rfl
  | succ budget induction =>
      rcases elsewhere other with ⟨reason, halted, halts⟩ | ⟨grammar, family, leads, leadsToo, inlines⟩
      · have same := halts ()
        simp only [Nat.mul_succ, meaning, halted, same]
        exact fun _ => rfl
      · have double : 2 * (budget + 1) = 2 * budget + 1 + 1 := by omega
        rw [double, meaning_of_definition leads, meaning_of_definition (leadsToo ())]
        exact (inlined_below found induction inlines).attempt medium source ()

end Scope

namespace Grammar

/-- A placeholder that was given its definition is the definition under the placeholder's name, for
whatever contains it, and in whatever session comes after. -/
theorem definition_replaces_placeholder {session defined : Session} {index : Nat} {name : String}
    {definition : Grammar} (made : index < session.definitions.length)
    (given : (session.define (.deferred (.placeholder index name)) definition).result = .ok defined)
    (steps : List Step) {inlined : Scope}
    (elsewhere : Scope.Rewritten (Inlines (.placeholder index name) definition) (fun _ => inlined)
      (defined.after steps).scope)
    {context replaced : Grammar}
    (places : Rewritten (Inlines (.placeholder index name) definition) (fun _ => replaced) context) :
    replaced.name = context.name ∧ ∀ source answer,
      context.Answers (defined.after steps).scope source answer ↔ replaced.Answers inlined source answer := by
  have known := Session.after_keeps_definition (Session.definition_of_define made given) steps
  have found : (defined.after steps).scope (.placeholder index name) = .ok definition := by
    simp only [Session.scope, known]
  have approximates := Scope.meaning_approximates_inlined found elsewhere
  have approximated := Scope.inlined_meaning_approximates found elsewhere
  refine ⟨(Scope.inlined_above found (approximates 0) places).name (), ?_⟩
  intro source answer
  constructor
  · intro answers
    obtain ⟨ends, budget, rfl⟩ := answers
    have above := Scope.inlined_above found (approximates budget) places
    exact ⟨ends, budget, (above.attempt .text source () ends).symm⟩
  · intro answers
    obtain ⟨ends, budget, rfl⟩ := answers
    have below := Scope.inlined_below found (approximated budget) places
    exact ⟨ends, 2 * budget + 1, (below.attempt .text source () ends).symm⟩

def nested : Reference := .placeholder 0 "nested"

/-- A one in any number of brackets, which refers to itself by the placeholder. -/
def nestedOne : Grammar := (character '1').either (between (character '(') (deferred nested) (character ')'))

/-- The placeholder has no definition yet, and a copy that logs is stored. -/
def copiedEarly : Session :=
  Session.empty.after [.forward "nested" "nested", .store "copy" ((deferred nested).debug none)]

def definedLate : Session := { copiedEarly with definitions := [some nestedOne] }

/-- What the stored copy takes, and behind it another copy. -/
def copies (copied : Grammar) : Grammar :=
  (deferred (.stored "copy" "copy")).followedBy (copied.named "again")

/-- The stored copy is made of the definition. -/
def copiedAnew : Scope := fun reference =>
  if reference = .stored "copy" "copy" then .ok ((nestedOne.named "nested").debug none)
  else definedLate.scope reference

theorem copied_anew_rewritten :
    Scope.Rewritten (Inlines nested nestedOne) (fun _ => copiedAnew) definedLate.scope := by
  intro reference
  by_cases stored : reference = .stored "copy" "copy"
  · subst stored
    refine Or.inr ⟨(deferred nested).debug none, fun _ => (nestedOne.named "nested").debug none, rfl,
      fun _ => rfl, .debug (.rewrite (.deferred nested) ⟨rfl, rfl⟩) none⟩
  · have same : copiedAnew reference = definedLate.scope reference := if_neg stored
    simp only [same]
    exact Scope.Rewritten.refl definedLate.scope reference

/-- The outcome on a text that both copies take a part of, with the record of the first one. -/
def copiesAnswer : Traced (Outcome Text) where
  log := [⟨.debug, Text.ofString "nested matched Right(value=Left(value='1')), remainder '1'"⟩]
  result := .ok (.matched (.tuple [.right (.left (.text ['1'])), .left (.text ['1'])]) [])

theorem early_copy_is_definition :
    (copiedEarly.define (deferred nested) nestedOne).result = .ok definedLate ∧
      (copies (deferred nested)).Answers definedLate.scope (Text.ofString "(1)1") copiesAnswer ∧
        (copies (nestedOne.named "nested")).Answers copiedAnew (Text.ofString "(1)1") copiesAnswer := by
  have given : (copiedEarly.define (deferred nested) nestedOne).result = .ok definedLate := rfl
  have answers : (copies (deferred nested)).Answers definedLate.scope (Text.ofString "(1)1") copiesAnswer :=
    ⟨by simp [Ends, copiesAnswer], 4, rfl⟩
  have places : Rewritten (Inlines nested nestedOne) (fun _ => copies (nestedOne.named "nested"))
      (copies (deferred nested)) :=
    .followedBy (.deferred _) (.named (.rewrite (.deferred nested) ⟨rfl, rfl⟩) fun _ => rfl)
  have same := definition_replaces_placeholder (by decide) given [] copied_anew_rewritten places
  exact ⟨given, answers, (same.2 _ _).mp answers⟩

end Grammar

end TextGrammar
