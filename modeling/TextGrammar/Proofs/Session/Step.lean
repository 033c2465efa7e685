import TextGrammar.Proofs.Attempt.Match
import TextGrammar.Session

/-!
What one step does to a session. A step that faults or only runs a grammar keeps the
session; the others bind a variable, make a placeholder or give one its definition. All
that is known of the definitions after many steps comes from these cases.
-/

namespace TextGrammar

open Traced

/-- The step only runs a grammar. -/
def Step.Runs : Step → Prop
  | run _ _ => True
  | parse _ _ => True
  | _ => False

namespace Session

variable {session : Session} {request : Step} {index : Nat} {name variableName : String}
  {definition grammar : Grammar}

/-- What the step made of the placeholder, if it defined it. -/
def definedAs (index : Nat) : Step × Traced Reply → Option Grammar
  | (.define _ grammar, ⟨_, .ok (.grammar (.deferred (.placeholder place _)))⟩) =>
      if place = index then some grammar else none
  | _ => none

/-- The record of a definition. -/
def definitionRecord (name : String) (grammar : Grammar) : Record :=
  ⟨.debug, "Defined forward parser " ++ name ++ " as " ++ grammar.name⟩

theorem define_first (undefined : session.definition? index = none) (grammar : Grammar) :
    session.define (.deferred (.placeholder index name)) grammar =
      ⟨[definitionRecord name grammar],
        .ok { session with definitions := session.definitions.set index (some grammar) }⟩ := by
  simp only [define, undefined]
  rfl

theorem define_again (defined : session.definition? index = some definition) (grammar : Grammar) :
    session.define (.deferred (.placeholder index name)) grammar = Traced.fault (.definedTwice name) := by
  simp only [define, defined]

theorem answer_define {target : Grammar} (found : session.lookup variableName = .ok target)
    (grammar : Grammar) :
    session.answer (.define variableName grammar) =
      (do return (← session.define target grammar, .grammar target)) := by
  simp only [answer, found]
  exact Traced.pure_bind _ _

theorem step_define_first (found : session.lookup variableName = .ok (.deferred (.placeholder index name)))
    (undefined : session.definition? index = none) (grammar : Grammar) :
    session.step (.define variableName grammar) =
      ({ session with definitions := session.definitions.set index (some grammar) },
        ⟨[definitionRecord name grammar], .ok (.grammar (.deferred (.placeholder index name)))⟩) := by
  unfold step
  rw [answer_define found, define_first undefined]
  rfl

theorem step_define_again (found : session.lookup variableName = .ok (.deferred (.placeholder index name)))
    (defined : session.definition? index = some definition) (grammar : Grammar) :
    session.step (.define variableName grammar) = (session, Traced.fault (.definedTwice name)) := by
  unfold step
  rw [answer_define found, define_again defined]
  rfl

/-- A step that faults keeps the session. -/
theorem step_of_error {reason : Halt} (halted : (session.answer request).result = .error reason) :
    session.step request = (session, ⟨(session.answer request).log, .error reason⟩) := by
  simp only [step, halted]
  rfl

theorem step_runs (runs : request.Runs) : (session.step request).1 = session := by
  cases answered : (session.answer request).result with
  | error reason => rw [step_of_error answered]
  | ok reply =>
      simp only [step, answered]
      cases request with
      | run grammar source =>
          obtain ⟨_, _, later⟩ := result_bind_eq_ok.mp answered
          obtain ⟨_, _, same⟩ := result_bind_eq_ok.mp later
          rw [← result_pure_eq_ok.mp same]
      | parse grammar source =>
          obtain ⟨_, _, later⟩ := result_bind_eq_ok.mp answered
          obtain ⟨_, _, same⟩ := result_bind_eq_ok.mp later
          rw [← result_pure_eq_ok.mp same]
      | _ => exact runs.elim

/-- What a definition needs to succeed. -/
theorem answer_define_cases {reply : Session × Reply}
    (answered : (session.answer (.define variableName grammar)).result = .ok reply) :
    ∃ index name, session.lookup variableName = .ok (.deferred (.placeholder index name)) ∧
      session.definition? index = none := by
  obtain ⟨target, looked, later⟩ := result_bind_eq_ok.mp answered
  obtain ⟨defined, given, _⟩ := result_bind_eq_ok.mp later
  have found := result_of_except_eq_ok.mp looked
  unfold define at given
  split at given
  · split at given
    · exact absurd given (by simp [fault, halt])
    · rename_i undefined
      exact ⟨_, _, found, undefined⟩
  · exact absurd given (by simp [fault, halt])

/-- A step keeps the session and defines nothing, or it binds a variable, makes a placeholder or gives
a placeholder its first definition. -/
theorem step_cases (session : Session) (request : Step) :
    ((session.step request).1 = session ∧ ∀ index, definedAs index (request, (session.step request).2) = none) ∨
      (∃ variableName grammar, request = .store variableName grammar) ∨
      (∃ variableName name, request = .forward variableName name) ∨
      ∃ variableName grammar index name, request = .define variableName grammar ∧
        session.lookup variableName = .ok (.deferred (.placeholder index name)) ∧
        session.definition? index = none := by
  cases request with
  | store variableName grammar => exact Or.inr (Or.inl ⟨variableName, grammar, rfl⟩)
  | forward variableName name => exact Or.inr (Or.inr (Or.inl ⟨variableName, name, rfl⟩))
  | define variableName grammar =>
      cases answered : (session.answer (.define variableName grammar)).result with
      | error reason =>
          refine Or.inl ⟨by rw [step_of_error answered], fun index => ?_⟩
          rw [step_of_error answered]
          rfl
      | ok reply =>
          obtain ⟨index, name, found, undefined⟩ := answer_define_cases answered
          exact Or.inr (Or.inr (Or.inr ⟨variableName, grammar, index, name, rfl, found, undefined⟩))
  | run grammar source => exact Or.inl ⟨step_runs trivial, fun _ => rfl⟩
  | parse grammar source => exact Or.inl ⟨step_runs trivial, fun _ => rfl⟩

theorem definition_of_forward (session : Session) (variableName name : String) (index : Nat) :
    (session.forward variableName name).definition? index = session.definition? index := by
  simp only [definition?, forward, List.getElem?_append]
  split
  · rfl
  · rename_i unmade
    rw [List.getElem?_eq_none (Nat.le_of_not_lt unmade)]
    cases index - session.definitions.length <;> rfl

theorem definition_of_set (made : index < session.definitions.length) (grammar : Grammar) :
    ({ session with definitions := session.definitions.set index (some grammar) } : Session).definition? index =
      some grammar := by
  simp [definition?, made]

theorem definition_beside_set {place : Nat} (apart : place ≠ index) (grammar : Grammar) :
    ({ session with definitions := session.definitions.set place (some grammar) } : Session).definition? index =
      session.definition? index := by
  simp only [definition?, List.getElem?_set_ne apart]

end Session
end TextGrammar
