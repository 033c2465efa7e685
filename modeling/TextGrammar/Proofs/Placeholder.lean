import TextGrammar.Proofs.LateBinding
import TextGrammar.Proofs.Reach

/-!
Placeholders over the steps of a session. A placeholder is written once: the first step
that defines it succeeds, and no step after that changes the definition. Until then a
run needs it exactly when its evaluation comes to an attempt of it. Runs leave no trace,
so they can be put in, repeated and left out without a change to what is answered
elsewhere.
-/

namespace TextGrammar

open Traced

namespace Grammar

/-- A placeholder is one of those that have been made. -/
def MadeAmong (count : Nat) : Grammar → Prop
  | deferred (.placeholder index _) => index < count
  | _ => True

/-- The grammar can be built where so many placeholders have been made, of functions that fault for
their own reasons. -/
def Buildable (count : Nat) (grammar : Grammar) : Prop :=
  grammar.EveryPart fun part => part.Innocent ∧ part.MadeAmong count

variable {grammar : Grammar} {count more : Nat}

theorem MadeAmong.mono (enough : count ≤ more) (made : grammar.MadeAmong count) : grammar.MadeAmong more := by
  unfold MadeAmong at made ⊢
  split
  · exact Nat.lt_of_lt_of_le made enough
  · trivial

theorem Buildable.mono (enough : count ≤ more) (built : grammar.Buildable count) : grammar.Buildable more :=
  EveryPart.mono (fun _ part => ⟨part.1, part.2.mono enough⟩) built

theorem Buildable.innocent (built : grammar.Buildable count) : grammar.EveryPart Innocent :=
  EveryPart.mono (fun _ part => part.1) built

theorem Buildable.made {index : Nat} {name : String}
    (built : (deferred (.placeholder index name)).Buildable count) : index < count := built.2

end Grammar

/-- Every grammar in the step can be built. -/
def Step.Buildable (count : Nat) : Step → Prop
  | store _ grammar => grammar.Buildable count
  | forward _ _ => True
  | define _ grammar => grammar.Buildable count
  | run grammar _ => grammar.Buildable count
  | parse grammar _ => grammar.Buildable count

namespace Session

variable {session : Session} {request : Step} {steps : List Step} {index : Nat} {name variableName : String}
  {definition grammar : Grammar}

/-- The steps one behind the other, each with its reply. -/
def transcript : Session → List Step → List (Step × Traced Reply)
  | _, [] => []
  | session, request :: steps =>
      (request, (session.step request).2) :: transcript (session.step request).1 steps

/-- Every step is made of grammars that can be built when its turn comes. -/
def Admits : Session → List Step → Prop
  | _, [] => True
  | session, request :: steps =>
      request.Buildable session.definitions.length ∧ Admits (session.step request).1 steps

/-- What variables hold and what placeholders are defined as can be built. -/
structure Sound (session : Session) : Prop where
  bindings : ∀ binding ∈ session.bindings, binding.2.Buildable session.definitions.length
  definitions : ∀ index definition, session.definition? index = some definition →
    definition.Buildable session.definitions.length

theorem empty_sound : empty.Sound where
  bindings _ member := absurd member List.not_mem_nil
  definitions _ _ found := absurd found (by simp [definition?, empty])

theorem Sound.lookup (sound : session.Sound) (found : session.lookup variableName = .ok grammar) :
    grammar.Buildable session.definitions.length := by
  unfold Session.lookup at found
  split at found
  · rename_i given looked
    obtain rfl := Except.ok.inj found
    obtain ⟨before, behind, split, _⟩ := List.lookup_eq_some_iff.mp looked
    exact sound.bindings (variableName, given) (by simp [split])
  · exact absurd found (by simp)

theorem Sound.step (sound : session.Sound) (built : request.Buildable session.definitions.length) :
    (session.step request).1.Sound := by
  rcases step_cases session request with ⟨kept, _⟩ | ⟨variableName, grammar, rfl⟩ |
    ⟨variableName, name, rfl⟩ | ⟨variableName, grammar, place, name, rfl, found, undefined⟩
  · rw [kept]
    exact sound
  · exact ⟨List.forall_mem_cons.mpr ⟨built, sound.bindings⟩, sound.definitions⟩
  · have more : session.definitions.length ≤ (session.forward variableName name).definitions.length := by
      simp [forward]
    have made : (session.placeholder name).Buildable (session.forward variableName name).definitions.length :=
      ⟨trivial, by simp [Grammar.MadeAmong, forward]⟩
    refine ⟨List.forall_mem_cons.mpr ⟨made, fun binding member => ?_⟩, fun index definition known => ?_⟩
    · exact (sound.bindings binding member).mono more
    · rw [show (session.step (.forward variableName name)).1 = session.forward variableName name from rfl,
        definition_of_forward] at known
      exact (sound.definitions index definition known).mono more
  · have made := (sound.lookup found).made
    rw [step_define_first found undefined]
    have kept : (session.definitions.set place (some grammar)).length = session.definitions.length := by simp
    refine ⟨fun binding member => ?_, fun index definition known => ?_⟩
    · exact kept.symm ▸ sound.bindings binding member
    · by_cases same : place = index
      · subst same
        rw [definition_of_set made] at known
        obtain rfl := Option.some.inj known
        exact kept.symm ▸ built
      · rw [definition_beside_set same] at known
        exact kept.symm ▸ sound.definitions index definition known

/-- One step defines a placeholder if it has no definition yet, and not otherwise. -/
theorem definition_of_step (sound : session.Sound) (request : Step) (index : Nat) :
    (session.step request).1.definition? index =
      (session.definition? index).or (definedAs index (request, (session.step request).2)) := by
  rcases step_cases session request with ⟨kept, nothing⟩ | ⟨variableName, grammar, rfl⟩ |
    ⟨variableName, name, rfl⟩ | ⟨variableName, grammar, place, name, rfl, found, undefined⟩
  · rw [kept, nothing, Option.or_none]
  · exact (Option.or_none).symm
  · exact (definition_of_forward session variableName name index).trans (Option.or_none).symm
  · rw [step_define_first found undefined]
    by_cases same : place = index
    · subst same
      simp [definedAs, undefined, definition_of_set (sound.lookup found).made]
    · simp [definedAs, definition_beside_set same, same]

theorem Sound.after (sound : session.Sound) (admitted : session.Admits steps) : (session.after steps).Sound := by
  induction steps generalizing session with
  | nil => exact sound
  | cons request steps induction => exact induction (sound.step admitted.1) admitted.2

theorem definition_of_after (sound : session.Sound) (admitted : session.Admits steps) (index : Nat) :
    (session.after steps).definition? index =
      (session.definition? index).or ((session.transcript steps).findSome? (definedAs index)) := by
  induction steps generalizing session with
  | nil => exact (Option.or_none).symm
  | cons request steps induction =>
      have later := induction (sound.step admitted.1) admitted.2
      rw [definition_of_step sound, Option.or_assoc] at later
      refine later.trans (congrArg (session.definition? index).or ?_)
      simp only [transcript, List.findSome?_cons]
      cases definedAs index (request, (session.step request).2) <;> rfl

theorem after_append (session : Session) (before behind : List Step) :
    session.after (before ++ behind) = (session.after before).after behind :=
  List.foldl_append

theorem transcript_append (session : Session) (before behind : List Step) :
    session.transcript (before ++ behind) =
      session.transcript before ++ (session.after before).transcript behind := by
  induction before generalizing session with
  | nil => rfl
  | cons request before induction =>
      exact congrArg ((request, (session.step request).2) :: ·) (induction (session.step request).1)

theorem after_of_runs (runs : ∀ request ∈ steps, request.Runs) : session.after steps = session := by
  induction steps with
  | nil => rfl
  | cons request steps induction =>
      obtain ⟨first, others⟩ := List.forall_mem_cons.mp runs
      change (session.step request).1.after steps = session
      rw [step_runs first]
      exact induction others

/-- Runs that are put between other steps are answered there, and nothing else changes. -/
theorem transcript_with_runs (session : Session) (before behind : List Step) {extra : List Step}
    (runs : ∀ request ∈ extra, request.Runs) :
    session.transcript (before ++ extra ++ behind) =
      session.transcript before ++ (session.after before).transcript extra ++
        (session.after before).transcript behind := by
  rw [transcript_append, transcript_append, after_append, after_of_runs runs]

section Runs

/-- The run of the grammar on the text comes to an attempt of the reference. -/
def RunReaches (session : Session) (reference : Reference) (grammar : Grammar) (source : Text) : Prop :=
  session.scope.Reaches reference (Scope.usualBudget source) grammar .text source

theorem Sound.scope_innocent (sound : session.Sound) : session.scope.Innocent := by
  intro reference definition found
  cases reference with
  | provided provider =>
      obtain rfl := Except.ok.inj found
      exact Grammar.provided_innocent provider
  | stored variableName label => exact (sound.lookup found).innocent
  | placeholder index name =>
      simp only [scope] at found
      split at found
      · rename_i known
        obtain rfl := Except.ok.inj found
        exact (sound.definitions _ _ known).innocent
      · exact absurd found (by simp)

theorem scope_undefined {reference : Reference} :
    session.scope reference = .error (.undefinedPlaceholder name) ↔
      ∃ index, reference = .placeholder index name ∧ session.definition? index = none := by
  constructor
  · intro undefined
    cases reference with
    | provided provider => exact absurd undefined (by simp [scope])
    | stored variableName label =>
        simp only [scope, lookup] at undefined
        split at undefined <;> exact absurd undefined (by simp)
    | placeholder index label =>
        simp only [scope] at undefined
        split at undefined
        · exact absurd undefined (by simp)
        · rename_i unknown
          obtain rfl := Fault.undefinedPlaceholder.inj (Except.error.inj undefined)
          exact ⟨index, rfl, unknown⟩
  · intro found
    obtain ⟨index, rfl, undefined⟩ := found
    simp only [scope, undefined]

theorem run_misses_iff (sound : session.Sound) (built : grammar.Buildable session.definitions.length)
    (source : Text) :
    (grammar.runIn session.scope source).Misses name ↔
      ∃ index, session.definition? index = none ∧
        session.RunReaches (.placeholder index name) grammar source := by
  constructor
  · intro misses
    obtain ⟨reference, unknown, reaches⟩ := Scope.reaches_of_misses sound.scope_innocent built.innocent misses
    obtain ⟨index, rfl, undefined⟩ := scope_undefined.mp unknown
    exact ⟨index, undefined, reaches⟩
  · intro found
    obtain ⟨index, undefined, reaches⟩ := found
    exact Scope.misses_of_reaches (scope_undefined.mpr ⟨index, rfl, undefined⟩) reaches

theorem step_misses : (session.step request).2.Misses name ↔ (session.answer request).Misses name := by
  simp only [step, Misses]
  cases (session.answer request).result <;> simp [Except.map]

theorem written_outcome_blames (outcome : Outcome Text) : BlamesNoPlaceholder (writtenOutcome? outcome) := by
  cases outcome with
  | matched value rest => exact (BlamesNoPlaceholder.written value).bind fun _ => .ok _
  | failed failure => exact (BlamesNoPlaceholder.written failure.message).bind fun _ => .ok _

theorem step_run_misses (grammar : Grammar) (source : Text) :
    (session.step (.run grammar source)).2.Misses name ↔ (grammar.runIn session.scope source).Misses name := by
  rw [step_misses]
  constructor
  · intro misses
    apply misses_before misses
    intro outcome
    apply bind_misses_nothing (of_except_misses_nothing (written_outcome_blames outcome))
    exact fun _ => pure_misses_nothing _
  · exact fun misses => misses.bind _

theorem whole_value_blames (name : String) (outcome : Outcome Text) :
    BlamesNoPlaceholder (Grammar.wholeValue name outcome) := by
  intro given
  unfold Grammar.wholeValue
  split
  · simp
  · split <;> simp

theorem step_parse_misses (grammar : Grammar) (source : Text) :
    (session.step (.parse grammar source)).2.Misses name ↔ (grammar.runIn session.scope source).Misses name := by
  rw [step_misses]
  constructor
  · intro misses
    have parses : (grammar.parseIn session.scope source).Misses name := by
      apply misses_before misses
      intro value
      apply bind_misses_nothing (of_except_misses_nothing (.written value))
      exact fun _ => pure_misses_nothing _
    apply misses_before parses
    exact fun outcome => of_except_misses_nothing (whole_value_blames grammar.name outcome)
  · intro misses
    have parses : (grammar.parseIn session.scope source).Misses name := misses.bind _
    exact parses.bind _

end Runs

/-- What some steps make of placeholders, and what any step does after them. -/
structure WritesOnce (steps : List Step) : Prop where
  /-- A placeholder has the grammar that was given to it by the first step that defined it. -/
  first : ∀ index,
    (empty.after steps).definition? index = (empty.transcript steps).findSome? (definedAs index)
  stays : ∀ index definition, (empty.after steps).definition? index = some definition →
    ∀ later, (empty.after (steps ++ later)).definition? index = some definition
  defines : ∀ variableName index name grammar,
    (empty.after steps).lookup variableName = .ok (.deferred (.placeholder index name)) →
      (empty.after steps).definition? index = none →
        ((empty.after steps).step (.define variableName grammar)).2.result =
          .ok (.grammar (.deferred (.placeholder index name)))
  /-- Defining it again is a fault, logs nothing and leaves the session as it was. -/
  refuses : ∀ variableName index name definition grammar,
    (empty.after steps).lookup variableName = .ok (.deferred (.placeholder index name)) →
      (empty.after steps).definition? index = some definition →
        (empty.after steps).step (.define variableName grammar) =
            (empty.after steps, Traced.fault (.definedTwice name)) ∧
          (Fault.definedTwice name).category = .badUse
  /-- A run faults for want of a definition exactly when it comes to an attempt of the placeholder. -/
  needs : ∀ grammar source name, grammar.Buildable (empty.after steps).definitions.length →
    (((empty.after steps).step (.run grammar source)).2.Misses name ↔
        ∃ index, (empty.after steps).definition? index = none ∧
          (empty.after steps).RunReaches (.placeholder index name) grammar source) ∧
      (((empty.after steps).step (.parse grammar source)).2.Misses name ↔
        ∃ index, (empty.after steps).definition? index = none ∧
          (empty.after steps).RunReaches (.placeholder index name) grammar source) ∧
      (Fault.undefinedPlaceholder name).category = .badUse
  keeps : ∀ request, request.Runs → ((empty.after steps).step request).1 = empty.after steps
  /-- Every other step is answered alike with the extra runs and without them. -/
  traceless : ∀ before extra behind, steps = before ++ behind → (∀ request ∈ extra, request.Runs) →
    empty.transcript steps = empty.transcript before ++ (empty.after before).transcript behind ∧
      empty.transcript (before ++ extra ++ behind) =
        empty.transcript before ++ (empty.after before).transcript extra ++
          (empty.after before).transcript behind

theorem placeholders_are_written_once (admitted : empty.Admits steps) : WritesOnce steps := by
  have sound := empty_sound.after admitted
  refine ⟨?_, ?_, ?_, ?_, ?_, ?_, ?_⟩
  · intro index
    have run := definition_of_after empty_sound admitted index
    simpa [definition?, empty] using run
  · intro index definition known later
    rw [after_append]
    exact after_keeps_definition known later
  · intro variableName index name grammar found undefined
    rw [step_define_first found undefined]
  · intro variableName index name definition grammar found known
    exact ⟨step_define_again found known grammar, rfl⟩
  · intro grammar source name built
    have reaches : (grammar.runIn (empty.after steps).scope source).Misses name ↔ _ :=
      run_misses_iff sound built source
    exact ⟨(step_run_misses grammar source).trans reaches, (step_parse_misses grammar source).trans reaches, rfl⟩
  · exact fun request runs => step_runs runs
  · intro before extra behind split runs
    subst split
    exact ⟨transcript_append empty before behind, transcript_with_runs empty before behind runs⟩

def late : Reference := .placeholder 0 "late"

/-- The placeholder is needed behind a two only. -/
def guarded : Grammar := (Grammar.character '1').either ((Grammar.character '2').followedBy (.deferred late))

def guardedSteps : List Step := [.forward "late" "late", .store "guarded" guarded]

theorem guarded_placeholder_is_needed :
    empty.Admits guardedSteps ∧
      ((empty.after guardedSteps).step (.run guarded (Text.ofString "2"))).2.Misses "late" ∧
        ¬ (empty.after guardedSteps).RunReaches late guarded (Text.ofString "1") ∧
          ¬ (empty.after guardedSteps).RunReaches late guarded (Text.ofString "3") := by
  have built : guarded.Buildable 1 :=
    ⟨⟨trivial, trivial⟩, ⟨trivial, trivial⟩, ⟨trivial, trivial⟩, ⟨trivial, trivial⟩, trivial, Nat.one_pos⟩
  have admitted : empty.Admits guardedSteps := ⟨trivial, built, trivial⟩
  have laws := placeholders_are_written_once admitted
  have undefined : (empty.after guardedSteps).definition? 0 = none := rfl
  -- Where a run answers, it does not come to the placeholder.
  have unneeded : ∀ source : Text,
      ((empty.after guardedSteps).step (.run guarded source)).2.result.toBool = true →
        ¬ (empty.after guardedSteps).RunReaches late guarded source := by
    intro source answered reaches
    have misses := (laws.needs guarded source "late" built).1.mpr ⟨0, undefined, reaches⟩
    rw [misses] at answered
    exact absurd answered (by simp [Except.toBool])
  have reached : (empty.after guardedSteps).RunReaches late guarded (Text.ofString "2") := by
    have begun : Scope.usualBudget (Text.ofString "2") = 10000 + 1 := rfl
    unfold RunReaches
    rw [begun]
    exact .here (.right ⟨_, rfl⟩ (.second rfl .deferred))
  have needed := (laws.needs guarded (Text.ofString "2") "late" built).1.mpr ⟨0, undefined, reached⟩
  exact ⟨admitted, needed, unneeded _ rfl, unneeded _ rfl⟩

end Session
end TextGrammar
