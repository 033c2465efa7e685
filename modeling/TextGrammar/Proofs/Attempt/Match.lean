import TextGrammar.Attempt.Alternative
import TextGrammar.Attempt.Repetition
import TextGrammar.Medium

/-!
What a match of a combined attempt consists of. The parts may log, and they may
fault on other sources; only the results of the runs that did take place matter.
A repetition matches along a chain of steps, each of which made the text shorter.
-/

namespace TextGrammar

namespace Traced

variable {α β : Type}

@[simp] theorem log_pure (value : α) : (pure value : Traced α).log = [] := rfl

@[simp] theorem result_pure (value : α) : (pure value : Traced α).result = .ok value := rfl

theorem pure_injective {one two : α} (same : (pure one : Traced α) = pure two) : one = two :=
  Except.ok.inj (congrArg result same)

theorem result_bind_of_ok {first : Traced α} {value : α} (answered : first.result = .ok value)
    (next : α → Traced β) : (first >>= next).result = (next value).result := by
  change (first.bind next).result = _
  rw [bind_of_ok answered]

theorem result_bind_of_error {first : Traced α} {reason : Halt} (halted : first.result = .error reason)
    (next : α → Traced β) : (first >>= next).result = .error reason := by
  change (first.bind next).result = _
  rw [bind_of_error halted]

theorem result_bind (first : Traced α) (next : α → Traced β) :
    (first >>= next).result = first.result >>= fun value => (next value).result := by
  cases answered : first.result with
  | error reason => exact result_bind_of_error answered next
  | ok value => exact result_bind_of_ok answered next

theorem result_bind_pure (first : Traced α) (convert : α → β) :
    (first >>= fun value => pure (convert value)).result = convert <$> first.result := by
  rw [result_bind, map_eq_pure_bind]
  rfl

theorem result_bind_eq_ok {first : Traced α} {next : α → Traced β} {last : β} :
    (first >>= next).result = .ok last ↔
      ∃ middle, first.result = .ok middle ∧ (next middle).result = .ok last := by
  change (first.bind next).result = .ok last ↔ _
  cases result : first.result with
  | error reason => simp [bind_of_error result]
  | ok middle => simp [bind_of_ok result]

theorem result_pure_eq_ok {value given : α} : (pure value : Traced α).result = .ok given ↔ value = given :=
  Except.ok.injEq value given ▸ Iff.rfl

theorem result_of_except_eq_ok {given : Except Fault α} {value : α} :
    (ofExcept given).result = .ok value ↔ given = .ok value := by
  cases given with
  | error reason => simp [ofExcept, fault, halt]
  | ok found => simp [ofExcept, Traced.pure]

end Traced

namespace Attempt

open Traced

variable {σ : Type} {attempt first second : Attempt σ} {source rest : σ} {value : Value}

/-- The attempt answers with a match, whatever it logs. -/
def Matches (attempt : Attempt σ) (source : σ) (value : Value) (rest : σ) : Prop :=
  (attempt source).result = .ok (.matched value rest)

/-- Every match leaves a source in the given relation to the one that it began with. -/
def Leaves (attempt : Attempt σ) (related : σ → σ → Prop) : Prop :=
  ∀ source value rest, attempt.Matches source value rest → related rest source

theorem matches_of_function {answer : σ → Outcome σ} :
    (ofFunction answer).Matches source value rest ↔ answer source = .matched value rest :=
  result_pure_eq_ok

theorem on_match_of_halt {reason : Halt} (halted : (attempt source).result = .error reason)
    (next : Value → σ → Traced (Outcome σ)) : (attempt.onMatch next source).result = .error reason :=
  result_bind_of_error halted _

theorem on_match_of_failure {failure : Failure} (failed : (attempt source).result = .ok (.failed failure))
    (next : Value → σ → Traced (Outcome σ)) : (attempt.onMatch next source).result = .ok (.failed failure) :=
  result_bind_of_ok failed _

theorem on_match_of_match (matched : attempt.Matches source value rest)
    (next : Value → σ → Traced (Outcome σ)) : (attempt.onMatch next source).result = (next value rest).result :=
  result_bind_of_ok matched _

theorem on_match_on_match (attempt : Attempt σ) (next later : Value → σ → Traced (Outcome σ)) :
    (attempt.onMatch next).onMatch later = attempt.onMatch fun value => onMatch (next value) later := by
  funext source
  unfold onMatch
  rw [bind_assoc]
  apply congrArg (attempt source >>= ·)
  funext outcome
  cases outcome <;> rfl

theorem on_match_matches {next : Value → σ → Traced (Outcome σ)} :
    (attempt.onMatch next).Matches source value rest ↔
      ∃ given middle, attempt.Matches source given middle ∧
        (next given middle).result = .ok (.matched value rest) := by
  unfold Matches onMatch
  rw [result_bind_eq_ok]
  constructor
  · intro found
    obtain ⟨outcome, answered, later⟩ := found
    cases outcome with
    | matched given middle => exact ⟨given, middle, answered, later⟩
    | failed failure => exact absurd (result_pure_eq_ok.mp later) (by simp)
  · intro found
    obtain ⟨given, middle, answered, later⟩ := found
    exact ⟨.matched given middle, answered, later⟩

theorem map_matches {transform : Value → Traced Value} :
    (attempt.map transform).Matches source value rest ↔
      ∃ given, attempt.Matches source given rest ∧ (transform given).result = .ok value := by
  simp only [map, on_match_matches, result_bind_eq_ok, result_pure_eq_ok, Outcome.matched.injEq]
  constructor
  · intro found
    obtain ⟨given, middle, answered, result, transformed, rfl, rfl⟩ := found
    exact ⟨given, answered, transformed⟩
  · intro found
    obtain ⟨given, answered, transformed⟩ := found
    exact ⟨given, rest, answered, value, transformed, rfl, rfl⟩

theorem map_error_matches {reword : Value → Except Fault Value} :
    (attempt.mapError reword).Matches source value rest ↔ attempt.Matches source value rest := by
  unfold Matches mapError
  rw [result_bind_eq_ok]
  constructor
  · intro found
    obtain ⟨outcome, answered, later⟩ := found
    cases outcome with
    | matched given middle => exact result_pure_eq_ok.mp later ▸ answered
    | failed failure =>
        obtain ⟨message, _, failed⟩ := result_bind_eq_ok.mp later
        exact absurd (result_pure_eq_ok.mp failed) (by simp)
  · intro answered
    exact ⟨.matched value rest, answered, rfl⟩

theorem filter_matches {test : Value → Traced Bool} {refuse : Value → Except Fault Failure} :
    (attempt.filter test refuse).Matches source value rest ↔
      attempt.Matches source value rest ∧ (test value).result = .ok true := by
  simp only [filter, on_match_matches, result_bind_eq_ok]
  constructor
  · intro found
    obtain ⟨given, middle, answered, truth, tested, later⟩ := found
    cases truth with
    | false =>
        obtain ⟨failure, _, failed⟩ := result_bind_eq_ok.mp later
        exact absurd (result_pure_eq_ok.mp failed) (by simp)
    | true =>
        obtain ⟨rfl, rfl⟩ := Outcome.matched.inj (result_pure_eq_ok.mp later)
        exact ⟨answered, tested⟩
  · intro found
    obtain ⟨answered, tested⟩ := found
    exact ⟨value, rest, answered, true, tested, rfl⟩

theorem observe_matches {line : σ → Outcome σ → Except Fault Text}
    (answered : (attempt.observe line).Matches source value rest) : attempt.Matches source value rest := by
  unfold Matches observe at answered
  obtain ⟨outcome, result, later⟩ := result_bind_eq_ok.mp answered
  obtain ⟨_, _, written⟩ := result_bind_eq_ok.mp later
  obtain ⟨_, _, same⟩ := result_bind_eq_ok.mp written
  obtain rfl := result_pure_eq_ok.mp same
  exact result

theorem optional_matches {default : Value} :
    (attempt.optional default).Matches source value rest ↔
      attempt.Matches source value rest ∨
        (∃ failure, (attempt source).result = .ok (.failed failure)) ∧ value = default ∧ rest = source := by
  unfold Matches optional
  rw [result_bind_eq_ok]
  constructor
  · intro found
    obtain ⟨outcome, answered, later⟩ := found
    cases outcome with
    | matched given middle => exact Or.inl (result_pure_eq_ok.mp later ▸ answered)
    | failed failure =>
        obtain ⟨rfl, rfl⟩ := Outcome.matched.inj (result_pure_eq_ok.mp later)
        exact Or.inr ⟨⟨failure, answered⟩, rfl, rfl⟩
  · intro found
    rcases found with answered | ⟨⟨failure, answered⟩, rfl, rfl⟩
    · exact ⟨.matched value rest, answered, rfl⟩
    · exact ⟨.failed failure, answered, rfl⟩

theorem followed_by_matches :
    (first.followedBy second).Matches source value rest ↔
      ∃ one two middle, first.Matches source one middle ∧ second.Matches middle two rest ∧
        value = .tuple [one, two] := by
  simp only [followedBy, on_match_matches]
  constructor
  · intro found
    obtain ⟨one, middle, answered, later⟩ := found
    obtain ⟨two, last, followed, same⟩ := on_match_matches.mp later
    obtain ⟨rfl, rfl⟩ := Outcome.matched.inj (result_pure_eq_ok.mp same)
    exact ⟨one, two, middle, answered, followed, rfl⟩
  · intro found
    obtain ⟨one, two, middle, answered, followed, rfl⟩ := found
    exact ⟨one, middle, answered, on_match_matches.mpr ⟨two, rest, followed, rfl⟩⟩

theorem either_matches :
    (first.either second).Matches source value rest ↔
      (∃ inner, first.Matches source inner rest ∧ value = .left inner) ∨
        (∃ failure, (first source).result = .ok (.failed failure)) ∧
          ∃ inner, second.Matches source inner rest ∧ value = .right inner := by
  unfold Matches either
  rw [result_bind_eq_ok]
  constructor
  · intro found
    obtain ⟨outcome, answered, later⟩ := found
    cases outcome with
    | matched inner middle =>
        obtain ⟨rfl, rfl⟩ := Outcome.matched.inj (result_pure_eq_ok.mp later)
        exact Or.inl ⟨inner, answered, rfl⟩
    | failed failure =>
        obtain ⟨other, followed, last⟩ := result_bind_eq_ok.mp later
        cases other with
        | matched inner middle =>
            obtain ⟨rfl, rfl⟩ := Outcome.matched.inj (result_pure_eq_ok.mp last)
            exact Or.inr ⟨⟨failure, answered⟩, inner, followed, rfl⟩
        | failed two =>
            obtain ⟨_, _, failed⟩ := result_bind_eq_ok.mp last
            exact absurd (result_pure_eq_ok.mp failed) (by simp)
  · intro found
    rcases found with ⟨inner, answered, rfl⟩ | ⟨⟨failure, answered⟩, inner, followed, rfl⟩
    · exact ⟨.matched inner rest, answered, rfl⟩
    · exact ⟨.failed failure, answered, result_bind_eq_ok.mpr ⟨.matched inner rest, followed, rfl⟩⟩

theorem first_match_answers {attempts : List (Attempt σ)} {outcome : Outcome σ}
    (found : (firstMatch source attempts).result = .ok (.ok outcome)) :
    ∃ attempt ∈ attempts, (attempt source).result = .ok outcome := by
  induction attempts with
  | nil => exact absurd (result_pure_eq_ok.mp found) (by simp)
  | cons attempt others induction =>
      unfold firstMatch at found
      obtain ⟨answer, answered, later⟩ := result_bind_eq_ok.mp found
      cases answer with
      | matched inner middle =>
          have same := Except.ok.inj (result_pure_eq_ok.mp later)
          exact ⟨attempt, List.mem_cons_self, same ▸ answered⟩
      | failed failure =>
          obtain ⟨search, searched, last⟩ := result_bind_eq_ok.mp later
          cases search with
          | error messages => exact absurd (result_pure_eq_ok.mp last) (by simp)
          | ok inner =>
              have same := Except.ok.inj (result_pure_eq_ok.mp last)
              obtain ⟨other, member, result⟩ := induction (same ▸ searched)
              exact ⟨other, List.mem_cons_of_mem _ member, result⟩

theorem choice_matches {attempts : List (Attempt σ)}
    (answered : (choice attempts).Matches source value rest) :
    ∃ attempt ∈ attempts, attempt.Matches source value rest := by
  unfold Matches choice at answered
  obtain ⟨search, searched, later⟩ := result_bind_eq_ok.mp answered
  cases search with
  | error messages =>
      obtain ⟨_, _, failed⟩ := result_bind_eq_ok.mp later
      exact absurd (result_pure_eq_ok.mp failed) (by simp)
  | ok outcome =>
      have same := result_pure_eq_ok.mp later
      exact first_match_answers (same ▸ searched)

end Attempt

end TextGrammar
