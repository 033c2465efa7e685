import TextGrammar.Proofs.Congruence.Attempt
import TextGrammar.Primitive.Examination

/-!
Computations that halt because a placeholder has no definition. A combination halts so
only where one of its parts does, and only where that part is run: the parts before it
have answered, and answered in the way that leads to it. Functions on values, messages
and the lengths of sources never bring such a halt about.
-/

namespace TextGrammar

variable {σ α β : Type} {name : String}

/-- No fault is that a placeholder has no definition. -/
def BlamesNoPlaceholder (given : Except Fault α) : Prop :=
  ∀ name, given ≠ .error (.undefinedPlaceholder name)

namespace BlamesNoPlaceholder

theorem ok (value : α) : BlamesNoPlaceholder (.ok value) := by
  intro name
  simp

theorem misuse (cause : Misuse) : BlamesNoPlaceholder (.error (.misuse cause) : Except Fault α) := by
  intro name
  simp

theorem bind {given : Except Fault α} {next : α → Except Fault β} (first : BlamesNoPlaceholder given)
    (later : ∀ value, BlamesNoPlaceholder (next value)) : BlamesNoPlaceholder (given >>= next) := by
  cases given with
  | error reason =>
      intro name same
      exact first name (congrArg Except.error (Except.error.inj same))
  | ok value => exact later value

theorem map {given : Except Fault α} (first : BlamesNoPlaceholder given) (convert : α → β) :
    BlamesNoPlaceholder (given.map convert) := by
  cases given with
  | error reason =>
      intro name same
      exact first name (congrArg Except.error (Except.error.inj same))
  | ok value => exact ok (convert value)

theorem written (value : Value) : BlamesNoPlaceholder value.written? := by
  unfold Value.written?
  split
  · exact ok value
  · intro name
    simp

theorem print (value : Value) : BlamesNoPlaceholder value.print? := (written value).map _

theorem display (value : Value) : BlamesNoPlaceholder value.display? := (written value).map _

theorem length (value : Value) : BlamesNoPlaceholder value.length := by
  unfold Value.length
  split
  · exact ok _
  · exact ok _
  · exact ok _
  · exact misuse _

theorem item (value : Value) (place : Nat) : BlamesNoPlaceholder (value.item place) := by
  unfold Value.item
  split
  · exact misuse _
  · split
    · exact ok _
    · exact misuse _

theorem excerpt (value : Value) : BlamesNoPlaceholder value.excerpt? := by
  apply (length value).bind
  intro size
  split
  · exact print value
  · exact (print _).bind fun _ => ok _

theorem texts_from (place : Nat) (values : List Value) : BlamesNoPlaceholder (Value.textsFrom place values) := by
  induction values generalizing place with
  | nil => exact ok []
  | cons value values induction =>
      unfold Value.textsFrom
      cases value with
      | text points => exact (induction (place + 1)).map _
      | _ => exact misuse _

theorem size (medium : Medium) (source : medium.Source) : BlamesNoPlaceholder (medium.size source) := by
  cases medium with
  | text => exact ok _
  | value => exact length source

theorem both_messages (one two : Value) : BlamesNoPlaceholder (Attempt.bothMessages one two) :=
  (display one).bind fun _ => (display two).bind fun _ => ok _

theorem choice_message (messages : List Value) : BlamesNoPlaceholder (Attempt.choiceMessage messages) :=
  (texts_from 0 messages).bind fun _ => ok _

theorem no_element (name : String) (stop : Stop) : BlamesNoPlaceholder (Repetition.noElement name stop) := by
  cases stop with
  | failed failure => exact (display failure.message).bind fun _ => ok _
  | stalled => exact ok _
  | unseparated => exact ok _

end BlamesNoPlaceholder

namespace Traced

/-- A placeholder of the name was needed that has no definition. -/
def Misses (given : Traced α) (name : String) : Prop :=
  given.result = .error (.fault (.undefinedPlaceholder name))

variable {first : Traced α} {next : α → Traced β}

theorem result_bind_eq_error {reason : Halt} :
    (first >>= next).result = .error reason ↔
      first.result = .error reason ∨ ∃ value, first.result = .ok value ∧ (next value).result = .error reason := by
  change (first.bind next).result = .error reason ↔ _
  cases result : first.result with
  | error given => simp [bind_of_error result]
  | ok value => simp [bind_of_ok result]

theorem Misses.bind (misses : first.Misses name) (next : α → Traced β) : (first >>= next).Misses name :=
  result_bind_eq_error.mpr (Or.inl misses)

theorem Misses.after {value : α} (answered : first.result = .ok value) (misses : (next value).Misses name) :
    (first >>= next).Misses name :=
  result_bind_eq_error.mpr (Or.inr ⟨value, answered, misses⟩)

theorem misses_cases (misses : (first >>= next).Misses name) :
    first.Misses name ∨ ∃ value, first.result = .ok value ∧ (next value).Misses name :=
  result_bind_eq_error.mp misses

theorem pure_misses_nothing (value : α) : ¬ (pure value : Traced α).Misses name := by simp [Misses]

theorem fault_misses {reason : Fault} (misses : (fault reason : Traced α).Misses name) :
    reason = .undefinedPlaceholder name :=
  Halt.fault.inj (Except.error.inj misses)

theorem misuse_misses_nothing (cause : Misuse) : ¬ (fault (.misuse cause) : Traced α).Misses name := by
  intro misses
  exact absurd (fault_misses misses) (by simp)

theorem of_except_misses_nothing {given : Except Fault α} (blames : BlamesNoPlaceholder given) :
    ¬ (ofExcept given).Misses name := by
  intro misses
  cases given with
  | ok value => exact pure_misses_nothing value misses
  | error reason => exact blames name (congrArg Except.error (fault_misses misses))

theorem bind_misses_nothing (begins : ¬ first.Misses name) (ends : ∀ value, ¬ (next value).Misses name) :
    ¬ (first >>= next).Misses name := by
  intro misses
  rcases misses_cases misses with before | ⟨value, _, behind⟩
  · exact begins before
  · exact ends value behind

/-- What comes after a computation is not to blame, so the computation is. -/
theorem misses_before (misses : (first >>= next).Misses name) (ends : ∀ value, ¬ (next value).Misses name) :
    first.Misses name := by
  rcases misses_cases misses with before | ⟨value, _, behind⟩
  · exact before
  · exact absurd behind (ends value)

end Traced

open Traced

namespace Attempt

variable {attempt first second : Attempt σ} {source : σ}

/-- The attempt answers with a failure, whatever it logs. -/
def Fails (attempt : Attempt σ) (source : σ) : Prop :=
  ∃ failure, (attempt source).result = .ok (.failed failure)

theorem on_match_misses {next : Value → σ → Traced (Outcome σ)}
    (misses : (attempt.onMatch next source).Misses name) :
    (attempt source).Misses name ∨
      ∃ value rest, attempt.Matches source value rest ∧ (next value rest).Misses name := by
  rcases misses_cases misses with before | ⟨outcome, answered, behind⟩
  · exact Or.inl before
  · cases outcome with
    | matched value rest => exact Or.inr ⟨value, rest, answered, behind⟩
    | failed failure => exact absurd behind (pure_misses_nothing _)

theorem map_misses {transform : Value → Traced Value} (misses : (attempt.map transform source).Misses name) :
    (attempt source).Misses name ∨
      ∃ value rest, attempt.Matches source value rest ∧ (transform value).Misses name := by
  rcases on_match_misses misses with before | ⟨value, rest, matched, behind⟩
  · exact Or.inl before
  · exact Or.inr ⟨value, rest, matched, misses_before behind fun _ => pure_misses_nothing _⟩

theorem map_error_misses {reword : Value → Except Fault Value}
    (blames : ∀ message, BlamesNoPlaceholder (reword message))
    (misses : (attempt.mapError reword source).Misses name) : (attempt source).Misses name := by
  apply misses_before misses
  intro outcome
  cases outcome with
  | matched value rest => exact pure_misses_nothing _
  | failed failure =>
      exact bind_misses_nothing (of_except_misses_nothing (blames _)) fun _ => pure_misses_nothing _

theorem filter_misses {test : Value → Traced Bool} {refuse : Value → Except Fault Failure}
    (blames : ∀ value, BlamesNoPlaceholder (refuse value))
    (misses : (attempt.filter test refuse source).Misses name) :
    (attempt source).Misses name ∨
      ∃ value rest, attempt.Matches source value rest ∧ (test value).Misses name := by
  rcases on_match_misses misses with before | ⟨value, rest, matched, behind⟩
  · exact Or.inl before
  · refine Or.inr ⟨value, rest, matched, misses_before behind ?_⟩
    intro truth
    cases truth with
    | true => exact pure_misses_nothing _
    | false =>
        exact bind_misses_nothing (of_except_misses_nothing (blames value)) fun _ => pure_misses_nothing _

theorem observe_misses {line : σ → Outcome σ → Except Fault Text}
    (blames : ∀ outcome, BlamesNoPlaceholder (line source outcome))
    (misses : (attempt.observe line source).Misses name) : (attempt source).Misses name := by
  apply misses_before misses
  intro outcome
  apply bind_misses_nothing (of_except_misses_nothing (blames outcome))
  intro text
  exact bind_misses_nothing (by simp [Misses, write]) fun _ => pure_misses_nothing _

theorem optional_misses {default : Value} (misses : (attempt.optional default source).Misses name) :
    (attempt source).Misses name := by
  apply misses_before misses
  intro outcome
  cases outcome <;> exact pure_misses_nothing _

theorem followed_by_misses (misses : (first.followedBy second source).Misses name) :
    (first source).Misses name ∨
      ∃ value rest, first.Matches source value rest ∧ (second rest).Misses name := by
  rcases on_match_misses misses with before | ⟨value, rest, matched, behind⟩
  · exact Or.inl before
  · rcases on_match_misses behind with later | ⟨_, _, _, last⟩
    · exact Or.inr ⟨value, rest, matched, later⟩
    · exact absurd last (pure_misses_nothing _)

theorem either_misses (misses : (first.either second source).Misses name) :
    (first source).Misses name ∨ first.Fails source ∧ (second source).Misses name := by
  rcases misses_cases misses with before | ⟨outcome, answered, behind⟩
  · exact Or.inl before
  · cases outcome with
    | matched value rest => exact absurd behind (pure_misses_nothing _)
    | failed one =>
        refine Or.inr ⟨⟨one, answered⟩, misses_before behind ?_⟩
        intro other
        cases other with
        | matched value rest => exact pure_misses_nothing _
        | failed two =>
            apply bind_misses_nothing (of_except_misses_nothing (.both_messages _ _))
            exact fun _ => pure_misses_nothing _

theorem Fails.either {first second : Attempt σ} (fails : first.Fails source)
    (misses : (second source).Misses name) : (first.either second source).Misses name := by
  obtain ⟨failure, answered⟩ := fails
  exact Misses.after answered (misses.bind _)

section

variable {count : Nat} {attempts : Fin count → Attempt σ}

/-- An alternative is tried when all alternatives before it have failed. -/
theorem first_match_misses (misses : (firstMatch source (List.ofFn attempts)).Misses name) :
    ∃ index, (∀ earlier < index, (attempts earlier).Fails source) ∧ (attempts index source).Misses name := by
  induction count with
  | zero => exact absurd misses (pure_misses_nothing _)
  | succ count induction =>
      rw [List.ofFn_succ] at misses
      rcases misses_cases misses with before | ⟨outcome, answered, behind⟩
      · exact ⟨0, fun _ earlier => absurd earlier (Fin.not_lt_zero _), before⟩
      · cases outcome with
        | matched value rest => exact absurd behind (pure_misses_nothing _)
        | failed failure =>
            have later := misses_before behind fun search => by
              cases search <;> exact pure_misses_nothing _
            obtain ⟨index, failed, missed⟩ := induction later
            refine ⟨index.succ, Fin.cases (fun _ => ⟨failure, answered⟩) ?_, missed⟩
            exact fun earlier before => failed earlier (Fin.succ_lt_succ_iff.mp before)

theorem misses_first_match {index : Fin count} (failed : ∀ earlier < index, (attempts earlier).Fails source)
    (misses : (attempts index source).Misses name) :
    (firstMatch source (List.ofFn attempts)).Misses name := by
  induction count with
  | zero => exact index.elim0
  | succ count induction =>
      rw [List.ofFn_succ]
      cases index using Fin.cases with
      | zero => exact misses.bind _
      | succ index =>
          obtain ⟨failure, answered⟩ := failed 0 (Fin.succ_pos index)
          have later := induction (fun earlier before => failed earlier.succ (Fin.succ_lt_succ_iff.mpr before))
            misses
          exact Misses.after answered (later.bind _)

theorem choice_misses (misses : (choice (List.ofFn attempts) source).Misses name) :
    ∃ index, (∀ earlier < index, (attempts earlier).Fails source) ∧ (attempts index source).Misses name := by
  apply first_match_misses
  apply misses_before misses
  intro search
  cases search with
  | ok outcome => exact pure_misses_nothing _
  | error messages =>
      apply bind_misses_nothing (of_except_misses_nothing (.choice_message messages))
      exact fun _ => pure_misses_nothing _

end

end Attempt
end TextGrammar
