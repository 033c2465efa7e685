import Mathlib.Data.List.Forall2
import TextGrammar.Proofs.Attempt.Miss

/-!
Rows of attempts. Run in order, every attempt gets what the one before it left, up to the first that
fails. Tried as alternatives, all get the same source, up to the first that does not fail. Either way two
rows one behind the other are one row, and nothing behind the attempt that decides is run.
-/

namespace TextGrammar

namespace Traced

variable {α β γ δ : Type}

/-- Both log the same, and they have related results or halt for the same reason. -/
inductive Corresponds (related : α → β → Prop) : Traced α → Traced β → Prop
  | ok (records : List Record) {one : α} {two : β} (same : related one two) :
      Corresponds related ⟨records, .ok one⟩ ⟨records, .ok two⟩
  | error (records : List Record) (reason : Halt) :
      Corresponds related ⟨records, .error reason⟩ ⟨records, .error reason⟩

namespace Corresponds

variable {related : α → β → Prop} {one : Traced α} {two : Traced β}

theorem self {given : Traced α} {diagonal : α → α → Prop}
    (reflexive : ∀ value, given.result = .ok value → diagonal value value) :
    Corresponds diagonal given given := by
  rcases given with ⟨records, reason | value⟩
  · exact .error records reason
  · exact .ok records (reflexive value rfl)

theorem of_pure {value : α} {other : β} (same : related value other) :
    Corresponds related (pure value) (pure other) :=
  .ok [] same

theorem bind {last : γ → δ → Prop} {next : α → Traced γ} {other : β → Traced δ}
    (first : Corresponds related one two)
    (later : ∀ a b, related a b → Corresponds last (next a) (other b)) :
    Corresponds last (one >>= next) (two >>= other) := by
  cases first with
  | error records reason => exact .error records reason
  | @ok records value answer same =>
      change Corresponds last ⟨records ++ (next value).log, (next value).result⟩
        ⟨records ++ (other answer).log, (other answer).result⟩
      have behind := later value answer same
      generalize next value = given, other answer = reply at behind ⊢
      cases behind with
      | error others reason => exact .error _ reason
      | ok others same => exact .ok _ same

theorem log_eq (correspond : Corresponds related one two) : one.log = two.log := by
  cases correspond <;> rfl

theorem result_of_ok {answer : β} (correspond : Corresponds related one two)
    (answered : two.result = .ok answer) :
    ∃ value, one.result = .ok value ∧ related value answer := by
  cases correspond with
  | error records reason => exact absurd answered (by simp)
  | @ok records value other same =>
      obtain rfl := Except.ok.inj answered
      exact ⟨value, rfl, same⟩

theorem result_of_error {reason : Halt} (correspond : Corresponds related one two)
    (halted : two.result = .error reason) : one.result = .error reason := by
  cases correspond with
  | error records other =>
      obtain rfl : other = reason := Except.error.inj halted
      rfl
  | ok records same => exact absurd halted (by simp)

end Corresponds

end Traced

open Traced

variable {σ : Type}

namespace Attempt

/-- The values of the attempts and what the last of them leaves, or the first failure. -/
def inOrder : List (Attempt σ) → σ → Traced (Except Failure (List Value × σ))
  | [], source => return .ok ([], source)
  | attempt :: others, source => do
      match ← attempt source with
      | .failed failure => return .error failure
      | .matched value rest =>
          return (← inOrder others rest).map fun row => (value :: row.1, row.2)

/-- Goes on behind a row that has not failed. -/
def behindRow (next : σ → Traced (Except Failure (List Value × σ))) :
    Except Failure (List Value × σ) → Traced (Except Failure (List Value × σ))
  | .error failure => return .error failure
  | .ok (values, middle) => return (← next middle).map fun row => (values ++ row.1, row.2)

theorem in_order_append (first second : List (Attempt σ)) (source : σ) :
    inOrder (first ++ second) source = inOrder first source >>= behindRow (inOrder second) := by
  induction first generalizing source with
  | nil =>
      have unchanged : (fun row : Except Failure (List Value × σ) =>
          (pure (row.map fun row => ([] ++ row.1, row.2)) : Traced _)) = pure := by
        funext row
        cases row <;> rfl
      rw [inOrder, pure_bind, behindRow, unchanged, bind_pure]
      rfl
  | cons attempt others induction =>
      rw [List.cons_append, inOrder, inOrder, bind_assoc]
      apply congrArg (attempt source >>= ·)
      funext outcome
      cases outcome with
      | failed failure => rfl
      | matched value rest =>
          simp only [induction, bind_assoc, pure_bind]
          apply congrArg (inOrder others rest >>= ·)
          funext row
          cases row with
          | error failure => rfl
          | ok row =>
              simp only [behindRow, Except.map, bind_assoc, pure_bind]
              apply congrArg (inOrder second row.2 >>= ·)
              funext later
              cases later <;> rfl

/-- The attempts before the failing one match one after another, and it fails on what they left. -/
def FirstFailure (attempts : List (Attempt σ)) (source : σ) (failure : Failure) : Prop :=
  ∃ before failing after values middle, attempts = before ++ failing :: after ∧
    (inOrder before source).result = .ok (.ok (values, middle)) ∧
      (failing middle).result = .ok (.failed failure)

theorem in_order_failure {attempts : List (Attempt σ)} {source : σ} {failure : Failure}
    (failed : (inOrder attempts source).result = .ok (.error failure)) :
    FirstFailure attempts source failure := by
  induction attempts generalizing source with
  | nil => exact absurd (result_pure_eq_ok.mp failed) (by simp)
  | cons attempt others induction =>
      obtain ⟨outcome, answered, afterwards⟩ := result_bind_eq_ok.mp failed
      cases outcome with
      | failed given =>
          have same := Except.error.inj (result_pure_eq_ok.mp afterwards)
          exact ⟨[], attempt, others, [], source, rfl, rfl, same ▸ answered⟩
      | matched value rest =>
          obtain ⟨row, found, later⟩ := result_bind_eq_ok.mp afterwards
          cases row with
          | ok row => exact absurd (result_pure_eq_ok.mp later) (by simp [Except.map])
          | error given =>
              have same := Except.error.inj (result_pure_eq_ok.mp later)
              obtain ⟨before, failing, after, values, middle, rfl, begins, fails⟩ := induction (same ▸ found)
              have row : (inOrder (attempt :: before) source).result = .ok (.ok (value :: values, middle)) :=
                (result_bind_of_ok answered _).trans (result_bind_of_ok begins _)
              exact ⟨attempt :: before, failing, after, value :: values, middle, rfl, row, fails⟩

/-- Goes on behind alternatives that have all failed, whose messages come first. -/
def behindMessages (next : Traced (Except (List Value) (Outcome σ))) :
    Except (List Value) (Outcome σ) → Traced (Except (List Value) (Outcome σ))
  | .ok outcome => return .ok outcome
  | .error messages => return (← next).mapError (messages ++ ·)

theorem first_match_append (first second : List (Attempt σ)) (source : σ) :
    firstMatch source (first ++ second) =
      firstMatch source first >>= behindMessages (firstMatch source second) := by
  induction first with
  | nil =>
      have unchanged : (fun search : Except (List Value) (Outcome σ) =>
          (pure (search.mapError ([] ++ ·)) : Traced _)) = pure := by
        funext search
        cases search <;> rfl
      rw [firstMatch, pure_bind, behindMessages, unchanged, bind_pure]
      rfl
  | cons attempt others induction =>
      rw [List.cons_append, firstMatch, firstMatch, bind_assoc]
      apply congrArg (attempt source >>= ·)
      funext outcome
      cases outcome with
      | matched value rest => rfl
      | failed failure =>
          simp only [induction, bind_assoc]
          apply congrArg (firstMatch source others >>= ·)
          funext search
          cases search with
          | ok outcome => rfl
          | error messages =>
              simp only [behindMessages, bind_assoc, pure_bind]
              apply congrArg (firstMatch source second >>= ·)
              funext later
              cases later <;> rfl

/-- What the attempts log on the source, one after another. -/
def records (source : σ) (attempts : List (Attempt σ)) : List Record :=
  attempts.flatMap fun attempt => (attempt source).log

/-- The attempt fails with this message. -/
def Says (attempt : Attempt σ) (source : σ) (message : Value) : Prop :=
  ∃ kind, (attempt source).result = .ok (.failed ⟨message, kind⟩)

variable {attempts before : List (Attempt σ)} {decider : Attempt σ} {source : σ}

/-- All alternatives are run, and the messages are those of their failures. -/
theorem first_match_exhausted (failed : ∀ attempt ∈ attempts, attempt.Fails source) :
    ∃ messages, firstMatch source attempts = ⟨records source attempts, .ok (.error messages)⟩ ∧
      List.Forall₂ (fun attempt message => attempt.Says source message) attempts messages := by
  induction attempts with
  | nil => exact ⟨[], rfl, .nil⟩
  | cons attempt others induction =>
      obtain ⟨failure, answered⟩ := failed attempt List.mem_cons_self
      have others := fun other member => failed other (List.mem_cons_of_mem attempt member)
      obtain ⟨messages, later, paired⟩ := induction others
      refine ⟨failure.message :: messages, ?_, .cons ⟨failure.kind, answered⟩ paired⟩
      rw [firstMatch]
      change Traced.bind _ _ = _
      rw [bind_of_ok answered]
      simp only [later]
      simp [Bind.bind, Traced.bind, records]

theorem first_match_begun (decides : ¬ decider.Fails source) (after : List (Attempt σ)) :
    firstMatch source (decider :: after) = ⟨(decider source).log, .ok <$> (decider source).result⟩ := by
  rw [firstMatch]
  change Traced.bind _ _ = _
  cases answered : (decider source).result with
  | error reason =>
      rw [bind_of_error answered]
      rfl
  | ok outcome =>
      cases outcome with
      | failed failure => exact absurd ⟨failure, answered⟩ decides
      | matched value rest =>
          rw [bind_of_ok answered]
          simp

/-- The first alternative that does not fail decides, and those behind it are not run. -/
theorem first_match_decided (failed : ∀ attempt ∈ before, attempt.Fails source)
    (decides : ¬ decider.Fails source) (after : List (Attempt σ)) :
    firstMatch source (before ++ decider :: after) =
      ⟨records source (before ++ [decider]), .ok <$> (decider source).result⟩ := by
  obtain ⟨messages, exhausted, _⟩ := first_match_exhausted failed
  rw [first_match_append, exhausted, first_match_begun decides]
  change Traced.bind _ _ = _
  rw [bind_of_ok rfl]
  simp only [behindMessages, records, List.flatMap_append, List.flatMap_cons, List.flatMap_nil, List.append_nil]
  generalize decider source = given
  rcases given with ⟨log, reason | outcome⟩
  · rfl
  · simp [Bind.bind, Traced.bind, Except.mapError]

theorem not_fails_of_result {outcome : Except Halt (Outcome σ)} (answered : (decider source).result = outcome)
    (other : ∀ failure, outcome ≠ .ok (.failed failure)) : ¬ decider.Fails source := by
  intro fails
  obtain ⟨failure, failed⟩ := fails
  exact other failure (answered.symm.trans failed)

/-- Either all alternatives fail, or there is a first one that does not. -/
theorem exists_decider (attempts : List (Attempt σ)) (source : σ) :
    (∀ attempt ∈ attempts, attempt.Fails source) ∨
      ∃ before decider after, attempts = before ++ decider :: after ∧
        (∀ attempt ∈ before, attempt.Fails source) ∧ ¬ decider.Fails source := by
  classical
  cases found : attempts.find? fun attempt => !decide (attempt.Fails source) with
  | none => exact Or.inl (by simpa using List.find?_eq_none.mp found)
  | some decider =>
      obtain ⟨decides, before, after, parts, failed⟩ := List.find?_eq_some_iff_append.mp found
      exact Or.inr ⟨before, decider, after, parts, by simpa using failed, by simpa using decides⟩

end Attempt

end TextGrammar
