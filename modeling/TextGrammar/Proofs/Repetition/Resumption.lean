import TextGrammar.Proofs.Attempt.Row
import TextGrammar.Proofs.Consumption
import TextGrammar.Proofs.Repetition.Composition

/-!
Repetitions that are taken up again. A repetition without a separator goes from place to place as long
as its element makes the text shorter, and it ends at a place where the element is idle. These two facts
say all about its match, so it may be interrupted behind any of its values and taken up from there, and
at the place where it ended it has nothing more to do. A repetition of repetitions does in its first
round all that there is to do.
-/

namespace TextGrammar

open Traced

namespace Repetition

/-- Part of the steps is a chain, and so is what follows it. -/
theorem Chain.split {σ : Type} {step : σ → Value → σ → Prop} {source rest : σ} {values : List Value}
    (chain : Chain step source values rest) (count : Nat) :
    ∃ middle, Chain step source (values.take count) middle ∧ Chain step middle (values.drop count) rest := by
  induction chain generalizing count with
  | stop source =>
      refine ⟨source, ?_, ?_⟩
      · rw [List.take_nil]
        exact .stop source
      · rw [List.drop_nil]
        exact .stop source
  | next taken later induction =>
      cases count with
      | zero => exact ⟨_, .stop _, .next taken later⟩
      | succ count =>
          obtain ⟨middle, before, behind⟩ := induction count
          exact ⟨middle, .next taken before, behind⟩

variable {element : Attempt Text} {source rest next : Text} {value : Value} {values : List Value}

/-- The element matches and makes the text shorter. -/
def Advances (element : Attempt Text) (source : Text) (value : Value) (next : Text) : Prop :=
  element.Matches source value next ∧ next.length < source.length

/-- The element fails, or it matches and makes the text no shorter. -/
def Idle (element : Attempt Text) (place : Text) : Prop :=
  element.Fails place ∨ ∃ value rest, element.Matches place value rest ∧ place.length ≤ rest.length

theorem advances_or_idle {outcome : Outcome Text} (answered : (element source).result = .ok outcome) :
    (∃ value next, Advances element source value next) ∨ Idle element source := by
  cases outcome with
  | failed failure => exact Or.inr (Or.inl ⟨failure, answered⟩)
  | matched value next =>
      by_cases shorter : next.length < source.length
      · exact Or.inl ⟨value, next, answered, shorter⟩
      · exact Or.inr (Or.inr ⟨value, next, answered, Nat.le_of_not_lt shorter⟩)

theorem run_result_of_stall (matched : element.Matches source value next)
    (unchanged : source.length ≤ next.length) :
    (run Medium.text.size element none source).result = .ok ⟨[], source, .stalled⟩ := by
  have nothing : (afterElement none next : Traced (Text × Bool)).result = .ok (next, true) := rfl
  rw [run_eq_round, result_bind_of_ok matched]
  dsimp only
  rw [result_bind_of_ok nothing]
  rw [conclude_round_of_text, if_neg (Nat.not_lt.mpr unchanged)]
  rfl

theorem run_of_idle (idle : Idle element source) :
    ∃ stop, (run Medium.text.size element none source).result = .ok ⟨[], source, stop⟩ := by
  rcases idle with ⟨failure, failed⟩ | ⟨value, next, matched, unchanged⟩
  · exact ⟨.failed failure, run_result_of_failure failed⟩
  · exact ⟨.stalled, run_result_of_stall matched unchanged⟩

theorem run_of_advance (advances : Advances element source value next) :
    (run Medium.text.size element none source).result =
      (fun later => { later with values := value :: later.values }) <$>
        (run Medium.text.size element none next).result := by
  have nothing : (afterElement none next : Traced (Text × Bool)).result = .ok (next, true) := rfl
  rw [run_result_of_step advances.1 nothing advances.2, if_pos rfl]

theorem run_of_chain (chain : Chain (Advances element) source values rest) (idle : Idle element rest) :
    ∃ stop, (run Medium.text.size element none source).result = .ok ⟨values, rest, stop⟩ := by
  induction chain with
  | stop source => exact run_of_idle idle
  | next advances later induction =>
      obtain ⟨stop, repeated⟩ := induction idle
      rw [run_of_advance advances, repeated]
      exact ⟨stop, rfl⟩

theorem chain_of_run (source : Text) {course : Repetition Text}
    (answered : (run Medium.text.size element none source).result = .ok course) :
    Chain (Advances element) source course.values course.rest ∧ Idle element course.rest := by
  cases begun : (element source).result with
  | error reason => exact absurd (answered.symm.trans (run_result_of_halt begun)) (by simp)
  | ok outcome =>
      rcases advances_or_idle begun with ⟨value, next, advances⟩ | idle
      · rw [run_of_advance advances] at answered
        cases later : (run Medium.text.size element none next).result with
        | error reason =>
            rw [later] at answered
            exact absurd answered nofun
        | ok afterwards =>
            rw [later] at answered
            obtain rfl := Except.ok.inj answered
            have shorter := advances.2
            have behind := chain_of_run next later
            exact ⟨.next advances behind.1, behind.2⟩
      · obtain ⟨stop, repeated⟩ := run_of_idle idle
        obtain rfl := Except.ok.inj (answered.symm.trans repeated)
        exact ⟨.stop source, idle⟩
termination_by source.length

/-- The matches of a repetition are the chains of steps that end where the element is idle. -/
theorem repeated_matches_iff (name : String) :
    (Attempt.repeated name Medium.text.size element none false).Matches source (.list values) rest ↔
      Chain (Advances element) source values rest ∧ Idle element rest := by
  constructor
  · intro matched
    obtain ⟨course, repeated, same, rfl, _⟩ := Attempt.repeated_concludes matched
    obtain rfl := Value.list.inj same
    exact chain_of_run source repeated
  · intro found
    obtain ⟨stop, repeated⟩ := run_of_chain found.1 found.2
    unfold Attempt.Matches
    rw [repeated_result, repeated]
    rfl

theorem in_order_of_chain (chain : Chain (Advances element) source values rest) :
    (Attempt.inOrder (List.replicate values.length element) source).result = .ok (.ok (values, rest)) := by
  induction chain with
  | stop source => rfl
  | next advances later induction =>
      exact (result_bind_of_ok advances.1 _).trans (result_bind_of_ok induction _)

/-- Where the element is idle a repetition that needs a value fails, so it is idle as well. -/
theorem needing_idle (name : String) (idle : Idle element source)
    (shown : ∀ failure, (element source).result = .ok (.failed failure) →
      ∃ words, failure.message.display? = .ok words) :
    Idle (Attempt.repeated name Medium.text.size element none true) source := by
  apply Or.inl
  unfold Attempt.Fails Attempt.repeated
  rcases idle with ⟨failure, failed⟩ | ⟨value, next, matched, unchanged⟩
  · obtain ⟨words, display⟩ := shown failure failed
    rw [result_bind_of_ok (run_result_of_failure failed)]
    exact conclude_fails name display source
  · rw [result_bind_of_ok (run_result_of_stall matched unchanged)]
    exact ⟨_, rfl⟩

/-- The attempt matches the values as its only value, or it takes nothing if there are none. -/
def MatchesAsOne (attempt : Attempt Text) (source : Text) (values : List Value) (rest : Text) : Prop :=
  match values with
  | [] => attempt.Matches source (.list []) source
  | value :: others => attempt.Matches source (.list [.list (value :: others)]) rest

/-- A repetition around an element that takes all the values at once. -/
theorem matches_as_one (name : String)
    (advances : values ≠ [] → Advances element source (.list values) rest) (idle : Idle element rest)
    (nothing : values = [] → rest = source) :
    MatchesAsOne (Attempt.repeated name Medium.text.size element none false) source values rest := by
  cases values with
  | nil =>
      obtain rfl := nothing rfl
      exact (repeated_matches_iff name).mpr ⟨.stop rest, idle⟩
  | cons value others =>
      have first := advances (List.cons_ne_nil value others)
      exact (repeated_matches_iff name).mpr ⟨.next first (.stop rest), idle⟩

end Repetition

namespace Grammar

/-- How a repetition that matched goes on: not at all where it ended, with the values that are left
from any place on its way, and as a single value inside another repetition. There the failure of a
repetition that needs a value quotes the message of the element, which has to have a display form, as
every text has. -/
structure Resumes (meaning : Reference → Attempts) (element : Grammar) (source : Text) (values : List Value)
    (rest : Text) : Prop where
  ended : ((element.many false).attempt meaning .text).Matches rest (.list []) rest
  resumed : ∀ count ≤ values.length, ∃ middle,
    (Attempt.inOrder (List.replicate count (element.attempt meaning .text)) source).result =
        .ok (.ok (values.take count, middle)) ∧
      ((element.many false).attempt meaning .text).Matches middle (.list (values.drop count)) rest
  nested : Repetition.MatchesAsOne (((element.many false).many false).attempt meaning .text) source values rest
  nestedNeeding :
    (∀ failure, (element.attempt meaning .text rest).result = .ok (.failed failure) →
      ∃ words, failure.message.display? = .ok words) →
    Repetition.MatchesAsOne (((element.many true).many false).attempt meaning .text) source values rest

/-- A repetition that matched ended at a place where its element makes the text no shorter, and it went
there step by step, so it may be cut anywhere into a part that is over and a repetition that goes on. -/
theorem repetition_resumes (meaning : Reference → Attempts) (element : Grammar) (source : Text)
    (values : List Value) (rest : Text)
    (matched : ((element.many false).attempt meaning .text).Matches source (.list values) rest) :
    Resumes meaning element source values rest := by
  have found := (Repetition.repeated_matches_iff _).mp matched
  have ended : ((element.many false).attempt meaning .text).Matches rest (.list []) rest :=
    (Repetition.repeated_matches_iff _).mpr ⟨.stop rest, found.2⟩
  have nothing : values = [] → rest = source := by
    intro none
    subst none
    cases found.1
    rfl
  have needing (counted : values ≠ []) :
      Repetition.Advances ((element.many true).attempt meaning .text) source (.list values) rest :=
    have once := Repetition.repeated_needs.mpr ⟨counted, matched⟩
    ⟨once, Repetition.repeated_shortens source _ rest once⟩
  refine {
    ended := ended
    resumed := ?_
    nested := ?_
    nestedNeeding := ?_ }
  · intro count bound
    obtain ⟨middle, before, behind⟩ := found.1.split count
    refine ⟨middle, ?_, (Repetition.repeated_matches_iff _).mpr ⟨behind, found.2⟩⟩
    have row := Repetition.in_order_of_chain before
    rw [List.length_take_of_le bound] at row
    exact row
  · exact Repetition.matches_as_one _ (fun counted => ⟨matched, (needing counted).2⟩)
      (Or.inr ⟨_, rest, ended, Nat.le_refl _⟩) nothing
  · intro shown
    exact Repetition.matches_as_one _ needing (Repetition.needing_idle _ found.2 shown) nothing

/-- The element matches behind the last one, too, but takes nothing there. -/
theorem optional_ones_resume :
    ((((character '1').optional .null).many false).runWithin 0 Scope.provided).Matches (Text.ofString "11x")
        (.list [.text ['1'], .text ['1']]) (Text.ofString "x") ∧
      Resumes (Scope.provided.meaning 0) ((character '1').optional .null) (Text.ofString "11x")
        [.text ['1'], .text ['1']] (Text.ofString "x") := by
  have matched : ((((character '1').optional .null).many false).runWithin 0 Scope.provided).Matches
      (Text.ofString "11x") (.list [.text ['1'], .text ['1']]) (Text.ofString "x") := by
    apply (Repetition.repeated_matches_iff _).mpr
    refine ⟨.next ⟨rfl, ?_⟩ (.next ⟨rfl, ?_⟩ (.stop _)), Or.inr ⟨.null, _, rfl, Nat.le_refl _⟩⟩
    · decide
    · decide
  exact ⟨matched, repetition_resumes _ _ _ _ _ matched⟩

end Grammar

end TextGrammar
