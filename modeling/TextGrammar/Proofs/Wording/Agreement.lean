import TextGrammar.Primitive.Unordered
import TextGrammar.Proofs.Attempt.Answer
import TextGrammar.Proofs.Congruence.Attempt

/-!
Computations that do the same but for words. Two of them agree when both have related
results, or halt for faults of one category, or use up the budget. The combinators keep
this: they join messages, quote names and pass both on, but nothing that they decide
depends on either. All messages have to be texts, or else joining them can fault.
-/

namespace TextGrammar

variable {σ α β γ δ : Type}

namespace Traced

inductive ResultsAgree (related : α → β → Prop) : Except Halt α → Except Halt β → Prop
  | ok {one : α} {two : β} (same : related one two) : ResultsAgree related (.ok one) (.ok two)
  | fault {one two : Fault} (same : one.category = two.category) :
      ResultsAgree related (.error (.fault one)) (.error (.fault two))
  | outOfBudget : ResultsAgree related (.error .outOfBudget) (.error .outOfBudget)

/-- Whatever they log, the results agree. -/
def Agrees (related : α → β → Prop) (one : Traced α) (two : Traced β) : Prop :=
  ResultsAgree related one.result two.result

variable {related : α → β → Prop} {last : γ → δ → Prop}

theorem agrees_pure {one : α} {two : β} (same : related one two) : Agrees related (pure one) (pure two) :=
  .ok same

theorem Agrees.bind {one : Traced α} {two : Traced β} {next : α → Traced γ} {other : β → Traced δ}
    (agree : Agrees related one two) (later : ∀ a b, related a b → Agrees last (next a) (other b)) :
    Agrees last (one >>= next) (two >>= other) := by
  rcases one with ⟨records, result⟩
  rcases two with ⟨others, answer⟩
  cases agree with
  | ok same => exact later _ _ same
  | fault same => exact .fault same
  | outOfBudget => exact .outOfBudget

theorem agrees_self (given : Traced α) : Agrees Eq given given := by
  rcases given with ⟨records, (reason | _) | value⟩
  · exact .fault rfl
  · exact .outOfBudget
  · exact .ok rfl

theorem Agrees.symm {reverse : β → α → Prop} {one : Traced α} {two : Traced β} (agree : Agrees related one two)
    (turn : ∀ a b, related a b → reverse b a) : Agrees reverse two one := by
  rcases one with ⟨records, result⟩
  rcases two with ⟨others, answer⟩
  cases agree with
  | ok same => exact .ok (turn _ _ same)
  | fault same => exact .fault same.symm
  | outOfBudget => exact .outOfBudget

end Traced

open Traced

/-- The kind is the same, and both messages are texts. -/
inductive Failure.SameButWords : Failure → Failure → Prop
  | saying (one two : Text) (kind : FailureKind) : SameButWords (.saying one kind) (.saying two kind)

/-- The same value and the same rest, or failures of the same kind. -/
inductive Outcome.SameButWords : Outcome σ → Outcome σ → Prop
  | matched (value : Value) (rest : σ) : SameButWords (.matched value rest) (.matched value rest)
  | failed {one two : Failure} (same : one.SameButWords two) : SameButWords (.failed one) (.failed two)

/-- A function on messages that makes a text of every text. -/
def Transformer.RewordsTexts (transformer : Transformer) : Prop :=
  ∀ words, ∃ text, transformer.apply (.text words) = .ok (.text text)

namespace Attempt

def Agrees (one two : Attempt σ) : Prop :=
  ∀ source, Traced.Agrees Outcome.SameButWords (one source) (two source)

variable {one two first second other : Attempt σ}

theorem agrees_fail (words text : Text) (kind : FailureKind) :
    Traced.Agrees Outcome.SameButWords (fail words kind : Traced (Outcome σ)) (fail text kind) :=
  agrees_pure (.failed (.saying words text kind))

theorem Agrees.on_match (agree : one.Agrees two) {next later : Value → σ → Traced (Outcome σ)}
    (goOn : ∀ value rest, Traced.Agrees Outcome.SameButWords (next value rest) (later value rest)) :
    (one.onMatch next).Agrees (two.onMatch later) := by
  intro source
  apply (agree source).bind
  intro outcome answer same
  cases same with
  | matched value rest => exact goOn value rest
  | failed same => exact agrees_pure (.failed same)

theorem Agrees.map (agree : one.Agrees two) (transform : Value → Except Fault Value) :
    (one.map fun value => ofExcept (transform value)).Agrees
      (two.map fun value => ofExcept (transform value)) := by
  apply agree.on_match
  intro value rest
  apply (agrees_self (ofExcept (transform value))).bind
  rintro result _ rfl
  exact agrees_pure (.matched result rest)

/-- A message that is reworded on one side only makes no difference. -/
theorem Agrees.map_error {transformer : Transformer} (agree : one.Agrees two)
    (total : transformer.RewordsTexts) : (one.mapError transformer.apply).Agrees two := by
  intro source
  rw [← Traced.bind_pure (two source)]
  apply (agree source).bind
  intro outcome answer same
  cases same with
  | matched value rest => exact agrees_pure (.matched value rest)
  | failed same =>
      cases same with
      | saying words text kind =>
          obtain ⟨reworded, applied⟩ := total words
          simp only [Failure.saying, applied]
          exact agrees_fail reworded text kind

theorem Agrees.symm (agree : one.Agrees two) : two.Agrees one := by
  intro source
  apply (agree source).symm
  intro outcome answer same
  cases same with
  | matched value rest => exact .matched value rest
  | failed same =>
      cases same with
      | saying words text kind => exact .failed (.saying text words kind)

theorem Agrees.filter (agree : one.Agrees two) (test : Value → Traced Bool)
    {refuse : Value → Except Fault Failure}
    (refused : ∀ value, Traced.Agrees Failure.SameButWords (ofExcept (refuse value)) (ofExcept (refuse value))) :
    (one.filter test refuse).Agrees (two.filter test refuse) := by
  apply agree.on_match
  intro value rest
  apply (agrees_self (test value)).bind
  rintro truth _ rfl
  cases truth with
  | true => exact agrees_pure (.matched value rest)
  | false => exact (refused value).bind fun _ _ same => agrees_pure (.failed same)

theorem Agrees.observe (agree : one.Agrees two) {line other : σ → Outcome σ → Except Fault Text}
    (written : ∀ source outcome answer, outcome.SameButWords answer →
      Traced.Agrees (fun _ _ => True) (ofExcept (line source outcome)) (ofExcept (other source answer))) :
    (one.observe line).Agrees (two.observe other) := by
  intro source
  apply (agree source).bind
  intro outcome answer same
  apply (written source outcome answer same).bind
  intro words text _
  exact agrees_pure same

theorem Agrees.optional (agree : one.Agrees two) (default : Value) :
    (one.optional default).Agrees (two.optional default) := by
  intro source
  apply (agree source).bind
  intro outcome answer same
  cases same with
  | matched value rest => exact agrees_pure (.matched value rest)
  | failed same => exact agrees_pure (.matched default source)

theorem Agrees.followed_by (agree : one.Agrees two) (agreeToo : first.Agrees second) :
    (one.followedBy first).Agrees (two.followedBy second) := by
  apply agree.on_match
  intro value rest
  exact agreeToo.on_match (fun other left => agrees_pure (.matched _ left)) rest

theorem Agrees.either (agree : one.Agrees two) (agreeToo : first.Agrees second) :
    (one.either first).Agrees (two.either second) := by
  intro source
  apply (agree source).bind
  intro outcome answer same
  cases same with
  | matched value rest => exact agrees_pure (.matched _ rest)
  | failed same =>
      cases same with
      | saying words text kind =>
          apply (agreeToo source).bind
          intro outcome answer same
          cases same with
          | matched value rest => exact agrees_pure (.matched _ rest)
          | failed same =>
              cases same with
              | saying others texts kind => exact agrees_fail _ _ .exhausted

/-- Either the same outcome but for words, or messages that are all texts. -/
inductive SearchesAgree : Except (List Value) (Outcome σ) → Except (List Value) (Outcome σ) → Prop
  | found {outcome answer : Outcome σ} (same : outcome.SameButWords answer) :
      SearchesAgree (.ok outcome) (.ok answer)
  | nowhere (words texts : List Text) :
      SearchesAgree (.error (words.map .text)) (.error (texts.map .text))

theorem first_match_agrees {κ : Type} {places : List κ} {alternatives others : κ → Attempt σ}
    (agree : ∀ place ∈ places, (alternatives place).Agrees (others place)) (source : σ) :
    Traced.Agrees SearchesAgree (firstMatch source (places.map alternatives))
      (firstMatch source (places.map others)) := by
  induction places with
  | nil => exact agrees_pure (.nowhere [] [])
  | cons place places induction =>
      apply (agree place List.mem_cons_self source).bind
      intro outcome answer same
      cases same with
      | matched value rest => exact agrees_pure (.found (.matched value rest))
      | failed same =>
          cases same with
          | saying word text kind =>
              apply (induction fun other member => agree other (List.mem_cons_of_mem place member)).bind
              intro search result same
              cases same with
              | found same => exact agrees_pure (.found same)
              | nowhere words texts => exact agrees_pure (.nowhere (word :: words) (text :: texts))

theorem choice_agrees {count : Nat} {alternatives others : Fin count → Attempt σ}
    (agree : ∀ place, (alternatives place).Agrees (others place)) :
    (choice (List.ofFn alternatives)).Agrees (choice (List.ofFn others)) := by
  intro source
  have search := first_match_agrees (fun place (_ : place ∈ List.finRange count) => agree place) source
  simp only [List.finRange, List.map_ofFn] at search
  apply search.bind
  intro found result same
  cases same with
  | found same => exact agrees_pure same
  | nowhere words texts =>
      simp only [choiceMessage, texts_from_texts]
      exact agrees_fail _ _ .exhausted

end Attempt

namespace Primitive

theorem no_span_agrees (description other : String) (source : Text) :
    (noSpan description source).SameButWords (noSpan other source) := by
  unfold noSpan
  split
  · exact .saying _ _ .emptyInput
  · exact .saying _ _ .mismatch

theorem span_agrees (members : CodePointClass) (description : String) (source : Text) :
    (matchSpan (members.described description) source).SameButWords (matchSpan members source) := by
  -- The members are the same, and the description has no part in finding the span.
  change (if (source.takeWhile members.contains).isEmpty then .failed (noSpan description source)
    else .matched (.text (source.takeWhile members.contains))
      (source.dropWhile members.contains) : Outcome Text).SameButWords (matchSpan members source)
  simp only [matchSpan]
  split
  · exact .failed (no_span_agrees _ _ source)
  · exact .matched _ _

theorem leading_number_in_words {shown : Option Text} {source : Text} {failure : Failure}
    (refused : leadingNumber shown source = .error failure) : failure.SameButWords failure := by
  unfold leadingNumber at refused
  dsimp only at refused
  split at refused
  · obtain rfl := Except.error.inj refused
    exact no_span_agrees _ _ source
  · split at refused
    · obtain rfl := Except.error.inj refused
      exact .saying _ _ _
    · split at refused
      · exact absurd refused (by simp)
      · obtain rfl := Except.error.inj refused
        exact .saying _ _ _

theorem integer_in_words (bound : Option Bound) (source : Text) :
    (matchInteger bound source).SameButWords (matchInteger bound source) := by
  unfold matchInteger
  split
  · rename_i failure refused
    exact .failed (leading_number_in_words refused)
  · split
    · exact .failed (.saying _ _ _)
    · exact .matched _ _

theorem unordered_in_words {bound : Value} {source : Text} {failure : Failure}
    (refused : matchUnordered bound source = .ok (.failed failure)) : failure.SameButWords failure := by
  unfold matchUnordered at refused
  split at refused
  · rename_i _ reason
    obtain rfl := Outcome.failed.inj (Except.ok.inj refused)
    exact leading_number_in_words reason
  · rename_i number rest _
    cases compared : (Value.int number).greater bound with
    | error reason => exact absurd refused (by simp [compared, bind, Except.bind])
    | ok above =>
        rw [compared] at refused
        cases above with
        | true =>
            obtain rfl := Outcome.failed.inj (Except.ok.inj refused)
            exact .saying _ _ _
        | false => exact absurd (Except.ok.inj refused) (by simp)

/-- The failures of primitives have texts for messages. -/
theorem attempt_in_words (leaf : Primitive) (source : Text) :
    (leaf.attempt source).SameButWords (leaf.attempt source) := by
  cases leaf with
  | character point =>
      cases source with
      | nil => exact .failed (.saying _ _ _)
      | cons first text =>
          simp only [attempt, matchCharacter]
          split
          · exact .matched _ _
          · exact .failed (.saying _ _ _)
  | anyCharacter =>
      cases source with
      | nil => exact .failed (.saying _ _ _)
      | cons first text => exact .matched _ _
  | span members => exact span_agrees members members.description source
  | literal word =>
      simp only [attempt, matchLiteral]
      split
      · exact .failed (.saying _ _ _)
      · split
        · exact .matched _ _
        · exact .failed (.saying _ _ _)
  | textUpTo delimiter =>
      simp only [attempt, matchUpTo]
      split
      · exact .matched _ _
      · exact .failed (.saying _ _ _)
  | textThrough delimiter =>
      simp only [attempt, matchThrough]
      split
      · exact .matched _ _
      · exact .failed (.saying _ _ _)
  | integer bound => exact integer_in_words bound source

theorem span_of_agrees (description other : String) (test : Value → Traced Bool) :
    (spanOf description test .text).Agrees (spanOf other test .text) := by
  intro source
  apply (agrees_self (leadingSpan (fun point => test (.text [point])) source)).bind
  rintro span _ rfl
  split
  · exact agrees_pure (.failed (no_span_agrees description other source))
  · exact agrees_pure (.matched _ _)

end Primitive

namespace Repetition

/-- Why a repetition stopped, but for the words of a failure. -/
inductive StopsAlike : Stop → Stop → Prop
  | failed {one two : Failure} (same : one.SameButWords two) : StopsAlike (.failed one) (.failed two)
  | stalled : StopsAlike .stalled .stalled
  | unseparated : StopsAlike .unseparated .unseparated

structure SameButWords (one two : Repetition σ) : Prop where
  values : one.values = two.values
  rest : one.rest = two.rest
  stop : StopsAlike one.stop two.stop

variable {size : σ → Except Fault Nat} {element other : Attempt σ} {separator between : Option (Attempt σ)}

theorem after_element_agrees (agree : Option.Rel Attempt.Agrees separator between) (rest : σ) :
    Traced.Agrees Eq (afterElement separator rest) (afterElement between rest) := by
  cases agree with
  | none => exact agrees_self _
  | some agree =>
      apply (agree rest).bind
      intro outcome answer same
      cases same with
      | matched value later => exact agrees_pure rfl
      | failed same => exact agrees_pure rfl

theorem run_agrees (agree : element.Agrees other) (apart : Option.Rel Attempt.Agrees separator between)
    (source : σ) :
    Traced.Agrees SameButWords (run size element separator source) (run size other between source) := by
  simp only [run_eq_round]
  apply (agree source).bind
  intro outcome answer same
  cases same with
  | failed same => exact agrees_pure ⟨rfl, rfl, .failed same⟩
  | matched value rest =>
      apply (after_element_agrees apart rest).bind
      rintro behind _ rfl
      unfold concludeRound
      cases afterwards : size behind.1 with
      | error reason => exact .fault rfl
      | ok after =>
          cases beforehand : size source with
          | error reason => exact .fault rfl
          | ok before =>
              dsimp only
              by_cases shorter : after < before
              · simp only [if_pos shorter]
                cases behind.2 with
                | false => exact agrees_pure ⟨rfl, rfl, .unseparated⟩
                | true =>
                    apply (run_agrees agree apart behind.1).bind
                    intro later course same
                    exact agrees_pure ⟨congrArg (value :: ·) same.values, same.rest, same.stop⟩
              · simp only [if_neg shorter]
                exact agrees_pure ⟨rfl, rfl, .stalled⟩
termination_by measure size source
decreasing_by simp [measure, afterwards, beforehand, Except.toOption, shorter]

theorem conclude_agrees (name label : String) (atLeastOne : Bool) {one two : Repetition σ}
    (same : one.SameButWords two) :
    Traced.Agrees Outcome.SameButWords (one.conclude name atLeastOne) (two.conclude label atLeastOne) := by
  obtain ⟨values, rest, stop⟩ := one
  obtain ⟨_, _, halt⟩ := two
  obtain ⟨rfl, rfl, alike⟩ := same
  have warned : Traced.Agrees (fun _ _ => True) (warn name stop) (warn label halt) := by
    cases alike <;> exact agrees_pure trivial
  apply warned.bind
  intro _ _ _
  dsimp only
  split
  · cases alike with
    | failed same =>
        cases same with
        | saying words text kind => exact Attempt.agrees_fail _ _ kind
    | stalled => exact Attempt.agrees_fail _ _ .mismatch
    | unseparated => exact Attempt.agrees_fail _ _ .mismatch
  · exact agrees_pure (.matched _ _)

theorem repeated_agrees (name label : String) (agree : element.Agrees other)
    (apart : Option.Rel Attempt.Agrees separator between) (atLeastOne : Bool) :
    (Attempt.repeated name size element separator atLeastOne).Agrees
      (Attempt.repeated label size other between atLeastOne) :=
  fun source => (run_agrees agree apart source).bind fun _ _ same => conclude_agrees name label atLeastOne same

end Repetition

end TextGrammar
