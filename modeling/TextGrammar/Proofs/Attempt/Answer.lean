import TextGrammar.Proofs.Attempt.Match

/-!
Attempts that answer and log nothing. A match is told by its value and rest, a
failure by its kind; the message of such a failure is a text, so every combination
that joins messages has an answer as well. There is one rule for each way in which
the parts of a combination can answer.
-/

namespace TextGrammar

theorem Traced.bind_of_pure {α β : Type} {given : Traced α} {answer : α} (same : given = pure answer)
    (next : α → Traced β) : (given >>= next) = next answer := by
  rw [same, Traced.pure_bind]

open Traced

variable {σ : Type}

namespace Attempt

/-- Matches, and nothing else happens. -/
def Yields (attempt : Attempt σ) (source : σ) (value : Value) (rest : σ) : Prop :=
  attempt source = pure (.matched value rest)

/-- Fails with a text for a message, and nothing else happens. -/
def Refuses (attempt : Attempt σ) (source : σ) (kind : FailureKind) : Prop :=
  ∃ words, attempt source = pure (.failed (.saying words kind))

/-- Reads a text of the language from the front of the source, or fails. -/
def Reads (attempt : Attempt Text) (language : Text → Value → Prop) (source : Text) : Prop :=
  (∃ text value rest, source = text ++ rest ∧ language text value ∧ attempt.Yields source value rest) ∨
    ∃ kind, attempt.Refuses source kind

variable {attempt first second : Attempt σ} {source middle rest : σ} {value one two : Value}
  {kind : FailureKind}

/-- There is one match at the most. -/
theorem Yields.unique {left : σ} (yields : attempt.Yields source value rest)
    (yieldsToo : attempt.Yields source one left) : value = one ∧ rest = left :=
  Outcome.matched.inj (pure_injective (yields.symm.trans yieldsToo))

theorem Yields.not_refuses (yields : attempt.Yields source value rest) : ¬ attempt.Refuses source kind := by
  rintro ⟨words, refused⟩
  exact absurd (pure_injective (yields.symm.trans refused)) (by simp)

theorem Refuses.kind_unique {other : FailureKind} (refuses : attempt.Refuses source kind)
    (refusesToo : attempt.Refuses source other) : kind = other := by
  obtain ⟨words, refused⟩ := refuses
  obtain ⟨otherWords, refusedToo⟩ := refusesToo
  have same := Outcome.failed.inj (pure_injective (refused.symm.trans refusedToo))
  exact congrArg Failure.kind same

theorem Yields.on_match (yields : attempt.Yields source value rest)
    (next : Value → σ → Traced (Outcome σ)) : attempt.onMatch next source = next value rest :=
  bind_of_pure yields _

theorem Refuses.on_match (refuses : attempt.Refuses source kind)
    (next : Value → σ → Traced (Outcome σ)) : (attempt.onMatch next).Refuses source kind := by
  obtain ⟨words, refused⟩ := refuses
  exact ⟨words, bind_of_pure refused _⟩

theorem Yields.map {transform : Value → Traced Value} {result : Value}
    (yields : attempt.Yields source value rest) (transformed : transform value = pure result) :
    (attempt.map transform).Yields source result rest := by
  unfold Attempt.map Yields
  rw [yields.on_match]
  exact bind_of_pure transformed _

theorem Refuses.map {transform : Value → Traced Value} (refuses : attempt.Refuses source kind) :
    (attempt.map transform).Refuses source kind :=
  refuses.on_match _

theorem Yields.followed_by (begins : first.Yields source one middle) (ends : second.Yields middle two rest) :
    (first.followedBy second).Yields source (.tuple [one, two]) rest := by
  unfold followedBy Yields
  rw [begins.on_match, ends.on_match]

theorem Refuses.followed_by (refuses : first.Refuses source kind) :
    (first.followedBy second).Refuses source kind :=
  refuses.on_match _

theorem Yields.followed_by_refusal (begins : first.Yields source one middle)
    (refuses : second.Refuses middle kind) : (first.followedBy second).Refuses source kind := by
  obtain ⟨words, refused⟩ := refuses.on_match fun other left => return .matched (.tuple [one, other]) left
  refine ⟨words, ?_⟩
  unfold followedBy
  rw [begins.on_match, refused]

section

variable {test : Value → Traced Bool} {refuse : Value → Except Fault Failure} {words : Text}

theorem Yields.filter (yields : attempt.Yields source value rest) (passes : test value = pure true) :
    (attempt.filter test refuse).Yields source value rest := by
  unfold Attempt.filter Yields
  rw [yields.on_match]
  exact bind_of_pure passes _

theorem Yields.filter_refusal (yields : attempt.Yields source value rest) (fails : test value = pure false)
    (refused : refuse value = .ok (.saying words kind)) : (attempt.filter test refuse).Refuses source kind := by
  refine ⟨words, ?_⟩
  unfold Attempt.filter
  rw [yields.on_match, bind_of_pure fails, refused]
  rfl

theorem Refuses.filter (refuses : attempt.Refuses source kind) : (attempt.filter test refuse).Refuses source kind :=
  refuses.on_match _

end

theorem Yields.optional (yields : attempt.Yields source value rest) (default : Value) :
    (attempt.optional default).Yields source value rest :=
  bind_of_pure yields _

theorem Refuses.optional (refuses : attempt.Refuses source kind) (default : Value) :
    (attempt.optional default).Yields source default source := by
  obtain ⟨words, refused⟩ := refuses
  exact bind_of_pure refused _

theorem Yields.either (yields : first.Yields source value rest) :
    (first.either second).Yields source (.left value) rest :=
  bind_of_pure yields _

theorem Refuses.either (refuses : first.Refuses source kind) (yields : second.Yields source value rest) :
    (first.either second).Yields source (.right value) rest := by
  obtain ⟨words, refused⟩ := refuses
  exact (bind_of_pure refused _).trans (bind_of_pure yields _)

theorem Refuses.either_refusal {other : FailureKind} (refuses : first.Refuses source kind)
    (refusesToo : second.Refuses source other) : (first.either second).Refuses source .exhausted := by
  obtain ⟨words, refused⟩ := refuses
  obtain ⟨otherWords, refusedToo⟩ := refusesToo
  exact ⟨_, (bind_of_pure refused _).trans (bind_of_pure refusedToo _)⟩

theorem first_match_yields {before after : List (Attempt σ)}
    (refused : ∀ attempt ∈ before, ∃ kind, attempt.Refuses source kind)
    (yields : attempt.Yields source value rest) :
    firstMatch source (before ++ attempt :: after) = pure (.ok (.matched value rest)) := by
  induction before with
  | nil => exact bind_of_pure yields _
  | cons other before induction =>
      obtain ⟨kind, words, otherRefused⟩ := refused other List.mem_cons_self
      have later := induction fun attempt member => refused attempt (List.mem_cons_of_mem _ member)
      exact (bind_of_pure otherRefused _).trans (bind_of_pure later _)

/-- The first alternative that does not fail decides. -/
theorem Yields.choice {before after : List (Attempt σ)}
    (refused : ∀ attempt ∈ before, ∃ kind, attempt.Refuses source kind)
    (yields : attempt.Yields source value rest) :
    (choice (before ++ attempt :: after)).Yields source value rest :=
  bind_of_pure (first_match_yields refused yields) _

theorem first_match_refuses {attempts : List (Attempt σ)}
    (refused : ∀ attempt ∈ attempts, ∃ kind, attempt.Refuses source kind) :
    ∃ texts : List Text, firstMatch source attempts = pure (.error (texts.map .text)) := by
  induction attempts with
  | nil => exact ⟨[], rfl⟩
  | cons attempt others induction =>
      obtain ⟨kind, words, attemptRefused⟩ := refused attempt List.mem_cons_self
      obtain ⟨texts, later⟩ := induction fun other member => refused other (List.mem_cons_of_mem _ member)
      exact ⟨words :: texts, (bind_of_pure attemptRefused _).trans (bind_of_pure later _)⟩

theorem texts_from_texts (place : Nat) (texts : List Text) :
    Value.textsFrom place (texts.map .text) = .ok texts := by
  induction texts generalizing place with
  | nil => rfl
  | cons words texts induction =>
      rw [List.map_cons, Value.textsFrom, induction]
      rfl

theorem choice_refuses {attempts : List (Attempt σ)}
    (refused : ∀ attempt ∈ attempts, ∃ kind, attempt.Refuses source kind) :
    (choice attempts).Refuses source .exhausted := by
  obtain ⟨texts, nowhere⟩ := first_match_refuses refused
  unfold Refuses choice
  rw [bind_of_pure nowhere]
  simp only [choiceMessage, texts_from_texts]
  exact ⟨_, rfl⟩

end Attempt

namespace Repetition

variable {element skip : Attempt Text} {separator : Option (Attempt Text)} {source middle next : Text}
  {value skipped : Value} {kind : FailureKind} {later : Repetition Text}

theorem run_of_refusal (refuses : element.Refuses source kind) :
    ∃ failure, run Medium.text.size element separator source = pure ⟨[], source, .failed failure⟩ := by
  obtain ⟨words, refused⟩ := refuses
  rw [run]
  exact ⟨_, bind_of_pure refused _⟩

theorem run_of_step (yields : element.Yields source value next) (shorter : next.length < source.length)
    (afterwards : run Medium.text.size element none next = pure later) :
    run Medium.text.size element none source = pure { later with values := value :: later.values } := by
  rw [run, bind_of_pure yields]
  simp only [afterElement, Traced.pure_bind, Medium.size, shorter, if_true]
  exact bind_of_pure afterwards _

theorem run_of_separated_step (yields : element.Yields source value middle)
    (separates : skip.Yields middle skipped next) (shorter : next.length < source.length)
    (afterwards : run Medium.text.size element (some skip) next = pure later) :
    run Medium.text.size element (some skip) source =
      pure { later with values := value :: later.values } := by
  rw [run, bind_of_pure yields]
  simp only [afterElement, bind_of_pure separates, Traced.pure_bind, Medium.size, shorter, if_true]
  exact bind_of_pure afterwards _

theorem run_of_last_step (yields : element.Yields source value next) (refuses : skip.Refuses next kind)
    (shorter : next.length < source.length) :
    run Medium.text.size element (some skip) source = pure ⟨[value], next, .unseparated⟩ := by
  obtain ⟨words, refused⟩ := refuses
  rw [run, bind_of_pure yields]
  simp only [afterElement, bind_of_pure refused, Traced.pure_bind, Medium.size, shorter, if_true]
  rfl

theorem conclude_of_enough (name : String) {needed : Bool} {values : List Value} {rest : Text} {stop : Stop}
    (progressed : stop ≠ .stalled) (enough : (needed && values.isEmpty) = false) :
    conclude name needed ⟨values, rest, stop⟩ = pure (.matched (.list values) rest) := by
  unfold conclude
  rw [enough]
  cases stop with
  | failed failure => rfl
  | stalled => exact absurd rfl progressed
  | unseparated => rfl

theorem repeated_yields {name : String} {values : List Value} {rest : Text} {stop : Stop}
    (answered : run Medium.text.size element separator source = pure ⟨values, rest, stop⟩)
    (progressed : stop ≠ .stalled) :
    (Attempt.repeated name Medium.text.size element separator false).Yields source (.list values) rest :=
  (bind_of_pure answered _).trans (conclude_of_enough name progressed rfl)

end Repetition

end TextGrammar
