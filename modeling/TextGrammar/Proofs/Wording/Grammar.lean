import TextGrammar.Proofs.Suffix
import TextGrammar.Proofs.Wording.Agreement

/-!
Grammars that differ in names and messages only. One is made of the other by giving its
parts other names and descriptions and by putting functions on messages anywhere, also in
the definitions behind references. The two then do the same, as long as every function on
messages makes a text of every text. A grammar that looks into its own messages with a
function that can fault notices when they are reworded.
-/

namespace TextGrammar

open Traced

/-- Failures on texts have texts for messages. -/
def Attempts.FailInTexts (attempts : Attempts) : Prop :=
  ∀ source failure, (attempts .text source).result = .ok (.failed failure) →
    ∃ words, failure.message = .text words

theorem Attempts.FailInTexts.agrees {attempts : Attempts} (texts : attempts.FailInTexts) :
    Attempt.Agrees (attempts .text) (attempts .text) := by
  intro source
  unfold Traced.Agrees
  cases answered : (attempts .text source).result with
  | error reason =>
      cases reason with
      | fault reason => exact .fault rfl
      | outOfBudget => exact .outOfBudget
  | ok outcome =>
      cases outcome with
      | matched value rest => exact .ok (.matched value rest)
      | failed failure =>
          obtain ⟨words, message⟩ := texts source failure answered
          obtain ⟨_, kind⟩ := failure
          obtain rfl := message
          exact .ok (.failed (.saying words words kind))

namespace Grammar

/-- The first grammar is the second one with other names and with more functions on messages. Which
references may stand for one another is given, and so is what holds of the functions on messages that
the second grammar itself has. Nothing in it runs grammars on values. -/
inductive Reworded (alike : Reference → Reference → Prop) (own : Transformer → Prop) : Grammar → Grammar → Prop
  | primitive (leaf : Primitive) : Reworded alike own (.primitive leaf) (.primitive leaf)
  | span (members : CodePointClass) (description : String) :
      Reworded alike own (span (members.described description)) (span members)
  | custom {attempts : Attempts} (texts : attempts.FailInTexts) (label name : String) :
      Reworded alike own (.custom label attempts) (.custom name attempts)
  | deferred {reference other : Reference} (stands : alike reference other) :
      Reworded alike own (.deferred reference) (.deferred other)
  | named {one two : Grammar} (reworded : Reworded alike own one two) (label name : String) :
      Reworded alike own (one.named label) (two.named name)
  | map {one two : Grammar} (reworded : Reworded alike own one two) (transformer : Transformer) :
      Reworded alike own (one.map transformer) (two.map transformer)
  | mapError {one two : Grammar} (reworded : Reworded alike own one two) {transformer : Transformer}
      (holds : own transformer) : Reworded alike own (one.mapError transformer) (two.mapError transformer)
  | filter {one two : Grammar} (reworded : Reworded alike own one two) (predicate : Predicate) :
      Reworded alike own (one.filter predicate) (two.filter predicate)
  | spanWhere (predicate : Predicate) (description other : Option String) :
      Reworded alike own (.spanWhere predicate description) (.spanWhere predicate other)
  | debug {one two : Grammar} (reworded : Reworded alike own one two) (label name : Option String) :
      Reworded alike own (one.debug label) (two.debug name)
  | optional {one two : Grammar} (reworded : Reworded alike own one two) (default : Value) :
      Reworded alike own (one.optional default) (two.optional default)
  | followedBy {one two first second : Grammar} (reworded : Reworded alike own one two)
      (rewordedToo : Reworded alike own first second) :
      Reworded alike own (one.followedBy first) (two.followedBy second)
  | many {one two : Grammar} (reworded : Reworded alike own one two) (atLeastOne : Bool) :
      Reworded alike own (one.many atLeastOne) (two.many atLeastOne)
  | separatedBy {one two first second : Grammar} (reworded : Reworded alike own one two)
      (rewordedToo : Reworded alike own first second) (atLeastOne : Bool) :
      Reworded alike own (one.separatedBy first atLeastOne) (two.separatedBy second atLeastOne)
  | either {one two first second : Grammar} (reworded : Reworded alike own one two)
      (rewordedToo : Reworded alike own first second) :
      Reworded alike own (one.either first) (two.either second)
  | choice {others : Nat} {ones twos : Fin (others + 1) → Grammar}
      (reworded : ∀ index, Reworded alike own (ones index) (twos index)) :
      Reworded alike own (.choice ones) (.choice twos)
  | insertNamed {one two : Grammar} (reworded : Reworded alike own one two) (label : String) :
      Reworded alike own (one.named label) two
  | insertMapError {one two : Grammar} (reworded : Reworded alike own one two) {transformer : Transformer}
      (total : transformer.RewordsTexts) : Reworded alike own (one.mapError transformer) two

theorem refusal_agrees (refuser : String) (value : Value) :
    Traced.Agrees Failure.SameButWords (ofExcept (refusal refuser value)) (ofExcept (refusal refuser value)) := by
  unfold refusal
  cases value.print? with
  | error reason => exact .fault rfl
  | ok printed => exact .ok (.saying _ _ .rejected)

theorem observation_agrees (tag other : String) (source : Text) {outcome answer : Outcome Text}
    (same : outcome.SameButWords answer) :
    Traced.Agrees (fun _ _ => True) (ofExcept (observation Medium.text.print tag source outcome))
      (ofExcept (observation Medium.text.print other source answer)) := by
  cases same with
  | matched value rest =>
      simp only [observation]
      cases value.print? with
      | error reason => exact .fault rfl
      | ok printed => exact .ok trivial
  | failed same =>
      cases same with
      | saying words text kind => exact .ok trivial

variable {alike : Reference → Reference → Prop} {one two : Grammar}

theorem Reworded.attempt_agrees (reworded : Reworded alike Transformer.RewordsTexts one two)
    {meaning other : Reference → Attempts}
    (references : ∀ reference stood, alike reference stood →
      Attempt.Agrees (meaning reference .text) (other stood .text)) :
    Attempt.Agrees (one.attempt meaning .text) (two.attempt other .text) := by
  induction reworded with
  | primitive leaf => exact fun source => agrees_pure (leaf.attempt_in_words source)
  | span members description => exact fun source => agrees_pure (Primitive.span_agrees members description source)
  | custom texts label name => exact texts.agrees
  | deferred stands => exact references _ _ stands
  | named reworded label name induction => exact induction
  | map reworded transformer induction => exact induction.map transformer.apply
  | mapError reworded holds induction =>
      -- Each of the two grammars is reworded on its own side.
      exact ((induction.map_error holds).symm.map_error holds).symm
  | filter reworded predicate induction =>
      exact induction.filter _ (refusal_agrees predicate.description)
  | spanWhere predicate description other => exact Primitive.span_of_agrees _ _ _
  | debug reworded label name induction =>
      exact induction.observe fun source _ _ same => observation_agrees _ _ source same
  | optional reworded default induction => exact induction.optional default
  | followedBy reworded rewordedToo induction inductionToo => exact induction.followed_by inductionToo
  | many reworded atLeastOne induction => exact Repetition.repeated_agrees _ _ induction .none atLeastOne
  | separatedBy reworded rewordedToo atLeastOne induction inductionToo =>
      exact Repetition.repeated_agrees _ _ induction (.some inductionToo) atLeastOne
  | either reworded rewordedToo induction inductionToo => exact induction.either inductionToo
  | choice reworded induction => exact Attempt.choice_agrees induction
  | insertNamed reworded label induction => exact induction
  | insertMapError reworded total induction => exact induction.map_error total

/-- Whole numbers under a bound of any sort have failures with texts for messages. -/
theorem Reworded.integer {own : Transformer → Prop} {bound : Value} {grammar : Grammar}
    (built : integer? bound = .ok grammar) : Reworded alike own grammar grammar := by
  rcases integer_cases built with ⟨limit, rfl⟩ | ⟨label, rfl⟩
  · exact .primitive _
  · refine .custom ?_ label label
    intro source failure answered
    have refused : Primitive.matchUnordered bound source = .ok (.failed failure) :=
      result_of_except_eq_ok.mp answered
    cases Primitive.unordered_in_words refused with
    | saying words _ kind => exact ⟨words, rfl⟩

/-- Definitions that differ in names and messages only, or faults of one category. -/
inductive DefinitionsReworded (alike : Reference → Reference → Prop) :
    Except Fault Grammar → Except Fault Grammar → Prop
  | ok {one two : Grammar} (reworded : Reworded alike Transformer.RewordsTexts one two) :
      DefinitionsReworded alike (.ok one) (.ok two)
  | fault {one two : Fault} (same : one.category = two.category) :
      DefinitionsReworded alike (.error one) (.error two)

end Grammar

/-- References that may stand for one another lead to definitions that differ in names and messages
only, in which such references are. -/
def Scope.Reworded (alike : Reference → Reference → Prop) (scope other : Scope) : Prop :=
  ∀ reference stood, alike reference stood →
    Grammar.DefinitionsReworded alike (scope reference) (other stood)

theorem Scope.Reworded.meaning_agrees {alike : Reference → Reference → Prop} {scope other : Scope}
    (scopes : scope.Reworded alike other) (budget : Nat) (reference stood : Reference)
    (stands : alike reference stood) :
    Attempt.Agrees (scope.meaning budget reference .text) (other.meaning budget stood .text) := by
  induction budget generalizing reference stood with
  | zero => exact fun _ => .outOfBudget
  | succ budget induction =>
      have definitions := scopes reference stood stands
      simp only [meaning]
      generalize scope reference = found at definitions ⊢
      generalize other stood = foundToo at definitions ⊢
      cases definitions with
      | ok reworded => exact reworded.attempt_agrees induction
      | fault same => exact fun _ => .fault same

namespace Grammar

/-- Names and messages decide nothing. Whatever budget two grammars run with that differ in them only,
both match with the same value and the same rest, or both fail with the same kind, or both stop at
faults of one category, or both spend the budget. -/
theorem words_decide_nothing {alike : Reference → Reference → Prop} {scope other : Scope}
    (scopes : scope.Reworded alike other) {one two : Grammar}
    (reworded : Reworded alike Transformer.RewordsTexts one two) (budget : Nat) (source : Text) :
    Traced.Agrees Outcome.SameButWords (one.runWithin budget scope source) (two.runWithin budget other source) :=
  reworded.attempt_agrees (scopes.meaning_agrees budget) source

def ones : Reference := .placeholder 0 "ones"

def more : Reference := .placeholder 0 "more"

/-- A one behind any number of brackets. -/
def plainOnes : Session :=
  ⟨[], [some ((character '1').either ((character '(').followedBy (deferred ones)))]⟩

/-- The same with another name for the bracket and the placeholder, and with a message of its own. -/
def wordyOnes : Session :=
  ⟨[], [some (((character '1').mapError (.constant (.text ['?']))).either
    (((character '(').named "bracket").followedBy (deferred more)))]⟩

def OnesAlike (reference stood : Reference) : Prop := reference = more ∧ stood = ones

theorem constant_rewords (words : Text) : (Transformer.constant (.text words)).RewordsTexts :=
  fun _ => ⟨words, rfl⟩

theorem wordy_ones_reworded : wordyOnes.scope.Reworded OnesAlike plainOnes.scope := by
  rintro reference stood ⟨rfl, rfl⟩
  exact .ok (.either (.insertMapError (.primitive _) (constant_rewords _))
    (.followedBy (.insertNamed (.primitive _) _) (.deferred ⟨rfl, rfl⟩)))

theorem wordy_ones_fail_alike :
    wordyOnes.scope.Reworded OnesAlike plainOnes.scope ∧
      Reworded OnesAlike Transformer.RewordsTexts ((deferred more).named "wordy") (deferred ones) ∧
      (∃ words, (deferred ones).runWithin 4 plainOnes.scope (Text.ofString "((2") =
        pure (.failed (.saying words .exhausted))) ∧
      ∃ words, (((deferred more).named "wordy").runWithin 4 wordyOnes.scope (Text.ofString "((2")).result =
        .ok (.failed (.saying words .exhausted)) := by
  have reworded : Reworded OnesAlike Transformer.RewordsTexts ((deferred more).named "wordy") (deferred ones) :=
    .insertNamed (.deferred ⟨rfl, rfl⟩) "wordy"
  obtain ⟨words, failed⟩ : ∃ words, (deferred ones).runWithin 4 plainOnes.scope (Text.ofString "((2") =
      pure (.failed (.saying words .exhausted)) := ⟨_, rfl⟩
  have agree := words_decide_nothing wordy_ones_reworded reworded 4 (Text.ofString "((2")
  refine ⟨wordy_ones_reworded, reworded, ⟨words, failed⟩, ?_⟩
  rw [failed] at agree
  unfold Traced.Agrees at agree
  generalize (((deferred more).named "wordy").runWithin 4 wordyOnes.scope (Text.ofString "((2")).result = result
    at agree ⊢
  cases agree with
  | ok same =>
      cases same with
      | failed same =>
          cases same with
          | saying text _ _ => exact ⟨text, rfl⟩

theorem prepend_rewords (words : Text) : (Transformer.prepend (.text words)).RewordsTexts :=
  fun given => ⟨words ++ given, rfl⟩

/-- The message of a failure, which is made empty first, is looked into. -/
def headOfEmpty : Grammar :=
  ((character 'a').mapError (.constant (.text []))).mapError .first

/-- Before that, the empty message is reworded. -/
def headOfReworded : Grammar :=
  (((character 'a').mapError (.constant (.text []))).mapError (.prepend (.text ['x']))).mapError .first

/-- A function on messages that can fault tells the messages apart. -/
theorem partial_function_sees_words :
    Reworded (fun _ _ => False) (fun _ => True) headOfReworded headOfEmpty ∧
      headOfEmpty.runWithin 0 Session.empty.scope ['b'] = fault (.misuse (.noSuchItem "string")) ∧
      headOfReworded.runWithin 0 Session.empty.scope ['b'] = pure (.failed (.saying ['x'] .mismatch)) ∧
      ¬ Traced.Agrees Outcome.SameButWords (headOfReworded.runWithin 0 Session.empty.scope ['b'])
        (headOfEmpty.runWithin 0 Session.empty.scope ['b']) := by
  have looked : headOfEmpty.runWithin 0 Session.empty.scope ['b'] = fault (.misuse (.noSuchItem "string")) := rfl
  have reworded : headOfReworded.runWithin 0 Session.empty.scope ['b'] =
      pure (.failed (.saying ['x'] .mismatch)) := rfl
  refine ⟨.mapError (.insertMapError (.mapError (.primitive _) trivial) (prepend_rewords _)) trivial,
    looked, reworded, ?_⟩
  rw [looked, reworded]
  intro agree
  cases agree

end Grammar

end TextGrammar
