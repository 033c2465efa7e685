import TextGrammar.Proofs.Attempt.Answer
import TextGrammar.Proofs.Attempt.Row
import TextGrammar.Scope

/-!
Alternatives nested in one another. Such a nest of choices does what a single choice among all its
alternatives does: the first one that does not fail decides, on whatever level it stands, and only the
wording of the failure without a match depends on the nesting. All messages have to be texts, since a
choice of choices joins them.
-/

namespace TextGrammar

open Traced

namespace Attempt

variable {σ : Type} {worded : Text → FailureKind → List Text → Prop}

/-- The outcome is what the search for a first match finds. If it finds none, all messages are texts, and
the failure is worded after them. -/
inductive Settles (worded : Text → FailureKind → List Text → Prop) :
    Outcome σ → Except (List Value) (Outcome σ) → Prop
  | matched (value : Value) (rest : σ) : Settles worded (.matched value rest) (.ok (.matched value rest))
  | failed {text : Text} {kind : FailureKind} {words : List Text} (wording : worded text kind words) :
      Settles worded (.failed (.saying text kind)) (.error (words.map .text))

/-- Both searches find the same match, or the messages of both are texts. -/
inductive SettleAlike : Except (List Value) (Outcome σ) → Except (List Value) (Outcome σ) → Prop
  | matched (value : Value) (rest : σ) : SettleAlike (.ok (.matched value rest)) (.ok (.matched value rest))
  | failed (words others : List Text) : SettleAlike (.error (words.map .text)) (.error (others.map .text))

/-- Where every alternative searches a row of its own, the search among them is one through all rows. -/
theorem first_match_flattens {count : Nat} {attempts : Fin count → Attempt σ}
    {rows : Fin count → List (Attempt σ)} {wordings : Fin count → Text → FailureKind → List Text → Prop}
    {source : σ} (settle : ∀ index,
      Corresponds (Settles (wordings index)) (attempts index source) (firstMatch source (rows index))) :
    Corresponds SettleAlike (firstMatch source (List.ofFn attempts))
      (firstMatch source (List.ofFn rows).flatten) := by
  induction count with
  | zero => exact .of_pure (.failed [] [])
  | succ count induction =>
      rw [List.ofFn_succ, List.ofFn_succ, List.flatten_cons, first_match_append, firstMatch]
      apply Corresponds.bind (settle 0)
      intro outcome search settled
      cases settled with
      | matched value rest => exact .of_pure (.matched value rest)
      | @failed text kind words wording =>
          apply Corresponds.bind (induction fun index => settle index.succ)
          intro later others alike
          cases alike with
          | matched value rest => exact .of_pure (.matched value rest)
          | failed texts more =>
              have joined : SettleAlike (.error ((text :: texts).map .text))
                  (.error ((words ++ more).map .text) : Except (List Value) (Outcome σ)) := .failed _ _
              rw [List.map_append] at joined
              exact .of_pure joined

end Attempt

/-- A nest of alternatives. Of two alternatives the value is taken out again, so that all levels have the
values of the alternatives themselves. -/
inductive Alternation where
  | single (grammar : Grammar)
  | choice {others : Nat} (alternatives : Fin (others + 1) → Alternation)
  | either (first second : Alternation)

namespace Alternation

def grammar : Alternation → Grammar
  | single grammar => grammar
  | choice alternatives => .choice fun index => (alternatives index).grammar
  | either first second => (first.grammar.either second.grammar).map .unwrap

/-- The alternatives on all levels from left to right. -/
def row : Alternation → List Grammar
  | single grammar => [grammar]
  | choice alternatives => (List.ofFn fun index => (alternatives index).row).flatten
  | either first second => first.row ++ second.row

def isSingle : Alternation → Bool
  | single _ => true
  | _ => false

/-- There is no choice but between two. -/
def isBinary : Alternation → Bool
  | single _ => true
  | choice _ => false
  | either first second => first.isBinary && second.isBinary

def connective : Text := Text.ofString Attempt.eitherConnective

/-- What the failure of a nest is after the messages of its alternatives. -/
structure Worded (alternation : Alternation) (text : Text) (kind : FailureKind) (words : List Text) : Prop where
  exhausted : alternation.isSingle = false → kind = .exhausted
  joined : alternation.isBinary = true → words ≠ [] ∧ text = connective.intercalate words

theorem intercalate_append {α : Type} (connective : List α) {one two : List (List α)} (some : one ≠ [])
    (someToo : two ≠ []) :
    connective.intercalate (one ++ two) =
      connective.intercalate one ++ connective ++ connective.intercalate two := by
  induction one with
  | nil => exact absurd rfl some
  | cons head tail induction =>
      cases tail with
      | nil => rw [List.singleton_append, List.intercalate_cons_of_ne_nil someToo, List.intercalate_singleton]
      | cons next later =>
          have behind := induction (List.cons_ne_nil next later)
          rw [List.cons_append, List.intercalate_cons_of_ne_nil (by simp), behind,
            List.intercalate_cons_of_ne_nil (List.cons_ne_nil next later)]
          simp only [List.append_assoc]

theorem worded_either {first second : Alternation} {one two : Text} {kind other : FailureKind}
    {words others : List Text} (wording : first.Worded one kind words)
    (wordingToo : second.Worded two other others) :
    (first.either second).Worded (one ++ connective ++ two) .exhausted (words ++ others) where
  exhausted := fun _ => rfl
  joined := by
    intro binary
    rw [isBinary, Bool.and_eq_true] at binary
    obtain ⟨some, rfl⟩ := wording.joined binary.1
    obtain ⟨someToo, rfl⟩ := wordingToo.joined binary.2
    exact ⟨List.append_ne_nil_of_left_ne_nil some others, (intercalate_append connective some someToo).symm⟩

section

variable (meaning : Reference → Attempts) (medium : Medium)

def attempts (alternation : Alternation) : List (Attempt medium.Source) :=
  alternation.row.map fun grammar => grammar.attempt meaning medium

/-- If the grammar fails, its message is a text. -/
def SaysText (source : medium.Source) (grammar : Grammar) : Prop :=
  ∀ failure, (grammar.attempt meaning medium source).result = .ok (.failed failure) →
    ∃ words, failure.message = .text words

/-- The nest comes to what the search among all its alternatives comes to, and it logs the same. -/
def Searches (source : medium.Source) (alternation : Alternation) : Prop :=
  Corresponds (Attempt.Settles alternation.Worded) (alternation.grammar.attempt meaning medium source)
    (Attempt.firstMatch source (alternation.attempts meaning medium))

section

variable {meaning medium} {source : medium.Source}

theorem searches_single {grammar : Grammar} (texts : SaysText meaning medium source grammar) :
    Searches meaning medium source (single grammar) := by
  have run : Corresponds
      (fun one two => one = two ∧ (grammar.attempt meaning medium source).result = .ok one)
      (grammar.attempt meaning medium source) (grammar.attempt meaning medium source) :=
    .self fun outcome answered => ⟨rfl, answered⟩
  rw [Searches, Alternation.grammar, ← Traced.bind_pure (grammar.attempt meaning medium source)]
  apply run.bind
  intro outcome _ answered
  obtain ⟨rfl, answered⟩ := answered
  cases outcome with
  | matched value rest => exact .of_pure (.matched value rest)
  | failed failure =>
      obtain ⟨message, kind⟩ := failure
      obtain ⟨words, rfl⟩ := texts _ answered
      have wording : (single grammar).Worded words kind [words] :=
        ⟨by simp [isSingle], fun _ => ⟨by simp, List.intercalate_singleton.symm⟩⟩
      exact .of_pure (.failed wording)

theorem searches_choice {others : Nat} {alternatives : Fin (others + 1) → Alternation}
    (settle : ∀ index, Searches meaning medium source (alternatives index)) :
    Searches meaning medium source (choice alternatives) := by
  have rows : (choice alternatives).attempts meaning medium =
      (List.ofFn fun index => (alternatives index).attempts meaning medium).flatten := by
    rw [attempts, row, List.map_flatten, List.map_ofFn]
    rfl
  rw [Searches, rows, ← Traced.bind_pure (Attempt.firstMatch source _)]
  apply (Attempt.first_match_flattens settle).bind
  intro search _ alike
  cases alike with
  | matched value rest => exact .of_pure (.matched value rest)
  | failed words others =>
      have wording (text : Text) : (choice alternatives).Worded text .exhausted others :=
        ⟨fun _ => rfl, by simp [isBinary]⟩
      simp only [Attempt.choiceMessage, Attempt.texts_from_texts]
      exact .of_pure (.failed (wording _))

theorem searches_either {first second : Alternation} (begun : Searches meaning medium source first)
    (ended : Searches meaning medium source second) :
    Searches meaning medium source (first.either second) := by
  have parts : (first.either second).attempts meaning medium =
      first.attempts meaning medium ++ second.attempts meaning medium := List.map_append
  rw [Searches, parts, Attempt.first_match_append]
  change Corresponds _ ((Attempt.either _ _ source) >>= _) _
  unfold Attempt.either
  rw [Traced.bind_assoc]
  apply Corresponds.bind begun
  intro outcome search settled
  cases settled with
  | matched value rest => exact .of_pure (.matched value rest)
  | failed wording =>
      dsimp only [Attempt.behindMessages]
      rw [Traced.bind_assoc]
      apply Corresponds.bind ended
      intro other later settled
      cases settled with
      | matched value rest => exact .of_pure (.matched value rest)
      | failed wordingToo =>
          have failed : Attempt.Settles (first.either second).Worded _
              (.error _ : Except _ (Outcome medium.Source)) :=
            .failed (worded_either wording wordingToo)
          rw [List.map_append] at failed
          exact .of_pure failed

end

theorem searches_row (alternation : Alternation) (source : medium.Source)
    (texts : ∀ grammar ∈ alternation.row, SaysText meaning medium source grammar) :
    Searches meaning medium source alternation := by
  induction alternation with
  | single grammar => exact searches_single (texts grammar (List.mem_singleton.mpr rfl))
  | choice alternatives induction =>
      apply searches_choice
      intro index
      exact induction index fun grammar member =>
        texts grammar (List.mem_flatten.mpr ⟨_, List.mem_ofFn.mpr ⟨index, rfl⟩, member⟩)
  | either first second induction inductionToo =>
      have begun := induction fun grammar member => texts grammar (List.mem_append_left _ member)
      have ended := inductionToo fun grammar member => texts grammar (List.mem_append_right _ member)
      exact searches_either begun ended

variable {meaning medium} {alternation : Alternation} {source : medium.Source}
  (texts : ∀ grammar ∈ alternation.row, SaysText meaning medium source grammar)

include texts

theorem decided_by {before after : List (Attempt medium.Source)} {decider : Attempt medium.Source}
    (parts : alternation.attempts meaning medium = before ++ decider :: after)
    (failed : ∀ attempt ∈ before, attempt.Fails source) (decides : ¬ decider.Fails source) :
    alternation.grammar.attempt meaning medium source =
      ⟨Attempt.records source (before ++ [decider]), (decider source).result⟩ := by
  have searched := searches_row meaning medium alternation source texts
  unfold Searches at searched
  rw [parts, Attempt.first_match_decided failed decides] at searched
  refine congrArg₂ Traced.mk searched.log_eq ?_
  cases answered : (decider source).result with
  | error reason =>
      rw [answered] at searched
      exact searched.result_of_error rfl
  | ok outcome =>
      rw [answered] at searched
      obtain ⟨found, same, settled⟩ := searched.result_of_ok rfl
      cases settled with
      | matched value rest => exact same

theorem exhausted_by_failures (failed : ∀ attempt ∈ alternation.attempts meaning medium, attempt.Fails source) :
    ∃ text kind words, alternation.grammar.attempt meaning medium source =
        ⟨Attempt.records source (alternation.attempts meaning medium), .ok (.failed (.saying text kind))⟩ ∧
      alternation.Worded text kind words ∧
        List.Forall₂ (fun attempt words => attempt.Says source (.text words))
          (alternation.attempts meaning medium) words := by
  have searched := searches_row meaning medium alternation source texts
  unfold Searches at searched
  obtain ⟨messages, exhausted, paired⟩ := Attempt.first_match_exhausted failed
  rw [exhausted] at searched
  obtain ⟨outcome, same, settled⟩ := searched.result_of_ok rfl
  cases settled with
  | @failed text kind words wording =>
      exact ⟨text, kind, words, congrArg₂ Traced.mk searched.log_eq same, wording,
        List.forall₂_map_right_iff.mp paired⟩

/-- Unless it is a failure, the result is that of the alternative that decides. -/
theorem result_iff_decided {result : Except Halt (Outcome medium.Source)}
    (other : ∀ failure, result ≠ .ok (.failed failure)) :
    (alternation.grammar.attempt meaning medium source).result = result ↔
      ∃ before decider after, alternation.attempts meaning medium = before ++ decider :: after ∧
        (∀ attempt ∈ before, attempt.Fails source) ∧ (decider source).result = result := by
  constructor
  · intro answered
    rcases Attempt.exists_decider (alternation.attempts meaning medium) source with
      failed | ⟨before, decider, after, parts, failed, decides⟩
    · obtain ⟨text, kind, _, run, _⟩ := exhausted_by_failures texts failed
      rw [run] at answered
      exact absurd answered.symm (other _)
    · rw [decided_by texts parts failed decides] at answered
      exact ⟨before, decider, after, parts, failed, answered⟩
  · intro found
    obtain ⟨before, decider, after, parts, failed, answered⟩ := found
    rw [decided_by texts parts failed (Attempt.not_fails_of_result answered other)]
    exact answered

theorem fails_iff : (alternation.grammar.attempt meaning medium).Fails source ↔
    ∀ attempt ∈ alternation.attempts meaning medium, attempt.Fails source := by
  constructor
  · intro fails
    obtain ⟨failure, answered⟩ := fails
    rcases Attempt.exists_decider (alternation.attempts meaning medium) source with
      failed | ⟨before, decider, after, parts, failed, decides⟩
    · exact failed
    · rw [decided_by texts parts failed decides] at answered
      exact absurd ⟨failure, answered⟩ decides
  · intro failed
    obtain ⟨text, kind, _, run, _⟩ := exhausted_by_failures texts failed
    exact ⟨.saying text kind, congrArg Traced.result run⟩

/-- The failure of a nest is worded after those of its alternatives. -/
theorem worded_failure {failure : Failure}
    (answered : (alternation.grammar.attempt meaning medium source).result = .ok (.failed failure)) :
    ∃ text words, failure.message = .text text ∧ alternation.Worded text failure.kind words ∧
      List.Forall₂ (fun attempt words => attempt.Says source (.text words))
        (alternation.attempts meaning medium) words := by
  have failed := (fails_iff texts).mp ⟨failure, answered⟩
  obtain ⟨text, kind, words, run, wording, paired⟩ := exhausted_by_failures texts failed
  rw [run] at answered
  obtain rfl := Outcome.failed.inj (Except.ok.inj answered)
  exact ⟨text, words, rfl, wording, paired⟩

end

/-- How a nest answers, by how the alternatives on all its levels answer on the same source. -/
structure AnswersInOrder (meaning : Reference → Attempts) (medium : Medium) (alternation : Alternation)
    (source : medium.Source) : Prop where
  matched : ∀ value rest, (alternation.grammar.attempt meaning medium).Matches source value rest ↔
    ∃ before decider after, alternation.attempts meaning medium = before ++ decider :: after ∧
      (∀ attempt ∈ before, attempt.Fails source) ∧ decider.Matches source value rest
  failed : (alternation.grammar.attempt meaning medium).Fails source ↔
    ∀ attempt ∈ alternation.attempts meaning medium, attempt.Fails source
  halted : ∀ reason, (alternation.grammar.attempt meaning medium source).result = .error reason ↔
    ∃ before decider after, alternation.attempts meaning medium = before ++ decider :: after ∧
      (∀ attempt ∈ before, attempt.Fails source) ∧ (decider source).result = .error reason
  /-- Nothing behind the alternative that decides is run. -/
  decided : ∀ before decider after, alternation.attempts meaning medium = before ++ decider :: after →
    (∀ attempt ∈ before, attempt.Fails source) → ¬ decider.Fails source →
      (alternation.grammar.attempt meaning medium source).log = Attempt.records source (before ++ [decider])
  exhausted : alternation.isSingle = false → ∀ failure,
    (alternation.grammar.attempt meaning medium source).result = .ok (.failed failure) →
      failure.kind = .exhausted
  /-- Without a choice of more than two the message is that of the alternatives in their order. -/
  joined : alternation.isBinary = true → ∀ failure,
    (alternation.grammar.attempt meaning medium source).result = .ok (.failed failure) →
      ∃ words, failure.message = .text (connective.intercalate words) ∧
        List.Forall₂ (fun attempt words => attempt.Says source (.text words))
          (alternation.attempts meaning medium) words

/-- A nest of alternatives is an ordered choice among all of them, however it is nested, provided that
those of them that fail say so in texts. -/
theorem alternatives_answer_in_order (meaning : Reference → Attempts) (medium : Medium)
    (alternation : Alternation) (source : medium.Source)
    (texts : ∀ grammar ∈ alternation.row, SaysText meaning medium source grammar) :
    AnswersInOrder meaning medium alternation source := by
  refine {
    matched := fun value rest => result_iff_decided texts (by simp)
    failed := fails_iff texts
    halted := fun reason => result_iff_decided texts (by simp)
    decided := ?_
    exhausted := ?_
    joined := ?_ }
  · intro before decider after parts failed decides
    exact congrArg Traced.log (decided_by texts parts failed decides)
  · intro nested failure answered
    obtain ⟨text, words, _, wording, _⟩ := worded_failure texts answered
    exact wording.exhausted nested
  · intro binary failure answered
    obtain ⟨text, words, same, wording, paired⟩ := worded_failure texts answered
    exact ⟨words, (wording.joined binary).2 ▸ same, paired⟩

/-- Two letters in a choice, and behind it any character under observation. -/
def letterOrAny : Alternation :=
  either (choice fun index : Fin 2 => single (.character (if index = 0 then 'a' else 'b')))
    (single (Grammar.anyCharacter.debug none))

/-- The observation is not run. -/
theorem second_letter_decides :
    (∀ grammar ∈ letterOrAny.row, SaysText (Scope.provided.meaning 0) .text (Text.ofString "b") grammar) ∧
      AnswersInOrder (Scope.provided.meaning 0) .text letterOrAny (Text.ofString "b") ∧
        letterOrAny.grammar.runWithin 0 Scope.provided (Text.ofString "b") =
          pure (.matched (.text ['b']) []) := by
  have texts : ∀ grammar ∈ letterOrAny.row,
      SaysText (Scope.provided.meaning 0) .text (Text.ofString "b") grammar := by
    intro grammar member failure answered
    simp only [letterOrAny, row, List.ofFn_succ, List.ofFn_zero, List.flatten_cons, List.flatten_nil,
      List.cons_append, List.nil_append, List.mem_cons, List.not_mem_nil, or_false] at member
    have matching : (.ok (.matched (.text ['b']) []) : Except Halt (Outcome Text)) ≠ .ok (.failed failure) := by
      simp
    rcases member with rfl | rfl | rfl
    · obtain rfl := Outcome.failed.inj (Except.ok.inj answered)
      exact ⟨_, rfl⟩
    · exact absurd answered matching
    · exact absurd answered matching
  exact ⟨texts, alternatives_answer_in_order _ _ _ _ texts, rfl⟩

end Alternation

end TextGrammar
