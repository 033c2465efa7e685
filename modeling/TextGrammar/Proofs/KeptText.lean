import TextGrammar.Proofs.Primitive.Taken
import TextGrammar.Proofs.Reference
import TextGrammar.Proofs.Repetition.Chain
import TextGrammar.Session

/-!
Grammars that keep the text. Such a grammar only puts together what its primitives take,
so the texts inside the value of a match are, one after the other, the part of the source
in front of the rest: nothing is lost and nothing is there twice.
-/

namespace TextGrammar

open Traced

namespace Value

mutual

/-- The texts inside a value from left to right, if it is made of nothing else. -/
def flatten? : Value → Option Text
  | .null => some []
  | .text points => some points
  | .list items => flattenEach? items
  | .tuple items => flattenEach? items
  | .left value => flatten? value
  | .right value => flatten? value
  | _ => none

def flattenEach? : List Value → Option Text
  | [] => some []
  | value :: values => do return (← flatten? value) ++ (← flattenEach? values)

end

/-- The texts inside the value stand between the source and the rest. -/
def Covers (value : Value) (source rest : Text) : Prop :=
  ∃ text, value.flatten? = some text ∧ text ++ rest = source

theorem covers_nothing {value : Value} (empty : value.flatten? = some []) (source : Text) :
    value.Covers source source :=
  ⟨[], empty, rfl⟩

theorem flatten_each_cons {value : Value} {values : List Value} {text later : Text}
    (first : value.flatten? = some text) (others : flattenEach? values = some later) :
    flattenEach? (value :: values) = some (text ++ later) := by
  simp only [flattenEach?, first, others]
  rfl

theorem flatten_pair {one two : Value} {text later : Text} (first : one.flatten? = some text)
    (second : two.flatten? = some later) : (Value.tuple [one, two]).flatten? = some (text ++ later) := by
  have last := flatten_each_cons second (show flattenEach? [] = some [] from rfl)
  rw [List.append_nil] at last
  exact flatten_each_cons first last

theorem Covers.pair {one two : Value} {source middle rest : Text} (first : one.Covers source middle)
    (second : two.Covers middle rest) : (Value.tuple [one, two]).Covers source rest := by
  obtain ⟨text, flat, rfl⟩ := first
  obtain ⟨later, flatLater, rfl⟩ := second
  exact ⟨text ++ later, flatten_pair flat flatLater, List.append_assoc text later rest⟩

end Value

theorem Text.Takes.covers {source rest : Text} {value : Value} (takes : source.Takes value rest) :
    value.Covers source rest := by
  obtain ⟨taken, rfl, rfl⟩ := takes
  exact ⟨taken, rfl, rfl⟩

/-- The value of every match on a text covers what is not left of it. -/
def Attempts.KeepText (attempts : Attempts) : Prop :=
  ∀ source value rest, (attempts .text).Matches source value rest → value.Covers source rest

theorem Repetition.chain_covers {size : Text → Except Fault Nat} {element : Attempt Text}
    (keeps : ∀ source value rest, element.Matches source value rest → value.Covers source rest)
    {source rest : Text} {values : List Value} (chain : Chain (Step size element none) source values rest) :
    (Value.list values).Covers source rest := by
  induction chain with
  | stop source => exact Value.covers_nothing rfl source
  | next taken later induction =>
      obtain ⟨left, matched, separated, _⟩ := taken
      obtain rfl := separated.resolve_right (by simp)
      obtain ⟨text, flat, rfl⟩ := keeps _ _ _ matched
      obtain ⟨others, flatLater, rfl⟩ := induction
      exact ⟨text ++ others, Value.flatten_each_cons flat flatLater, List.append_assoc text others _⟩

namespace Grammar

/-- Made of primitives whose values are texts, without anything that changes or drops a value. What
only checks values may be of any sort. -/
def KeepsText : Grammar → Prop
  | primitive leaf => leaf.IsTextual
  | custom _ attempts => attempts.KeepText
  | deferred _ => True
  | named grammar _ => grammar.KeepsText
  | map _ _ => False
  | mapThrough _ _ => False
  | mapError grammar _ => grammar.KeepsText
  | filter grammar _ => grammar.KeepsText
  | filterMatching grammar _ => grammar.KeepsText
  | spanWhere _ _ => True
  | spanMatching _ _ => True
  | debug grammar _ => grammar.KeepsText
  | optional grammar default => grammar.KeepsText ∧ default.flatten? = some []
  | followedBy first second => first.KeepsText ∧ second.KeepsText
  | many element _ => element.KeepsText
  | separatedBy _ _ _ => False
  | either first second => first.KeepsText ∧ second.KeepsText
  | choice alternatives => ∀ index, (alternatives index).KeepsText

theorem keeps_text_structural : Structural KeepsText where
  named keeps := keeps
  choice keeps := keeps

theorem one_of_keeps_text (word : Word) : (oneOf word).KeepsText :=
  keeps_text_structural.one_of (fun _ => trivial) word

theorem attempt_keeps_text {meaning : Reference → Attempts} {grammar : Grammar} (keeps : grammar.KeepsText)
    (references : grammar.EveryReference fun reference => Attempts.KeepText (meaning reference)) :
    Attempts.KeepText (grammar.attempt meaning) := by
  induction grammar with
  | primitive leaf =>
      intro source value rest answered
      exact (Primitive.textual_takes keeps answered).covers
  | custom label attempts => exact keeps
  | deferred reference => exact references
  | named grammar label induction => exact induction keeps references
  | map grammar transformer _ => exact keeps.elim
  | mapThrough grammar reader _ _ => exact keeps.elim
  | mapError grammar transformer induction =>
      intro source value rest answered
      exact induction keeps references source value rest (Attempt.map_error_matches.mp answered)
  | filter grammar predicate induction =>
      intro source value rest answered
      exact induction keeps references source value rest (Attempt.filter_matches.mp answered).1
  | filterMatching grammar checker induction _ =>
      intro source value rest answered
      exact induction keeps references source value rest (Attempt.filter_matches.mp answered).1
  | spanWhere predicate description =>
      intro source value rest answered
      exact (Primitive.span_of_takes answered).covers
  | spanMatching checker description _ =>
      intro source value rest answered
      exact (Primitive.span_of_takes answered).covers
  | debug grammar label induction =>
      intro source value rest answered
      exact induction keeps references source value rest (Attempt.observe_matches answered)
  | optional grammar default induction =>
      intro source value rest answered
      rcases Attempt.optional_matches.mp answered with matched | ⟨_, rfl, rfl⟩
      · exact induction keeps.1 references source value rest matched
      · exact Value.covers_nothing keeps.2 rest
  | followedBy first second firstInduction secondInduction =>
      intro source value rest answered
      obtain ⟨one, two, middle, begun, ended, rfl⟩ := Attempt.followed_by_matches.mp answered
      have front := firstInduction keeps.1 references.1 source one middle begun
      exact front.pair (secondInduction keeps.2 references.2 middle two rest ended)
  | many element atLeastOne induction =>
      intro source value rest answered
      obtain ⟨values, rfl, _, chain⟩ := Attempt.repeated_matches answered
      exact Repetition.chain_covers (induction keeps references) chain
  | separatedBy element separator atLeastOne _ _ => exact keeps.elim
  | either first second firstInduction secondInduction =>
      intro source value rest answered
      rcases Attempt.either_matches.mp answered with ⟨inner, matched, rfl⟩ | ⟨_, inner, matched, rfl⟩
      · exact firstInduction keeps.1 references.1 source inner rest matched
      · exact secondInduction keeps.2 references.2 source inner rest matched
  | choice alternatives induction =>
      intro source value rest answered
      obtain ⟨attempt, member, matched⟩ := Attempt.choice_matches answered
      obtain ⟨index, rfl⟩ := List.mem_ofFn.mp member
      exact induction index (keeps index) (references index) source value rest matched

/-- What a match takes of a text is what is inside its value, through all references of a closed set. -/
theorem matched_text_is_kept {scope : Scope} {among : Reference → Prop} {grammar : Grammar}
    (closed : scope.Closed among KeepsText) (references : grammar.EveryReference among)
    (keeps : grammar.KeepsText) (budget : Nat) (source : Text) (value : Value) (rest : Text)
    (answered : (grammar.runWithin budget scope source).result = .ok (.matched value rest)) :
    ∃ text, value.flatten? = some text ∧ text ++ rest = source := by
  have meanings : ∀ reference, among reference → Attempts.KeepText (scope.meaning budget reference) := by
    intro reference member
    apply closed.meaning _ _ budget reference member
    · intro reason source value rest answered
      exact absurd answered (by simp [Attempt.Matches, halt])
    · intro meaning definition keeps references
      exact attempt_keeps_text keeps references
  exact attempt_keeps_text keeps (references.mono meanings) source value rest answered

def group : Reference := .placeholder 0 "group"

/-- One of two letters, or a group in brackets with an optional mark behind it. -/
def groupDefinition : Grammar :=
  (oneOf ⟨Text.ofString "ab", by decide⟩).either (((character '(').followedBy ((deferred group).debug none)).followedBy
    ((character ')').followedBy ((character '?').optional .null)))

def groups : Session := ⟨[], [some groupDefinition]⟩

theorem groups_closed : groups.scope.Closed (· = group) KeepsText := by
  rintro reference rfl definition found
  obtain rfl := Except.ok.inj found
  have letters : (oneOf ⟨Text.ofString "ab", by decide⟩).EveryReference (· = group) :=
    (every_reference_structural _).choice_of (by simp [EveryReference, character])
  exact ⟨⟨letters, ⟨trivial, rfl⟩, trivial, trivial⟩, one_of_keeps_text _, ⟨trivial, trivial⟩, trivial,
    trivial, rfl⟩

theorem group_text_is_kept :
    ∃ value, ((deferred group).runWithin 2 groups.scope (Text.ofString "(b)!")).result =
        .ok (.matched value (Text.ofString "!")) ∧
      ∃ text, value.flatten? = some text ∧ text ++ Text.ofString "!" = Text.ofString "(b)!" := by
  have answered : ((deferred group).runWithin 2 groups.scope (Text.ofString "(b)!")).result =
      .ok (.matched
        (.right (.tuple [.tuple [.text ['('], .left (.text ['b'])], .tuple [.text [')'], .null]]))
        (Text.ofString "!")) := rfl
  have reference : (deferred group).EveryReference (· = group) := rfl
  exact ⟨_, answered, matched_text_is_kept groups_closed reference trivial 2 _ _ _ answered⟩

end Grammar

end TextGrammar
