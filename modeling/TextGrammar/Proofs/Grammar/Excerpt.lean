import TextGrammar.Proofs.Primitive.Failure
import TextGrammar.Proofs.Text.Quoted
import TextGrammar.Scope

/-!
What messages tell of the text. The failures of primitives show no more of a long text than an excerpt,
but for the failure of a literal, which shows as much of the text as the literal is long. What a text
is left over shows an excerpt of it as well. Two texts with the same beginning can therefore not be told
apart by the messages, unless a literal is longer than the beginning that they share.
-/

namespace TextGrammar

open Traced

namespace Text

theorem of_string_injective {one two : String} (same : ofString one = ofString two) : one = two := by
  have points : ∀ c other, CodePoint.ofChar c = CodePoint.ofChar other → c = other := by
    intro c other equal
    exact Char.toNat_inj.mp (congrArg CodePoint.toNat equal)
  exact String.toList_injective ((List.map_inj_right points).mp same)

theorem excerpt_of_long {text : Text} (long : excerptLength < text.length) :
    text.excerpt = quoted (text.take excerptLength) ++ "..." :=
  if_neg (Nat.not_le.mpr long)

/-- Two long texts with the same beginning. -/
structure BeginAlike (one two : Text) : Prop where
  long : excerptLength < one.length
  longToo : excerptLength < two.length
  same : one.take excerptLength = two.take excerptLength

namespace BeginAlike

variable {one two : Text} (alike : BeginAlike one two)

include alike

theorem excerpts : one.excerpt = two.excerpt := by
  rw [excerpt_of_long alike.long, excerpt_of_long alike.longToo, alike.same]

theorem same_head : ∃ point rest other, one = point :: rest ∧ two = point :: other := by
  obtain ⟨long, longToo, same⟩ := alike
  cases one with
  | nil => exact absurd long (by simp)
  | cons point rest =>
      cases two with
      | nil => exact absurd longToo (by simp)
      | cons next other =>
          obtain ⟨rfl, _⟩ := List.cons.inj same
          exact ⟨point, rest, other, rfl, rfl⟩

theorem is_empty_eq : one.isEmpty = two.isEmpty := by
  obtain ⟨_, _, _, rfl, rfl⟩ := alike.same_head
  rfl

end BeginAlike

end Text

namespace Primitive

/-- The failure of a literal tells two texts apart that differ within the length of the literal. -/
theorem not_found_message_iff (word : Word) (one two : Text) :
    (notFound word one).message = (notFound word two).message ↔
      one.take word.text.length = two.take word.text.length := by
  constructor
  · intro same
    simp only [notFound, Failure.saying, Value.text.injEq] at same
    have shown := List.append_cancel_left (List.append_cancel_right same)
    exact Text.quoted_injective (Text.of_string_injective shown)
  · intro same
    unfold notFound
    rw [same]

section

variable {one two : Text} (alike : Text.BeginAlike one two)

include alike

theorem no_span_eq (description : String) : noSpan description one = noSpan description two := by
  unfold noSpan
  rw [alike.is_empty_eq, alike.excerpts]

theorem no_delimiter_eq (delimiter : Word) : noDelimiter delimiter one = noDelimiter delimiter two := by
  unfold noDelimiter
  rw [alike.is_empty_eq, alike.excerpts]

end

end Primitive

namespace Grammar

open Primitive

/-- The primitives whose failures show an excerpt of the text, with all that they can be given. -/
inductive ShowsExcerpt : Grammar → Prop
  | character (point : CodePoint) : ShowsExcerpt (character point)
  | span (members : CodePointClass) : ShowsExcerpt (span members)
  | spanWhere (predicate : Predicate) (description : Option String) :
      ShowsExcerpt (.spanWhere predicate description)
  | spanMatching (checker : Grammar) (description : Option String) :
      ShowsExcerpt (.spanMatching checker description)
  | textUpTo (delimiter : Word) : ShowsExcerpt (textUpTo delimiter)
  | textThrough (delimiter : Word) : ShowsExcerpt (textThrough delimiter)

section

variable {one two : Text} (alike : Text.BeginAlike one two) {meaning later : Reference → Attempts}
  {failure other : Failure}

include alike

/-- The references may mean something else in the other run. -/
theorem excerpting_failures_eq {grammar : Grammar} (shows : ShowsExcerpt grammar)
    (failed : (grammar.attempt meaning .text one).result = .ok (.failed failure))
    (failedToo : (grammar.attempt later .text two).result = .ok (.failed other)) : failure = other := by
  cases shows with
  | character point =>
      obtain ⟨head, rest, restToo, rfl, rfl⟩ := alike.same_head
      rw [character_failure (Except.ok.inj failed), character_failure (Except.ok.inj failedToo), alike.excerpts]
  | span members =>
      rw [span_failure (Except.ok.inj failed), span_failure (Except.ok.inj failedToo), no_span_eq alike]
  | spanWhere predicate description =>
      rw [tested_span_failure failed, tested_span_failure failedToo, no_span_eq alike]
  | spanMatching checker description =>
      rw [tested_span_failure failed, tested_span_failure failedToo, no_span_eq alike]
  | textUpTo delimiter =>
      rw [up_to_failure (Except.ok.inj failed), up_to_failure (Except.ok.inj failedToo), no_delimiter_eq alike]
  | textThrough delimiter =>
      rw [through_failure (Except.ok.inj failed), through_failure (Except.ok.inj failedToo), no_delimiter_eq alike]

theorem literal_messages_eq_iff {word : Word} (failed : matchLiteral word one = .failed failure)
    (failedToo : matchLiteral word two = .failed other) :
    failure.message = other.message ↔ one.take word.text.length = two.take word.text.length := by
  obtain ⟨head, rest, restToo, rfl, rfl⟩ := alike.same_head
  rw [literal_failure (List.cons_ne_nil _ _) failed, literal_failure (List.cons_ne_nil _ _) failedToo]
  exact not_found_message_iff word _ _

end

theorem parse_leaves_over {scope : Scope} {grammar : Grammar} {source rest : Text} {value : Value}
    (matched : Attempt.Matches (grammar.runIn scope) source value rest) (remains : rest ≠ []) :
    (grammar.parseIn scope source).result = .error (.fault (.excess grammar.name rest)) := by
  unfold parseIn
  rw [result_bind_of_ok matched, wholeValue, if_neg (by simpa using remains)]
  rfl

/-- How far messages tell two texts apart. -/
structure LookAlike (one two : Text) : Prop where
  excerpted : ∀ scope grammar, ShowsExcerpt grammar → ∀ failure other,
    (grammar.runIn scope one).result = .ok (.failed failure) →
      (grammar.runIn scope two).result = .ok (.failed other) → failure = other
  /-- The failure of a literal shows as much of the text as the literal is long. -/
  literal : ∀ scope word failure other,
    ((literal word).runIn scope one).result = .ok (.failed failure) →
      ((literal word).runIn scope two).result = .ok (.failed other) →
        (failure.message = other.message ↔ one.take word.text.length = two.take word.text.length)
  /-- What is left over of the texts that one grammar had to match as a whole. -/
  leftover : ∀ scope grammar source another value answer,
    Attempt.Matches (runIn scope grammar) source value one →
      Attempt.Matches (runIn scope grammar) another answer two → ∃ fault other,
        (grammar.parseIn scope source).result = .error (.fault fault) ∧ fault.leftover? = some one ∧
          (grammar.parseIn scope another).result = .error (.fault other) ∧ other.leftover? = some two ∧
            fault.message = other.message

/-- Messages tell no more of a long text than its excerpt does, but for the failures of literals. -/
theorem messages_show_excerpt (one two : Text) (alike : Text.BeginAlike one two) : LookAlike one two where
  excerpted := fun _ _ shows _ _ failed failedToo => excerpting_failures_eq alike shows failed failedToo
  literal := fun _ _ _ _ failed failedToo =>
    literal_messages_eq_iff alike (Except.ok.inj failed) (Except.ok.inj failedToo)
  leftover := by
    intro scope grammar source another value answer matched matchedToo
    have message : (Fault.excess grammar.name one).message = (Fault.excess grammar.name two).message := by
      simp only [Fault.message, alike.excerpts]
    obtain ⟨_, _, _, rfl, rfl⟩ := alike.same_head
    exact ⟨_, _, parse_leaves_over matched (List.cons_ne_nil _ _), rfl,
      parse_leaves_over matchedToo (List.cons_ne_nil _ _), rfl, message⟩

/-- As many code points as an excerpt shows, and one that it does not show. -/
def excerptAnd (last : CodePoint) : Text := List.replicate Text.excerptLength (CodePoint.ofChar 'b') ++ [last]

theorem excerpt_and_begins_alike (last other : CodePoint) :
    Text.BeginAlike (excerptAnd last) (excerptAnd other) where
  long := by simp [excerptAnd]
  longToo := by simp [excerptAnd]
  same := (List.take_left' List.length_replicate).trans (List.take_left' List.length_replicate).symm

theorem unfound_delimiters_look_alike :
    Text.BeginAlike (excerptAnd 'c') (excerptAnd 'd') ∧ LookAlike (excerptAnd 'c') (excerptAnd 'd') ∧
      noDelimiter ⟨['a'], by decide⟩ (excerptAnd 'c') = noDelimiter ⟨['a'], by decide⟩ (excerptAnd 'd') := by
  have alike := excerpt_and_begins_alike 'c' 'd'
  have look := messages_show_excerpt _ _ alike
  exact ⟨alike, look, look.excerpted Scope.provided (textUpTo ⟨['a'], by decide⟩) (.textUpTo _) _ _ rfl rfl⟩

/-- One code point more than an excerpt shows. -/
def longWord : Word := ⟨excerptAnd 'a', by simp [excerptAnd]⟩

/-- A literal that is longer than an excerpt shows what the excerpt leaves out. -/
theorem long_literal_tells_more :
    ∃ failure other, Text.BeginAlike (excerptAnd 'c') (excerptAnd 'd') ∧
      ((literal longWord).runIn Scope.provided (excerptAnd 'c')).result = .ok (.failed failure) ∧
        ((literal longWord).runIn Scope.provided (excerptAnd 'd')).result = .ok (.failed other) ∧
          failure.message ≠ other.message := by
  have unlike : (notFound longWord (excerptAnd 'c')).message ≠ (notFound longWord (excerptAnd 'd')).message := by
    rw [Ne, not_found_message_iff]
    decide
  exact ⟨_, _, excerpt_and_begins_alike 'c' 'd', rfl, rfl, unlike⟩

end Grammar

end TextGrammar
