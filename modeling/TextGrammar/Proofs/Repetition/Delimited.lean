import TextGrammar.Proofs.Grammar.Answer
import TextGrammar.Proofs.Text.Occurrence
import TextGrammar.Scope

/-!
Texts between delimiters. The element takes the text up to the next delimiter, which may be nothing at
all, and the separator takes the delimiter, which is always something. So every round makes progress,
and what is left at the end is the part behind the last delimiter.
-/

namespace TextGrammar

open Attempt Text

namespace Grammar

variable {meaning : Reference → Attempts} {word : Word} {source before after : Text}

theorem literal_yields (word : Word) (rest : Text) :
    ((literal word).attempt meaning .text).Yields (word.text ++ rest) (.text word.text) rest := by
  have present : (word.text ++ rest).isEmpty = false := by simp [word.nonempty]
  change pure (Primitive.matchLiteral word (word.text ++ rest)) = _
  simp only [Primitive.matchLiteral, present, after_append]
  rfl

/-- A word of one point and a longer one are read in different ways, and both as the word. -/
theorem of_word_yields (word : Word) (rest : Text) :
    ((ofWord word).attempt meaning .text).Yields (word.text ++ rest) (.text word.text) rest := by
  unfold ofWord
  split
  · rename_i point single
    rw [single]
    exact character_yields point rest
  · exact literal_yields word rest

theorem text_up_to_yields (found : FirstOccurrence word.text source before after) :
    ((textUpTo word).attempt meaning .text).Yields source (.text before) (word.text ++ after) := by
  change pure (Primitive.matchUpTo word source) = _
  simp only [Primitive.matchUpTo, found.cut_eq]

theorem text_up_to_fails (meaning : Reference → Attempts) (absent : ¬ word.text <:+: source) :
    (textUpTo word).attempt meaning .text source = pure (.failed (Primitive.noDelimiter word source)) := by
  change pure (Primitive.matchUpTo word source) = _
  simp only [Primitive.matchUpTo, cut_eq_none_iff.mpr absent]

theorem text_up_to_refuses (meaning : Reference → Attempts) (absent : ¬ word.text <:+: source) :
    ∃ kind, ((textUpTo word).attempt meaning .text).Refuses source kind :=
  ⟨_, _, text_up_to_fails meaning absent⟩

/-- The parts of the text are the values, except the last one, which is left. -/
theorem run_splits (meaning : Reference → Attempts) {parts : List Text}
    (split : Split word.text source parts) :
    ∃ texts rest stop, parts = texts ++ [rest] ∧ stop ≠ .stalled ∧
      Repetition.run Medium.text.size ((textUpTo word).attempt meaning .text)
        (some ((ofWord word).attempt meaning .text)) source = pure ⟨texts.map .text, rest, stop⟩ := by
  induction split with
  | @whole source absent =>
      obtain ⟨kind, refuses⟩ := text_up_to_refuses meaning absent
      obtain ⟨failure, stopped⟩ := Repetition.run_of_refusal refuses
      exact ⟨[], source, .failed failure, rfl, by simp, stopped⟩
  | @cut source before after parts found others induction =>
      obtain ⟨texts, rest, stop, rfl, counted, later⟩ := induction
      have shorter := found.shorter_behind word.nonempty
      exact ⟨before :: texts, rest, stop, rfl, counted,
        Repetition.run_of_separated_step (text_up_to_yields found) (of_word_yields word after) shorter later⟩

/-- Text between delimiters is split at the successive first occurrences of the delimiter, and there is
one such split. Its last part is left and the others are the values, joined they are the source again,
and no part contains the delimiter. Nothing is logged. -/
theorem delimited_text_is_split (delimiter : Word) (scope : Scope) (budget : Nat) (source : Text) :
    textUpTo? delimiter.text = .ok (textUpTo delimiter) ∧
    (Part.text delimiter.text).toGrammar = .ok (ofWord delimiter) ∧
    ∃ (texts : List Text) (rest : Text),
      (∀ parts, Split delimiter.text source parts ↔ parts = texts ++ [rest]) ∧
      delimiter.text.intercalate (texts ++ [rest]) = source ∧
      (∀ part ∈ texts ++ [rest], ¬ delimiter.text <:+: part) ∧
      (((textUpTo delimiter).separatedBy (ofWord delimiter) false).runWithin budget scope).Yields source
        (.list (texts.map .text)) rest := by
  have same : Word.ofText? delimiter.text = some delimiter := dif_pos delimiter.nonempty
  refine ⟨by simp only [textUpTo?, same], by simp only [Part.toGrammar, same], ?_⟩
  obtain ⟨parts, split⟩ := Split.exists_parts delimiter.nonempty source
  obtain ⟨texts, rest, stop, rfl, counted, course⟩ := run_splits (scope.meaning budget) split
  refine ⟨texts, rest, ?_, split.joined, split.absent_in_parts delimiter.nonempty, ?_⟩
  · intro parts
    constructor
    · exact fun other => other.unique split
    · rintro rfl
      exact split
  · exact Repetition.repeated_yields course counted

end Grammar

end TextGrammar
