import TextGrammar.Proofs.Repetition.Delimited

/-!
The two ways of reading up to a delimiter. Both look for its first occurrence, so they match the same
texts and fail alike on the others. The one leaves the delimiter and the other takes it, and with a
literal behind it the one that leaves it becomes the other.
-/

namespace TextGrammar

open Attempt Text

namespace Transformer

/-- Puts the two texts of a pair together. -/
def Concatenates (concatenate : Transformer) : Prop :=
  ∀ one two : Text, concatenate.apply (.tuple [.text one, .text two]) = .ok (.text (one ++ two))

theorem join_concatenates : join.Concatenates := by
  intro one two
  have joined : Value.join (.tuple [.text one, .text two]) = .ok [one, two].flatten := Grammar.join_texts rfl
  simp only [join, joined, Except.map, List.flatten_cons, List.flatten_nil, List.append_nil]

end Transformer

namespace Grammar

variable {meaning : Reference → Attempts} {delimiter : Word} {source before after : Text}

theorem text_through_yields (found : FirstOccurrence delimiter.text source before after) :
    ((textThrough delimiter).attempt meaning .text).Yields source (.text (before ++ delimiter.text)) after := by
  change pure (Primitive.matchThrough delimiter source) = _
  simp only [Primitive.matchThrough, found.cut_eq]

theorem text_through_fails (meaning : Reference → Attempts) (absent : ¬ delimiter.text <:+: source) :
    (textThrough delimiter).attempt meaning .text source =
      pure (.failed (Primitive.noDelimiter delimiter source)) := by
  change pure (Primitive.matchThrough delimiter source) = _
  simp only [Primitive.matchThrough, cut_eq_none_iff.mpr absent]

/-- Behind the text up to the delimiter the delimiter itself is read. -/
theorem text_up_to_and_literal_yields {concatenate : Transformer} (joins : concatenate.Concatenates)
    (found : FirstOccurrence delimiter.text source before after) :
    ((((textUpTo delimiter).followedBy (literal delimiter)).map concatenate).attempt meaning .text).Yields
      source (.text (before ++ delimiter.text)) after := by
  have begins : ((textUpTo delimiter).attempt meaning .text).Yields source (.text before)
      (delimiter.text ++ after) := text_up_to_yields found
  have ends : ((literal delimiter).attempt meaning .text).Yields (delimiter.text ++ after)
      (.text delimiter.text) after := literal_yields delimiter after
  exact (begins.followed_by ends).map (congrArg Traced.ofExcept (joins before delimiter.text))

/-- Both read up to the first occurrence of the delimiter if there is one, and fail with one and the same
failure if there is none. Putting the delimiter to the text in front of it makes up for the difference. -/
theorem delimiters_find_first_occurrence (meaning : Reference → Attempts) (delimiter : Word)
    (concatenate : Transformer) (joins : concatenate.Concatenates) (source : Text) :
    (delimiter.text <:+: source →
      ∃ before after, FirstOccurrence delimiter.text source before after ∧
        ((textUpTo delimiter).attempt meaning .text).Yields source (.text before) (delimiter.text ++ after) ∧
        ((textThrough delimiter).attempt meaning .text).Yields source
          (.text (before ++ delimiter.text)) after) ∧
    (¬ delimiter.text <:+: source →
      ∃ failure, (textUpTo delimiter).attempt meaning .text source = pure (.failed failure) ∧
        (textThrough delimiter).attempt meaning .text source = pure (.failed failure)) ∧
    (((textUpTo delimiter).followedBy (literal delimiter)).map concatenate).attempt meaning .text source =
      (textThrough delimiter).attempt meaning .text source := by
  by_cases occurs : delimiter.text <:+: source
  · obtain ⟨before, after, found⟩ := FirstOccurrence.exists_of_infix occurs
    have through : ((textThrough delimiter).attempt meaning .text).Yields source
        (.text (before ++ delimiter.text)) after := text_through_yields found
    refine ⟨fun _ => ⟨before, after, found, text_up_to_yields found, through⟩,
      fun absent => absurd occurs absent, ?_⟩
    exact (text_up_to_and_literal_yields joins found).trans through.symm
  · have upTo := text_up_to_fails meaning occurs
    have through := text_through_fails meaning occurs
    refine ⟨fun present => absurd present occurs, fun _ => ⟨_, upTo, through⟩, ?_⟩
    have both : ((textUpTo delimiter).followedBy (literal delimiter)).attempt meaning .text source =
        pure (.failed (Primitive.noDelimiter delimiter source)) := Traced.bind_of_pure upTo _
    exact (Traced.bind_of_pure both _).trans through.symm

/-- Of two occurrences that overlap both find the one that begins first. -/
theorem earlier_of_overlapping_is_found :
    let doubled : Word := ⟨Text.ofString "aa", by decide⟩
    Transformer.join.Concatenates ∧
      ((textUpTo doubled).runWithin 0 Scope.provided).Yields (Text.ofString "baaab") (.text (Text.ofString "b"))
        (Text.ofString "aaab") ∧
      ((((textUpTo doubled).followedBy (literal doubled)).map .join).runWithin 0 Scope.provided).Yields
        (Text.ofString "baaab") (.text (Text.ofString "baa")) (Text.ofString "ab") := by
  intro doubled
  have finds := delimiters_find_first_occurrence (Scope.provided.meaning 0) doubled .join
    Transformer.join_concatenates (Text.ofString "baaab")
  have first : FirstOccurrence doubled.text (Text.ofString "baaab") (Text.ofString "b") (Text.ofString "ab") :=
    .of_cut (by decide)
  obtain ⟨before, after, found, upTo, through⟩ := finds.1 first.occurs
  obtain ⟨rfl, rfl⟩ := found.unique first
  exact ⟨Transformer.join_concatenates, upTo, finds.2.2.trans through⟩

end Grammar

end TextGrammar
