import TextGrammar.Proofs.Attempt.Gist
import TextGrammar.Proofs.Grammar.Bracketing
import TextGrammar.Proofs.KeptText
import TextGrammar.Proofs.Repetition.Delimited

/-!
Texts in the place of grammars. A text becomes a single code point or a literal, depending on its length,
and a row of single code points could stand there as well. They all take the word where it stands in front
and fail where it does not. The row goes from point to point, so it alone runs out of input in the middle
of the word.
-/

namespace TextGrammar

open Attempt

namespace Text

/-- Why a source is refused: all of it is the beginning of `short`, so that there is too little of it, or
something else stands in it. -/
def missKind (short source : Text) : FailureKind :=
  if source <+: short then .emptyInput else .mismatch

variable {word source : Text}

/-- A word of one point has no middle in which the input could end. -/
theorem miss_kind_single {point : CodePoint} (missing : ¬ [point] <+: source) :
    missKind [point] source = missKind [] source := by
  cases source with
  | nil => simp [missKind]
  | cons head text =>
      have differ : head ≠ point := by
        rintro rfl
        exact missing ⟨text, rfl⟩
      simp [missKind, differ]

theorem miss_kind_behind (word later middle : Text) :
    missKind (word ++ later) (word ++ middle) = missKind later middle := by
  simp only [missKind, List.prefix_append_right_inj]

/-- Where the word is missing it is of no account what would come behind it. -/
theorem miss_kind_in_front (missing : ¬ word <+: source) (later : Text) :
    missKind (word ++ later) source = missKind word source := by
  have within : source <+: word ++ later ↔ source <+: word := by
    constructor
    · intro inside
      exact (List.prefix_or_prefix_of_prefix inside (List.prefix_append word later)).resolve_right missing
    · exact fun inside => inside.trans (List.prefix_append word later)
  simp only [missKind, within]

end Text

/-- Takes the word where it stands in front, with the one value, and refuses all other sources. Too little
input is what the beginnings of `short` are refused for. -/
structure Attempt.ReadsWord (word short : Text) (value : Value) (attempt : Attempt Text) : Prop where
  takes : ∀ rest, attempt.Yields (word ++ rest) value rest
  refuses : ∀ source, ¬ word <+: source → attempt.Refuses source (Text.missKind short source)

namespace Attempt.ReadsWord

variable {attempt one two first second : Attempt Text} {word later short source rest : Text}
  {value other given : Value} {point : CodePoint}

theorem yields_iff (reads : attempt.ReadsWord word short value) :
    attempt.Yields source given rest ↔ given = value ∧ source = word ++ rest := by
  constructor
  · intro yields
    by_cases leads : word <+: source
    · obtain ⟨left, rfl⟩ := leads
      obtain ⟨rfl, rfl⟩ := yields.unique (reads.takes left)
      exact ⟨rfl, rfl⟩
    · exact absurd (reads.refuses source leads) yields.not_refuses
  · rintro ⟨rfl, rfl⟩
    exact reads.takes rest

theorem same_gist (reads : one.ReadsWord word short value) (readsToo : two.ReadsWord word short value) :
    one.SameGist two := by
  intro source
  by_cases leads : word <+: source
  · obtain ⟨rest, rfl⟩ := leads
    rw [reads.takes rest, readsToo.takes rest]
  · obtain ⟨words, refused⟩ := reads.refuses source leads
    obtain ⟨others, refusedToo⟩ := readsToo.refuses source leads
    rw [refused, refusedToo]
    rfl

theorem of_single (reads : attempt.ReadsWord [point] [] value) : attempt.ReadsWord [point] [point] value where
  takes := reads.takes
  refuses source missing := by
    rw [Text.miss_kind_single missing]
    exact reads.refuses source missing

theorem followed_by (begins : first.ReadsWord word word value) (ends : second.ReadsWord later later other) :
    (first.followedBy second).ReadsWord (word ++ later) (word ++ later) (.tuple [value, other]) where
  takes rest := by
    rw [List.append_assoc]
    exact (begins.takes (later ++ rest)).followed_by (ends.takes rest)
  refuses source missing := by
    by_cases leads : word <+: source
    · obtain ⟨middle, rfl⟩ := leads
      rw [List.prefix_append_right_inj] at missing
      rw [Text.miss_kind_behind]
      exact (begins.takes middle).followed_by_refusal (ends.refuses middle missing)
    · rw [Text.miss_kind_in_front leads]
      exact (begins.refuses source leads).followed_by

end Attempt.ReadsWord

namespace Grammar

variable {meaning : Reference → Attempts}

theorem character_reads (point : CodePoint) :
    ((character point).attempt meaning .text).ReadsWord [point] [] (.text [point]) where
  takes := character_yields point
  refuses source missing := by
    cases source with
    | nil => exact character_refuses_nothing point
    | cons head text =>
        have differ : head ≠ point := by
          rintro rfl
          exact missing ⟨text, rfl⟩
        exact character_refuses differ text

theorem literal_reads (word : Word) :
    ((literal word).attempt meaning .text).ReadsWord word.text [] (.text word.text) where
  takes := literal_yields word
  refuses source missing := by
    change ∃ words, pure (Primitive.matchLiteral word source) = _
    cases source with
    | nil => exact ⟨_, rfl⟩
    | cons head text =>
        have absent : Text.after? word.text (head :: text) = none := by
          rw [Option.eq_none_iff_forall_ne_some]
          intro rest found
          exact missing ⟨rest, (Text.after_eq_some.mp found).symm⟩
        simp only [Primitive.matchLiteral, absent]
        exact ⟨_, rfl⟩

theorem of_word_reads (word : Word) :
    ((ofWord word).attempt meaning .text).ReadsWord word.text [] (.text word.text) := by
  unfold ofWord
  split
  · rename_i point single
    rw [single]
    exact character_reads point
  · exact literal_reads word

/-- However the points of a text are bracketed, they read it one after another. -/
theorem points_read {text : Text} (chain : Bracketing) (row : chain.row = text.map character) :
    ∃ value, value.flatten? = some text ∧
      (chain.grammar.attempt meaning .text).ReadsWord text text value := by
  induction chain generalizing text with
  | single grammar =>
      obtain ⟨point, rfl, rfl⟩ := List.map_eq_singleton_iff.mp row.symm
      exact ⟨.text [point], rfl, (character_reads point).of_single⟩
  | pair first second induction inductionToo =>
      obtain ⟨front, back, rfl, begins, ends⟩ := List.map_eq_append_iff.mp row.symm
      obtain ⟨one, flat, reads⟩ := induction begins.symm
      obtain ⟨two, flatToo, readsToo⟩ := inductionToo ends.symm
      exact ⟨.tuple [one, two], Value.flatten_pair flat flatToo, reads.followed_by readsToo⟩

/-- The grammars that a bound or a separator comes to, given as a text and as the literal of that text, or
given as a grammar both times. -/
inductive GivenAlike : Grammar → Grammar → Prop
  | grammar (given : Grammar) : GivenAlike given given
  | text {points : Text} {promoted written : Grammar} (promotes : (Part.text points).toGrammar = .ok promoted)
      (builds : literal? points = .ok written) : GivenAlike promoted written

/-- Every word can be given in both ways. -/
theorem GivenAlike.of_word (word : Word) : (ofWord word).GivenAlike (literal word) := by
  have same : Word.ofText? word.text = some word := dif_pos word.nonempty
  have promotes : (Part.text word.text).toGrammar = .ok (ofWord word) := by simp only [Part.toGrammar, same]
  have builds : literal? word.text = .ok (literal word) := by simp only [literal?, same]
  exact .text promotes builds

variable {one two other others : Grammar}

theorem GivenAlike.same_gist (alike : one.GivenAlike two) (meaning : Reference → Attempts) :
    (one.attempt meaning .text).SameGist (two.attempt meaning .text) := by
  cases alike with
  | grammar => exact .refl _
  | @text points _ _ promotes builds =>
      cases found : Word.ofText? points with
      | none => exact absurd promotes (by simp [Part.toGrammar, found])
      | some word =>
          simp only [Part.toGrammar, literal?, found] at promotes builds
          obtain rfl := Except.ok.inj promotes
          obtain rfl := Except.ok.inj builds
          exact (of_word_reads word).same_gist (literal_reads word)

theorem between_same_gist (alike : one.GivenAlike two) (alikeToo : other.GivenAlike others) (content : Grammar) :
    ((between one content other).attempt meaning .text).SameGist
      ((between two content others).attempt meaning .text) :=
  (((alike.same_gist meaning).followed_by (.refl _)).followed_by (alikeToo.same_gist meaning)).map _

theorem split_same_gist (alike : one.GivenAlike two) (left right : Grammar) :
    ((split left one right).attempt meaning .text).SameGist ((split left two right).attempt meaning .text) :=
  (((SameGist.refl _).followed_by (alike.same_gist meaning)).map _).followed_by (.refl _)

/-- A text means the same in the place of a grammar, however long it is. Its literal takes exactly what its
points take one after another, and the values of these make it up. Only the kinds of their failures differ,
where the source ends in the middle of the text, and with a single point there is no such middle. So it makes
no difference to bounds and separators whether a text or its literal is given. -/
theorem promoted_text_is_literal (meaning : Reference → Attempts) (source : Text) :
    (∀ (word : Word) (chain : Bracketing), chain.row = word.text.map character →
      (∀ rest, (∃ value, ((literal word).attempt meaning .text).Yields source value rest) ↔
        ∃ value, (chain.grammar.attempt meaning .text).Yields source value rest) ∧
      (∀ value rest, ((literal word).attempt meaning .text).Yields source value rest ↔
        value = .text word.text ∧ source = word.text ++ rest) ∧
      (∀ value rest, (chain.grammar.attempt meaning .text).Yields source value rest →
        value.flatten? = some word.text) ∧
      (¬ word.text <+: source →
        ((literal word).attempt meaning .text).Refuses source (Text.missKind [] source) ∧
          (chain.grammar.attempt meaning .text).Refuses source (Text.missKind word.text source))) ∧
    (∀ (word : Word) (point : CodePoint), word.text = [point] →
      Outcome.gist <$> (character point).attempt meaning .text source =
        Outcome.gist <$> (literal word).attempt meaning .text source) ∧
    ∀ one two : Grammar, one.GivenAlike two →
      (∀ content other others : Grammar, other.GivenAlike others →
        Outcome.gist <$> (between one content other).attempt meaning .text source =
          Outcome.gist <$> (between two content others).attempt meaning .text source) ∧
      (∀ left right : Grammar,
        Outcome.gist <$> (split left one right).attempt meaning .text source =
          Outcome.gist <$> (split left two right).attempt meaning .text source) ∧
      ∀ (element : Grammar) (atLeastOne : Bool),
        Outcome.gist <$> ((element.separatedBy one atLeastOne).attempt meaning .text source).result =
          Outcome.gist <$> ((element.separatedBy two atLeastOne).attempt meaning .text source).result := by
  refine ⟨?_, ?_, ?_⟩
  · intro word chain row
    have reads : ((literal word).attempt meaning .text).ReadsWord word.text [] (.text word.text) :=
      literal_reads word
    obtain ⟨value, flat, readsToo⟩ : ∃ value, value.flatten? = some word.text ∧
        (chain.grammar.attempt meaning .text).ReadsWord word.text word.text value := points_read chain row
    refine ⟨?_, fun _ _ => reads.yields_iff, ?_, ?_⟩
    · intro rest
      simp only [reads.yields_iff, readsToo.yields_iff, exists_eq_left]
    · intro given rest yields
      rw [(readsToo.yields_iff.mp yields).1, flat]
    · exact fun missing => ⟨reads.refuses source missing, readsToo.refuses source missing⟩
  · intro word point single
    have reads : ((character point).attempt meaning .text).ReadsWord word.text [] (.text word.text) := by
      rw [single]
      exact character_reads point
    exact reads.same_gist (literal_reads word) source
  · intro one two alike
    exact ⟨fun content _ _ alikeToo => between_same_gist alike alikeToo content source,
      fun left right => split_same_gist alike left right source,
      fun element atLeastOne => Repetition.repeated_gist _ _ (alike.same_gist meaning) _ atLeastOne source⟩

/-- The source ends in the middle of the word, where the literal and the points give different reasons, and
in front of the closing bracket, where a text and its literal give the same. -/
theorem unfinished_words_are_refused :
    let word : Word := ⟨Text.ofString "ab", by decide⟩
    let chain : Bracketing := .pair (.single (character 'a')) (.single (character 'b'))
    let opening : Word := ⟨Text.ofString "(", by decide⟩
    let closing : Word := ⟨Text.ofString ")", by decide⟩
    chain.row = word.text.map character ∧ ¬ word.text <+: Text.ofString "a" ∧
      ((literal word).runWithin 0 Scope.provided).Refuses (Text.ofString "a") .mismatch ∧
      (chain.grammar.runWithin 0 Scope.provided).Refuses (Text.ofString "a") .emptyInput ∧
      opening.text = ['('] ∧
      Outcome.gist <$> (literal opening).runWithin 0 Scope.provided (Text.ofString "(42") =
        pure (.ok (.text ['('], Text.ofString "42")) ∧
      (character '(').GivenAlike (literal opening) ∧ (character ')').GivenAlike (literal closing) ∧
      Outcome.gist <$> (between (literal opening) (integer none) (literal closing)).runWithin 0 Scope.provided
        (Text.ofString "(42") = pure (.error .emptyInput) := by
  intro word chain opening closing
  have tells := promoted_text_is_literal (Scope.provided.meaning 0)
  have missing : ¬ word.text <+: Text.ofString "a" := by decide
  have refused := ((tells (Text.ofString "a")).1 word chain rfl).2.2.2 missing
  have begins : (character '(').GivenAlike (literal opening) := .of_word opening
  have ends : (character ')').GivenAlike (literal closing) := .of_word closing
  have single := (tells (Text.ofString "(42")).2.1 opening '(' rfl
  have bounds := ((tells (Text.ofString "(42")).2.2 _ _ begins).1 (integer none) _ _ ends
  exact ⟨rfl, missing, refused.1, refused.2, rfl, single.symm, begins, ends, bounds.symm⟩

end Grammar

end TextGrammar
