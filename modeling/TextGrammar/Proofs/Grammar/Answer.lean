import TextGrammar.Grammar.Combinator
import TextGrammar.Proofs.Attempt.Answer

/-!
How primitives and derived combinators answer on a text. What a reference means
plays no part in it, and nothing is logged.
-/

namespace TextGrammar.Grammar

open Attempt

variable {meaning : Reference → Attempts} {kind : FailureKind}

theorem span_parts {property : CodePoint → Bool} (run rest : Text)
    (inside : ∀ point ∈ run, property point = true)
    (boundary : ∀ point ∈ rest.head?, property point = false) :
    (run ++ rest).takeWhile property = run ∧ (run ++ rest).dropWhile property = rest := by
  rw [List.takeWhile_append_of_pos inside, List.dropWhile_append_of_pos inside]
  cases rest with
  | nil => simp
  | cons point text => simp [boundary point rfl]

/-- Every text divides into its leading run of a property and the rest. -/
theorem exists_span (property : CodePoint → Bool) (source : Text) :
    ∃ run rest, source = run ++ rest ∧ (∀ point ∈ run, property point = true) ∧
      ∀ point ∈ rest.head?, property point = false := by
  induction source with
  | nil => exact ⟨[], [], rfl, by simp, by simp⟩
  | cons point text induction =>
      cases holds : property point with
      | false => exact ⟨[], point :: text, rfl, by simp, by simpa using holds⟩
      | true =>
          obtain ⟨run, rest, parts, inside, boundary⟩ := induction
          refine ⟨point :: run, rest, by rw [parts]; rfl, ?_, boundary⟩
          intro other member
          rcases List.mem_cons.mp member with rfl | later
          · exact holds
          · exact inside other later

theorem head_holds {property : CodePoint → Prop} {point : CodePoint} {text : Text}
    (holds : property point) : ∀ other ∈ (point :: text).head?, property other := by
  intro other first
  obtain rfl : point = other := by simpa using first
  exact holds

theorem head_differs {expected : CodePoint} {source : Text}
    (absent : ¬∃ text : Text, source = expected :: text) : ∀ point ∈ source.head?, point ≠ expected := by
  intro point first same
  cases source with
  | nil => exact absurd first (by simp)
  | cons head text =>
      obtain rfl : head = point := by simpa using first
      exact absent ⟨text, by rw [same]⟩

theorem character_yields (point : CodePoint) (rest : Text) :
    ((character point).attempt meaning .text).Yields (point :: rest) (.text [point]) rest := by
  change pure (Primitive.matchCharacter point (point :: rest)) = _
  simp only [Primitive.matchCharacter, if_true]

theorem character_refuses_nothing (point : CodePoint) :
    ((character point).attempt meaning .text).Refuses [] .emptyInput :=
  ⟨_, rfl⟩

theorem character_refuses {point expected : CodePoint} (differ : point ≠ expected) (rest : Text) :
    ((character expected).attempt meaning .text).Refuses (point :: rest) .mismatch := by
  change ∃ words, pure (Primitive.matchCharacter expected (point :: rest)) = _
  simp only [Primitive.matchCharacter, if_neg differ]
  exact ⟨_, rfl⟩

theorem character_refuses_other {expected : CodePoint} {source : Text}
    (absent : ∀ point ∈ source.head?, point ≠ expected) :
    ∃ kind, ((character expected).attempt meaning .text).Refuses source kind := by
  cases source with
  | nil => exact ⟨.emptyInput, character_refuses_nothing expected⟩
  | cons point text => exact ⟨.mismatch, character_refuses (absent point rfl) text⟩

theorem any_character_yields (point : CodePoint) (rest : Text) :
    (anyCharacter.attempt meaning .text).Yields (point :: rest) (.text [point]) rest := rfl

theorem any_character_refuses : (anyCharacter.attempt meaning .text).Refuses [] .emptyInput :=
  ⟨_, rfl⟩

theorem span_yields {members : CodePointClass} {run rest : Text} (nonempty : run ≠ [])
    (inside : ∀ point ∈ run, members.contains point = true)
    (boundary : ∀ point ∈ rest.head?, members.contains point = false) :
    ((span members).attempt meaning .text).Yields (run ++ rest) (.text run) rest := by
  change pure (Primitive.matchSpan members (run ++ rest)) = _
  obtain ⟨taken, left⟩ := span_parts run rest inside boundary
  simp only [Primitive.matchSpan, taken, left]
  rw [if_neg (by simpa using nonempty)]

theorem span_refuses {members : CodePointClass} {source : Text}
    (boundary : ∀ point ∈ source.head?, members.contains point = false) :
    ∃ kind, ((span members).attempt meaning .text).Refuses source kind := by
  have nothing := (span_parts [] source (by simp) boundary).1
  change ∃ kind words, pure (Primitive.matchSpan members source) = _
  simp only [List.nil_append] at nothing
  simp only [Primitive.matchSpan, nothing, List.isEmpty_nil, if_true]
  cases source with
  | nil => exact ⟨_, _, rfl⟩
  | cons point text => exact ⟨_, _, rfl⟩

theorem attempt_choice_of (first : Grammar) (others : List Grammar) :
    (choiceOf first others).attempt meaning .text =
      Attempt.choice ((first :: others).map fun grammar => grammar.attempt meaning .text) := by
  have alternatives : (first :: others).map (fun grammar => grammar.attempt meaning .text) =
      List.ofFn fun index => ((first :: others).get index).attempt meaning .text := by
    apply List.ext_getElem
    · simp
    · intro index _ _
      rw [List.getElem_map, List.getElem_ofFn]
      rfl
  exact congrArg Attempt.choice alternatives.symm

theorem choice_of_refuses {first : Grammar} {others : List Grammar} {source : Text}
    (refused : ∀ grammar ∈ first :: others, ∃ kind, (grammar.attempt meaning .text).Refuses source kind) :
    ((choiceOf first others).attempt meaning .text).Refuses source .exhausted := by
  rw [attempt_choice_of]
  apply choice_refuses
  intro attempt member
  obtain ⟨grammar, listed, rfl⟩ := List.mem_map.mp member
  exact refused grammar listed

theorem choice_of_yields {first grammar : Grammar} {others before after : List Grammar}
    {source rest : Text} {value : Value} (listed : first :: others = before ++ grammar :: after)
    (refused : ∀ other ∈ before, ∃ kind, (other.attempt meaning .text).Refuses source kind)
    (yields : (grammar.attempt meaning .text).Yields source value rest) :
    ((choiceOf first others).attempt meaning .text).Yields source value rest := by
  rw [attempt_choice_of, listed, List.map_append, List.map_cons]
  apply Yields.choice _ yields
  intro attempt member
  obtain ⟨other, earlier, rfl⟩ := List.mem_map.mp member
  exact refused other earlier

/-- A word begins with some point, and among single code points the order does not matter. -/
theorem attempt_one_of (meaning : Reference → Attempts) (word : Word) :
    ∃ first others, word.text = first :: others ∧
      (oneOf word).attempt meaning .text =
        (choiceOf (character first) (others.map character)).attempt meaning .text := by
  rcases word with ⟨_ | ⟨first, others⟩, nonempty⟩
  · exact absurd rfl nonempty
  · exact ⟨first, others, rfl, rfl⟩

theorem one_of_yields {word : Word} {point : CodePoint} (member : point ∈ word.text) (rest : Text) :
    ((oneOf word).attempt meaning .text).Yields (point :: rest) (.text [point]) rest := by
  obtain ⟨first, others, parts, same⟩ := attempt_one_of meaning word
  rw [parts] at member
  obtain ⟨before, after, split, absent⟩ := List.eq_append_cons_of_mem member
  have listed : character first :: others.map character =
      before.map character ++ character point :: after.map character := by
    rw [← List.map_cons, split, List.map_append, List.map_cons]
  rw [same]
  apply choice_of_yields listed _ (character_yields point rest)
  intro other earlier
  obtain ⟨expected, listed, rfl⟩ := List.mem_map.mp earlier
  have differ : point ≠ expected := fun equal => absent (equal ▸ listed)
  exact ⟨.mismatch, character_refuses differ rest⟩

theorem one_of_refuses {word : Word} {source : Text} (absent : ∀ point ∈ source.head?, point ∉ word.text) :
    ((oneOf word).attempt meaning .text).Refuses source .exhausted := by
  obtain ⟨first, others, parts, same⟩ := attempt_one_of meaning word
  rw [same]
  apply choice_of_refuses
  intro grammar member
  rw [← List.map_cons, ← parts] at member
  obtain ⟨expected, listed, rfl⟩ := List.mem_map.mp member
  exact character_refuses_other fun point first equal => absent point first (equal ▸ listed)

theorem map_constant_yields {grammar : Grammar} {source rest : Text} {value constant : Value}
    (yields : (grammar.attempt meaning .text).Yields source value rest) :
    ((grammar.mapConstant constant).attempt meaning .text).Yields source constant rest :=
  yields.map rfl

theorem map_constant_refuses {grammar : Grammar} {source : Text} {constant : Value}
    (refuses : (grammar.attempt meaning .text).Refuses source kind) :
    ((grammar.mapConstant constant).attempt meaning .text).Refuses source kind :=
  refuses.map

theorem join_texts {value : Value} {texts : List Text} (items : value.items? = some (texts.map .text)) :
    value.join = .ok texts.flatten := by
  simp only [Value.join, items, texts_from_texts]
  rfl

section

variable {first second third : Grammar} {source middle later rest : Text} {one two three : Value}

theorem preceded_by_yields (skips : (first.attempt meaning .text).Yields source one middle)
    (keeps : (second.attempt meaning .text).Yields middle two rest) :
    ((second.precededBy first).attempt meaning .text).Yields source two rest :=
  (skips.followed_by keeps).map rfl

theorem skipping_yields (keeps : (first.attempt meaning .text).Yields source one middle)
    (skips : (second.attempt meaning .text).Yields middle two rest) :
    ((first.skipping second).attempt meaning .text).Yields source one rest :=
  (keeps.followed_by skips).map rfl

theorem between_yields (opens : (first.attempt meaning .text).Yields source one middle)
    (reads : (second.attempt meaning .text).Yields middle two later)
    (closes : (third.attempt meaning .text).Yields later three rest) :
    ((between first second third).attempt meaning .text).Yields source two rest :=
  ((opens.followed_by reads).followed_by closes).map rfl

theorem between_refuses_open (refuses : (first.attempt meaning .text).Refuses source kind) :
    ((between first second third).attempt meaning .text).Refuses source kind :=
  refuses.followed_by.followed_by.map

theorem between_refuses_content (opens : (first.attempt meaning .text).Yields source one middle)
    (refuses : (second.attempt meaning .text).Refuses middle kind) :
    ((between first second third).attempt meaning .text).Refuses source kind :=
  (opens.followed_by_refusal refuses).followed_by.map

theorem between_refuses_close (opens : (first.attempt meaning .text).Yields source one middle)
    (reads : (second.attempt meaning .text).Yields middle two later)
    (refuses : (third.attempt meaning .text).Refuses later kind) :
    ((between first second third).attempt meaning .text).Refuses source kind :=
  ((opens.followed_by reads).followed_by_refusal refuses).map

end

end TextGrammar.Grammar
