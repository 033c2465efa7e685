import TextGrammar.Proofs.LateBinding
import TextGrammar.Proofs.NestedArray.Language

/-!
The grammar of nested arrays reads its language. It is made around a placeholder and then
given to that placeholder as its definition. An array inside another one begins behind an
opening bracket, so the induction is on the budget, one of which an element costs.
-/

namespace TextGrammar

open Traced Attempt

theorem ends_digits_of_open_square (rest : Text) : EndsDigits (openSquare :: rest) :=
  Grammar.head_holds (by decide)

theorem ends_digits_of_close_square (rest : Text) : EndsDigits (closeSquare :: rest) :=
  Grammar.head_holds (by decide)

theorem ends_digits_of_comma (rest : Text) : EndsDigits (comma :: rest) :=
  Grammar.head_holds (by decide)

namespace Grammar

/-- Elements between square brackets, with commas between them and perhaps one behind the last. -/
def array (element : Grammar) : Grammar :=
  between (character openSquare) (element.separatedBy (character comma) false) (character closeSquare)

/-- A whole number or an array of elements. -/
def numberOrArray (element : Grammar) : Grammar := ((integer (some .int64)).either (array element)).map .unwrap

section

variable {meaning : Reference → Attempts} {element : Grammar} {source rest : Text} {values : List Value}
  {stop : Stop}

/-- The run of the elements. -/
def elementsRun (meaning : Reference → Attempts) (element : Grammar) (source : Text) : Traced (Repetition Text) :=
  Repetition.run Medium.text.size (element.attempt meaning .text)
    (some ((character comma).attempt meaning .text)) source

theorem elements_yield (answered : elementsRun meaning element source = pure ⟨values, rest, stop⟩)
    (counted : stop ≠ .stalled) :
    ((element.separatedBy (character comma) false).attempt meaning .text).Yields source (.list values) rest :=
  Repetition.repeated_yields answered counted

theorem array_yields (answered : elementsRun meaning element source = pure ⟨values, closeSquare :: rest, stop⟩)
    (counted : stop ≠ .stalled) :
    ((array element).attempt meaning .text).Yields (openSquare :: source) (.list values) rest :=
  between_yields (character_yields openSquare source) (elements_yield answered counted)
    (character_yields closeSquare rest)

theorem array_refuses_other (absent : ∀ point ∈ source.head?, point ≠ openSquare) :
    ∃ kind, ((array element).attempt meaning .text).Refuses source kind := by
  obtain ⟨kind, refuses⟩ := character_refuses_other absent
  exact ⟨kind, between_refuses_open refuses⟩

theorem array_refuses_closing (answered : elementsRun meaning element source = pure ⟨values, rest, stop⟩)
    (counted : stop ≠ .stalled) (unclosed : ∀ point ∈ rest.head?, point ≠ closeSquare) :
    ∃ kind, ((array element).attempt meaning .text).Refuses (openSquare :: source) kind := by
  obtain ⟨kind, refuses⟩ := character_refuses_other unclosed
  exact ⟨kind, between_refuses_close (character_yields openSquare source) (elements_yield answered counted) refuses⟩

theorem number_or_array_yields_number {digits : Text} (numeral : WholeNumeral (some .int64) digits)
    (boundary : EndsDigits rest) :
    ((numberOrArray element).attempt meaning .text).Yields (digits ++ rest)
      (.int (Numeral.positional digits)) rest :=
  (integer_yields numeral boundary).either.map rfl

theorem number_or_array_yields_array {value : Value}
    (numberRefuses : ∃ kind, ((integer (some .int64)).attempt meaning .text).Refuses source kind)
    (yields : ((array element).attempt meaning .text).Yields source value rest) :
    ((numberOrArray element).attempt meaning .text).Yields source value rest := by
  obtain ⟨kind, refuses⟩ := numberRefuses
  exact (refuses.either yields).map rfl

theorem number_or_array_refuses
    (numberRefuses : ∃ kind, ((integer (some .int64)).attempt meaning .text).Refuses source kind)
    (arrayRefuses : ∃ kind, ((array element).attempt meaning .text).Refuses source kind) :
    ((numberOrArray element).attempt meaning .text).Refuses source .exhausted := by
  obtain ⟨kind, refuses⟩ := numberRefuses
  obtain ⟨other, refusesToo⟩ := arrayRefuses
  exact (refuses.either_refusal refusesToo).map

theorem number_or_array_refuses_close (rest : Text) :
    ((numberOrArray element).attempt meaning .text).Refuses (closeSquare :: rest) .exhausted := by
  apply number_or_array_refuses (integer_refuses_other (ends_digits_of_close_square rest))
  exact array_refuses_other (head_holds (by decide))

/-- A text of the language that is no number. -/
def WrittenList (text : Text) (value : Value) : Prop :=
  WrittenArray text value ∧ ∀ number, value ≠ .int number

theorem array_reads {bound : Nat}
    (elements : ∀ source : Text, source.length ≤ bound → (element.attempt meaning .text).Reads WrittenArray source)
    (source : Text) (short : source.length ≤ bound + 1) :
    ((array element).attempt meaning .text).Reads WrittenList source := by
  have gaps : ∀ source, ((character comma).attempt meaning .text).Reads (fun space _ => space = [comma]) source := by
    intro source
    by_cases begins : ∃ text : Text, source = comma :: text
    · obtain ⟨text, rfl⟩ := begins
      exact Or.inl ⟨[comma], _, text, rfl, rfl, character_yields comma text⟩
    · exact Or.inr (character_refuses_other (head_differs begins))
  by_cases opened : ∃ text : Text, source = openSquare :: text
  · obtain ⟨text, rfl⟩ := opened
    have shortText : text.length ≤ bound := by simpa using short
    obtain ⟨values, rest, stop, answered, counted, found⟩ :=
      Repetition.run_reads_items WrittenArray.nonempty elements gaps text shortText
    by_cases closed : ∃ after : Text, rest = closeSquare :: after
    · obtain ⟨after, rfl⟩ := closed
      have yields := array_yields answered counted
      rcases found with ⟨rfl, rfl⟩ | ⟨listed, trailing, rfl, written, ended⟩
      · exact Or.inl ⟨_, _, after, rfl, ⟨.empty, by simp⟩, yields⟩
      · exact Or.inl ⟨_, _, after, by simp, ⟨.list written ended, by simp⟩, yields⟩
    · exact Or.inr (array_refuses_closing answered counted (head_differs closed))
  · exact Or.inr (array_refuses_other (head_differs opened))

end

section

variable {scope : Scope} {value : Reference} (knows : scope value = .ok (numberOrArray (deferred value)))

include knows

theorem element_is_definition (budget : Nat) :
    (deferred value).attempt (scope.meaning (budget + 1)) .text =
      (numberOrArray (deferred value)).attempt (scope.meaning budget) .text := by
  simp only [attempt, Scope.meaning_of_definition knows]

theorem nested_array_reads (budget : Nat) (source : Text) (short : source.length ≤ budget) :
    (∃ text found rest, source = text ++ rest ∧ WrittenArray text found ∧ EndsArray found rest ∧
      ((numberOrArray (deferred value)).attempt (scope.meaning budget) .text).Yields source found rest) ∨
    ((numberOrArray (deferred value)).attempt (scope.meaning budget) .text).Refuses source .exhausted := by
  induction budget generalizing source with
  | zero =>
      obtain rfl := List.length_eq_zero_iff.mp (Nat.le_zero.mp short)
      have nothing : EndsDigits [] := by simp [EndsDigits]
      exact Or.inr (number_or_array_refuses (integer_refuses_other nothing) (array_refuses_other (by simp)))
  | succ budget induction =>
      rcases integer_answers source with ⟨digits, rest, rfl, numeral, boundary⟩ | numberRefuses
      · exact Or.inl ⟨digits, _, rest, rfl, .number numeral, fun _ _ => boundary,
          number_or_array_yields_number numeral boundary⟩
      · have elements : ∀ source : Text, source.length ≤ budget →
            ((deferred value).attempt (scope.meaning (budget + 1)) .text).Reads WrittenArray source := by
          intro source short
          rw [element_is_definition knows]
          rcases induction source short with ⟨text, found, rest, parts, written, _, yields⟩ | refuses
          · exact Or.inl ⟨text, found, rest, parts, written, yields⟩
          · exact Or.inr ⟨.exhausted, refuses⟩
        rcases array_reads elements source short with
          ⟨text, found, rest, parts, ⟨written, noNumber⟩, yields⟩ | arrayRefuses
        · exact Or.inl ⟨text, found, rest, parts, written, fun number same => absurd same (noNumber number),
            number_or_array_yields_array numberRefuses yields⟩
        · exact Or.inr (number_or_array_refuses numberRefuses arrayRefuses)

theorem written_list_yields {budget : Nat} {listed trailing : Text} {items : List Value}
    (elements : ∀ text item rest, WrittenArray text item → text.length ≤ budget → EndsDigits rest →
      ((numberOrArray (deferred value)).attempt (scope.meaning budget) .text).Yields (text ++ rest) item rest)
    (written : Separated (· = [comma]) WrittenArray listed items) (ended : trailing = [] ∨ trailing = [comma])
    (short : listed.length ≤ budget) (rest : Text) :
    ((array (deferred value)).attempt (scope.meaning (budget + 1)) .text).Yields
      (openSquare :: (listed ++ (trailing ++ closeSquare :: rest))) (.list items) rest := by
  have gaps : ∀ space text item later, space = [comma] → WrittenArray text item →
      EndsDigits (space ++ (text ++ later)) ∧ ∃ skipped,
        ((character comma).attempt (scope.meaning (budget + 1)) .text).Yields (space ++ (text ++ later)) skipped
          (text ++ later) := by
    rintro space text item later rfl _
    exact ⟨ends_digits_of_comma _, _, character_yields comma _⟩
  have follows : EndsDigits (trailing ++ closeSquare :: rest) := by
    rcases ended with rfl | rfl
    · exact ends_digits_of_close_square rest
    · exact ends_digits_of_comma _
  have stops : (trailing = [] ∧
        ∃ kind, ((character comma).attempt (scope.meaning (budget + 1)) .text).Refuses (closeSquare :: rest) kind) ∨
      (∃ skipped, ((character comma).attempt (scope.meaning (budget + 1)) .text).Yields
        (trailing ++ closeSquare :: rest) skipped (closeSquare :: rest)) ∧
      ∃ kind, ((numberOrArray (deferred value)).attempt (scope.meaning budget) .text).Refuses
        (closeSquare :: rest) kind := by
    rcases ended with rfl | rfl
    · exact Or.inl ⟨rfl, character_refuses_other (head_holds (by decide))⟩
    · exact Or.inr ⟨⟨_, character_yields comma _⟩, .exhausted, number_or_array_refuses_close rest⟩
  obtain ⟨stop, answered, counted⟩ :=
    Repetition.run_of_items WrittenArray.nonempty elements gaps follows stops written short
  rw [← element_is_definition knows] at answered
  exact array_yields answered counted

theorem written_array_yields (budget : Nat) (text : Text) (found : Value) (rest : Text)
    (written : WrittenArray text found) (short : text.length ≤ budget) (follows : EndsArray found rest) :
    ((numberOrArray (deferred value)).attempt (scope.meaning budget) .text).Yields (text ++ rest) found rest := by
  induction budget generalizing text found rest with
  | zero => exact absurd (List.length_eq_zero_iff.mp (Nat.le_zero.mp short)) (written.nonempty _ _)
  | succ budget induction =>
      cases written with
      | number numeral => exact number_or_array_yields_number numeral (follows _ rfl)
      | empty =>
          have closing : ((deferred value).attempt (scope.meaning (budget + 1)) .text).Refuses
              (closeSquare :: rest) .exhausted := by
            rw [element_is_definition knows]
            exact number_or_array_refuses_close rest
          obtain ⟨failure, answered⟩ := Repetition.run_of_refusal closing
          exact number_or_array_yields_array (integer_refuses_other (ends_digits_of_open_square _))
            (array_yields answered (by simp))
      | @list listed trailing items written ended =>
          have shorter : listed.length ≤ budget := by
            simp only [List.length_cons, List.length_append] at short
            omega
          have elements : ∀ text item rest, WrittenArray text item → text.length ≤ budget → EndsDigits rest →
              ((numberOrArray (deferred value)).attempt (scope.meaning budget) .text).Yields (text ++ rest) item
                rest := by
            intro text item rest written short boundary
            exact induction text item rest written short fun _ _ => boundary
          have yields := written_list_yields knows elements written ended shorter rest
          simp only [List.cons_append, List.append_assoc, List.nil_append]
          exact number_or_array_yields_array (integer_refuses_other (ends_digits_of_open_square _)) yields

end

end Grammar

/-- Nested arrays are made around a placeholder and are then its definition, and anything else may
be done before and afterwards. -/
def Session.withArrays (session : Session) (variableName name : String) (steps : List Step) : Session :=
  session.after (.forward variableName name ::
    .define variableName (Grammar.numberOrArray (session.placeholder name)) :: steps)

namespace Grammar

/-- The placeholder reads from the front of a text exactly the nested arrays that stand there, and fails on a
text that begins with none. What is printed without spaces is read back. -/
theorem nested_arrays_are_read (session : Session) (variableName name : String) (steps : List Step)
    (source : Text) (budget : Nat) (enough : source.length < budget) :
    (∀ found rest, (session.placeholder name).runWithin budget (session.withArrays variableName name steps).scope
        source = pure (.matched found rest) ↔
      ∃ text, source = text ++ rest ∧ WrittenArray text found ∧ EndsArray found rest) ∧
    ((∃ text found rest, source = text ++ rest ∧ WrittenArray text found ∧ EndsArray found rest) ∨
      ∃ words, (session.placeholder name).runWithin budget (session.withArrays variableName name steps).scope
        source = pure (.failed (.saying words .exhausted))) ∧
    ∀ found, NestedNumbers found → Text.compact found.print = source →
      (session.placeholder name).runWithin budget (session.withArrays variableName name steps).scope
        source = pure (.matched found []) := by
  obtain ⟨budget, rfl⟩ : ∃ less, budget = less + 1 := ⟨budget - 1, by omega⟩
  have short : source.length ≤ budget := Nat.le_of_lt_succ enough
  have knows : (session.withArrays variableName name steps).scope
      (.placeholder session.definitions.length name) = .ok (numberOrArray (session.placeholder name)) := by
    simp only [Session.scope, Session.withArrays, Session.definition_of_forward_define]
  have unfolded : (session.placeholder name).runWithin (budget + 1)
      (session.withArrays variableName name steps).scope = _ := element_is_definition knows budget
  have answers := nested_array_reads knows budget source short
  have reads : ∀ text found rest, source = text ++ rest → WrittenArray text found → EndsArray found rest →
      (session.placeholder name).runWithin (budget + 1) (session.withArrays variableName name steps).scope
        source = pure (.matched found rest) := by
    rintro text found rest rfl written follows
    rw [unfolded]
    refine written_array_yields knows budget text found rest written ?_ follows
    simp only [List.length_append] at short
    omega
  refine ⟨?_, ?_, ?_⟩
  · intro found rest
    constructor
    · intro matched
      rw [unfolded] at matched
      rcases answers with ⟨text, read, left, parts, written, follows, yields⟩ | ⟨words, refused⟩
      · obtain ⟨rfl, rfl⟩ := Outcome.matched.inj (Traced.pure_injective (yields.symm.trans matched))
        exact ⟨text, parts, written, follows⟩
      · exact absurd (Traced.pure_injective (refused.symm.trans matched)) (by simp)
    · rintro ⟨text, parts, written, follows⟩
      exact reads text found rest parts written follows
  · rcases answers with ⟨text, found, rest, parts, written, follows, _⟩ | ⟨words, refused⟩
    · exact Or.inl ⟨text, found, rest, parts, written, follows⟩
    · rw [unfolded]
      exact Or.inr ⟨words, refused⟩
  · rintro found nested printed
    have whole : EndsArray found [] := fun _ _ => by simp [EndsDigits]
    exact reads _ found [] (by simp [printed]) nested.printed_is_written whole

def nestedNumbers : Value := .list [.int 1, .list [.int 2, .int 3], .int 4, .int 5]

theorem nested_numbers_nested : NestedNumbers nestedNumbers := by
  have number (digit : Fin 10) : NestedNumbers (.int digit.val) :=
    .int ((by decide : ∀ digit : Fin 10, (digit.val : Int) ≤ int64Max) digit)
  have inner : NestedNumbers (.list [.int 2, .int 3]) :=
    .list (List.forall_mem_cons.mpr ⟨number 2, List.forall_mem_singleton.mpr (number 3)⟩)
  have others : ∀ item ∈ [Value.int 4, .int 5], NestedNumbers item :=
    List.forall_mem_cons.mpr ⟨number 4, List.forall_mem_singleton.mpr (number 5)⟩
  exact .list (List.forall_mem_cons.mpr ⟨number 1, List.forall_mem_cons.mpr ⟨inner, others⟩⟩)

theorem printed_array_is_read_back :
    NestedNumbers nestedNumbers ∧ Text.compact nestedNumbers.print = Text.ofString "[1,[2,3],4,5]" ∧
      (Text.ofString "[1,[2,3],4,5]").length < 14 ∧
      (Session.empty.placeholder "value").runWithin 14 (Session.empty.withArrays "value" "value" []).scope
        (Text.ofString "[1,[2,3],4,5]") = pure (.matched nestedNumbers []) := by
  have printed : Text.compact nestedNumbers.print = Text.ofString "[1,[2,3],4,5]" := by decide
  have short : (Text.ofString "[1,[2,3],4,5]").length < 14 := by decide
  have read := nested_arrays_are_read Session.empty "value" "value" [] _ 14 short
  exact ⟨nested_numbers_nested, printed, short, read.2.2 nestedNumbers nested_numbers_nested printed⟩

end Grammar

end TextGrammar
