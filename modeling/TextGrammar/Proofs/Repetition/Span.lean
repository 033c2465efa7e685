import TextGrammar.Proofs.Grammar.Answer
import TextGrammar.Proofs.Repetition.Needing
import TextGrammar.Scope

/-!
Spans as repetitions. A span scans a text for its leading points that pass a test, and a repetition of
single points that pass goes from one to the next in rounds of its own. Both take the leading run of such
points as a whole, and both fail where that run is empty.
-/

namespace TextGrammar

open Traced Attempt

/-- The longest run of points with the property at the head of the source, and what follows it. -/
structure LeadingRun (passes : CodePoint → Bool) (source run rest : Text) : Prop where
  nonempty : run ≠ []
  parts : source = run ++ rest
  inside : ∀ point ∈ run, passes point = true
  boundary : ∀ point ∈ rest.head?, passes point = false

/-- Takes the leading run, and fails without one. -/
structure Attempt.TakesRun (passes : CodePoint → Bool) (attempt : Attempt Text) : Prop where
  takes : ∀ source run rest, LeadingRun passes source run rest → attempt.Yields source (.text run) rest
  refuses : ∀ source, (∀ point ∈ source.head?, passes point = false) → ∃ kind, attempt.Refuses source kind

namespace Attempt.TakesRun

variable {passes : CodePoint → Bool} {attempt other : Attempt Text}

theorem answers (takesRun : TakesRun passes attempt) (source : Text) :
    (∃ run rest, LeadingRun passes source run rest ∧ attempt.Yields source (.text run) rest) ∨
      ∃ kind, attempt.Refuses source kind := by
  obtain ⟨run, rest, rfl, inside, boundary⟩ := Grammar.exists_span passes source
  by_cases nothing : run = []
  · subst nothing
    exact Or.inr (takesRun.refuses _ boundary)
  · have leads : LeadingRun passes (run ++ rest) run rest := ⟨nothing, rfl, inside, boundary⟩
    exact Or.inl ⟨run, rest, leads, takesRun.takes _ run rest leads⟩

theorem yields_iff (takesRun : TakesRun passes attempt) {source rest : Text} {value : Value} :
    attempt.Yields source value rest ↔ ∃ run, value = .text run ∧ LeadingRun passes source run rest := by
  constructor
  · intro yields
    rcases takesRun.answers source with ⟨run, left, leads, taken⟩ | ⟨kind, refuses⟩
    · obtain ⟨rfl, rfl⟩ := yields.unique taken
      exact ⟨run, rfl, leads⟩
    · exact absurd refuses yields.not_refuses
  · rintro ⟨run, rfl, leads⟩
    exact takesRun.takes source run rest leads

theorem refuses_alike (takesRun : TakesRun passes attempt) (takesToo : TakesRun passes other) {source : Text}
    (refused : ∃ kind, attempt.Refuses source kind) : ∃ kind, other.Refuses source kind := by
  rcases takesToo.answers source with ⟨run, rest, leads, _⟩ | refuses
  · obtain ⟨kind, refuses⟩ := refused
    exact absurd refuses (takesRun.takes source run rest leads).not_refuses
  · exact refuses

end Attempt.TakesRun

/-- What code points are tested with: a class, a predicate that may fault on other values or a grammar. -/
inductive PointTest where
  | ofClass (members : CodePointClass)
  | ofPredicate (predicate : Predicate)
  | ofGrammar (checker : Grammar)

namespace PointTest

/-- The longest span of code points that pass the test. -/
def span (description : Option String) : PointTest → Grammar
  | ofClass members => .span (members.described (description.getD members.description))
  | ofPredicate predicate => .spanWhere predicate description
  | ofGrammar checker => .spanMatching checker description

/-- A single code point that passes the test. -/
def passing : PointTest → Grammar
  | ofClass members => Grammar.anyCharacter.filter members.toPredicate
  | ofPredicate predicate => Grammar.anyCharacter.filter predicate
  | ofGrammar checker => Grammar.anyCharacter.filterMatching checker

/-- Code points that pass the test, one after another, joined to a text. -/
def joined (test : PointTest) : Grammar := (test.passing.many true).map .join

variable (meaning : Reference → Attempts)

def holds : PointTest → Value → Traced Bool
  | ofClass members, value => ofExcept (members.holds value)
  | ofPredicate predicate, value => ofExcept (predicate.holds value)
  | ofGrammar checker, value => return (← checker.attempt meaning .value value).isMatch

/-- The test has an answer for every code point and logs nothing. -/
def Decides (test : PointTest) (passes : CodePoint → Bool) : Prop :=
  ∀ point, test.holds meaning (.text [point]) = pure (passes point)

variable {meaning} {test : PointTest} {passes : CodePoint → Bool}

theorem leading_span_of_decided {holds : Value → Traced Bool}
    (decides : ∀ point, holds (.text [point]) = pure (passes point)) (source : Text) :
    Primitive.leadingSpan (fun point => holds (.text [point])) source =
      pure (source.takeWhile passes, source.dropWhile passes) := by
  induction source with
  | nil => rfl
  | cons point text induction =>
      rw [Primitive.leadingSpan, bind_of_pure (decides point)]
      cases passed : passes point with
      | false => simp [passed]
      | true =>
          simp only [if_true, bind_of_pure induction, List.takeWhile_cons_of_pos passed,
            List.dropWhile_cons_of_pos passed]

theorem span_of_decided_takes_run {holds : Value → Traced Bool}
    (decides : ∀ point, holds (.text [point]) = pure (passes point)) (description : String) :
    (Primitive.spanOf description holds .text).TakesRun passes where
  takes := by
    rintro _ run rest ⟨nonempty, rfl, inside, boundary⟩
    obtain ⟨taken, left⟩ := Grammar.span_parts run rest inside boundary
    have kept : run.isEmpty = false := by simpa using nonempty
    have spanned := leading_span_of_decided decides (run ++ rest)
    rw [taken, left] at spanned
    refine (bind_of_pure spanned _).trans ?_
    simp only [kept]
    rfl
  refuses := by
    intro source boundary
    have nothing := (Grammar.span_parts [] source (by simp) boundary).1
    have spanned := leading_span_of_decided decides source
    rw [List.nil_append] at nothing
    rw [nothing] at spanned
    cases source with
    | nil => exact ⟨.emptyInput, _, bind_of_pure spanned _⟩
    | cons point text => exact ⟨.mismatch, _, bind_of_pure spanned _⟩

theorem span_takes_run (decides : test.Decides meaning passes) (description : Option String) :
    ((test.span description).attempt meaning .text).TakesRun passes := by
  cases test with
  | ofClass members =>
      have same : members.contains = passes := by
        funext point
        have decided := decides point
        rw [holds, members.holds_single] at decided
        exact pure_injective decided
      subst same
      constructor
      · rintro _ run rest ⟨nonempty, rfl, inside, boundary⟩
        exact Grammar.span_yields nonempty inside boundary
      · intro source boundary
        exact Grammar.span_refuses boundary
  | ofPredicate predicate => exact span_of_decided_takes_run decides _
  | ofGrammar checker => exact span_of_decided_takes_run decides _

section

variable (decides : test.Decides meaning passes)

include decides

theorem passing_yields {point : CodePoint} (passed : passes point = true) (rest : Text) :
    (test.passing.attempt meaning .text).Yields (point :: rest) (.text [point]) rest := by
  have holds := (decides point).trans (congrArg pure passed)
  cases test <;> exact (Grammar.any_character_yields point rest).filter holds

theorem passing_refuses {point : CodePoint} (differs : passes point = false) (rest : Text) :
    (test.passing.attempt meaning .text).Refuses (point :: rest) .rejected := by
  have holds := (decides point).trans (congrArg pure differs)
  cases test <;> exact (Grammar.any_character_yields point rest).filter_refusal holds rfl

theorem passing_refuses_other {source : Text} (boundary : ∀ point ∈ source.head?, passes point = false) :
    ∃ kind, (test.passing.attempt meaning .text).Refuses source kind := by
  cases source with
  | nil =>
      refine ⟨.emptyInput, ?_⟩
      cases test <;> exact Grammar.any_character_refuses.filter
  | cons point text => exact ⟨.rejected, passing_refuses decides (boundary point rfl) text⟩

/-- One round for each point of the run, and a last one that fails. -/
theorem passing_rounds {run rest : Text} (inside : ∀ point ∈ run, passes point = true)
    (boundary : ∀ point ∈ rest.head?, passes point = false) :
    ∃ failure, Repetition.run Medium.text.size (test.passing.attempt meaning .text) none (run ++ rest) =
      pure ⟨Value.singleTexts run, rest, .failed failure⟩ := by
  induction run with
  | nil =>
      obtain ⟨kind, refuses⟩ := passing_refuses_other decides boundary
      exact Repetition.run_of_refusal refuses
  | cons point run induction =>
      obtain ⟨passed, others⟩ := List.forall_mem_cons.mp inside
      obtain ⟨failure, later⟩ := induction others
      have shorter : (run ++ rest).length < (point :: run ++ rest).length := by simp
      exact ⟨failure, Repetition.run_of_step (passing_yields decides passed (run ++ rest)) shorter later⟩

theorem joined_takes_run : (test.joined.attempt meaning .text).TakesRun passes where
  takes := by
    rintro _ run rest ⟨nonempty, rfl, inside, boundary⟩
    -- Each point was a value of its own, and joined they are the run again.
    obtain ⟨failure, course⟩ := passing_rounds decides inside boundary
    have counted : Value.singleTexts run ≠ [] := by simpa [Value.singleTexts] using nonempty
    have repeated : ((test.passing.many true).attempt meaning .text).Yields (run ++ rest)
        (.list (Value.singleTexts run)) rest := Repetition.needing_yields _ course (by simp) counted
    have single : Value.singleTexts run = (run.map fun point => [point]).map .text := by
      simp [Value.singleTexts]
    have joins : Value.join (.list (Value.singleTexts run)) = .ok run := by
      rw [single, Grammar.join_texts rfl, ← List.flatMap_def, List.flatMap_singleton']
    exact repeated.map (congrArg Traced.ofExcept (congrArg (Except.map Value.text) joins))
  refuses := by
    intro source boundary
    obtain ⟨kind, refuses⟩ := passing_refuses_other decides boundary
    exact ⟨kind, (Repetition.needing_refuses _ refuses).map⟩

end

/-- A span takes what a repetition of single points that pass takes, namely the leading run of them, and
the two fail on the same texts. On every text one or the other happens. -/
theorem span_is_repetition (meaning : Reference → Attempts) (test : PointTest) (description : Option String)
    (passes : CodePoint → Bool) (decides : test.Decides meaning passes) (source : Text) :
    (∀ value rest, ((test.span description).attempt meaning .text).Yields source value rest ↔
      (test.joined.attempt meaning .text).Yields source value rest) ∧
    (∀ value rest, ((test.span description).attempt meaning .text).Yields source value rest →
      ∃ run, value = .text run ∧ LeadingRun passes source run rest) ∧
    ((∃ kind, ((test.span description).attempt meaning .text).Refuses source kind) ↔
      ∃ kind, (test.joined.attempt meaning .text).Refuses source kind) ∧
    ((∃ value rest, ((test.span description).attempt meaning .text).Yields source value rest) ∨
      ∃ kind, ((test.span description).attempt meaning .text).Refuses source kind) := by
  have span := span_takes_run decides description
  have joined := joined_takes_run decides
  refine ⟨fun value rest => span.yields_iff.trans joined.yields_iff.symm, fun value rest => span.yields_iff.mp,
    ⟨span.refuses_alike joined, joined.refuses_alike span⟩, ?_⟩
  rcases span.answers source with ⟨run, rest, _, yields⟩ | refuses
  · exact Or.inl ⟨_, rest, yields⟩
  · exact Or.inr refuses

/-- A grammar may be the test as well. -/
theorem checked_points_are_spanned :
    (ofGrammar (Grammar.character 'a')).Decides (Scope.provided.meaning 0) (fun point => point = 'a') ∧
      (((ofGrammar (Grammar.character 'a')).span none).runWithin 0 Scope.provided).Yields (Text.ofString "aab")
        (.text (Text.ofString "aa")) (Text.ofString "b") := by
  have decides : (ofGrammar (Grammar.character 'a')).Decides (Scope.provided.meaning 0)
      (fun point => point = 'a') := by
    intro point
    change pure (Outcome.isMatch ((Primitive.matchCharacter 'a' [point]).mapRest Value.text)) = _
    by_cases same : point = 'a'
    · simp [Primitive.matchCharacter, same, Outcome.mapRest, Outcome.isMatch]
    · simp [Primitive.matchCharacter, same, Outcome.mapRest, Outcome.isMatch]
  have leads : LeadingRun (fun point => point = 'a') (Text.ofString "aab") (Text.ofString "aa")
      (Text.ofString "b") := ⟨by decide, by decide, by decide, by decide⟩
  have spans := span_is_repetition (Scope.provided.meaning 0) _ none _ decides (Text.ofString "aab")
  exact ⟨decides, (spans.1 _ _).mpr ((joined_takes_run decides).takes _ _ _ leads)⟩

end PointTest

end TextGrammar
