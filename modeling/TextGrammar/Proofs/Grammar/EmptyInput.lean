import TextGrammar.Proofs.Grammar.Bracketing
import TextGrammar.Proofs.Grammar.Answer
import TextGrammar.Proofs.Primitive.Failure
import TextGrammar.Proofs.Repetition.Needing
import TextGrammar.Proofs.Suffix

/-!
What the kind of a failure says about the text that was left. A primitive fails for want of input on the
empty text and on no other, and so does a repetition of primitives that needs a value. In a row of such
grammars the first one that fails decides, so the row fails for want of input exactly where the grammars
in front of another one took all that there was.
-/

namespace TextGrammar

open Traced

namespace Attempt

/-- Fails on the empty text for want of input, and on another text only because of what stands there. -/
structure AsksForInput (attempt : Attempt Text) : Prop where
  nothing : attempt.Refuses [] .emptyInput
  something : ∀ source failure, source ≠ [] →
    (attempt source).result = .ok (.failed failure) → failure.kind = .mismatch

theorem AsksForInput.repeated {element : Attempt Text} (asks : element.AsksForInput) (name : String)
    (separator : Option (Attempt Text)) :
    (Attempt.repeated name Medium.text.size element separator true).AsksForInput where
  nothing := Repetition.needing_refuses name asks.nothing
  something := by
    intro source failure some failed
    rcases Repetition.needing_failure failed with ⟨given, first, same⟩ | mismatch
    · rw [same]
      exact asks.something source given some first
    · exact mismatch

/-- The attempts in front of one of the row match one after another and leave nothing for it. -/
def RunsOut (attempts : List (Attempt Text)) (source : Text) : Prop :=
  ∃ count < attempts.length, ∃ values,
    (inOrder (attempts.take count) source).result = .ok (.ok (values, []))

section

variable {attempts : List (Attempt Text)} {source : Text} {failure : Failure}
  (ask : ∀ attempt ∈ attempts, attempt.AsksForInput)

include ask

theorem row_failure_kind (failed : (inOrder attempts source).result = .ok (.error failure)) :
    failure.kind = .emptyInput ∧ RunsOut attempts source ∨ failure.kind = .mismatch := by
  obtain ⟨before, failing, after, values, middle, rfl, begins, fails⟩ := in_order_failure failed
  have asks := ask failing (by simp)
  -- Whether the attempts in front left anything is all that the kind depends on.
  by_cases left : middle = []
  · subst left
    obtain ⟨words, refused⟩ := asks.nothing
    rw [refused] at fails
    obtain rfl := Outcome.failed.inj (result_pure_eq_ok.mp fails)
    refine Or.inl ⟨rfl, before.length, by simp, values, ?_⟩
    rw [List.take_left]
    exact begins
  · exact Or.inr (asks.something middle failure left fails)

theorem row_fails_of_runs_out (runsOut : RunsOut attempts source) :
    ∃ failure, (inOrder attempts source).result = .ok (.error failure) ∧ failure.kind = .emptyInput := by
  obtain ⟨count, inside, values, begins⟩ := runsOut
  obtain ⟨words, refused⟩ := (ask attempts[count] (List.getElem_mem inside)).nothing
  refine ⟨.saying words .emptyInput, ?_, rfl⟩
  -- The row is the part that runs out, and behind it the attempt that finds nothing.
  rw [← List.take_append_drop count attempts, in_order_append, result_bind_of_ok begins,
    List.drop_eq_getElem_cons inside, behindRow, inOrder, refused]
  rfl

end

end Attempt

namespace Primitive

theorem leaf_asks_for_input (leaf : Primitive) : (leaf.attempts .text).AsksForInput where
  nothing := by
    cases leaf with
    | textUpTo delimiter =>
        have absent : matchUpTo delimiter [] = .failed (noDelimiter delimiter []) := by
          simp only [matchUpTo, no_delimiter_in_nothing]
        exact ⟨_, congrArg pure absent⟩
    | textThrough delimiter =>
        have absent : matchThrough delimiter [] = .failed (noDelimiter delimiter []) := by
          simp only [matchThrough, no_delimiter_in_nothing]
        exact ⟨_, congrArg pure absent⟩
    | _ => exact ⟨_, rfl⟩
  something := by
    intro source failure some failed
    have same : leaf.attempt source = .failed failure := result_pure_eq_ok.mp failed
    cases leaf with
    | character expected =>
        obtain ⟨point, rest, rfl⟩ := List.exists_cons_of_ne_nil some
        rw [character_failure same]
        rfl
    | anyCharacter =>
        obtain ⟨point, rest, rfl⟩ := List.exists_cons_of_ne_nil some
        exact absurd same (by simp [attempt, matchAny])
    | span members =>
        rw [span_failure same]
        exact no_span_mismatch _ some
    | literal word =>
        rw [literal_failure some same]
        rfl
    | textUpTo delimiter =>
        rw [up_to_failure same]
        exact no_delimiter_mismatch delimiter some
    | textThrough delimiter =>
        rw [through_failure same]
        exact no_delimiter_mismatch delimiter some
    | integer bound => exact integer_mismatch some same

/-- Where there is no text, nothing is tested. -/
theorem span_of_asks_for_input (description : String) (test : Value → Traced Bool) :
    (spanOf description test .text).AsksForInput where
  nothing := ⟨_, rfl⟩
  something := by
    intro source failure some failed
    rw [tested_span_failure failed]
    exact no_span_mismatch description some

theorem unordered_asks_for_input (bound : Value) : (unordered bound .text).AsksForInput where
  nothing := ⟨_, rfl⟩
  something _ _ some failed := unordered_mismatch some (result_of_except_eq_ok.mp failed)

end Primitive

namespace Grammar

/-- Primitives with all that they can be given, under their own names or others. -/
inductive Leaf : Grammar → Prop
  | primitive (leaf : Primitive) : Leaf (primitive leaf)
  | spanWhere (predicate : Predicate) (description : Option String) : Leaf (.spanWhere predicate description)
  | spanMatching (checker : Grammar) (description : Option String) : Leaf (.spanMatching checker description)
  | integer {bound : Value} {grammar : Grammar} (built : integer? bound = .ok grammar) : Leaf grammar
  | named {grammar : Grammar} (leaf : Leaf grammar) (label : String) : Leaf (grammar.named label)

/-- Primitives, and repetitions of primitives that need a value. Between the values anything may stand. -/
inductive Link : Grammar → Prop
  | leaf {grammar : Grammar} (leaf : Leaf grammar) : Link grammar
  | many {element : Grammar} (leaf : Leaf element) : Link (element.many true)
  | separatedBy {element : Grammar} (leaf : Leaf element) (separator : Grammar) :
      Link (element.separatedBy separator true)
  | named {grammar : Grammar} (link : Link grammar) (label : String) : Link (grammar.named label)

variable {meaning : Reference → Attempts} {grammar : Grammar}

theorem Leaf.asks_for_input (leaf : Leaf grammar) : (grammar.attempt meaning .text).AsksForInput := by
  induction leaf with
  | primitive leaf => exact leaf.leaf_asks_for_input
  | spanWhere predicate description => exact Primitive.span_of_asks_for_input _ _
  | spanMatching checker description => exact Primitive.span_of_asks_for_input _ _
  | integer built =>
      rcases integer_cases built with ⟨limit, rfl⟩ | ⟨label, rfl⟩
      · exact Primitive.leaf_asks_for_input (.integer limit)
      · exact Primitive.unordered_asks_for_input _
  | named leaf label induction => exact induction

theorem Link.asks_for_input (link : Link grammar) : (grammar.attempt meaning .text).AsksForInput := by
  induction link with
  | leaf leaf => exact leaf.asks_for_input
  | many leaf => exact leaf.asks_for_input.repeated _ none
  | separatedBy leaf separator => exact leaf.asks_for_input.repeated _ (some _)
  | named link label induction => exact induction

end Grammar

namespace Bracketing

theorem fails_iff_row_fails (bracketing : Bracketing) (meaning : Reference → Attempts) (medium : Medium)
    (source : medium.Source) (failure : Failure) :
    (bracketing.grammar.attempt meaning medium source).result = .ok (.failed failure) ↔
      (Attempt.inOrder (bracketing.attempts meaning medium) source).result = .ok (.error failure) := by
  have run := bracketing.runs_row meaning medium source
  generalize bracketing.grammar.attempt meaning medium source = given,
    Attempt.inOrder (bracketing.attempts meaning medium) source = row at run ⊢
  cases run with
  | error records reason => simp
  | ok records nests => cases nests <;> simp

/-- Primitives and repetitions of them that need a value, one after another in any brackets: they fail
for want of input exactly if those in front of one of them match and leave nothing, and all other
failures are mismatches. -/
theorem failure_tells_what_is_left (meaning : Reference → Attempts) (chain : Bracketing)
    (links : ∀ grammar ∈ chain.row, grammar.Link) (source : Text) :
    ((∃ failure, (chain.grammar.attempt meaning .text source).result = .ok (.failed failure) ∧
        failure.kind = .emptyInput) ↔ Attempt.RunsOut (chain.attempts meaning .text) source) ∧
      ∀ failure, (chain.grammar.attempt meaning .text source).result = .ok (.failed failure) →
        failure.kind ≠ .emptyInput → failure.kind = .mismatch := by
  have ask : ∀ attempt ∈ chain.attempts meaning .text, attempt.AsksForInput := by
    intro attempt member
    obtain ⟨grammar, listed, rfl⟩ := List.mem_map.mp member
    exact (links grammar listed).asks_for_input
  have row := chain.fails_iff_row_fails meaning .text source
  simp only [row]
  refine ⟨⟨?_, Attempt.row_fails_of_runs_out ask⟩, ?_⟩
  · rintro ⟨failure, failed, empty⟩
    rcases Attempt.row_failure_kind ask failed with ⟨_, runsOut⟩ | mismatch
    · exact runsOut
    · exact absurd (empty.symm.trans mismatch) (by simp)
  · intro failure failed other
    rcases Attempt.row_failure_kind ask failed with ⟨empty, _⟩ | mismatch
    · exact absurd empty other
    · exact mismatch

/-- The list takes the whole text, and nothing is left for the semicolon. -/
theorem unfinished_list_runs_out :
    let numbers := (Grammar.integer none).separatedBy (Grammar.character ',') true
    let chain := (single numbers).pair (single (Grammar.character ';'))
    (∀ grammar ∈ chain.row, grammar.Link) ∧
      ∃ failure, (chain.grammar.runWithin 0 Scope.provided (Text.ofString "1,2")).result =
        .ok (.failed failure) ∧ failure.kind = .emptyInput := by
  intro numbers chain
  have links : ∀ grammar ∈ chain.row, grammar.Link := by
    intro grammar member
    rcases List.mem_cons.mp member with rfl | last
    · exact .separatedBy (.primitive _) _
    · obtain rfl := List.mem_singleton.mp last
      exact .leaf (.primitive _)
  have one : ((Grammar.integer none).attempt (Scope.provided.meaning 0) .text).Yields (Text.ofString "1,2")
      (.int 1) (Text.ofString ",2") := rfl
  have comma : ((Grammar.character ',').attempt (Scope.provided.meaning 0) .text).Yields (Text.ofString ",2")
      (.text [',']) (Text.ofString "2") := rfl
  have two : ((Grammar.integer none).attempt (Scope.provided.meaning 0) .text).Yields (Text.ofString "2")
      (.int 2) [] := rfl
  have course := Repetition.run_of_separated_step one comma (by decide)
    (Repetition.run_of_last_step two (Grammar.character_refuses_nothing ',') (by decide))
  have matched : (numbers.attempt (Scope.provided.meaning 0) .text).Yields (Text.ofString "1,2")
      (.list [.int 1, .int 2]) [] := Repetition.needing_yields _ course (by simp) (by simp)
  have row : (Attempt.inOrder [numbers.attempt (Scope.provided.meaning 0) .text] (Text.ofString "1,2")).result =
      .ok (.ok ([.list [.int 1, .int 2]], [])) := result_bind_of_ok (congrArg Traced.result matched) _
  have tells := failure_tells_what_is_left (Scope.provided.meaning 0) chain links (Text.ofString "1,2")
  exact ⟨links, tells.1.mpr ⟨1, by decide, _, row⟩⟩

end Bracketing

end TextGrammar
