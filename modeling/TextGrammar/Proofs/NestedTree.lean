import TextGrammar.Proofs.Expression.Language
import TextGrammar.Session

/-!
Trees written as nested brackets. The text of a tree is the texts of its children in a row
between two brackets, so the bracket that closes ends the row, and the grammar of trees reads
such texts and no others. A tree inside another one begins behind an opening bracket, which is
why the induction can be on the budget.
-/

namespace TextGrammar

open Attempt

mutual

/-- The text of a tree. -/
def Value.bracketed : Value → Text
  | .tree children => openBracket :: (Value.bracketedRow children ++ [closeBracket])
  | _ => []

/-- The texts of trees in a row, with nothing between them. -/
def Value.bracketedRow : List Value → Text
  | [] => []
  | first :: others => first.bracketed ++ Value.bracketedRow others

end

/-- Trees whose children are trees again, down to those without children. -/
inductive BareTree : Value → Prop
  | node {children : List Value} (bare : ∀ child ∈ children, BareTree child) : BareTree (.tree children)

/-- The text of a tree, and the tree. -/
def WrittenTree (text : Text) (tree : Value) : Prop := BareTree tree ∧ text = tree.bracketed

theorem BareTree.bracketed_nonempty {tree : Value} (bare : BareTree tree) : tree.bracketed ≠ [] := by
  cases bare with
  | node bare => simp [Value.bracketed]

theorem bracketed_of_child {child : Value} {children : List Value} (member : child ∈ children) :
    child.bracketed.length ≤ (Value.bracketedRow children).length := by
  induction children with
  | nil => exact absurd member (by simp)
  | cons first others induction =>
      rw [Value.bracketedRow, List.length_append]
      rcases List.mem_cons.mp member with rfl | later
      · exact Nat.le_add_right _ _
      · exact Nat.le_trans (induction later) (Nat.le_add_left _ _)

namespace Grammar

section

variable {element : Attempt Text} {rest : Text}

/-- A repetition of readers of trees takes trees in a row from the front of a text. -/
theorem children_read {bound : Nat}
    (reads : ∀ source : Text, source.length ≤ bound → element.Reads WrittenTree source) (source : Text)
    (short : source.length ≤ bound) :
    ∃ children rest stop, Repetition.run Medium.text.size element none source = pure ⟨children, rest, stop⟩ ∧
      stop ≠ .stalled ∧ (∀ child ∈ children, BareTree child) ∧
        source = Value.bracketedRow children ++ rest := by
  rcases reads source short with ⟨_, first, rest, rfl, ⟨bare, rfl⟩, yields⟩ | ⟨kind, refuses⟩
  · have positive := List.length_pos_iff.mpr bare.bracketed_nonempty
    have shorter : rest.length < (first.bracketed ++ rest).length := by
      rw [List.length_append]
      omega
    obtain ⟨others, last, stop, later, counted, bareOthers, parts⟩ := children_read reads rest (by omega)
    refine ⟨first :: others, last, stop, Repetition.run_of_step yields shorter later, counted,
      List.forall_mem_cons.mpr ⟨bare, bareOthers⟩, ?_⟩
    rw [Value.bracketedRow, List.append_assoc, ← parts]
  · obtain ⟨failure, stopped⟩ := Repetition.run_of_refusal refuses
    exact ⟨[], source, .failed failure, stopped, by simp, by simp, rfl⟩
termination_by source.length

/-- Trees in a row are read as a whole in front of what no tree begins with. -/
theorem children_yield {children : List Value} (bare : ∀ child ∈ children, BareTree child)
    (yields : ∀ child ∈ children, ∀ rest, element.Yields (child.bracketed ++ rest) child rest)
    (ended : ∃ kind, element.Refuses rest kind) :
    ∃ failure, Repetition.run Medium.text.size element none (Value.bracketedRow children ++ rest) =
      pure ⟨children, rest, .failed failure⟩ := by
  induction children with
  | nil =>
      obtain ⟨kind, refuses⟩ := ended
      exact Repetition.run_of_refusal refuses
  | cons first others induction =>
      obtain ⟨bareFirst, bareOthers⟩ := List.forall_mem_cons.mp bare
      obtain ⟨yieldsFirst, yieldsOthers⟩ := List.forall_mem_cons.mp yields
      obtain ⟨failure, later⟩ := induction bareOthers yieldsOthers
      have positive := List.length_pos_iff.mpr bareFirst.bracketed_nonempty
      have shorter : (Value.bracketedRow others ++ rest).length <
          (first.bracketed ++ (Value.bracketedRow others ++ rest)).length := by
        simp only [List.length_append]
        omega
      refine ⟨failure, ?_⟩
      rw [Value.bracketedRow, List.append_assoc]
      exact Repetition.run_of_step (yieldsFirst _) shorter later

end

section

variable {meaning : Reference → Attempts} {source rest : Text} {children : List Value} {stop : Stop}

/-- The run of the children. -/
def childrenRun (meaning : Reference → Attempts) (source : Text) : Traced (Repetition Text) :=
  Repetition.run Medium.text.size ((deferred (.provided .tree)).attempt meaning .text) none source

theorem row_yields (answered : childrenRun meaning source = pure ⟨children, rest, stop⟩)
    (counted : stop ≠ .stalled) :
    (((deferred (.provided .tree)).many false).attempt meaning .text).Yields source (.list children) rest :=
  Repetition.repeated_yields answered counted

theorem tree_yields (answered : childrenRun meaning source = pure ⟨children, closeBracket :: rest, stop⟩)
    (counted : stop ≠ .stalled) :
    (tree.attempt meaning .text).Yields (openBracket :: source) (.tree children) rest := by
  have bracketed := between_yields (character_yields openBracket source) (row_yields answered counted)
    (character_yields closeBracket rest)
  exact bracketed.map rfl

theorem tree_refuses_other (absent : ∀ point ∈ source.head?, point ≠ openBracket) :
    ∃ kind, (tree.attempt meaning .text).Refuses source kind := by
  obtain ⟨kind, refuses⟩ := character_refuses_other absent
  exact ⟨kind, (between_refuses_open refuses).map⟩

theorem tree_refuses_closing (answered : childrenRun meaning source = pure ⟨children, rest, stop⟩)
    (counted : stop ≠ .stalled) (unclosed : ∀ point ∈ rest.head?, point ≠ closeBracket) :
    ∃ kind, (tree.attempt meaning .text).Refuses (openBracket :: source) kind := by
  obtain ⟨kind, refuses⟩ := character_refuses_other unclosed
  exact ⟨kind, (between_refuses_close (character_yields openBracket source) (row_yields answered counted)
    refuses).map⟩

end

section

variable {scope : Scope} (knows : scope (.provided .tree) = .ok tree)

include knows

theorem child_is_tree (budget : Nat) :
    (deferred (.provided .tree)).attempt (scope.meaning (budget + 1)) .text =
      tree.attempt (scope.meaning budget) .text := by
  simp only [attempt, Scope.meaning, knows]

theorem tree_reads (budget : Nat) (source : Text) (short : source.length ≤ budget) :
    (tree.attempt (scope.meaning budget) .text).Reads WrittenTree source := by
  induction budget generalizing source with
  | zero =>
      obtain rfl := List.length_eq_zero_iff.mp (Nat.le_zero.mp short)
      exact Or.inr (tree_refuses_other (by simp))
  | succ budget induction =>
      by_cases opened : ∃ text : Text, source = openBracket :: text
      · obtain ⟨text, rfl⟩ := opened
        have elements : ∀ source : Text, source.length ≤ budget →
            ((deferred (.provided .tree)).attempt (scope.meaning (budget + 1)) .text).Reads WrittenTree source := by
          rw [child_is_tree knows]
          exact induction
        obtain ⟨children, rest, stop, answered, counted, bare, rfl⟩ :=
          children_read elements text (Nat.le_of_succ_le_succ short)
        by_cases closed : ∃ after : Text, rest = closeBracket :: after
        · obtain ⟨after, rfl⟩ := closed
          exact Or.inl ⟨_, .tree children, after, by simp [Value.bracketed], ⟨.node bare, rfl⟩,
            tree_yields answered counted⟩
        · exact Or.inr (tree_refuses_closing answered counted (head_differs closed))
      · exact Or.inr (tree_refuses_other (head_differs opened))

theorem bracketed_yields {found : Value} (bare : BareTree found) (budget : Nat) (rest : Text)
    (short : found.bracketed.length ≤ budget) :
    (tree.attempt (scope.meaning budget) .text).Yields (found.bracketed ++ rest) found rest := by
  -- The children begin behind a bracket, and so the budget that is left is enough for each of them.
  induction bare generalizing budget rest with
  | @node children bare induction =>
      rw [Value.bracketed, List.length_cons, List.length_append] at short
      cases budget with
      | zero => exact absurd short (by simp)
      | succ budget =>
          have yields : ∀ child ∈ children, ∀ rest,
              ((deferred (.provided .tree)).attempt (scope.meaning (budget + 1)) .text).Yields
                (child.bracketed ++ rest) child rest := by
            intro child member rest
            rw [child_is_tree knows]
            have inside := bracketed_of_child member
            exact induction child member budget rest (by omega)
          have ended : ∃ kind, ((deferred (.provided .tree)).attempt (scope.meaning (budget + 1)) .text).Refuses
              (closeBracket :: rest) kind := by
            rw [child_is_tree knows]
            exact tree_refuses_other (head_holds (by decide))
          obtain ⟨failure, answered⟩ := children_yield bare yields ended
          rw [Value.bracketed, List.cons_append, List.append_assoc]
          exact tree_yields answered (by simp)

end

/-- In every session the grammar of trees reads from the front of a text exactly the tree that is written
there, and fails on a text that begins with none. Nothing is logged, and the length of the text is budget
enough. -/
theorem tree_reads_bracketed_form (session : Session) (source : Text) (spare : Nat) :
    (∀ found rest, tree.runWithin (source.length + spare) session.scope source = pure (.matched found rest) ↔
      BareTree found ∧ source = found.bracketed ++ rest) ∧
    ((∃ found rest, BareTree found ∧ source = found.bracketed ++ rest) ∨
      ∃ words kind, tree.runWithin (source.length + spare) session.scope source =
        pure (.failed (.saying words kind))) := by
  have knows : session.scope (.provided .tree) = .ok tree := rfl
  have answers := tree_reads knows (source.length + spare) source (Nat.le_add_right _ _)
  constructor
  · intro found rest
    constructor
    · intro matched
      rcases answers with ⟨_, read, left, parts, ⟨bare, rfl⟩, yields⟩ | ⟨kind, words, refused⟩
      · obtain ⟨rfl, rfl⟩ := yields.unique matched
        exact ⟨bare, parts⟩
      · exact absurd ⟨words, refused⟩ (Yields.not_refuses matched)
    · rintro ⟨bare, rfl⟩
      apply bracketed_yields knows bare
      simp only [List.length_append]
      omega
  · rcases answers with ⟨_, found, rest, parts, ⟨bare, rfl⟩, _⟩ | ⟨kind, words, refused⟩
    · exact Or.inl ⟨found, rest, bare, parts⟩
    · exact Or.inr ⟨words, kind, refused⟩

end Grammar

end TextGrammar
