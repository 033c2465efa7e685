import TextGrammar.Proofs.Budget
import TextGrammar.Proofs.Suffix

/-!
Guarded recursion. A reference is guarded when something that always takes text has
matched in front of it. Then every reference inside another one is reached on a shorter
text, so no more of them can be open at once than the text has code points, and one.
Whatever else is in the grammars has to end by itself: grammars written by hand, and
the parts that read or check values.
-/

namespace TextGrammar

open Traced

/-- Runs on texts that spend no budget. -/
def Attempts.End (attempts : Attempts) : Prop := ∀ source, (attempts .text source).Ends

namespace Grammar

/-- The grammar leaves less than there was, whenever it matches. -/
def Consumes (scope : Scope) (grammar : Grammar) : Prop :=
  ∀ budget, (grammar.runWithin budget scope).Leaves fun rest source => rest.length < source.length

/-- Ends on every value even if all references spend the budget at once. -/
def RunsNoReference (reader : Grammar) : Prop :=
  ∀ value, (reader.attempt (fun _ _ _ => halt .outOfBudget) .value value).Ends

/-- Every reference that may be run on the text is behind something that consumes. Whether something
has consumed in front of the grammar itself is given. -/
def Guarded (scope : Scope) : Grammar → Prop → Prop
  | primitive _, _ => True
  | custom _ _, _ => True
  | deferred _, behind => behind
  | named grammar _, behind => grammar.Guarded scope behind
  | map grammar _, behind => grammar.Guarded scope behind
  | mapThrough grammar reader, behind => grammar.Guarded scope behind ∧ reader.RunsNoReference
  | mapError grammar _, behind => grammar.Guarded scope behind
  | filter grammar _, behind => grammar.Guarded scope behind
  | filterMatching grammar checker, behind => grammar.Guarded scope behind ∧ checker.RunsNoReference
  | spanWhere _ _, _ => True
  | spanMatching checker _, _ => checker.RunsNoReference
  | debug grammar _, behind => grammar.Guarded scope behind
  | optional grammar _, behind => grammar.Guarded scope behind
  | followedBy first second, behind =>
      first.Guarded scope behind ∧ second.Guarded scope (behind ∨ first.Consumes scope)
  | many element _, behind => element.Guarded scope behind
  | separatedBy element separator _, behind =>
      element.Guarded scope behind ∧ separator.Guarded scope (behind ∨ element.Consumes scope)
  | either first second, behind => first.Guarded scope behind ∧ second.Guarded scope behind
  | choice alternatives, behind => ∀ index, (alternatives index).Guarded scope behind

variable {scope : Scope} {grammar first second : Grammar} {behind : Prop}

theorem Guarded.mono {weaker : Prop} (weaken : behind → weaker) (guarded : grammar.Guarded scope behind) :
    grammar.Guarded scope weaker := by
  induction grammar generalizing behind weaker with
  | primitive leaf => trivial
  | custom label attempts => trivial
  | deferred reference => exact weaken guarded
  | named grammar label induction => exact induction weaken guarded
  | map grammar transformer induction => exact induction weaken guarded
  | mapThrough grammar reader induction _ => exact ⟨induction weaken guarded.1, guarded.2⟩
  | mapError grammar transformer induction => exact induction weaken guarded
  | filter grammar predicate induction => exact induction weaken guarded
  | filterMatching grammar checker induction _ => exact ⟨induction weaken guarded.1, guarded.2⟩
  | spanWhere predicate description => trivial
  | spanMatching checker description _ => exact guarded
  | debug grammar label induction => exact induction weaken guarded
  | optional grammar default induction => exact induction weaken guarded
  | followedBy first second firstInduction secondInduction =>
      exact ⟨firstInduction weaken guarded.1, secondInduction (Or.imp_left weaken) guarded.2⟩
  | many element atLeastOne induction => exact induction weaken guarded
  | separatedBy element separator atLeastOne elementInduction separatorInduction =>
      exact ⟨elementInduction weaken guarded.1, separatorInduction (Or.imp_left weaken) guarded.2⟩
  | either first second firstInduction secondInduction =>
      exact ⟨firstInduction weaken guarded.1, secondInduction weaken guarded.2⟩
  | choice alternatives induction => exact fun index => induction index weaken (guarded index)

/-- The conditions on a grammar whose references are guarded: what is written by hand leaves suffixes
and ends. -/
structure WellGuarded (scope : Scope) (behind : Prop) (grammar : Grammar) : Prop where
  leaves : grammar.EveryHandwritten Attempts.LeaveSuffixes
  ends : grammar.EveryHandwritten Attempts.End
  guarded : grammar.Guarded scope behind

end Grammar

namespace Traced

/-- Computations that end, as a relation that looks at the single one only. -/
def ending : Congruence Unit where
  Relates _ given := given.Ends
  self ends := ends
  bind := by
    intro _ _ _ given _ next ends later
    change (given.bind next).result ≠ _
    cases answered : given.result with
    | error reason =>
        rw [bind_of_error answered]
        intro stopped
        have spent := Except.error.inj stopped
        exact ends (answered.trans (congrArg Except.error spent))
    | ok value =>
        rw [bind_of_ok answered]
        exact later value answered

end Traced

namespace Grammar

theorem RunsNoReference.ends {reader : Grammar} (free : reader.RunsNoReference)
    (meaning : Reference → Attempts) (value : Value) : (reader.attempt meaning .value value).Ends := by
  have halted : ∀ (reference : Reference) (medium : Medium) (source : medium.Source),
      (halt .outOfBudget : Traced (Outcome medium.Source)).Approximates (meaning reference medium source) :=
    fun _ _ _ ends => absurd rfl ends
  have same := reader.attempt_approximates halted .value value (free value)
  rw [← same]
  exact free value

/-- The budget is enough for a text, and more than enough for one behind something that has consumed. -/
def Fits (budget : Nat) (behind : Prop) (source : Text) : Prop :=
  source.length ≤ budget ∧ (behind → source.length < budget)

theorem Fits.shorter {budget : Nat} {behind : Prop} {source rest : Text} (fits : Fits budget behind source)
    (notLonger : rest.length ≤ source.length) : Fits budget behind rest :=
  ⟨Nat.le_trans notLonger fits.1, fun passed => Nat.lt_of_le_of_lt notLonger (fits.2 passed)⟩

theorem Fits.behind_match {budget : Nat} {behind consumed : Prop} {source rest : Text}
    (fits : Fits budget behind source) (notLonger : rest.length ≤ source.length)
    (shorter : consumed → rest.length < source.length) : Fits budget (behind ∨ consumed) rest := by
  refine ⟨Nat.le_trans notLonger fits.1, ?_⟩
  intro passed
  rcases passed with before | here
  · exact Nat.lt_of_le_of_lt notLonger (fits.2 before)
  · exact Nat.lt_of_lt_of_le (shorter here) fits.1

section

variable {scope : Scope} {among : Reference → Prop} {budget : Nat}

theorem attempt_ends
    (suffixes : ∀ reference, among reference → Attempts.LeaveSuffixes (scope.meaning budget reference))
    (ended : ∀ reference, among reference → ∀ source : Text, source.length < budget →
      (scope.meaning budget reference .text source).Ends)
    {grammar : Grammar} {behind : Prop} (references : grammar.EveryReference among)
    (leaves : grammar.EveryHandwritten Attempts.LeaveSuffixes)
    (ends : grammar.EveryHandwritten Attempts.End) (guarded : grammar.Guarded scope behind) (source : Text)
    (fits : Fits budget behind source) :
    ending.Relates (fun _ => grammar.attempt (scope.meaning budget) .text source)
      (grammar.attempt (scope.meaning budget) .text source) := by
  have notLonger {part : Grammar} {source rest : Text} {value : Value}
      (references : part.EveryReference among) (leaves : part.EveryHandwritten Attempts.LeaveSuffixes)
      (matched : Attempt.Matches (part.attempt (scope.meaning budget) .text) source value rest) :
      rest.length ≤ source.length :=
    (attempt_leaves_suffixes leaves (references.mono suffixes) source value rest matched).length_le
  -- The invariant is `Fits`: it weakens along the text, and what consumes turns the weak bound strict.
  induction grammar generalizing behind source with
  | primitive leaf => exact ending.pure_related (leaf.attempt source)
  | custom label attempts => exact ends source
  | deferred reference => exact ended reference references source (fits.2 guarded)
  | named grammar label induction => exact induction references leaves ends guarded source fits
  | map grammar transformer induction =>
      apply Congruence.map (induction references leaves ends guarded source fits)
      exact fun value => ends_of_except _
  | mapThrough grammar reader induction _ =>
      apply Congruence.map (induction references leaves ends guarded.1 source fits)
      intro value
      exact ending.bind (guarded.2.ends _ value) fun outcome _ => ending.pure_related outcome.toValue
  | mapError grammar transformer induction =>
      exact Congruence.map_error (induction references leaves ends guarded source fits)
  | filter grammar predicate induction =>
      apply Congruence.filter (induction references leaves ends guarded source fits)
      exact fun value => ends_of_except _
  | filterMatching grammar checker induction _ =>
      apply Congruence.filter (induction references leaves ends guarded.1 source fits)
      intro value
      exact ending.bind (guarded.2.ends _ value) fun outcome _ => ending.pure_related outcome.isMatch
  | spanWhere predicate description =>
      exact Congruence.span_of (fun item => ends_of_except _) .text source
  | spanMatching checker description _ =>
      apply Congruence.span_of _ .text source
      intro item
      exact ending.bind (guarded.ends _ item) fun outcome _ => ending.pure_related outcome.isMatch
  | debug grammar label induction =>
      exact Congruence.observe (induction references leaves ends guarded source fits)
  | optional grammar default induction =>
      exact Congruence.optional (induction references leaves ends guarded source fits)
  | followedBy first second firstInduction secondInduction =>
      apply Congruence.followed_by (firstInduction references.1 leaves.1 ends.1 guarded.1 source fits)
      intro value rest matched
      apply secondInduction references.2 leaves.2 ends.2 guarded.2 rest
      exact fits.behind_match (notLonger references.1 leaves.1 matched)
        fun consumes => consumes budget source value rest matched
  | many element atLeastOne induction =>
      apply Congruence.repeated
      apply Congruence.run_related (Fits budget behind) _ _ _ source fits
      · exact fun source fits => induction references leaves ends guarded source fits
      · exact fun source value rest _ _ => ending.pure_related (rest, true)
      · intro source next after before fits afterwards beforehand shorter
        obtain rfl := Except.ok.inj afterwards
        obtain rfl := Except.ok.inj beforehand
        exact fits.shorter (Nat.le_of_lt shorter)
  | separatedBy element separator atLeastOne elementInduction separatorInduction =>
      apply Congruence.repeated
      apply Congruence.run_related (Fits budget behind) _ _ _ source fits
      · exact fun source fits => elementInduction references.1 leaves.1 ends.1 guarded.1 source fits
      · intro source value rest fits matched
        apply Congruence.after_separator
        apply separatorInduction references.2 leaves.2 ends.2 guarded.2 rest
        exact fits.behind_match (notLonger references.1 leaves.1 matched)
          fun consumes => consumes budget source value rest matched
      · intro source next after before fits afterwards beforehand shorter
        obtain rfl := Except.ok.inj afterwards
        obtain rfl := Except.ok.inj beforehand
        exact fits.shorter (Nat.le_of_lt shorter)
  | either first second firstInduction secondInduction =>
      exact Congruence.either (firstInduction references.1 leaves.1 ends.1 guarded.1 source fits)
        (secondInduction references.2 leaves.2 ends.2 guarded.2 source fits)
  | choice alternatives induction =>
      apply Congruence.choice
      intro index
      exact induction index (references index) (leaves index) (ends index) (guarded index) source fits

end

end Grammar

/-- A definition is reached with one of the budget spent, on a text that the rest of it fits. -/
theorem Scope.meaning_ends {scope : Scope} {among : Reference → Prop}
    (closed : scope.Closed among (Grammar.WellGuarded scope False)) (budget : Nat) (reference : Reference)
    (member : among reference) (source : Text) (fits : source.length < budget) :
    (scope.meaning budget reference .text source).Ends := by
  have suffixes := closed.mono fun _ guarded => guarded.leaves
  induction budget generalizing reference source with
  | zero => exact absurd fits (Nat.not_lt_zero _)
  | succ budget induction =>
      unfold meaning
      cases found : scope reference with
      | error reason => exact ends_fault reason
      | ok definition =>
          obtain ⟨references, guarded⟩ := closed reference member definition found
          have room : Grammar.Fits budget False source := ⟨Nat.le_of_lt_succ fits, False.elim⟩
          exact Grammar.attempt_ends (suffixes.leaves_suffixes budget) induction references guarded.leaves
            guarded.ends guarded.guarded source room

namespace Grammar

variable {scope : Scope} {grammar : Grammar}

theorem run_ends {among : Reference → Prop} (closed : scope.Closed among (WellGuarded scope False))
    (references : grammar.EveryReference among) (guarded : grammar.WellGuarded scope True) (source : Text) :
    (grammar.runWithin (source.length + 1) scope source).Ends := by
  have suffixes := closed.mono fun _ guarded => guarded.leaves
  have room : Fits (source.length + 1) True source := ⟨Nat.le_succ _, fun _ => Nat.lt_succ_self _⟩
  exact attempt_ends (suffixes.leaves_suffixes _) (Scope.meaning_ends closed _) references guarded.leaves
    guarded.ends guarded.guarded source room

theorem character_consumes (scope : Scope) (point : CodePoint) : (character point).Consumes scope :=
  fun _ => Primitive.leaf_shortens (by simp)

theorem literal_consumes (scope : Scope) (word : Word) : (literal word).Consumes scope :=
  fun _ => Primitive.leaf_shortens (by simp)

theorem followed_by_consumes {first second : Grammar} (consumes : first.Consumes scope)
    (leaves : ∀ budget, Attempts.LeaveSuffixes (second.attempt (scope.meaning budget))) :
    (first.followedBy second).Consumes scope := by
  intro budget
  exact Attempt.followed_by_leaves (consumes budget) (leaves budget)
    fun rest middle source later earlier => Nat.lt_of_le_of_lt later.length_le earlier

/-- Behind a bound that consumes, the content and the other bound may begin with any reference. -/
theorem between_guarded {left content right : Grammar} {behind : Prop} (consumes : left.Consumes scope)
    (leaves : ∀ budget, Attempts.LeaveSuffixes (content.attempt (scope.meaning budget)))
    (leftGuarded : left.Guarded scope behind) (contentGuarded : content.Guarded scope True)
    (rightGuarded : right.Guarded scope True) : (between left content right).Guarded scope behind :=
  ⟨⟨leftGuarded, contentGuarded.mono fun _ => Or.inr consumes⟩,
    rightGuarded.mono fun _ => Or.inr (followed_by_consumes consumes leaves)⟩

theorem guarded_structural (scope : Scope) (behind : Prop) :
    Structural fun grammar => grammar.Guarded scope behind where
  named guarded := guarded
  choice guarded := guarded

theorem operator_guarded (scope : Scope) (behind : Prop) : operator.Guarded scope behind :=
  (guarded_structural scope behind).operator fun _ => trivial

theorem operator_references (property : Reference → Prop) : operator.EveryReference property :=
  (every_reference_structural property).operator fun _ => trivial

/-- Operands are the only expressions inside an expression, and the bracket in front consumes. -/
theorem expression_guarded (scope : Scope) (behind : Prop) : expression.WellGuarded scope behind where
  leaves := every_handwritten_provided .expression
  ends := every_handwritten_provided .expression
  guarded := by
    have bracket : behind ∨ (character '(').Consumes scope := Or.inr (character_consumes scope '(')
    have content : (operator.skippingSomeWhitespace.followedBy operands).Guarded scope
        (behind ∨ (character '(').Consumes scope) :=
      ⟨⟨operator_guarded scope _, trivial⟩, Or.inl bracket, trivial⟩
    exact ⟨trivial, ⟨trivial, content⟩, trivial⟩

theorem expression_references : expression.EveryReference (· = .provided .expression) :=
  ⟨trivial, ⟨trivial, ⟨operator_references _, trivial⟩, rfl, trivial⟩, trivial⟩

theorem expression_closed (session : Session) :
    session.scope.Closed (· = .provided .expression) (WellGuarded session.scope False) := by
  rintro reference rfl definition found
  obtain rfl := Except.ok.inj found
  exact ⟨expression_references, expression_guarded session.scope False⟩

/-- A run that ends with this budget, and in the same way with every larger one. -/
def SettlesWithin (budget : Nat) (scope : Scope) (grammar : Grammar) (source : Text) : Prop :=
  (grammar.runWithin budget scope source).Ends ∧
    ∀ larger, budget ≤ larger →
      grammar.runWithin larger scope source = grammar.runWithin budget scope source

/-- A grammar whose references lead to guarded definitions settles on every text with one reference
more, open at once, than the text has code points. Expressions are such grammars. -/
theorem guarded_recursion_settles :
    (∀ (scope : Scope) (among : Reference → Prop) (grammar : Grammar),
        scope.Closed among (WellGuarded scope False) → grammar.EveryReference among →
          grammar.WellGuarded scope True → ∀ source : Text,
            grammar.SettlesWithin (source.length + 1) scope source) ∧
      ∀ session : Session,
        session.scope.Closed (· = .provided .expression) (WellGuarded session.scope False) ∧
          expression.EveryReference (· = .provided .expression) ∧
            expression.WellGuarded session.scope True := by
  constructor
  · intro scope among grammar closed references guarded source
    have ends := run_ends closed references guarded source
    exact ⟨ends, fun larger enough => run_within_larger ends enough⟩
  · intro session
    exact ⟨expression_closed session, expression_references, expression_guarded session.scope True⟩

def round : Reference := .placeholder 0 "round"

def square : Reference := .placeholder 1 "square"

/-- Any number of square brackets inside; they may also stand where the bracket closes. -/
def roundBrackets : Grammar :=
  between (character '(') ((deferred square).many false) ((character ')').either (deferred square))

/-- Round brackets inside or nothing. -/
def squareBrackets : Grammar :=
  between (literal ⟨Text.ofString "[[", by decide⟩) ((deferred round).optional .null) (character ']')

def brackets : Session := ⟨[], [some roundBrackets, some squareBrackets]⟩

def IsBracket (reference : Reference) : Prop := reference = round ∨ reference = square

theorem brackets_closed {shape : Grammar → Prop} (shapedRound : shape roundBrackets)
    (shapedSquare : shape squareBrackets) : brackets.scope.Closed IsBracket shape := by
  rintro reference (rfl | rfl) definition found
  · obtain rfl := Except.ok.inj found
    exact ⟨⟨⟨trivial, Or.inr rfl⟩, trivial, Or.inr rfl⟩, shapedRound⟩
  · obtain rfl := Except.ok.inj found
    exact ⟨⟨⟨trivial, Or.inl rfl⟩, trivial⟩, shapedSquare⟩

theorem brackets_guarded : brackets.scope.Closed IsBracket (WellGuarded brackets.scope False) := by
  have leaves : brackets.scope.Closed IsBracket (EveryHandwritten Attempts.LeaveSuffixes) :=
    brackets_closed ⟨⟨trivial, trivial⟩, trivial, trivial⟩ ⟨⟨trivial, trivial⟩, trivial⟩
  have squareLeaves : ∀ budget, Attempts.LeaveSuffixes (brackets.scope.meaning budget square) :=
    fun budget => leaves.leaves_suffixes budget square (Or.inr rfl)
  have roundLeaves : ∀ budget, Attempts.LeaveSuffixes (brackets.scope.meaning budget round) :=
    fun budget => leaves.leaves_suffixes budget round (Or.inl rfl)
  apply brackets_closed
  · refine ⟨⟨⟨trivial, trivial⟩, trivial, trivial⟩, ⟨⟨trivial, trivial⟩, trivial, trivial⟩, ?_⟩
    apply between_guarded
    · exact character_consumes _ _
    · exact fun budget => attempt_leaves_suffixes trivial (squareLeaves budget)
    · trivial
    · trivial
    · exact ⟨trivial, trivial⟩
  · refine ⟨⟨⟨trivial, trivial⟩, trivial⟩, ⟨⟨trivial, trivial⟩, trivial⟩, ?_⟩
    apply between_guarded
    · exact literal_consumes _ _
    · exact fun budget => attempt_leaves_suffixes trivial (roundLeaves budget)
    · trivial
    · trivial
    · trivial

theorem brackets_settle : (deferred round).SettlesWithin 9 brackets.scope (Text.ofString "([[([[])") := by
  have reference : (deferred round).EveryReference IsBracket := Or.inl rfl
  exact guarded_recursion_settles.1 brackets.scope IsBracket (deferred round) brackets_guarded reference
    ⟨trivial, trivial, trivial⟩ (Text.ofString "([[([[])")

end Grammar

end TextGrammar
