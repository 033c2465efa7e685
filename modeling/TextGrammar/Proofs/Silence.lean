import TextGrammar.Proofs.Consumption
import TextGrammar.Proofs.Repetition.Progress
import TextGrammar.Proofs.Repetition.Rounds

/-!
Grammars that log nothing. Only two things write records: observation, and a repetition that
stalls. A grammar without the former whose repetitions have consuming elements is silent, and
so are quoted texts, numbers and expressions.
-/

namespace TextGrammar

open Traced

variable {σ : Type}

theorem Traced.silent_bind {α β : Type} {first : Traced α} {next : α → Traced β} (before : first.log = [])
    (after : ∀ value, (next value).log = []) : (first >>= next).log = [] :=
  (log_bind_of_silent fun value _ => after value).trans before

namespace Attempt

def Silent (attempt : Attempt σ) : Prop := ∀ source, (attempt source).log = []

variable {attempt first second : Attempt σ}

theorem Silent.on_match (silent : attempt.Silent) {next : Value → σ → Traced (Outcome σ)}
    (later : ∀ value rest, (next value rest).log = []) : (attempt.onMatch next).Silent := by
  intro source
  apply silent_bind (silent source)
  intro outcome
  cases outcome with
  | matched value rest => exact later value rest
  | failed failure => rfl

theorem Silent.map (silent : attempt.Silent) {transform : Value → Traced Value}
    (transformed : ∀ value, (transform value).log = []) : (attempt.map transform).Silent :=
  silent.on_match fun value _ => silent_bind (transformed value) fun _ => rfl

theorem Silent.map_error (silent : attempt.Silent) (reword : Value → Except Fault Value) :
    (attempt.mapError reword).Silent := by
  intro source
  apply silent_bind (silent source)
  intro outcome
  cases outcome with
  | matched value rest => rfl
  | failed failure => exact silent_bind (log_of_except _) fun _ => rfl

theorem Silent.filter (silent : attempt.Silent) {test : Value → Traced Bool}
    {refuse : Value → Except Fault Failure} (tested : ∀ value, (test value).log = []) :
    (attempt.filter test refuse).Silent := by
  apply silent.on_match
  intro value rest
  apply silent_bind (tested value)
  intro truth
  cases truth with
  | true => rfl
  | false => exact silent_bind (log_of_except _) fun _ => rfl

theorem Silent.optional (silent : attempt.Silent) (default : Value) : (attempt.optional default).Silent := by
  intro source
  apply silent_bind (silent source)
  intro outcome
  cases outcome <;> rfl

theorem Silent.followed_by (silent : first.Silent) (silentToo : second.Silent) :
    (first.followedBy second).Silent :=
  silent.on_match fun _ rest => silentToo.on_match (fun _ _ => rfl) rest

theorem Silent.either (silent : first.Silent) (silentToo : second.Silent) : (first.either second).Silent := by
  intro source
  apply silent_bind (silent source)
  intro outcome
  cases outcome with
  | matched value rest => rfl
  | failed one =>
      apply silent_bind (silentToo source)
      intro other
      cases other with
      | matched value rest => rfl
      | failed two => exact silent_bind (log_of_except _) fun _ => rfl

theorem first_match_silent {attempts : List (Attempt σ)} (silent : ∀ attempt ∈ attempts, attempt.Silent)
    (source : σ) : (firstMatch source attempts).log = [] := by
  induction attempts with
  | nil => rfl
  | cons attempt others induction =>
      have later := induction fun other member => silent other (List.mem_cons_of_mem attempt member)
      apply silent_bind (silent attempt List.mem_cons_self source)
      intro outcome
      cases outcome with
      | matched value rest => rfl
      | failed failure =>
          apply silent_bind later
          intro search
          cases search <;> rfl

theorem choice_silent {attempts : List (Attempt σ)} (silent : ∀ attempt ∈ attempts, attempt.Silent) :
    (choice attempts).Silent := by
  intro source
  apply silent_bind (first_match_silent silent source)
  intro search
  cases search with
  | ok outcome => rfl
  | error messages => exact silent_bind (log_of_except _) fun _ => rfl

theorem leading_span_silent {α : Type} {test : α → Traced Bool} (tested : ∀ item, (test item).log = [])
    (items : List α) : (Primitive.leadingSpan test items).log = [] := by
  induction items with
  | nil => rfl
  | cons item items induction =>
      apply silent_bind (tested item)
      intro passed
      cases passed with
      | false => rfl
      | true => exact silent_bind induction fun _ => rfl

theorem span_of_silent (description : String) {test : Value → Traced Bool}
    (tested : ∀ value, (test value).log = []) : (Primitive.spanOf description test .text).Silent := by
  intro source
  apply silent_bind (leading_span_silent (fun point => tested (.text [point])) source)
  intro span
  split <;> rfl

theorem after_element_silent {separator : Option (Attempt σ)}
    (silent : ∀ attempt ∈ separator, attempt.Silent) (rest : σ) :
    (Repetition.afterElement separator rest).log = [] := by
  cases separator with
  | none => rfl
  | some attempt =>
      apply silent_bind (silent attempt rfl rest)
      intro outcome
      cases outcome <;> rfl

theorem run_silent {element : Attempt Text} {separator : Option (Attempt Text)} (silent : element.Silent)
    (apart : ∀ attempt ∈ separator, attempt.Silent) (source : Text) :
    (Repetition.run Medium.text.size element separator source).log = [] := by
  rw [Repetition.run_eq_round]
  apply silent_bind (silent source)
  intro outcome
  cases outcome with
  | failed failure => rfl
  | matched value rest =>
      apply silent_bind (after_element_silent apart rest)
      intro behind
      simp only [Repetition.concludeRound, Medium.size]
      split
      · rename_i shorter
        split
        · exact silent_bind (run_silent silent apart behind.1) fun _ => rfl
        · rfl
      · rfl
termination_by source.length

end Attempt

/-- An attempt on texts that logs nothing. -/
def Attempts.Silent (attempts : Attempts) : Prop := (attempts .text).Silent

namespace Grammar

/-- Reads or checks values without a record. -/
def ReadsSilently (scope : Scope) (reader : Grammar) : Prop :=
  ∀ budget, (reader.attempt (scope.meaning budget) .value).Silent

/-- Observes nothing, refers to nothing but the given references, and repeats only what consumes, with
separators that keep to the text. -/
def Quiet (scope : Scope) (among : Reference → Prop) : Grammar → Prop
  | primitive _ => True
  | custom _ attempts => attempts.Silent
  | deferred reference => among reference
  | named grammar _ => grammar.Quiet scope among
  | map grammar _ => grammar.Quiet scope among
  | mapThrough grammar reader => grammar.Quiet scope among ∧ reader.ReadsSilently scope
  | mapError grammar _ => grammar.Quiet scope among
  | filter grammar _ => grammar.Quiet scope among
  | filterMatching grammar checker => grammar.Quiet scope among ∧ checker.ReadsSilently scope
  | spanWhere _ _ => True
  | spanMatching checker _ => checker.ReadsSilently scope
  | debug _ _ => False
  | optional grammar _ => grammar.Quiet scope among
  | followedBy first second => first.Quiet scope among ∧ second.Quiet scope among
  | many element _ => element.Quiet scope among ∧ element.Consumes scope
  | separatedBy element separator _ =>
      (element.Quiet scope among ∧ separator.Quiet scope among) ∧ element.Consumes scope ∧ separator.Keeps scope
  | either first second => first.Quiet scope among ∧ second.Quiet scope among
  | choice alternatives => ∀ index, (alternatives index).Quiet scope among

variable {scope : Scope} {among : Reference → Prop}

theorem attempt_silent {grammar : Grammar} {budget : Nat}
    (references : ∀ reference, among reference → (scope.meaning budget reference).Silent)
    (quiet : grammar.Quiet scope among) : Attempts.Silent (grammar.attempt (scope.meaning budget)) := by
  have unread {reader : Grammar} {α : Type} (silent : reader.ReadsSilently scope) (value : Value)
      (last : Outcome Value → α) :
      ((do return last (← reader.attempt (scope.meaning budget) .value value)) : Traced α).log = [] :=
    silent_bind (silent budget value) fun _ => rfl
  induction grammar with
  | primitive leaf => exact fun _ => rfl
  | custom label attempts => exact quiet
  | deferred reference => exact references reference quiet
  | named grammar label induction => exact induction quiet
  | map grammar transformer induction => exact (induction quiet).map fun _ => log_of_except _
  | mapThrough grammar reader induction _ =>
      exact (induction quiet.1).map fun value => unread quiet.2 value _
  | mapError grammar transformer induction => exact (induction quiet).map_error _
  | filter grammar predicate induction => exact (induction quiet).filter fun _ => log_of_except _
  | filterMatching grammar checker induction _ =>
      exact (induction quiet.1).filter fun value => unread quiet.2 value _
  | spanWhere predicate description => exact Attempt.span_of_silent _ fun _ => log_of_except _
  | spanMatching checker description _ => exact Attempt.span_of_silent _ fun value => unread quiet value _
  | debug grammar label induction => exact quiet.elim
  | optional grammar default induction => exact (induction quiet).optional default
  | followedBy first second firstInduction secondInduction =>
      exact (firstInduction quiet.1).followed_by (secondInduction quiet.2)
  | many element atLeastOne induction =>
      intro source
      refine ((Attempt.repeated_keeps_values (quiet.2 budget) (by simp) _ _).log source).trans ?_
      exact Attempt.run_silent (induction quiet.1) (by simp) source
  | separatedBy element separator atLeastOne elementInduction separatorInduction =>
      intro source
      refine ((Attempt.repeated_keeps_values (quiet.2.1 budget) ?_ _ _).log source).trans ?_
      · rintro attempt ⟨rfl⟩
        exact quiet.2.2 budget
      · apply Attempt.run_silent (elementInduction quiet.1.1)
        rintro attempt ⟨rfl⟩
        exact separatorInduction quiet.1.2
  | either first second firstInduction secondInduction =>
      exact (firstInduction quiet.1).either (secondInduction quiet.2)
  | choice alternatives induction =>
      apply Attempt.choice_silent
      intro attempt member
      obtain ⟨index, rfl⟩ := List.mem_ofFn.mp member
      exact induction index (quiet index)

end Grammar

theorem Scope.meaning_silent {scope : Scope} {among : Reference → Prop}
    (quiet : ∀ reference definition, among reference → scope reference = .ok definition →
      definition.Quiet scope among) (budget : Nat) (reference : Reference) (member : among reference) :
    (scope.meaning budget reference).Silent := by
  induction budget generalizing reference with
  | zero => exact fun _ => rfl
  | succ budget induction =>
      unfold meaning
      cases found : scope reference with
      | error reason => exact fun _ => rfl
      | ok definition => exact Grammar.attempt_silent induction (quiet reference definition member found)

namespace Grammar

variable {scope : Scope} {among : Reference → Prop}

theorem quiet_structural : Structural (Quiet scope among) where
  named quiet := quiet
  choice quiet := quiet

theorem quiet_one_of (word : Word) : (oneOf word).Quiet scope among :=
  quiet_structural.one_of (fun _ => trivial) word

theorem quiet_hex_code (more : Nat) : (hexCode more).Quiet scope among := by
  induction more with
  | zero => exact quiet_one_of hexDigits
  | succ more induction => exact ⟨induction, quiet_one_of hexDigits⟩

theorem quiet_escaped (quotation : Quotation) : (escaped quotation).Quiet scope among :=
  ⟨trivial, quiet_structural.escapes ⟨trivial, quiet_hex_code 3⟩ (fun _ => trivial) trivial quotation⟩

theorem hex_code_always_consumes (scope : Scope) (more : Nat) : AlwaysConsumes scope (hexCode more) := by
  induction more with
  | zero => exact .one_of hexDigits
  | succ more induction => exact (induction.beginning (AlwaysConsumes.one_of hexDigits).keeps).map joinPair

theorem unicode_escape_always_consumes (scope : Scope) : AlwaysConsumes scope unicodeEscape := by
  have digits := (hex_code_always_consumes scope 3).keeps
  exact ((AlwaysConsumes.preceded_by (character_consumes scope 'u').keeps digits
    (Or.inl (.character 'u'))).map toCodePoint).named _

theorem quoted_piece_always_consumes (scope : Scope) (quotation : Quotation) :
    AlwaysConsumes scope (choiceOf (span quotation.plain) [escaped quotation]) := by
  have escapes := AlwaysConsumes.structural.escapes (unicode_escape_always_consumes scope)
    (fun escape => .map_constant (.character escape.1) _) (.primitive (by simp)) quotation
  apply AlwaysConsumes.structural.pieces (.primitive (by simp))
  exact .preceded_by (character_consumes scope quotation.escape).keeps escapes.keeps
    (Or.inl (.character quotation.escape))

theorem quiet_quoted_text (quotation : Quotation) : (quotedText quotation).Quiet scope among := by
  have pieces : (choiceOf (span quotation.plain) [escaped quotation]).Quiet scope among :=
    quiet_structural.pieces trivial (quiet_escaped quotation)
  exact ⟨⟨trivial, pieces, (quoted_piece_always_consumes scope quotation).consumes⟩, trivial⟩

theorem quiet_signed_integer (bound : Option Bound) : (signedInteger bound).Quiet scope among := by
  cases bound with
  | none => exact ⟨quiet_one_of signs, trivial⟩
  | some limit => exact ⟨quiet_one_of signs, trivial⟩

theorem quiet_decimal_number : decimalNumber.Quiet scope among :=
  ⟨⟨⟨quiet_one_of signs, trivial⟩, trivial, trivial⟩,
    ⟨quiet_one_of _, quiet_one_of signs⟩, trivial⟩

theorem quiet_operator : operator.Quiet scope among := quiet_structural.operator fun _ => trivial

/-- An operator and operands, which may be none, behind the bracket that consumes. -/
theorem operation_content_keeps (session : Session) :
    (operator.skippingSomeWhitespace.followedBy operands).Keeps session.scope := by
  apply keeps_of_suffixes
  intro budget
  apply attempt_leaves_suffixes
  · exact ⟨⟨every_handwritten_operator, trivial⟩, trivial, trivial⟩
  · have closed := (expression_closed session).mono fun _ guarded => guarded.leaves
    exact ⟨⟨operator_references _, trivial⟩,
      closed.leaves_suffixes budget (.provided .expression) rfl, trivial⟩

theorem expression_always_consumes (session : Session) : AlwaysConsumes session.scope expression := by
  have number : AlwaysConsumes session.scope number := ((AlwaysConsumes.primitive (by simp)).map _).named _
  have operation : AlwaysConsumes session.scope operation :=
    ((AlwaysConsumes.between (character_consumes _ _).keeps (operation_content_keeps session)
      (character_consumes _ _).keeps (Or.inl (Or.inl (.character _)))).map _).named _
  exact ((number.either operation).map _).named _

theorem quiet_expression (session : Session) :
    expression.Quiet session.scope (· = .provided .expression) := by
  have whitespaceKeeps : whitespace.Keeps session.scope :=
    ((AlwaysConsumes.primitive (by simp)).named _).keeps
  have operandConsumes : (deferred (.provided .expression)).Consumes session.scope :=
    deferred_consumes rfl (expression_always_consumes session).consumes
  exact ⟨trivial, ⟨trivial, ⟨quiet_operator, trivial⟩, ⟨rfl, trivial⟩, operandConsumes, whitespaceKeeps⟩,
    trivial⟩

theorem session_run_silent {grammar : Grammar} (session : Session)
    (quiet : grammar.Quiet session.scope (· = .provided .expression)) (budget : Nat) (source : Text) :
    (grammar.runWithin budget session.scope source).log = [] := by
  refine attempt_silent (Scope.meaning_silent ?_ budget) quiet source
  rintro reference definition rfl found
  obtain rfl := Except.ok.inj found
  exact quiet_expression session

/-- Grammars that consume by the way they are built leave less than there was whenever they match. A
repetition of one of them keeps each value that it matched and warns of nothing, and only a separator
that makes the text longer could change that. Quoted texts, numbers and expressions therefore log
nothing. -/
theorem consuming_elements_never_stall :
    (∀ (scope : Scope) (grammar : Grammar), AlwaysConsumes scope grammar → grammar.Consumes scope) ∧
    (∀ (scope : Scope) (element : Grammar) (separator : Option Grammar), element.Consumes scope →
      ∀ budget : Nat,
        ((∀ part ∈ separator, part.Keeps scope) → ∀ atLeastOne : Bool,
          Repetition.KeepsValues (element.runWithin budget scope)
            (separator.map fun part => part.runWithin budget scope)
            ((element.repetition separator atLeastOne).runWithin budget scope)) ∧
        ∀ source course, (Repetition.run Medium.text.size (element.runWithin budget scope)
            (separator.map fun part => part.runWithin budget scope) source).result = .ok course →
          course.stop = .stalled → ∃ part ∈ separator, ∃ rest skipped next,
            (part.runWithin budget scope).Matches rest skipped next ∧ rest.length < next.length) ∧
    ∀ (session : Session) (budget : Nat) (source : Text),
      (∀ quotation, ((quotedText quotation).runWithin budget session.scope source).log = []) ∧
      (decimalNumber.runWithin budget session.scope source).log = [] ∧
      (∀ bound, ((signedInteger bound).runWithin budget session.scope source).log = []) ∧
      (expression.runWithin budget session.scope source).log = [] := by
  refine ⟨fun scope grammar always => always.consumes, ?_, ?_⟩
  · intro scope element separator consumes budget
    constructor
    · intro keeps atLeastOne
      have separatorKeeps : ∀ attempt ∈ separator.map fun part => part.runWithin budget scope,
          attempt.Leaves fun rest source => rest.length ≤ source.length := by
        intro attempt member
        obtain ⟨part, present, rfl⟩ := Option.map_eq_some_iff.mp member
        exact keeps part present budget
      have kept := Attempt.repeated_keeps_values (consumes budget) separatorKeeps
        (element.repetition separator atLeastOne).name atLeastOne
      cases separator <;> exact kept
    · intro source course answered stalled
      obtain ⟨attempt, member, longer⟩ :=
        Repetition.stall_is_of_separator (consumes budget) source answered stalled
      obtain ⟨part, present, rfl⟩ := Option.map_eq_some_iff.mp member
      exact ⟨part, present, longer⟩
  · intro session budget source
    refine ⟨fun quotation => ?_, ?_, fun bound => ?_, ?_⟩
    · exact session_run_silent session (quiet_quoted_text quotation) budget source
    · exact session_run_silent session quiet_decimal_number budget source
    · exact session_run_silent session (quiet_signed_integer bound) budget source
    · exact session_run_silent session (quiet_expression session) budget source

/-- A sign and a number behind it, with a look at what follows the sign. -/
def marked : Grammar := split (oneOf signs) (custom "parser" Attempt.peek) (integer none)

theorem peek_keeps (scope : Scope) : (custom "parser" Attempt.peek).Keeps scope :=
  keeps_of_suffixes fun _ => peek_leaves_suffixes

/-- The separator takes nothing, and still every value is kept. -/
theorem marked_numbers_keep_values :
    AlwaysConsumes Session.empty.scope marked ∧ (custom "parser" Attempt.peek).Keeps Session.empty.scope ∧
      Repetition.KeepsValues (marked.runWithin 0 Session.empty.scope) (some (Attempt.peek .text))
        ((marked.separatedBy (custom "parser" Attempt.peek) false).runWithin 0 Session.empty.scope) := by
  have sign := @AlwaysConsumes.one_of Session.empty.scope signs
  have number : AlwaysConsumes Session.empty.scope (integer none) := .primitive (by simp)
  have always : AlwaysConsumes Session.empty.scope marked :=
    .split sign.keeps (peek_keeps _) number.keeps (Or.inl (Or.inl sign))
  have consumes := consuming_elements_never_stall.1 Session.empty.scope marked always
  have keeps : ∀ part ∈ some (custom "parser" Attempt.peek), part.Keeps Session.empty.scope := by
    rintro part ⟨rfl⟩
    exact peek_keeps Session.empty.scope
  exact ⟨always, peek_keeps _, (consuming_elements_never_stall.2.1 _ marked _ consumes 0).1 keeps false⟩

end Grammar

end TextGrammar
