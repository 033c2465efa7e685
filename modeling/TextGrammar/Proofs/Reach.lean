import TextGrammar.Proofs.Budget
import TextGrammar.Proofs.Grammar.Part
import TextGrammar.Proofs.Repetition.Visits

/-!
What an evaluation comes to. An attempt of a grammar attempts some of the references in
it and leaves others alone: what is behind a failure is not run, nor an alternative behind
a match. What references lead to is attempted in turn. A run halts because a placeholder
has no definition exactly when it comes to an attempt of one.
-/

namespace TextGrammar

open Traced

/-- An attempt of a reference on a source. -/
structure Call where
  reference : Reference
  medium : Medium
  source : medium.Source

def Call.answer (meaning : Reference → Attempts) (call : Call) : Traced (Outcome call.medium.Source) :=
  meaning call.reference call.medium call.source

namespace Grammar

/-- The attempt of the grammar on the source makes the call, in itself and not in what other references
lead to. There is a constructor for each part that a grammar can run, and its conditions are those under
which the part is run. -/
inductive Calls (meaning : Reference → Attempts) (call : Call) :
    Grammar → (medium : Medium) → medium.Source → Prop
  | deferred : Calls meaning call (.deferred call.reference) call.medium call.source
  | named {grammar : Grammar} {medium : Medium} {source : medium.Source} (label : String)
      (calls : Calls meaning call grammar medium source) : Calls meaning call (grammar.named label) medium source
  | map {grammar : Grammar} {medium : Medium} {source : medium.Source} (transformer : Transformer)
      (calls : Calls meaning call grammar medium source) :
      Calls meaning call (grammar.map transformer) medium source
  | mapThrough {grammar : Grammar} {medium : Medium} {source : medium.Source} (reader : Grammar)
      (calls : Calls meaning call grammar medium source) :
      Calls meaning call (grammar.mapThrough reader) medium source
  | reader {grammar reader : Grammar} {medium : Medium} {source rest : medium.Source} {value : Value}
      (matched : (grammar.attempt meaning medium).Matches source value rest)
      (calls : Calls meaning call reader .value value) :
      Calls meaning call (grammar.mapThrough reader) medium source
  | mapError {grammar : Grammar} {medium : Medium} {source : medium.Source} (transformer : Transformer)
      (calls : Calls meaning call grammar medium source) :
      Calls meaning call (grammar.mapError transformer) medium source
  | filter {grammar : Grammar} {medium : Medium} {source : medium.Source} (predicate : Predicate)
      (calls : Calls meaning call grammar medium source) :
      Calls meaning call (grammar.filter predicate) medium source
  | filterMatching {grammar : Grammar} {medium : Medium} {source : medium.Source} (checker : Grammar)
      (calls : Calls meaning call grammar medium source) :
      Calls meaning call (grammar.filterMatching checker) medium source
  | checker {grammar checker : Grammar} {medium : Medium} {source rest : medium.Source} {value : Value}
      (matched : (grammar.attempt meaning medium).Matches source value rest)
      (calls : Calls meaning call checker .value value) :
      Calls meaning call (grammar.filterMatching checker) medium source
  | spanMatching {checker : Grammar} {medium : Medium} {source : medium.Source} {before behind : List Value}
      {item : Value} (description : Option String) (split : medium.items source = before ++ item :: behind)
      (passed : ∀ earlier ∈ before, ∃ value rest,
        (checker.attempt meaning .value).Matches earlier value rest)
      (calls : Calls meaning call checker .value item) :
      Calls meaning call (.spanMatching checker description) medium source
  | debug {grammar : Grammar} {medium : Medium} {source : medium.Source} (label : Option String)
      (calls : Calls meaning call grammar medium source) : Calls meaning call (grammar.debug label) medium source
  | optional {grammar : Grammar} {medium : Medium} {source : medium.Source} (default : Value)
      (calls : Calls meaning call grammar medium source) :
      Calls meaning call (grammar.optional default) medium source
  | first {first : Grammar} {medium : Medium} {source : medium.Source} (second : Grammar)
      (calls : Calls meaning call first medium source) :
      Calls meaning call (first.followedBy second) medium source
  | second {first second : Grammar} {medium : Medium} {source rest : medium.Source} {value : Value}
      (matched : (first.attempt meaning medium).Matches source value rest)
      (calls : Calls meaning call second medium rest) :
      Calls meaning call (first.followedBy second) medium source
  | many {element : Grammar} {medium : Medium} {source place : medium.Source} (atLeastOne : Bool)
      (visits : Repetition.Visits medium.size (element.attempt meaning medium) none source place)
      (calls : Calls meaning call element medium place) :
      Calls meaning call (element.many atLeastOne) medium source
  | element {element separator : Grammar} {medium : Medium} {source place : medium.Source}
      (atLeastOne : Bool)
      (visits : Repetition.Visits medium.size (element.attempt meaning medium)
        (some (separator.attempt meaning medium)) source place)
      (calls : Calls meaning call element medium place) :
      Calls meaning call (element.separatedBy separator atLeastOne) medium source
  | separator {element separator : Grammar} {medium : Medium} {source place rest : medium.Source}
      {value : Value} (atLeastOne : Bool)
      (visits : Repetition.Visits medium.size (element.attempt meaning medium)
        (some (separator.attempt meaning medium)) source place)
      (matched : (element.attempt meaning medium).Matches place value rest)
      (calls : Calls meaning call separator medium rest) :
      Calls meaning call (element.separatedBy separator atLeastOne) medium source
  | left {first : Grammar} {medium : Medium} {source : medium.Source} (second : Grammar)
      (calls : Calls meaning call first medium source) : Calls meaning call (first.either second) medium source
  | right {first second : Grammar} {medium : Medium} {source : medium.Source}
      (fails : (first.attempt meaning medium).Fails source)
      (calls : Calls meaning call second medium source) : Calls meaning call (first.either second) medium source
  | choice {others : Nat} {alternatives : Fin (others + 1) → Grammar} {medium : Medium}
      {source : medium.Source} (index : Fin (others + 1))
      (fail : ∀ earlier < index, ((alternatives earlier).attempt meaning medium).Fails source)
      (calls : Calls meaning call (alternatives index) medium source) :
      Calls meaning call (.choice alternatives) medium source

variable {meaning : Reference → Attempts} {name : String} {medium : Medium} {source : medium.Source}

theorem refusal_blames (refuser : String) (value : Value) : BlamesNoPlaceholder (refusal refuser value) := by
  unfold refusal
  exact ((BlamesNoPlaceholder.print value).bind fun _ => .ok _).map _

theorem observation_blames (tag : String) (medium : Medium) (source : medium.Source)
    (outcome : Outcome medium.Source) :
    BlamesNoPlaceholder (observation medium.print tag source outcome) := by
  have printed : ∀ source, BlamesNoPlaceholder (medium.print source) := by
    intro source
    cases medium with
    | text => exact .ok _
    | value => exact .print source
  cases outcome with
  | matched value rest =>
      exact (BlamesNoPlaceholder.print value).bind fun _ => (printed rest).bind fun _ => .ok _
  | failed failure =>
      exact (printed source).bind fun _ => (BlamesNoPlaceholder.display failure.message).bind fun _ => .ok _

/-- A check of a value halts where the attempt does, and holds where it matches. -/
theorem check_passes {checker : Grammar} {value : Value}
    (passed : (do return (← checker.attempt meaning .value value).isMatch : Traced Bool).result = .ok true) :
    ∃ given rest, (checker.attempt meaning .value).Matches value given rest := by
  obtain ⟨outcome, answered, truth⟩ := result_bind_eq_ok.mp passed
  cases outcome with
  | matched given rest => exact ⟨given, rest, answered⟩
  | failed failure => exact absurd (result_pure_eq_ok.mp truth) (by simp [Outcome.isMatch])

theorem passes_check {checker : Grammar} {value : Value}
    (matched : ∃ given rest, (checker.attempt meaning .value).Matches value given rest) :
    (do return (← checker.attempt meaning .value value).isMatch : Traced Bool).result = .ok true := by
  obtain ⟨given, rest, answered⟩ := matched
  exact result_bind_eq_ok.mpr ⟨.matched given rest, answered, rfl⟩

/-- Where an attempt needs a placeholder, one of its calls does. -/
theorem calls_of_misses {grammar : Grammar} (innocent : grammar.EveryPart Innocent)
    (misses : (grammar.attempt meaning medium source).Misses name) :
    ∃ call, grammar.Calls meaning call medium source ∧ (call.answer meaning).Misses name := by
  induction grammar generalizing medium source with
  | primitive leaf => exact absurd misses (leaf.attempts_miss_nothing innocent medium source)
  | custom label attempts => exact absurd misses (innocent medium source name)
  | deferred reference => exact ⟨⟨reference, medium, source⟩, .deferred, misses⟩
  | named grammar label induction =>
      obtain ⟨call, calls, missed⟩ := induction innocent.2 misses
      exact ⟨call, .named label calls, missed⟩
  | map grammar transformer induction =>
      rcases Attempt.map_misses misses with begins | ⟨value, _, _, behind⟩
      · obtain ⟨call, calls, missed⟩ := induction innocent.2 begins
        exact ⟨call, .map transformer calls, missed⟩
      · exact absurd behind (of_except_misses_nothing (innocent.1 value))
  | mapThrough grammar reader induction readerInduction =>
      rcases Attempt.map_misses misses with begins | ⟨value, rest, matched, behind⟩
      · obtain ⟨call, calls, missed⟩ := induction innocent.2.1 begins
        exact ⟨call, .mapThrough reader calls, missed⟩
      · have reads := misses_before behind fun _ => pure_misses_nothing _
        obtain ⟨call, calls, missed⟩ := readerInduction innocent.2.2 reads
        exact ⟨call, .reader matched calls, missed⟩
  | mapError grammar transformer induction =>
      obtain ⟨call, calls, missed⟩ := induction innocent.2 (Attempt.map_error_misses innocent.1 misses)
      exact ⟨call, .mapError transformer calls, missed⟩
  | filter grammar predicate induction =>
      rcases Attempt.filter_misses (refusal_blames _) misses with begins | ⟨value, _, _, behind⟩
      · obtain ⟨call, calls, missed⟩ := induction innocent.2 begins
        exact ⟨call, .filter predicate calls, missed⟩
      · exact absurd behind (of_except_misses_nothing (innocent.1 value))
  | filterMatching grammar checker induction checkerInduction =>
      rcases Attempt.filter_misses (refusal_blames _) misses with begins | ⟨value, rest, matched, behind⟩
      · obtain ⟨call, calls, missed⟩ := induction innocent.2.1 begins
        exact ⟨call, .filterMatching checker calls, missed⟩
      · have checks := misses_before behind fun _ => pure_misses_nothing _
        obtain ⟨call, calls, missed⟩ := checkerInduction innocent.2.2 checks
        exact ⟨call, .checker matched calls, missed⟩
  | spanWhere predicate description =>
      obtain ⟨_, item, _, _, _, tested⟩ := Primitive.span_of_misses misses
      exact absurd tested (of_except_misses_nothing (innocent item))
  | spanMatching checker description induction =>
      obtain ⟨before, item, behind, split, passed, tested⟩ := Primitive.span_of_misses misses
      have checks := misses_before tested fun _ => pure_misses_nothing _
      obtain ⟨call, calls, missed⟩ := induction innocent.2 checks
      have matched := fun earlier member => check_passes (passed earlier member)
      exact ⟨call, .spanMatching description split matched calls, missed⟩
  | debug grammar label induction =>
      have begins := Attempt.observe_misses (observation_blames _ medium source) misses
      obtain ⟨call, calls, missed⟩ := induction innocent.2 begins
      exact ⟨call, .debug label calls, missed⟩
  | optional grammar default induction =>
      obtain ⟨call, calls, missed⟩ := induction innocent.2 (Attempt.optional_misses misses)
      exact ⟨call, .optional default calls, missed⟩
  | followedBy first second firstInduction secondInduction =>
      rcases Attempt.followed_by_misses misses with begins | ⟨value, rest, matched, ends⟩
      · obtain ⟨call, calls, missed⟩ := firstInduction innocent.2.1 begins
        exact ⟨call, .first second calls, missed⟩
      · obtain ⟨call, calls, missed⟩ := secondInduction innocent.2.2 ends
        exact ⟨call, .second matched calls, missed⟩
  | many element atLeastOne induction =>
      obtain ⟨place, visits, begins | ⟨_, _, _, _, none, _⟩⟩ :=
        Attempt.repeated_misses (BlamesNoPlaceholder.size medium) misses
      · obtain ⟨call, calls, missed⟩ := induction innocent.2 begins
        exact ⟨call, .many atLeastOne visits calls, missed⟩
      · exact absurd none (by simp)
  | separatedBy element separator atLeastOne elementInduction separatorInduction =>
      obtain ⟨place, visits, begins | ⟨value, rest, matched, attempt, present, between⟩⟩ :=
        Attempt.repeated_misses (BlamesNoPlaceholder.size medium) misses
      · obtain ⟨call, calls, missed⟩ := elementInduction innocent.2.1 begins
        exact ⟨call, .element atLeastOne visits calls, missed⟩
      · obtain rfl := Option.some.inj present
        obtain ⟨call, calls, missed⟩ := separatorInduction innocent.2.2 between
        exact ⟨call, .separator atLeastOne visits matched calls, missed⟩
  | either first second firstInduction secondInduction =>
      rcases Attempt.either_misses misses with begins | ⟨fails, ends⟩
      · obtain ⟨call, calls, missed⟩ := firstInduction innocent.2.1 begins
        exact ⟨call, .left second calls, missed⟩
      · obtain ⟨call, calls, missed⟩ := secondInduction innocent.2.2 ends
        exact ⟨call, .right fails calls, missed⟩
  | choice alternatives induction =>
      obtain ⟨index, fail, tried⟩ := Attempt.choice_misses misses
      obtain ⟨call, calls, missed⟩ := induction index (innocent.2 index) tried
      exact ⟨call, .choice index fail calls, missed⟩

/-- A call that needs a placeholder ends the attempt that makes it. -/
theorem misses_of_calls {call : Call} {grammar : Grammar} (calls : grammar.Calls meaning call medium source)
    (missed : (call.answer meaning).Misses name) : (grammar.attempt meaning medium source).Misses name := by
  induction calls with
  | deferred => exact missed
  | named label _ misses => exact misses
  | map transformer _ misses => exact misses.bind _
  | mapThrough reader _ misses => exact misses.bind _
  | reader matched _ misses => exact Misses.after matched ((misses.bind _).bind _)
  | mapError transformer _ misses => exact misses.bind _
  | filter predicate _ misses => exact misses.bind _
  | filterMatching checker _ misses => exact misses.bind _
  | checker matched _ misses => exact Misses.after matched ((misses.bind _).bind _)
  | spanMatching description split passed _ misses =>
      exact Primitive.misses_span_of split (fun earlier member => passes_check (passed earlier member))
        (misses.bind _)
  | debug label _ misses => exact misses.bind _
  | optional default _ misses => exact misses.bind _
  | first second _ misses => exact misses.bind _
  | second matched _ misses => exact Misses.after matched (misses.bind _)
  | many atLeastOne visits _ misses => exact Attempt.misses_repeated visits (Or.inl misses)
  | element atLeastOne visits _ misses => exact Attempt.misses_repeated visits (Or.inl misses)
  | separator atLeastOne visits matched _ misses =>
      exact Attempt.misses_repeated visits (Or.inr ⟨_, _, matched, _, rfl, misses⟩)
  | left second _ misses => exact misses.bind _
  | right fails _ misses => exact fails.either misses
  | choice index fail _ misses =>
      exact (Attempt.misses_first_match fail misses).bind _

end Grammar

namespace Scope

/-- Everything that references lead to is innocent. -/
def Innocent (scope : Scope) : Prop :=
  ∀ reference definition, scope reference = .ok definition → definition.EveryPart Grammar.Innocent

/-- The attempt of the grammar on the source comes to an attempt of the reference, through what other
references lead to, and with some of the budget left to look the reference up. -/
inductive Reaches (scope : Scope) (reference : Reference) :
    Nat → Grammar → (medium : Medium) → medium.Source → Prop
  | here {budget : Nat} {grammar : Grammar} {medium other : Medium} {source : medium.Source}
      {place : other.Source}
      (calls : grammar.Calls (scope.meaning (budget + 1)) ⟨reference, other, place⟩ medium source) :
      Reaches scope reference (budget + 1) grammar medium source
  | inside {budget : Nat} {grammar definition : Grammar} {medium : Medium} {source : medium.Source} {call : Call}
      (calls : grammar.Calls (scope.meaning (budget + 1)) call medium source)
      (leads : scope call.reference = .ok definition)
      (reaches : Reaches scope reference budget definition call.medium call.source) :
      Reaches scope reference (budget + 1) grammar medium source

variable {scope : Scope} {budget : Nat} {name : String} {grammar : Grammar} {medium : Medium}
  {source : medium.Source}

theorem reaches_of_misses (innocent : scope.Innocent) (whole : grammar.EveryPart Grammar.Innocent)
    (misses : (grammar.attempt (scope.meaning budget) medium source).Misses name) :
    ∃ reference, scope reference = .error (.undefinedPlaceholder name) ∧
      scope.Reaches reference budget grammar medium source := by
  induction budget generalizing grammar medium with
  | zero =>
      obtain ⟨call, _, missed⟩ := Grammar.calls_of_misses whole misses
      exact absurd missed (by simp [Call.answer, meaning, Misses, halt])
  | succ budget induction =>
      obtain ⟨call, calls, missed⟩ := Grammar.calls_of_misses whole misses
      unfold Call.answer at missed
      cases found : scope call.reference with
      | error reason =>
          simp only [meaning, found] at missed
          exact ⟨call.reference, found.trans (congrArg Except.error (fault_misses missed)), .here calls⟩
      | ok definition =>
          rw [meaning_of_definition found] at missed
          obtain ⟨reference, undefined, reaches⟩ := induction (innocent _ _ found) missed
          exact ⟨reference, undefined, .inside calls found reaches⟩

theorem misses_of_reaches {reference : Reference} (undefined : scope reference = .error (.undefinedPlaceholder name))
    (reaches : scope.Reaches reference budget grammar medium source) :
    (grammar.attempt (scope.meaning budget) medium source).Misses name := by
  induction reaches with
  | here calls =>
      apply Grammar.misses_of_calls calls
      simp only [Call.answer, meaning, undefined]
      rfl
  | inside calls leads _ misses =>
      apply Grammar.misses_of_calls calls
      unfold Call.answer
      rw [meaning_of_definition leads]
      exact misses

end Scope
end TextGrammar
