import TextGrammar.Proofs.Attempt.Match
import TextGrammar.Grammar.Basic

/-!
The exact course of a repetition whose parts answer every text. A round runs the
element and then the separator on what the element left. The repetition makes the
rounds up to the first one that does not go on, keeps the values of those that made
the text shorter, and leaves what the last of these left. The parts may log, so the
log of the run shows which rounds were made. What a part leaves need not be a suffix.
-/

namespace TextGrammar

open Traced

/-- What a part does that answers every text: what it logs and its outcome. -/
structure Response where
  records : Text → List Record
  outcome : Text → Outcome Text

def Response.attempt (response : Response) : Attempt Text := fun source =>
  ⟨response.records source, .ok (response.outcome source)⟩

theorem Response.attempt_bind {β : Type} (response : Response) (source : Text)
    (next : Outcome Text → Traced β) :
    (response.attempt source >>= next) =
      ⟨response.records source ++ (next (response.outcome source)).log,
        (next (response.outcome source)).result⟩ := rfl

/-- What a round comes to. -/
inductive Round where
  /-- The element failed. -/
  | failed (failure : Failure)
  /-- The element matched and the text did not get shorter. -/
  | stalled
  /-- The text got shorter; what follows is separated if no separator is missing. -/
  | progressed (value : Value) (next : Text) (separated : Bool)

namespace Round

def goesOn : Round → Bool
  | progressed _ _ separated => separated
  | _ => false

def value? : Round → Option Value
  | progressed value _ _ => some value
  | _ => none

/-- What a round leaves of the text that it began with. -/
def rest (source : Text) : Round → Text
  | progressed _ next _ => next
  | _ => source

/-- A round that takes nothing is logged. -/
def warnings (name : String) : Round → List Record
  | stalled => [⟨.warning, name ++ ": an iteration matched without consuming input, stopping."⟩]
  | _ => []

/-- Why a repetition stops behind a round that does not go on. -/
def stop : Round → Stop
  | failed failure => .failed failure
  | stalled => .stalled
  | progressed .. => .unseparated

end Round

/-- What a repetition repeats. -/
structure Parts where
  element : Response
  separator : Option Response

namespace Parts

/-- What is left behind an element and the separator after it, and whether more may follow. -/
def behind (parts : Parts) (rest : Text) : Text × Bool :=
  match parts.separator with
  | none => (rest, true)
  | some response =>
      match response.outcome rest with
      | .matched _ later => (later, true)
      | .failed _ => (rest, false)

def round (parts : Parts) (source : Text) : Round :=
  match parts.element.outcome source with
  | .failed failure => .failed failure
  | .matched value rest =>
      let (next, separated) := parts.behind rest
      if next.length < source.length then .progressed value next separated else .stalled

def separatorRecords (parts : Parts) (rest : Text) : List Record :=
  match parts.separator with
  | none => []
  | some response => response.records rest

def roundRecords (parts : Parts) (source : Text) : List Record :=
  parts.element.records source ++
    match parts.element.outcome source with
    | .failed _ => []
    | .matched _ rest => parts.separatorRecords rest

/-- Where the round of the given number begins. -/
def place (parts : Parts) (source : Text) : Nat → Text
  | 0 => source
  | count + 1 => (parts.round (parts.place source count)).rest (parts.place source count)

/-- The values of the rounds before the given one that made progress. -/
def valuesBefore (parts : Parts) (source : Text) (count : Nat) : List Value :=
  (List.range count).filterMap fun index => (parts.round (parts.place source index)).value?

def recordsBefore (parts : Parts) (source : Text) (count : Nat) : List Record :=
  (List.range count).flatMap fun index => parts.roundRecords (parts.place source index)

/-- The round is the first one that does not go on. -/
structure IsLastRound (parts : Parts) (source : Text) (last : Nat) : Prop where
  goOn : ∀ index, index < last → (parts.round (parts.place source index)).goesOn
  stops : (parts.round (parts.place source last)).goesOn = false

variable {parts : Parts} {source next : Text} {value : Value} {separated : Bool}

theorem place_behind (first : parts.round source = .progressed value next separated) (count : Nat) :
    parts.place source (count + 1) = parts.place next count := by
  induction count with
  | zero => simp only [place, first, Round.rest]
  | succ count induction => rw [place, induction, place]

theorem values_behind (first : parts.round source = .progressed value next separated) (count : Nat) :
    parts.valuesBefore source (count + 1) = value :: parts.valuesBefore next count := by
  have later : ∀ index, (parts.round (parts.place source (index + 1))).value? =
      (parts.round (parts.place next index)).value? := by
    intro index
    rw [place_behind first]
  simp only [valuesBefore, List.range_succ_eq_map, List.filterMap_cons, List.filterMap_map,
    Function.comp_def, later]
  simp only [place, first, Round.value?]

theorem records_behind (first : parts.round source = .progressed value next separated) (count : Nat) :
    parts.recordsBefore source (count + 1) = parts.roundRecords source ++ parts.recordsBefore next count := by
  have later : ∀ index, parts.roundRecords (parts.place source (index + 1)) =
      parts.roundRecords (parts.place next index) := by
    intro index
    rw [place_behind first]
  simp only [recordsBefore, List.range_succ_eq_map, List.flatMap_cons, List.flatMap_map, later]
  rfl

theorem progressed_shorter (progressed : parts.round source = .progressed value next separated) :
    next.length < source.length := by
  unfold round at progressed
  split at progressed
  · exact absurd progressed (by simp)
  · dsimp only at progressed
    split at progressed
    · rename_i shorter
      obtain ⟨_, rfl, _⟩ := Round.progressed.inj progressed
      exact shorter
    · exact absurd progressed (by simp)

/-- The run of the repetition, before it is decided whether a value was needed. -/
def run (parts : Parts) (source : Text) : Traced (Repetition Text) :=
  Repetition.run Medium.text.size parts.element.attempt (parts.separator.map Response.attempt) source

theorem after_element_eq (parts : Parts) (rest : Text) :
    Repetition.afterElement (parts.separator.map Response.attempt) rest =
      ⟨parts.separatorRecords rest, .ok (parts.behind rest)⟩ := by
  cases present : parts.separator with
  | none => simp only [Option.map_none, Repetition.afterElement, behind, separatorRecords, present]; rfl
  | some separator =>
      simp only [Option.map_some, Repetition.afterElement, behind, separatorRecords, present,
        Response.attempt_bind]
      cases separator.outcome rest <;> exact congrArg (Traced.mk · _) (List.append_nil _)

theorem run_eq (parts : Parts) (source : Text) :
    parts.run source =
      match parts.round source with
      | .failed failure => ⟨parts.roundRecords source, .ok ⟨[], source, .failed failure⟩⟩
      | .stalled => ⟨parts.roundRecords source, .ok ⟨[], source, .stalled⟩⟩
      | .progressed value next false => ⟨parts.roundRecords source, .ok ⟨[value], next, .unseparated⟩⟩
      | .progressed value next true =>
          ⟨parts.roundRecords source ++ (parts.run next).log,
            (parts.run next).result.map fun later => { later with values := value :: later.values }⟩ := by
  unfold run
  rw [Repetition.run, Response.attempt_bind]
  unfold round roundRecords
  cases parts.element.outcome source with
  | failed failure => rfl
  | matched value rest =>
      simp only [after_element_eq]
      obtain ⟨next, separated⟩ := parts.behind rest
      by_cases shorter : next.length < source.length
      · cases separated with
        | false => simp [Bind.bind, Traced.bind, Medium.size, shorter]
        | true =>
            simp only [Bind.bind, Traced.bind, Medium.size, shorter, if_true]
            generalize Repetition.run Medium.text.size _ _ next = later
            rcases later with ⟨log, _ | repetition⟩ <;> simp [Except.map]
      · simp [Bind.bind, Traced.bind, Medium.size, shorter]

theorem run_of_stops (stops : (parts.round source).goesOn = false) :
    parts.run source = ⟨parts.roundRecords source,
      .ok ⟨(parts.round source).value?.toList, (parts.round source).rest source,
        (parts.round source).stop⟩⟩ := by
  rw [run_eq]
  cases same : parts.round source with
  | failed failure => rfl
  | stalled => rfl
  | progressed value next separated =>
      rw [same] at stops
      cases separated with
      | false => rfl
      | true => exact absurd stops (by simp [Round.goesOn])

theorem progressed_of_goes_on (going : (parts.round source).goesOn = true) :
    ∃ value next, parts.round source = .progressed value next true := by
  cases same : parts.round source with
  | failed failure => exact absurd going (by simp [same, Round.goesOn])
  | stalled => exact absurd going (by simp [same, Round.goesOn])
  | progressed value next separated =>
      rw [same] at going
      obtain rfl : separated = true := going
      exact ⟨value, next, rfl⟩

theorem is_last_round_behind {last : Nat} (first : parts.round source = .progressed value next true)
    (later : parts.IsLastRound next last) : parts.IsLastRound source (last + 1) where
  goOn := by
    intro index before
    cases index with
    | zero => rw [place, first, Round.goesOn]
    | succ index =>
        rw [place_behind first]
        exact later.goOn index (by omega)
  stops := by
    rw [place_behind first]
    exact later.stops

theorem IsLastRound.unique {last other : Nat} (isLast : parts.IsLastRound source last)
    (isOther : parts.IsLastRound source other) : last = other := by
  rcases Nat.lt_trichotomy last other with early | same | late
  · exact absurd (isOther.goOn last early) (by simp [isLast.stops])
  · exact same
  · exact absurd (isLast.goOn other late) (by simp [isOther.stops])

/-- The whole run in terms of its rounds. There is a last round since every round that goes on makes
the text shorter. -/
theorem run_rounds (parts : Parts) (source : Text) :
    ∃ last, last ≤ source.length ∧ parts.IsLastRound source last ∧
      parts.run source =
        ⟨parts.recordsBefore source (last + 1),
          .ok ⟨parts.valuesBefore source (last + 1), parts.place source (last + 1),
            (parts.round (parts.place source last)).stop⟩⟩ := by
  cases going : (parts.round source).goesOn with
  | false =>
      refine ⟨0, Nat.zero_le _, ⟨by simp, going⟩, ?_⟩
      rw [run_of_stops going]
      simp only [recordsBefore, valuesBefore, place, Nat.zero_add, List.range_one, List.flatMap_cons,
        List.flatMap_nil, List.append_nil, List.filterMap_cons, List.filterMap_nil]
      cases (parts.round source).value? <;> rfl
  | true =>
      -- Behind a round that goes on, the run is the run on a shorter text.
      obtain ⟨value, next, first⟩ := progressed_of_goes_on going
      have shorter := progressed_shorter first
      obtain ⟨last, bound, isLast, later⟩ := run_rounds parts next
      refine ⟨last + 1, by omega, is_last_round_behind first isLast, ?_⟩
      rw [run_eq, first]
      simp only [later, Except.map, records_behind first, values_behind first, place_behind first]
termination_by source.length

/-- All that a repetition of the given name logs when it stops behind the given round. -/
def log (parts : Parts) (name : String) (source : Text) (last : Nat) : List Record :=
  parts.recordsBefore source (last + 1) ++ (parts.round (parts.place source last)).warnings name

theorem element_of_no_values {last : Nat} (isLast : parts.IsLastRound source last)
    (none : parts.valuesBefore source (last + 1) = []) :
    last = 0 ∧ (parts.round source).value? = .none := by
  cases last with
  | zero =>
      refine ⟨rfl, ?_⟩
      cases present : (parts.round source).value? with
      | none => rfl
      | some value =>
          exact absurd none (by simp [valuesBefore, place, List.range_one, present])
  | succ last =>
      have going := isLast.goOn 0 (by omega)
      obtain ⟨value, next, first⟩ := progressed_of_goes_on going
      have begins := values_behind first (last + 1)
      exact absurd (begins.symm.trans none) (by simp)

end Parts

namespace Repetition

/-- How a repetition that needs a value answers without one, by what the element did on the whole
text. The message of a failure has to have a display form, as every text has. -/
def withoutValue (name : String) : Outcome Text → Except Halt (Outcome Text)
  | .failed failure =>
      match failure.message.display? with
      | .ok words =>
          .ok (.failed (.saying (Text.ofString (name ++ ": Expected at least one element. ") ++ words)
            failure.kind))
      | .error reason => .error (.fault reason)
  | .matched .. =>
      .ok (.failed (.saying (name ++ ": Expected at least one element that consumes input.") .mismatch))

theorem conclude_matched {name : String} {atLeastOne : Bool} {values : List Value} {rest : Text}
    (round : Round) (enough : (atLeastOne && values.isEmpty) = false) :
    conclude name atLeastOne ⟨values, rest, round.stop⟩ =
      ⟨round.warnings name, .ok (.matched (.list values) rest)⟩ := by
  unfold conclude
  rw [enough]
  cases round <;> rfl

theorem conclude_without_value {name : String} {parts : Parts} {source rest : Text}
    (none : (parts.round source).value? = none) :
    conclude name true ⟨[], rest, (parts.round source).stop⟩ =
      ⟨(parts.round source).warnings name, withoutValue name (parts.element.outcome source)⟩ := by
  unfold Parts.round at none ⊢
  cases answered : parts.element.outcome source with
  | failed failure =>
      simp only [Round.stop, Round.warnings, withoutValue, conclude, warn, noElement]
      cases failure.message.display? <;> rfl
  | matched value left =>
      simp only [answered] at none ⊢
      split at none
      · exact absurd none (by simp [Round.value?])
      · rename_i unchanged
        rw [if_neg unchanged]
        rfl

end Repetition

namespace Grammar

/-- Any of the four repetitions: with or without a separator, and with or without the need of a
value. -/
def repetition (element : Grammar) (separator : Option Grammar) (atLeastOne : Bool) : Grammar :=
  match separator with
  | none => element.many atLeastOne
  | some separator => element.separatedBy separator atLeastOne

variable {meaning : Reference → Attempts} {element : Grammar} {separator : Option Grammar} {parts : Parts}

theorem repetition_attempt
    (elementAnswers : element.attempt meaning .text = parts.element.attempt)
    (separatorAnswers : (separator.map fun grammar => grammar.attempt meaning .text) =
      parts.separator.map Response.attempt) (atLeastOne : Bool) (source : Text) :
    (element.repetition separator atLeastOne).attempt meaning .text source =
      parts.run source >>= fun repetition =>
        repetition.conclude (element.repetition separator atLeastOne).name atLeastOne := by
  unfold Parts.run
  rw [← elementAnswers, ← separatorAnswers]
  cases separator <;> rfl

/-- The four repetitions by the rounds that their parts make. All log the same rounds, at most one
more than there are code points; without the need of a value they match, and with it they match
unless no round made progress. -/
theorem repetition_follows_rounds (meaning : Reference → Attempts) (element : Grammar)
    (separator : Option Grammar) (parts : Parts) (source : Text)
    (elementAnswers : element.attempt meaning .text = parts.element.attempt)
    (separatorAnswers : (separator.map fun grammar => grammar.attempt meaning .text) =
      parts.separator.map Response.attempt) :
    ∃ last, last ≤ source.length ∧ parts.IsLastRound source last ∧
      (element.repetition separator false).attempt meaning .text source =
        ⟨parts.log (element.repetition separator false).name source last,
          .ok (.matched (.list (parts.valuesBefore source (last + 1))) (parts.place source (last + 1)))⟩ ∧
      (element.repetition separator true).attempt meaning .text source =
        ⟨parts.log (element.repetition separator true).name source last,
          if parts.valuesBefore source (last + 1) = [] then
            Repetition.withoutValue (element.repetition separator true).name (parts.element.outcome source)
          else
            .ok (.matched (.list (parts.valuesBefore source (last + 1))) (parts.place source (last + 1)))⟩ := by
  obtain ⟨last, bound, isLast, course⟩ := parts.run_rounds source
  refine ⟨last, bound, isLast, ?_, ?_⟩
  · rw [repetition_attempt elementAnswers separatorAnswers, course]
    change (Traced.bind _ _) = _
    rw [bind_of_ok rfl, Repetition.conclude_matched _ rfl]
    rfl
  · rw [repetition_attempt elementAnswers separatorAnswers, course]
    change (Traced.bind _ _) = _
    rw [bind_of_ok rfl]
    by_cases none : parts.valuesBefore source (last + 1) = []
    · obtain ⟨rfl, without⟩ := Parts.element_of_no_values isLast none
      dsimp only
      rw [if_pos none, none, Parts.place, Repetition.conclude_without_value without]
      rfl
    · rw [if_neg none, Repetition.conclude_matched]
      · rfl
      · simp [none]

/-- Whole numbers of any size between commas. -/
def listedIntegers : Parts where
  element := ⟨fun _ => [], Primitive.matchInteger none⟩
  separator := some ⟨fun _ => [], Primitive.matchCharacter ','⟩

theorem listed_integers_last : listedIntegers.IsLastRound (Text.ofString "1,2,x") 2 where
  goOn := by decide
  stops := by decide

/-- The separator behind the last value is taken. -/
theorem trailing_separator_is_taken :
    ((primitive (.integer none)).separatedBy (primitive (.character ',')) true).attempt
        (fun _ _ _ => halt .outOfBudget) .text (Text.ofString "1,2,x") =
      pure (.matched (.list [.int 1, .int 2]) (Text.ofString "x")) := by
  obtain ⟨last, _, isLast, _, matched⟩ := repetition_follows_rounds (fun _ _ _ => halt .outOfBudget)
    (primitive (.integer none)) (some (primitive (.character ','))) listedIntegers
    (Text.ofString "1,2,x") rfl rfl
  obtain rfl := isLast.unique listed_integers_last
  exact matched

end Grammar

end TextGrammar
