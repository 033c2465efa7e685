import TextGrammar.Proofs.Repetition.Chain
import TextGrammar.Primitive.Span

/-!
Relations between computations that every combinator keeps. All that combinators do
with their parts is to bind them, so a relation has to be followed through binds
only, and then it holds of whatever the parts are put into. A family of computations
is related to a single one: its members can be several ways of doing the same.
-/

namespace TextGrammar

variable {ι σ α β : Type}

namespace Traced

/-- The budget is not what the computation stops at. -/
def Ends (given : Traced α) : Prop := given.result ≠ .error .outOfBudget

theorem ends_pure (value : α) : (pure value : Traced α).Ends := by simp [Ends]

theorem ends_fault (reason : Fault) : (fault reason : Traced α).Ends := by simp [Ends, fault, halt]

theorem ends_of_except (given : Except Fault α) : (ofExcept given).Ends := by
  cases given with
  | error reason => exact ends_fault reason
  | ok value => exact ends_pure value

theorem ends_write (level : Level) (message : Text) : (write level message).Ends := by
  simp [Ends, write]

end Traced

namespace Repetition

/-- What a round does behind an element and its separator: it counts and the repetition goes on from
there, or it is the last one. -/
def concludeRound (size : σ → Except Fault Nat) (more : σ → Traced (Repetition σ)) (source : σ)
    (value : Value) (behind : σ × Bool) : Traced (Repetition σ) :=
  match size behind.1, size source with
  | .error reason, _ => Traced.fault reason
  | .ok _, .error reason => Traced.fault reason
  | .ok after, .ok before =>
      if after < before then
        if behind.2 then do
          let later ← more behind.1
          return { later with values := value :: later.values }
        else return ⟨[value], behind.1, .unseparated⟩
      else return ⟨[], source, .stalled⟩

theorem run_eq_round (size : σ → Except Fault Nat) (element : Attempt σ) (separator : Option (Attempt σ))
    (source : σ) :
    run size element separator source = (do
      match ← element source with
      | .failed failure => return ⟨[], source, .failed failure⟩
      | .matched value rest =>
          concludeRound size (run size element separator) source value (← afterElement separator rest)) := by
  rw [run]
  apply congrArg (element source >>= ·)
  funext outcome
  cases outcome with
  | failed failure => rfl
  | matched value rest =>
      apply congrArg (afterElement separator rest >>= ·)
      funext behind
      unfold concludeRound
      dsimp only
      split <;> simp only [*]

end Repetition

namespace Traced

/-- A relation that binds keep. What comes after a computation has to be related only where the single
one has a result. A computation is related to itself as far as the budget does not stop it. -/
structure Congruence (ι : Type) where
  Relates : {α : Type} → (ι → Traced α) → Traced α → Prop
  self : ∀ {α : Type} {given : Traced α}, given.Ends → Relates (fun _ => given) given
  bind : ∀ {α β : Type} {family : ι → Traced α} {given : Traced α} {nexts : ι → α → Traced β}
    {next : α → Traced β}, Relates family given →
      (∀ value, given.result = .ok value → Relates (fun index => nexts index value) (next value)) →
        Relates (fun index => family index >>= nexts index) (given >>= next)

namespace Congruence

variable (congruence : Congruence ι)

/-- The relation holds of every computation and itself, also of one that the budget stops. -/
def IsReflexive : Prop := ∀ {α : Type} (given : Traced α), congruence.Relates (fun _ => given) given

theorem pure_related (value : α) : congruence.Relates (fun _ => pure value) (pure value) :=
  congruence.self (ends_pure value)

variable {congruence} {attempts others : ι → Attempt σ} {attempt other : Attempt σ} {source : σ}

theorem on_match {nexts : ι → Value → σ → Traced (Outcome σ)} {next : Value → σ → Traced (Outcome σ)}
    (related : congruence.Relates (fun index => attempts index source) (attempt source))
    (later : ∀ value rest, attempt.Matches source value rest →
      congruence.Relates (fun index => nexts index value rest) (next value rest)) :
    congruence.Relates (fun index => (attempts index).onMatch (nexts index) source)
      (attempt.onMatch next source) := by
  apply congruence.bind related
  intro outcome answered
  cases outcome with
  | matched value rest => exact later value rest answered
  | failed failure => exact congruence.pure_related _

theorem map {transforms : ι → Value → Traced Value} {transform : Value → Traced Value}
    (related : congruence.Relates (fun index => attempts index source) (attempt source))
    (transformed : ∀ value, congruence.Relates (fun index => transforms index value) (transform value)) :
    congruence.Relates (fun index => (attempts index).map (transforms index) source)
      (attempt.map transform source) := by
  apply on_match related
  intro value rest _
  apply congruence.bind (transformed value)
  intro result _
  exact congruence.pure_related _

theorem map_error {reword : Value → Except Fault Value}
    (related : congruence.Relates (fun index => attempts index source) (attempt source)) :
    congruence.Relates (fun index => (attempts index).mapError reword source)
      (attempt.mapError reword source) := by
  apply congruence.bind related
  intro outcome _
  cases outcome with
  | matched value rest => exact congruence.pure_related _
  | failed failure =>
      apply congruence.bind (congruence.self (ends_of_except _))
      intro message _
      exact congruence.pure_related _

theorem filter {tests : ι → Value → Traced Bool} {test : Value → Traced Bool}
    {refuse : Value → Except Fault Failure}
    (related : congruence.Relates (fun index => attempts index source) (attempt source))
    (tested : ∀ value, congruence.Relates (fun index => tests index value) (test value)) :
    congruence.Relates (fun index => (attempts index).filter (tests index) refuse source)
      (attempt.filter test refuse source) := by
  apply on_match related
  intro value rest _
  apply congruence.bind (tested value)
  intro truth _
  cases truth with
  | true => exact congruence.pure_related _
  | false =>
      apply congruence.bind (congruence.self (ends_of_except _))
      intro failure _
      exact congruence.pure_related _

theorem observe {line : σ → Outcome σ → Except Fault Text}
    (related : congruence.Relates (fun index => attempts index source) (attempt source)) :
    congruence.Relates (fun index => (attempts index).observe line source) (attempt.observe line source) := by
  apply congruence.bind related
  intro outcome _
  apply congruence.bind (congruence.self (ends_of_except _))
  intro text _
  apply congruence.bind (congruence.self (ends_write _ _))
  intro _ _
  exact congruence.pure_related _

theorem optional {default : Value}
    (related : congruence.Relates (fun index => attempts index source) (attempt source)) :
    congruence.Relates (fun index => (attempts index).optional default source)
      (attempt.optional default source) := by
  apply congruence.bind related
  intro outcome _
  cases outcome with
  | matched value rest => exact congruence.pure_related _
  | failed failure => exact congruence.pure_related _

theorem followed_by
    (related : congruence.Relates (fun index => attempts index source) (attempt source))
    (followed : ∀ value rest, attempt.Matches source value rest →
      congruence.Relates (fun index => others index rest) (other rest)) :
    congruence.Relates (fun index => (attempts index).followedBy (others index) source)
      (attempt.followedBy other source) := by
  apply on_match related
  intro value rest matched
  apply on_match (followed value rest matched)
  intro last left _
  exact congruence.pure_related _

theorem either
    (related : congruence.Relates (fun index => attempts index source) (attempt source))
    (relatedToo : congruence.Relates (fun index => others index source) (other source)) :
    congruence.Relates (fun index => (attempts index).either (others index) source)
      (attempt.either other source) := by
  apply congruence.bind related
  intro outcome _
  cases outcome with
  | matched value rest => exact congruence.pure_related _
  | failed one =>
      apply congruence.bind relatedToo
      intro second _
      cases second with
      | matched value rest => exact congruence.pure_related _
      | failed two =>
          apply congruence.bind (congruence.self (ends_of_except _))
          intro message _
          exact congruence.pure_related _

theorem first_match {κ : Type} {places : List κ} {alternatives : ι → κ → Attempt σ}
    {alternative : κ → Attempt σ}
    (related : ∀ place ∈ places,
      congruence.Relates (fun index => alternatives index place source) (alternative place source)) :
    congruence.Relates (fun index => Attempt.firstMatch source (places.map (alternatives index)))
      (Attempt.firstMatch source (places.map alternative)) := by
  induction places with
  | nil => exact congruence.pure_related _
  | cons place places induction =>
      have first := related place List.mem_cons_self
      have later := induction fun other member => related other (List.mem_cons_of_mem place member)
      apply congruence.bind first
      intro outcome _
      cases outcome with
      | matched value rest => exact congruence.pure_related _
      | failed failure =>
          apply congruence.bind later
          intro search _
          cases search <;> exact congruence.pure_related _

theorem choice {count : Nat} {alternatives : ι → Fin count → Attempt σ}
    {alternative : Fin count → Attempt σ}
    (related : ∀ place,
      congruence.Relates (fun index => alternatives index place source) (alternative place source)) :
    congruence.Relates (fun index => Attempt.choice (List.ofFn (alternatives index)) source)
      (Attempt.choice (List.ofFn alternative) source) := by
  have search := first_match fun place (_ : place ∈ List.finRange count) => related place
  simp only [List.finRange, List.map_ofFn] at search
  apply congruence.bind search
  intro found _
  cases found with
  | ok outcome => exact congruence.pure_related _
  | error messages =>
      apply congruence.bind (congruence.self (ends_of_except _))
      intro message _
      exact congruence.pure_related _

theorem leading_span {tests : ι → α → Traced Bool} {test : α → Traced Bool} {items : List α}
    (tested : ∀ item, congruence.Relates (fun index => tests index item) (test item)) :
    congruence.Relates (fun index => Primitive.leadingSpan (tests index) items)
      (Primitive.leadingSpan test items) := by
  induction items with
  | nil => exact congruence.pure_related _
  | cons item items induction =>
      apply congruence.bind (tested item)
      intro passed _
      cases passed with
      | false => exact congruence.pure_related _
      | true =>
          apply congruence.bind induction
          intro span _
          exact congruence.pure_related _

theorem span_of {description : String} {tests : ι → Value → Traced Bool} {test : Value → Traced Bool}
    (tested : ∀ item, congruence.Relates (fun index => tests index item) (test item))
    (medium : Medium) (source : medium.Source) :
    congruence.Relates (fun index => Primitive.spanOf description (tests index) medium source)
      (Primitive.spanOf description test medium source) := by
  cases medium with
  | text =>
      apply congruence.bind (leading_span fun point => tested _)
      intro span _
      exact congruence.self (by split <;> exact ends_pure _)
  | value =>
      change congruence.Relates (fun index => Primitive.spanOfItems description (tests index) source)
        (Primitive.spanOfItems description test source)
      unfold Primitive.spanOfItems
      cases Value.isTrue source with
      | false => exact congruence.pure_related _
      | true =>
          cases Value.items? source with
          | none => exact congruence.self (ends_fault _)
          | some items =>
              apply congruence.bind (leading_span tested)
              intro span _
              dsimp only
              split
              · apply congruence.bind (congruence.self (ends_of_except _))
                intro excerpt _
                exact congruence.pure_related _
              · exact congruence.pure_related _

section Repetition

variable {size : σ → Except Fault Nat} {elements : ι → Attempt σ} {element : Attempt σ}
  {separators : ι → Option (Attempt σ)} {separator : Option (Attempt σ)}

/-- The parts have to be related only on the sources that the repetition can reach. -/
theorem run_related (reached : σ → Prop)
    (related : ∀ source, reached source →
      congruence.Relates (fun index => elements index source) (element source))
    (apart : ∀ source value rest, reached source → element.Matches source value rest →
      congruence.Relates (fun index => Repetition.afterElement (separators index) rest)
        (Repetition.afterElement separator rest))
    (onward : ∀ source next after before, reached source → size next = .ok after →
      size source = .ok before → after < before → reached next)
    (source : σ) (here : reached source) :
    congruence.Relates (fun index => Repetition.run size (elements index) (separators index) source)
      (Repetition.run size element separator source) := by
  simp only [Repetition.run_eq_round]
  -- One round, and the rounds behind it by recursion on the size of the source that it leaves.
  apply congruence.bind (related source here)
  intro outcome answered
  cases outcome with
  | failed failure => exact congruence.pure_related _
  | matched value rest =>
      apply congruence.bind (apart source value rest here answered)
      intro behind _
      unfold Repetition.concludeRound
      cases afterwards : size behind.1 with
      | error reason => exact congruence.self (ends_fault reason)
      | ok after =>
          cases beforehand : size source with
          | error reason => exact congruence.self (ends_fault reason)
          | ok before =>
              dsimp only
              by_cases shorter : after < before
              · simp only [if_pos shorter]
                cases behind.2 with
                | false => exact congruence.pure_related _
                | true =>
                    have next := onward source behind.1 after before here afterwards beforehand shorter
                    apply congruence.bind (run_related reached related apart onward behind.1 next)
                    intro later _
                    exact congruence.pure_related _
              · simp only [if_neg shorter]
                exact congruence.pure_related _
termination_by Repetition.measure size source
decreasing_by simp [Repetition.measure, afterwards, beforehand, Except.toOption, shorter]

theorem conclude_related (name : String) (atLeastOne : Bool) (repetition : Repetition σ) :
    congruence.Relates (fun _ => repetition.conclude name atLeastOne) (repetition.conclude name atLeastOne) := by
  apply congruence.bind
  · cases repetition.stop with
    | stalled => exact congruence.self (ends_write _ _)
    | failed failure => exact congruence.pure_related _
    | unseparated => exact congruence.pure_related _
  · intro _ _
    split
    · apply congruence.bind (congruence.self (ends_of_except _))
      intro failure _
      exact congruence.pure_related _
    · exact congruence.pure_related _

theorem repeated {name : String} {atLeastOne : Bool}
    (related : congruence.Relates
      (fun index => Repetition.run size (elements index) (separators index) source)
      (Repetition.run size element separator source)) :
    congruence.Relates
      (fun index => Attempt.repeated name size (elements index) (separators index) atLeastOne source)
      (Attempt.repeated name size element separator atLeastOne source) := by
  apply congruence.bind related
  intro repetition _
  exact conclude_related name atLeastOne repetition

theorem after_separator {rest : σ}
    (related : congruence.Relates (fun index => attempts index rest) (attempt rest)) :
    congruence.Relates (fun index => Repetition.afterElement (some (attempts index)) rest)
      (Repetition.afterElement (some attempt) rest) := by
  apply congruence.bind related
  intro outcome _
  cases outcome <;> exact congruence.pure_related _

theorem repeated_everywhere {name : String} {atLeastOne : Bool}
    (related : ∀ source, congruence.Relates (fun index => elements index source) (element source))
    (apart : ∀ rest, congruence.Relates
      (fun index => Repetition.afterElement (separators index) rest)
      (Repetition.afterElement separator rest)) (source : σ) :
    congruence.Relates
      (fun index => Attempt.repeated name size (elements index) (separators index) atLeastOne source)
      (Attempt.repeated name size element separator atLeastOne source) := by
  apply repeated
  exact run_related (fun _ => True) (fun source _ => related source)
    (fun _ _ rest _ _ => apart rest) (fun _ _ _ _ _ _ _ _ => trivial) source trivial

end Repetition

end Congruence

/-- The members of the family are the computation itself. -/
def identical (ι : Type) : Congruence ι where
  Relates family given := ∀ index, family index = given
  self _ _ := rfl
  bind := by
    intro _ _ family given nexts next same later index
    change (family index).bind (nexts index) = given.bind next
    rw [same index]
    cases answered : given.result with
    | error reason => rw [bind_of_error answered, bind_of_error answered]
    | ok value =>
        have sameLater : nexts index value = next value := later value answered index
        rw [bind_of_ok answered, bind_of_ok answered, sameLater]

theorem identical_is_reflexive (ι : Type) : (identical ι).IsReflexive := fun _ _ => rfl

end Traced
end TextGrammar
