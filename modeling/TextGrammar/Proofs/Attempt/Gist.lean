import TextGrammar.Proofs.Congruence.Attempt

/-!
What attempts come to when the messages of failures are left out. A sequence passes a failure on as it is
and a repetition drops the failure of its separator, so attempts of one gist can stand in for each other in
both. A repetition also quotes its own name, but only in its message and in its warning.
-/

namespace TextGrammar

open Traced

variable {σ : Type}

/-- The value and the rest of a match, or the kind of a failure. -/
def Outcome.gist : Outcome σ → Except FailureKind (Value × σ)
  | .matched value rest => .ok (value, rest)
  | .failed failure => .error failure.kind

namespace Attempt

/-- On every source both log the same and halt alike, and they answer the same but for the messages of
failures. -/
def SameGist (one two : Attempt σ) : Prop :=
  ∀ source, Outcome.gist <$> one source = Outcome.gist <$> two source

variable {one two first second : Attempt σ}

theorem SameGist.refl (attempt : Attempt σ) : attempt.SameGist attempt := fun _ => rfl

theorem gist_on_match (attempt : Attempt σ) (next : Value → σ → Traced (Outcome σ)) (source : σ) :
    Outcome.gist <$> attempt.onMatch next source = (do
      match ← Outcome.gist <$> attempt source with
      | .ok (value, rest) => Outcome.gist <$> next value rest
      | .error kind => return .error kind) := by
  unfold onMatch
  rw [map_bind, bind_map_left]
  apply congrArg (attempt source >>= ·)
  funext outcome
  cases outcome with
  | matched value rest => rfl
  | failed failure => exact map_pure _ _

theorem SameGist.on_match (same : one.SameGist two) {next other : Value → σ → Traced (Outcome σ)}
    (later : ∀ value rest, Outcome.gist <$> next value rest = Outcome.gist <$> other value rest) :
    (one.onMatch next).SameGist (two.onMatch other) := by
  intro source
  simp only [gist_on_match, same source, later]

theorem SameGist.map (same : one.SameGist two) (transform : Value → Traced Value) :
    (one.map transform).SameGist (two.map transform) :=
  same.on_match fun _ _ => rfl

theorem SameGist.followed_by (same : one.SameGist two) (sameToo : first.SameGist second) :
    (one.followedBy first).SameGist (two.followedBy second) :=
  same.on_match fun _ rest => sameToo.on_match (fun _ _ => rfl) rest

end Attempt

namespace Repetition

variable {size : σ → Except Fault Nat} {one two : Attempt σ}

theorem after_element_by_gist (separator : Attempt σ) (rest : σ) :
    afterElement (some separator) rest = (do
      match ← Outcome.gist <$> separator rest with
      | .ok (_, later) => return (later, true)
      | .error _ => return (rest, false)) := by
  unfold afterElement
  rw [bind_map_left]
  apply congrArg (separator rest >>= ·)
  funext outcome
  cases outcome <;> rfl

/-- The loop is one and the same with either separator, in what it logs as well. -/
theorem run_of_same_gist (same : one.SameGist two) (element : Attempt σ) (source : σ) :
    run size element (some one) source = run size element (some two) source := by
  have apart : ∀ rest, afterElement (some one) rest = afterElement (some two) rest := by
    intro rest
    simp only [after_element_by_gist, same rest]
  have related : (identical Unit).Relates (fun _ => run size element (some one) source)
      (run size element (some two) source) :=
    Congruence.run_related (fun _ => True) (fun _ _ _ => rfl) (fun _ _ rest _ _ _ => apart rest)
      (fun _ _ _ _ _ _ _ _ => trivial) source trivial
  exact related ()

theorem warn_answers (name : String) (stop : Stop) : (warn name stop).result = .ok () := by
  cases stop <;> rfl

/-- The name has no part in the answer but in its message. -/
theorem conclude_gist (name label : String) (atLeastOne : Bool) (repetition : Repetition σ) :
    Outcome.gist <$> (repetition.conclude name atLeastOne).result =
      Outcome.gist <$> (repetition.conclude label atLeastOne).result := by
  unfold conclude
  rw [result_bind_of_ok (warn_answers name _), result_bind_of_ok (warn_answers label _)]
  split
  · cases repetition.stop with
    | failed failure =>
        simp only [noElement]
        cases failure.message.display? <;> rfl
    | stalled => rfl
    | unseparated => rfl
  · rfl

/-- Repetitions under any two names, with separators of one gist. Of what they log, the warnings quote the
names. -/
theorem repeated_gist (name label : String) (same : one.SameGist two) (element : Attempt σ) (atLeastOne : Bool)
    (source : σ) :
    Outcome.gist <$> (Attempt.repeated name size element (some one) atLeastOne source).result =
      Outcome.gist <$> (Attempt.repeated label size element (some two) atLeastOne source).result := by
  unfold Attempt.repeated
  rw [run_of_same_gist same, result_bind, result_bind, map_bind, map_bind]
  simp only [conclude_gist name label]

end Repetition

end TextGrammar
