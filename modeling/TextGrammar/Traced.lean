import TextGrammar.Fault

/-!
Computations that log records and may halt without an answer. The records of a
computation stay when it halts. A computation halts on a fault, or because it
has used up the budget for expanding references.
-/

namespace TextGrammar

inductive Level where
  | debug
  | warning
  deriving DecidableEq

structure Record where
  level : Level
  message : Text
  deriving DecidableEq

inductive Halt where
  | fault (fault : Fault)
  | outOfBudget

structure Traced (α : Type) where
  log : List Record
  result : Except Halt α

namespace Traced

variable {α β γ : Type}

protected def pure (value : α) : Traced α := ⟨[], .ok value⟩

def halt (reason : Halt) : Traced α := ⟨[], .error reason⟩

def fault (reason : Fault) : Traced α := halt (.fault reason)

def write (level : Level) (message : Text) : Traced Unit := ⟨[⟨level, message⟩], .ok ()⟩

def ofExcept : Except Fault α → Traced α
  | .ok value => .pure value
  | .error reason => fault reason

/-- What comes after a halt is not run. -/
protected def bind (first : Traced α) (next : α → Traced β) : Traced β :=
  match first.result with
  | .error reason => ⟨first.log, .error reason⟩
  | .ok value => ⟨first.log ++ (next value).log, (next value).result⟩

theorem bind_of_ok {first : Traced α} {value : α} (ok : first.result = .ok value)
    (next : α → Traced β) :
    first.bind next = ⟨first.log ++ (next value).log, (next value).result⟩ := by
  simp only [Traced.bind, ok]

theorem bind_of_error {first : Traced α} {reason : Halt} (error : first.result = .error reason)
    (next : α → Traced β) : first.bind next = ⟨first.log, .error reason⟩ := by
  simp only [Traced.bind, error]

instance : Monad Traced where
  pure := Traced.pure
  bind := Traced.bind

theorem pure_bind (value : α) (next : α → Traced β) : (pure value >>= next : Traced β) = next value := by
  simp [Bind.bind, Pure.pure, Traced.bind, Traced.pure]

theorem bind_pure (first : Traced α) : (first >>= pure : Traced α) = first := by
  rcases first with ⟨log, _ | value⟩ <;> simp [Bind.bind, Pure.pure, Traced.bind, Traced.pure]

theorem bind_assoc (first : Traced α) (next : α → Traced β) (last : β → Traced γ) :
    (first >>= next >>= last : Traced γ) = first >>= fun value => next value >>= last := by
  rcases first with ⟨log, _ | value⟩
  · rfl
  · simp only [Bind.bind, Traced.bind]
    cases (next value).result <;> simp

instance : LawfulMonad Traced := LawfulMonad.mk' Traced bind_pure pure_bind bind_assoc

end Traced

end TextGrammar
