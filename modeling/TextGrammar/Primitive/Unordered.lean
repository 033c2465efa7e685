import TextGrammar.Primitive.Examination

/-!
Whole numbers under a bound that is no number. A run of digits can still be too
long for such a bound; a shorter one cannot be compared with it.
-/

namespace TextGrammar.Primitive

/-- A comparison with the bound is a misuse of it. -/
def matchUnordered (bound : Value) (source : Text) : Except Fault (Outcome Text) :=
  match leadingNumber (some bound.display) source with
  | .error failure => return .failed failure
  | .ok (number, rest) => do
      if ← (Value.int number).greater bound then
        return .failed (aboveBound (toString number) bound.display)
      else return .matched (.int number) rest

def unordered (bound : Value) : Attempts
  | .text => fun source => Traced.ofExcept (matchUnordered bound source)
  | .value => fun source =>
      match source with
      | .text points => return (← Traced.ofExcept (matchUnordered bound points)).mapRest .text
      | _ => examineInteger true source

end TextGrammar.Primitive
