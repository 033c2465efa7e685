import TextGrammar.Binary64.Nearest
import TextGrammar.Numeral.Whole

/-!
Decimal numbers written in a text: a sign, digits, a point with digits and an
exponent, all but the first digits optional. Digits of every script count by
their value. The number is the nearest double, infinity included.
-/

namespace TextGrammar.Numeral

/-- The values of the leading decimal digits, and the text after them. -/
def digitRun : Text → List Nat × Text
  | [] => ([], [])
  | point :: text =>
      match point.digitValue? with
      | some digit =>
          let run := digitRun text
          (digit :: run.1, run.2)
      | none => ([], point :: text)

/-- The digits after a point; a point without digits is malformed. -/
def readFraction? : Text → Option (List Nat × Text)
  | [] => some ([], [])
  | point :: text =>
      if point = '.' then
        let run := digitRun text
        if run.1.isEmpty then none else some run
      else some ([], point :: text)

/-- The exponent after its mark, which has to end the text. -/
def readExponent? : Text → Option Int
  | [] => some 0
  | point :: text =>
      if point = 'e' then
        let signed := takeSign text
        let run := digitRun signed.2
        if run.1.isEmpty || !run.2.isEmpty then none
        else
          let size : Int := ofDigits run.1
          some (if signed.1 then -size else size)
      else none

def readDecimal? (text : Text) : Option Float := do
  let signed := takeSign text
  let whole := digitRun signed.2
  if whole.1.isEmpty then none
  let fraction ← readFraction? whole.2
  let exponent ← readExponent? fraction.2
  return Binary64.ofDecimal signed.1 (ofDigits (whole.1 ++ fraction.1)) (exponent - fraction.1.length)

end TextGrammar.Numeral
