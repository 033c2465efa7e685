import TextGrammar.Text.CodePoint

/-!
Decimal digits of every script: the code points of general category Nd in
Unicode 14.0. They come in blocks of ten, from the zero of a script to its nine.
-/

namespace TextGrammar

/-- The zero of each block of ten digits. -/
def zeroDigits : List Nat :=
  [48, 1632, 1776, 1984, 2406, 2534, 2662, 2790, 2918, 3046, 3174, 3302, 3430, 3558, 3664, 3792,
   3872, 4160, 4240, 6112, 6160, 6470, 6608, 6784, 6800, 6992, 7088, 7232, 7248, 42528, 43216,
   43264, 43472, 43504, 43600, 44016, 65296, 66720, 68912, 69734, 69872, 69942, 70096, 70384,
   70736, 70864, 71248, 71360, 71472, 71904, 72016, 72784, 73040, 73120, 92768, 92864, 93008,
   120782, 120792, 120802, 120812, 120822, 123200, 123632, 125264, 130032]

namespace CodePoint

def digitValue? (point : CodePoint) : Option Nat :=
  (zeroDigits.find? fun first => first ≤ point.toNat && point.toNat < first + 10).map (point.toNat - ·)

theorem digit_value_lt_ten {point : CodePoint} {digit : Nat} (value : point.digitValue? = some digit) :
    digit < 10 := by
  obtain ⟨first, found, rfl⟩ := Option.map_eq_some_iff.mp value
  have block := List.find?_some found
  simp only [Bool.and_eq_true, decide_eq_true_eq] at block
  omega

def isDecimalDigit (point : CodePoint) : Bool := point.digitValue?.isSome

/-- The value of an ASCII digit or of a letter a to f of either case. -/
def hexValue? (point : CodePoint) : Option Nat :=
  if 48 ≤ point.toNat && point.toNat ≤ 57 then some (point.toNat - 48)
  else if 97 ≤ point.toNat && point.toNat ≤ 102 then some (point.toNat - 87)
  else if 65 ≤ point.toNat && point.toNat ≤ 70 then some (point.toNat - 55)
  else none

end CodePoint

end TextGrammar
