import TextGrammar.Binary64.Nearest
import TextGrammar.Binary64.Shortest

/-!
The written form of a double: its shortest digits, positional from 0.0001 up to
below ten to the 16 and with an exponent outside of that. There is always a
point or an exponent, so no double is written like a whole number.
-/

namespace TextGrammar.Binary64

/-- What is free to choose about the written form. -/
structure Style where
  leastPositional : Int
  greatestPositional : Int
  exponentWidth : Nat
  infinity : String
  nan : String

/-- Positional for the exponents -4 to 15 and at least two digits in an exponent. -/
def style : Style := ⟨-4, 15, 2, "inf", "nan"⟩

/-- Digits with the point after the first `position` of them, zeros filled in. -/
def positional (digits : List Char) (position : Int) : List Char :=
  if position ≤ 0 then '0' :: '.' :: (List.replicate (-position).toNat '0' ++ digits)
  else if digits.length ≤ position.toNat then
    digits ++ List.replicate (position.toNat - digits.length) '0' ++ ['.', '0']
  else digits.take position.toNat ++ '.' :: digits.drop position.toNat

def scientific (width : Nat) (digits : List Char) (exponent : Int) : List Char :=
  let size := Nat.toDigits 10 exponent.natAbs
  let fraction := if digits.length ≤ 1 then [] else '.' :: digits.drop 1
  digits.take 1 ++ fraction ++ 'e' :: (if exponent < 0 then '-' else '+')
    :: (List.replicate (width - size.length) '0' ++ size)

def writtenFinite (significand : Nat) (exponent : Int) : List Char :=
  if significand = 0 then ['0', '.', '0']
  else
    let number := shortest significand exponent
    let digits := Nat.toDigits 10 number.digits
    let position := digits.length + number.exponent
    if style.leastPositional < position && position ≤ style.greatestPositional + 1 then
      positional digits position
    else scientific style.exponentWidth digits (position - 1)

def written (x : Float) : String :=
  match exact x with
  | .nan => style.nan
  | .infinite negative => (if negative then "-" else "") ++ style.infinity
  | .finite negative significand exponent =>
      (if negative then "-" else "") ++ String.ofList (writtenFinite significand exponent)

end TextGrammar.Binary64
