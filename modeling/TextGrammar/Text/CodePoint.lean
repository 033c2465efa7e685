/-!
Texts as sequences of code points. A code point may lie in the surrogate range
U+D800 to U+DFFF, which no `Char` does, because an escape in a text can name
any number of four hexadecimal digits.
-/

namespace TextGrammar

/-- A number below 0x110000, surrogates included. -/
structure CodePoint where
  toNat : Nat
  isLt : toNat < 0x110000
  deriving DecidableEq

namespace CodePoint

def ofNat? (number : Nat) : Option CodePoint :=
  if bound : number < 0x110000 then some ⟨number, bound⟩ else none

theorem char_below (c : Char) : c.toNat < 0x110000 := by
  rcases c.valid with low | ⟨_, high⟩
  · exact Nat.lt_trans low (by decide)
  · exact high

def ofChar (c : Char) : CodePoint := ⟨c.toNat, char_below c⟩

instance : Coe Char CodePoint := ⟨ofChar⟩

/-- No `Char` stands for a surrogate. -/
def toChar? (point : CodePoint) : Option Char :=
  if valid : point.toNat.isValidChar then some (Char.ofNatAux point.toNat valid) else none

def isAscii (point : CodePoint) : Bool := point.toNat < 128

end CodePoint

abbrev Text := List CodePoint

namespace Text

def ofString (s : String) : Text := s.toList.map CodePoint.ofChar

instance : Coe String Text := ⟨ofString⟩

/-- Only a text without surrogates is a `String`. -/
def toString? (text : Text) : Option String :=
  (text.mapM CodePoint.toChar?).map String.ofList

end Text

end TextGrammar
