import TextGrammar.Text.Printable

/-!
The quoted form in which names and messages show a text: between single quotes,
with every code point that cannot be printed written as an escape. An excerpt is
the quoted form of at most twenty leading code points.
-/

namespace TextGrammar

/-- The hexadecimal digits of a number, filled up with zeros to the given width. -/
def hexadecimal (width number : Nat) : String :=
  let digits := Nat.toDigits 16 number
  String.ofList (List.replicate (width - digits.length) '0' ++ digits)

/-- Two digits below U+0100, four below U+10000 and eight above. -/
def CodePoint.numericEscape (point : CodePoint) : String :=
  if point.toNat < 0x100 then "\\x" ++ hexadecimal 2 point.toNat
  else if point.toNat < 0x10000 then "\\u" ++ hexadecimal 4 point.toNat
  else "\\U" ++ hexadecimal 8 point.toNat

/-- How one code point stands between two marks. -/
def CodePoint.quotedBetween (mark : Char) (point : CodePoint) : String :=
  match point.toChar? with
  | none => point.numericEscape
  | some c =>
      if c = mark || c = '\\' then String.ofList ['\\', c]
      else if c = '\n' then "\\n"
      else if c = '\r' then "\\r"
      else if c = '\t' then "\\t"
      else if point.isPrintable then c.toString
      else point.numericEscape

namespace Text

/-- Single quotes, unless they would need escapes that double quotes do not. -/
def quoteMark (text : Text) : Char :=
  if text.contains ('\x27' : CodePoint) && !text.contains ('"' : CodePoint) then '"' else '\x27'

def quoted (text : Text) : String :=
  let mark := text.quoteMark
  mark.toString ++ String.join (text.map (CodePoint.quotedBetween mark)) ++ mark.toString

/-- How many code points of the text a message quotes. -/
def excerptLength : Nat := 20

/-- Three dots outside the quotes stand for what a longer text has left. -/
def excerpt (text : Text) : String :=
  if text.length ≤ excerptLength then text.quoted
  else quoted (text.take excerptLength) ++ "..."

end Text

def quotedString (s : String) : String := (Text.ofString s).quoted

end TextGrammar
