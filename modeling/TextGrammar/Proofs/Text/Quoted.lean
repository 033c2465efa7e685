import Mathlib.Data.Nat.Digits.Defs
import TextGrammar.Grammar.QuotedText

/-!
Quoted forms tell texts apart. The quoted form of a code point can be read back from the front of what
it begins, and none begins with the mark that ends the whole. So two texts with the same quoted form
are the same, whatever marks and escapes the form has.
-/

namespace TextGrammar

namespace CodePoint

theorem of_char_of_to_char {point : CodePoint} {c : Char} (same : point.toChar? = some c) : ofChar c = point := by
  unfold toChar? at same
  obtain ⟨valid, found⟩ := Option.dite_none_right_eq_some.mp same
  obtain rfl := Option.some.inj found
  rfl

end CodePoint

namespace Grammar

theorem hex_value_of_digit {digit : Nat} (bound : digit < 16) :
    (CodePoint.ofChar digit.digitChar).hexValue? = some digit := by
  have every : ∀ digit : Fin 16, (CodePoint.ofChar (Nat.digitChar digit.val)).hexValue? = some digit.val := by
    decide
  exact every ⟨digit, bound⟩

theorem hex_number_append_digit {points : Text} {number digit : Nat} (read : hexNumber? points = some number)
    (bound : digit < 16) :
    hexNumber? (points ++ [CodePoint.ofChar digit.digitChar]) = some (16 * number + digit) := by
  unfold hexNumber? at read ⊢
  rw [List.foldlM_append, read]
  simp [hex_value_of_digit bound]

theorem hex_number_of_digits (zeros number : Nat) :
    hexNumber? ((List.replicate zeros '0' ++ Nat.toDigits 16 number).map CodePoint.ofChar) = some number := by
  have nothing : hexNumber? ((List.replicate zeros '0').map CodePoint.ofChar) = some 0 := by
    induction zeros with
    | zero => rfl
    | succ zeros induction =>
        rw [List.replicate_succ', List.map_append]
        exact hex_number_append_digit induction (by decide : 0 < 16)
  induction number using Nat.strongRecOn with
  | ind number induction =>
      by_cases small : number < 16
      · rw [Nat.toDigits_of_lt_base small, List.map_append]
        simpa using hex_number_append_digit nothing small
      · have shorter := induction (number / 16) (Nat.div_lt_self (by omega) (by decide))
        have last : number % 16 < 16 := Nat.mod_lt number (by decide)
        rw [Nat.toDigits_of_base_le (by decide) (by omega), ← List.append_assoc, List.map_append]
        have read := hex_number_append_digit shorter last
        rw [Nat.div_add_mod] at read
        exact read

end Grammar

theorem hexadecimal_width {width number : Nat} (positive : 0 < width) (bound : number < 16 ^ width) :
    (hexadecimal width number).toList.length = width := by
  have most := (Nat.length_toDigits_le_iff (by decide : 1 < 16) positive).mpr bound
  simp only [hexadecimal, String.toList_ofList, List.length_append, List.length_replicate]
  omega

namespace Text

/-- The code point that a number of the given width names, and what follows the number. -/
def readNumber? (width : Nat) (characters : List Char) : Option (CodePoint × List Char) := do
  let number ← Grammar.hexNumber? ((characters.take width).map CodePoint.ofChar)
  return (← CodePoint.ofNat? number, characters.drop width)

/-- The code point whose quoted form stands in front, and what follows it. -/
def readPoint? : List Char → Option (CodePoint × List Char)
  | '\\' :: 'x' :: rest => readNumber? 2 rest
  | '\\' :: 'u' :: rest => readNumber? 4 rest
  | '\\' :: 'U' :: rest => readNumber? 8 rest
  | '\\' :: 'n' :: rest => some ('\n', rest)
  | '\\' :: 'r' :: rest => some ('\r', rest)
  | '\\' :: 't' :: rest => some ('\t', rest)
  | '\\' :: c :: rest => some (c, rest)
  | c :: rest => some (c, rest)
  | [] => none

theorem read_number_hexadecimal {width : Nat} {point : CodePoint} (positive : 0 < width)
    (bound : point.toNat < 16 ^ width) (rest : List Char) :
    readNumber? width ((hexadecimal width point.toNat).toList ++ rest) = some (point, rest) := by
  have length := hexadecimal_width positive bound
  unfold readNumber?
  rw [List.take_left' length, List.drop_left' length, hexadecimal, String.toList_ofList,
    Grammar.hex_number_of_digits]
  simp [CodePoint.ofNat?, point.isLt]

theorem read_point_numeric (point : CodePoint) (rest : List Char) :
    readPoint? (point.numericEscape.toList ++ rest) = some (point, rest) := by
  unfold CodePoint.numericEscape
  split
  · rename_i small
    rw [String.toList_append]
    exact read_number_hexadecimal (by decide) small rest
  · split
    · rename_i small
      rw [String.toList_append]
      exact read_number_hexadecimal (by decide) small rest
    · rw [String.toList_append]
      exact read_number_hexadecimal (by decide) (Nat.lt_trans point.isLt (by decide)) rest

theorem read_point_plain {c : Char} (plain : c ≠ '\\') (rest : List Char) :
    readPoint? (c :: rest) = some (CodePoint.ofChar c, rest) := by
  unfold readPoint?
  split <;> simp_all

/-- The two sorts of quotes. -/
def IsMark (mark : Char) : Prop := mark = '"' ∨ mark = '\x27'

theorem quote_mark_is_mark (text : Text) : IsMark text.quoteMark := by
  unfold quoteMark
  split
  · exact Or.inl rfl
  · exact Or.inr rfl

/-- The forms that a code point can have between two marks. -/
inductive QuotedForm (mark : Char) : CodePoint → List Char → Prop
  | numeric (point : CodePoint) : QuotedForm mark point point.numericEscape.toList
  | guarded {c : Char} (own : IsMark c ∨ c = '\\') : QuotedForm mark c ['\\', c]
  | newline : QuotedForm mark '\n' ['\\', 'n']
  | carriageReturn : QuotedForm mark '\r' ['\\', 'r']
  | tab : QuotedForm mark '\t' ['\\', 't']
  | plain {c : Char} (other : c ≠ mark) (unguarded : c ≠ '\\') : QuotedForm mark c [c]

theorem quoted_form {mark : Char} (isMark : IsMark mark) (point : CodePoint) :
    QuotedForm mark point (point.quotedBetween mark).toList := by
  unfold CodePoint.quotedBetween
  split
  · exact .numeric point
  · rename_i c same
    obtain rfl := CodePoint.of_char_of_to_char same
    split
    · rename_i special
      rw [Bool.or_eq_true, decide_eq_true_eq, decide_eq_true_eq] at special
      rw [String.toList_ofList]
      have own (equal : c = mark) : IsMark c := equal ▸ isMark
      exact .guarded (special.imp_left own)
    · rename_i common
      rw [Bool.or_eq_true, decide_eq_true_eq, decide_eq_true_eq, not_or] at common
      split
      · rename_i same
        exact same ▸ .newline
      · split
        · rename_i same
          exact same ▸ .carriageReturn
        · split
          · rename_i same
            exact same ▸ .tab
          · split
            · rw [Char.toString_eq_singleton, String.toList_singleton]
              exact .plain common.1 common.2
            · exact .numeric _

theorem QuotedForm.reads {mark : Char} {point : CodePoint} {form : List Char}
    (quoted : QuotedForm mark point form) (rest : List Char) : readPoint? (form ++ rest) = some (point, rest) := by
  cases quoted with
  | numeric => exact read_point_numeric point rest
  | guarded own => rcases own with (rfl | rfl) | rfl <;> rfl
  | newline => rfl
  | carriageReturn => rfl
  | tab => rfl
  | plain other unguarded => exact read_point_plain unguarded rest

theorem numeric_escape_begins (point : CodePoint) : ∃ rest, point.numericEscape.toList = '\\' :: rest := by
  unfold CodePoint.numericEscape
  split
  · exact ⟨_, String.toList_append⟩
  · split
    · exact ⟨_, String.toList_append⟩
    · exact ⟨_, String.toList_append⟩

/-- No form begins with the mark that ends the text. -/
theorem QuotedForm.begins_unmarked {mark : Char} {point : CodePoint} {form : List Char}
    (quoted : QuotedForm mark point form) (isMark : IsMark mark) (rest others : List Char) :
    form ++ rest ≠ mark :: others := by
  have unguarded : '\\' ≠ mark := by
    intro same
    rw [← same] at isMark
    exact absurd isMark (by simp [IsMark])
  intro same
  cases quoted with
  | numeric =>
      obtain ⟨digits, begins⟩ := numeric_escape_begins point
      rw [begins, List.cons_append] at same
      exact unguarded (List.cons.inj same).1
  | guarded own => exact unguarded (List.cons.inj same).1
  | newline => exact unguarded (List.cons.inj same).1
  | carriageReturn => exact unguarded (List.cons.inj same).1
  | tab => exact unguarded (List.cons.inj same).1
  | plain other _ => exact other (List.cons.inj same).1

/-- The characters between the marks. -/
def quotedPoints (mark : Char) (text : Text) : List Char :=
  text.flatMap fun point => (point.quotedBetween mark).toList

theorem quoted_points_injective {mark : Char} (isMark : IsMark mark) {one two : Text}
    (same : quotedPoints mark one ++ [mark] = quotedPoints mark two ++ [mark]) : one = two := by
  induction one generalizing two with
  | nil =>
      cases two with
      | nil => rfl
      | cons point later =>
          simp only [quotedPoints, List.flatMap_cons, List.append_assoc] at same
          exact absurd same.symm ((quoted_form isMark point).begins_unmarked isMark _ _)
  | cons point later induction =>
      cases two with
      | nil =>
          simp only [quotedPoints, List.flatMap_cons, List.append_assoc] at same
          exact absurd same ((quoted_form isMark point).begins_unmarked isMark _ _)
      | cons other others =>
          simp only [quotedPoints, List.flatMap_cons, List.append_assoc] at same
          have read := (quoted_form isMark point).reads (quotedPoints mark later ++ [mark])
          have readToo := (quoted_form isMark other).reads (quotedPoints mark others ++ [mark])
          simp only [quotedPoints] at read readToo
          rw [same, readToo] at read
          obtain ⟨rfl, behind⟩ := Prod.mk.inj (Option.some.inj read)
          rw [induction behind.symm]

theorem quoted_to_list (text : Text) :
    text.quoted.toList = text.quoteMark :: (quotedPoints text.quoteMark text ++ [text.quoteMark]) := by
  simp [quoted, quotedPoints, String.toList_join, List.flatMap_map]

/-- Texts with the same quoted form are the same. -/
theorem quoted_injective {one two : Text} (same : one.quoted = two.quoted) : one = two := by
  have characters := congrArg String.toList same
  rw [quoted_to_list, quoted_to_list] at characters
  obtain ⟨marks, points⟩ := List.cons.inj characters
  rw [marks] at points
  exact quoted_points_injective (quote_mark_is_mark two) points

end Text

end TextGrammar
