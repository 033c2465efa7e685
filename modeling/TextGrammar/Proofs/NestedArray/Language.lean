import TextGrammar.Proofs.Grammar.Decimal
import TextGrammar.Proofs.Repetition.Separated

/-!
Nested arrays of whole numbers: their texts and the values that they stand for, said without
a parser. Behind the last element of an array there may be one more comma. Printed values are
such texts once the spaces are left out of them.
-/

namespace TextGrammar

abbrev openSquare : CodePoint := '['

abbrev closeSquare : CodePoint := ']'

abbrev comma : CodePoint := ','

/-- A text that is a whole number or an array, and its value. -/
inductive WrittenArray : Text → Value → Prop
  | number {digits : Text} (numeral : WholeNumeral (some .int64) digits) :
      WrittenArray digits (.int (Numeral.positional digits))
  | empty : WrittenArray [openSquare, closeSquare] (.list [])
  | list {listed trailing : Text} {items : List Value}
      (written : Separated (· = [comma]) WrittenArray listed items) (ended : trailing = [] ∨ trailing = [comma]) :
      WrittenArray (openSquare :: (listed ++ (trailing ++ [closeSquare]))) (.list items)

theorem WrittenArray.nonempty (text : Text) (value : Value) (written : WrittenArray text value) : text ≠ [] := by
  cases written with
  | number numeral => exact numeral.nonempty
  | empty => simp
  | list written ended => simp

/-- What may follow a text of the value. A number goes on as long as there are digits. -/
def EndsArray (value : Value) (rest : Text) : Prop := ∀ number, value = .int number → EndsDigits rest

/-- Whole numbers of 63 bits, and lists of such values to any depth. -/
inductive NestedNumbers : Value → Prop
  | int {number : Nat} (below : (number : Int) ≤ int64Max) : NestedNumbers (.int number)
  | list {items : List Value} (nested : ∀ item ∈ items, NestedNumbers item) : NestedNumbers (.list items)

/-- The text without its spaces. -/
def Text.compact (s : String) : Text := (Text.ofString s).filter fun point : CodePoint => point ≠ ' '

theorem Text.compact_append (first second : String) :
    compact (first ++ second) = compact first ++ compact second := by
  simp [compact, ofString]

namespace NestedNumbers

theorem number_is_written {number : Nat} (below : (number : Int) ≤ int64Max) :
    WrittenArray (Text.compact (Value.int number).print) (.int number) := by
  have digitsStay : Text.compact (Value.int number).print = Numeral.decimal number := by
    apply List.filter_eq_self.mpr
    intro point member
    have digit : point.isDecimalDigit = true := Numeral.decimal_digits point member
    have noSpace : point ≠ ' ' := by
      rintro rfl
      exact absurd digit (by decide)
    exact decide_eq_true noSpace
  have written := WrittenArray.number (whole_numeral_decimal below)
  rw [Numeral.positional_decimal] at written
  rwa [digitsStay]

/-- Commas and spaces stand between printed items, and only the commas stay. -/
theorem items_are_separated {first : Value} {others : List Value}
    (written : ∀ item ∈ first :: others, WrittenArray (Text.compact item.print) item) :
    Separated (· = [comma]) WrittenArray
      (Text.compact (String.intercalate ", " (Value.printEach (first :: others)))) (first :: others) := by
  induction others generalizing first with
  | nil =>
      rw [Value.printEach, Value.printEach, String.intercalate_singleton]
      exact .one (written first List.mem_cons_self)
  | cons second others induction =>
      have later := induction fun item member => written item (List.mem_cons_of_mem first member)
      rw [Value.printEach] at later
      rw [Value.printEach, Value.printEach, String.intercalate_cons_cons, Text.compact_append,
        Text.compact_append, List.append_assoc]
      exact .more (written first List.mem_cons_self) (by decide) later

/-- The printed form without its spaces is a text of the value. -/
theorem printed_is_written {value : Value} (nested : NestedNumbers value) :
    WrittenArray (Text.compact value.print) value := by
  induction nested with
  | int below => exact number_is_written below
  | @list items nested induction =>
      have brackets : Text.compact (Value.list items).print =
          openSquare :: (Text.compact (String.intercalate ", " (Value.printEach items)) ++ ([] ++ [closeSquare])) := by
        rw [Value.print, Value.listed, Text.compact_append, Text.compact_append]
        rfl
      rw [brackets]
      cases items with
      | nil => exact .empty
      | cons first others => exact .list (items_are_separated induction) (Or.inl rfl)

end NestedNumbers

end TextGrammar
