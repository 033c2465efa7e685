import TextGrammar.Text.CodePoint

/-!
Occurrences of a word in a text. The leftmost one divides the text into what
stands before it and what stands after it.
-/

namespace TextGrammar.Text

/-- What follows the word at the head of the text. -/
def after? : Text → Text → Option Text
  | [], text => some text
  | _ :: _, [] => none
  | first :: word, point :: text => if first = point then after? word text else none

/-- The two sides of the leftmost occurrence of the word. -/
def cut? (word : Text) : Text → Option (Text × Text)
  | [] => (after? word []).map fun rest => ([], rest)
  | point :: text =>
      match after? word (point :: text) with
      | some rest => some ([], rest)
      | none => (cut? word text).map fun sides => (point :: sides.1, sides.2)

theorem after_append (word rest : Text) : after? word (word ++ rest) = some rest := by
  induction word with
  | nil => rfl
  | cons first word induction => simp [after?, induction]

theorem after_eq_some {word text rest : Text} : after? word text = some rest ↔ text = word ++ rest := by
  induction word generalizing text with
  | nil => simp [after?]
  | cons first word induction =>
      cases text with
      | nil => simp [after?]
      | cons point text =>
          by_cases same : first = point
          · simp [after?, same, induction]
          · simp [after?, same, Ne.symm same]

theorem cut_parts {word text before after : Text} (found : cut? word text = some (before, after)) :
    text = before ++ word ++ after := by
  induction text generalizing before with
  | nil =>
      obtain ⟨rest, lead, same⟩ := Option.map_eq_some_iff.mp found
      cases same
      exact after_eq_some.mp lead
  | cons point text induction =>
      unfold cut? at found
      split at found
      · rename_i rest lead
        cases found
        exact after_eq_some.mp lead
      · obtain ⟨sides, later, same⟩ := Option.map_eq_some_iff.mp found
        cases same
        simp [induction later]

end TextGrammar.Text
