import TextGrammar.Proofs.Attempt.Answer

/-!
Repetitions with a separator as readers of lists: items in a row with a gap between
neighbours, and perhaps one more gap behind the last item. What is read is such a
list, and such a list is read when nothing that follows it can be taken for more.
-/

namespace TextGrammar

/-- Texts of items in a row, with a gap between neighbours, and the values of the items. -/
inductive Separated (gap : Text → Prop) (item : Text → Value → Prop) : Text → List Value → Prop
  | one {text : Text} {value : Value} (read : item text value) : Separated gap item text [value]
  | more {text space listed : Text} {value : Value} {values : List Value} (read : item text value)
      (apart : gap space) (others : Separated gap item listed values) :
      Separated gap item (text ++ (space ++ listed)) (value :: values)

theorem Separated.begins {gap : Text → Prop} {item : Text → Value → Prop} {listed : Text}
    {values : List Value} (written : Separated gap item listed values) :
    ∃ text value others, listed = text ++ others ∧ item text value := by
  cases written with
  | one read => exact ⟨_, _, [], (List.append_nil _).symm, read⟩
  | more read => exact ⟨_, _, _, rfl, read⟩

namespace Repetition

variable {gap : Text → Prop} {item : Text → Value → Prop} {element skip : Attempt Text} {bound : Nat}

/-- The repetition of readers reads a list of items, perhaps with a gap behind it, or nothing at all. -/
theorem run_reads_items (nonempty : ∀ text value, item text value → text ≠ [])
    (items : ∀ source, source.length ≤ bound → element.Reads item source)
    (gaps : ∀ source, skip.Reads (fun space _ => gap space) source) (source : Text)
    (short : source.length ≤ bound) :
    ∃ values rest stop, run Medium.text.size element (some skip) source = pure ⟨values, rest, stop⟩ ∧
      stop ≠ .stalled ∧ (values = [] ∧ rest = source ∨ ∃ listed trailing,
        source = listed ++ (trailing ++ rest) ∧ Separated gap item listed values ∧
          (trailing = [] ∨ gap trailing)) := by
  rcases items source short with ⟨text, value, middle, rfl, read, yields⟩ | ⟨kind, refuses⟩
  · have positive := List.length_pos_iff.mpr (nonempty text value read)
    rcases gaps middle with ⟨space, skipped, next, rfl, apart, separates⟩ | ⟨kind, refuses⟩
    · have shorter : next.length < (text ++ (space ++ next)).length := by
        simp only [List.length_append]
        omega
      obtain ⟨values, rest, stop, later, counted, found⟩ := run_reads_items nonempty items gaps next (by omega)
      refine ⟨value :: values, rest, stop, run_of_separated_step yields separates shorter later, counted,
        Or.inr ?_⟩
      rcases found with ⟨rfl, rfl⟩ | ⟨listed, trailing, rfl, others, ended⟩
      · exact ⟨text, space, rfl, .one read, Or.inr apart⟩
      · exact ⟨text ++ (space ++ listed), trailing, by simp, .more read apart others, ended⟩
    · have shorter : middle.length < (text ++ middle).length := by
        rw [List.length_append]
        omega
      refine ⟨[value], middle, .unseparated, run_of_last_step yields refuses shorter, by simp, Or.inr ?_⟩
      exact ⟨text, [], by simp, .one read, Or.inl rfl⟩
  · obtain ⟨failure, stopped⟩ := run_of_refusal refuses
    exact ⟨[], source, .failed failure, stopped, by simp, Or.inl ⟨rfl, rfl⟩⟩
termination_by source.length

/-- A list is read as a whole, with the gap behind it if there is one. What is safe to follow an item
keeps the item from being read any further. -/
theorem run_of_items {safe : Text → Prop} (nonempty : ∀ text value, item text value → text ≠ [])
    (items : ∀ text value rest, item text value → text.length ≤ bound → safe rest →
      element.Yields (text ++ rest) value rest)
    (gaps : ∀ space text value rest, gap space → item text value → safe (space ++ (text ++ rest)) ∧
      ∃ skipped, skip.Yields (space ++ (text ++ rest)) skipped (text ++ rest))
    {trailing rest : Text} (follows : safe (trailing ++ rest))
    (ended : (trailing = [] ∧ ∃ kind, skip.Refuses rest kind) ∨
      (∃ skipped, skip.Yields (trailing ++ rest) skipped rest) ∧ ∃ kind, element.Refuses rest kind)
    {listed : Text} {values : List Value} (written : Separated gap item listed values)
    (short : listed.length ≤ bound) :
    ∃ stop, run Medium.text.size element (some skip) (listed ++ (trailing ++ rest)) =
      pure ⟨values, rest, stop⟩ ∧ stop ≠ .stalled := by
  induction written with
  | @one text value read =>
      have yields := items text value (trailing ++ rest) read short follows
      have positive := List.length_pos_iff.mpr (nonempty text value read)
      have shorter : rest.length < (text ++ (trailing ++ rest)).length := by
        simp only [List.length_append]
        omega
      rcases ended with ⟨rfl, kind, refuses⟩ | ⟨⟨skipped, separates⟩, kind, refuses⟩
      · exact ⟨.unseparated, run_of_last_step yields refuses shorter, by simp⟩
      · obtain ⟨failure, stopped⟩ := run_of_refusal refuses
        exact ⟨.failed failure, run_of_separated_step yields separates shorter stopped, by simp⟩
  | @more text space listed value values read apart others induction =>
      -- The item behind the gap is what keeps the separator from taking more than the gap.
      simp only [List.length_append] at short
      obtain ⟨first, firstValue, others', rfl, begins⟩ := others.begins
      obtain ⟨safeSpace, skipped, separates⟩ :=
        gaps space first firstValue (others' ++ (trailing ++ rest)) apart begins
      rw [← List.append_assoc first] at safeSpace separates
      have yields := items text value _ read (by omega) safeSpace
      have positive := List.length_pos_iff.mpr (nonempty text value read)
      have shorter : (first ++ others' ++ (trailing ++ rest)).length <
          (text ++ (space ++ (first ++ others' ++ (trailing ++ rest)))).length := by
        simp only [List.length_append]
        omega
      obtain ⟨stop, later, counted⟩ := induction (by omega)
      refine ⟨stop, ?_, counted⟩
      rw [List.append_assoc text, List.append_assoc space]
      exact run_of_separated_step yields separates shorter later

end Repetition

end TextGrammar
