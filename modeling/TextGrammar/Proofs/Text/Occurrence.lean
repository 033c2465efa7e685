import TextGrammar.Text.Occurrence

/-!
Occurrences of a word in a text, and the parts into which they split it. The first occurrence ends the
first part, and the search goes on behind it, so occurrences that overlap an earlier one do not count.
-/

namespace TextGrammar.Text

theorem infix_cons_iff_after {word text : Text} {point : CodePoint} (begins : after? word (point :: text) = none) :
    word <:+: point :: text ↔ word <:+: text := by
  rw [List.infix_cons_iff]
  refine or_iff_right ?_
  rintro ⟨rest, parts⟩
  exact absurd (begins.symm.trans (after_eq_some.mpr parts.symm)) (by simp)

theorem cut_eq_none_iff {word text : Text} : cut? word text = none ↔ ¬ word <:+: text := by
  induction text with
  | nil =>
      cases word with
      | nil => simp [cut?, after?]
      | cons first word => simp [cut?, after?]
  | cons point text induction =>
      cases begins : after? word (point :: text) with
      | some rest =>
          have occurs : word <:+: point :: text := ⟨[], rest, by simpa using (after_eq_some.mp begins).symm⟩
          simp [cut?, begins, occurs]
      | none => simp [cut?, begins, infix_cons_iff_after begins, induction]

/-- The text before the word and the text after it, where no occurrence of the word stands earlier. -/
structure FirstOccurrence (word text before after : Text) : Prop where
  parts : text = before ++ (word ++ after)
  first : ∀ earlier later, text = earlier ++ (word ++ later) → before.length ≤ earlier.length

namespace FirstOccurrence

variable {word text before after : Text}

theorem of_cut (found : cut? word text = some (before, after)) : FirstOccurrence word text before after := by
  refine ⟨by simpa using cut_parts found, ?_⟩
  induction text generalizing before with
  | nil =>
      intro earlier later _
      obtain ⟨rest, begins, same⟩ := Option.map_eq_some_iff.mp found
      cases same
      exact Nat.zero_le _
  | cons point text induction =>
      intro earlier later occurs
      unfold cut? at found
      split at found
      · cases found
        exact Nat.zero_le _
      · rename_i begins
        obtain ⟨sides, behind, same⟩ := Option.map_eq_some_iff.mp found
        cases same
        cases earlier with
        | nil => exact absurd (begins.symm.trans (after_eq_some.mpr occurs)) (by simp)
        | cons head earlier =>
            obtain ⟨_, occursBehind⟩ := List.cons.inj occurs
            exact Nat.succ_le_succ (induction behind earlier later occursBehind)

theorem unique {otherBefore otherAfter : Text} (found : FirstOccurrence word text before after)
    (other : FirstOccurrence word text otherBefore otherAfter) :
    before = otherBefore ∧ after = otherAfter := by
  have notLater := found.first otherBefore otherAfter other.parts
  have notEarlier := other.first before after found.parts
  obtain ⟨sameBefore, sameRest⟩ :=
    List.append_inj (found.parts.symm.trans other.parts) (Nat.le_antisymm notLater notEarlier)
  exact ⟨sameBefore, List.append_cancel_left sameRest⟩

theorem occurs (found : FirstOccurrence word text before after) : word <:+: text :=
  ⟨before, after, by simpa using found.parts.symm⟩

theorem cut_eq (found : FirstOccurrence word text before after) : cut? word text = some (before, after) := by
  cases searched : cut? word text with
  | none => exact absurd found.occurs (cut_eq_none_iff.mp searched)
  | some sides =>
      obtain ⟨rfl, rfl⟩ := found.unique (of_cut searched)
      rfl

theorem exists_of_infix (occurs : word <:+: text) : ∃ before after, FirstOccurrence word text before after := by
  cases searched : cut? word text with
  | none => exact absurd occurs (cut_eq_none_iff.mp searched)
  | some sides => exact ⟨sides.1, sides.2, .of_cut searched⟩

/-- Another occurrence inside the text before the first one would stand earlier. -/
theorem absent_before (found : FirstOccurrence word text before after) (nonempty : word ≠ []) :
    ¬ word <:+: before := by
  rintro ⟨earlier, later, rfl⟩
  have notLater := found.first earlier (later ++ (word ++ after)) (by simpa using found.parts)
  have positive := List.length_pos_iff.mpr nonempty
  simp only [List.length_append] at notLater
  omega

theorem shorter_behind (found : FirstOccurrence word text before after) (nonempty : word ≠ []) :
    after.length < text.length := by
  have positive := List.length_pos_iff.mpr nonempty
  rw [found.parts]
  simp only [List.length_append]
  omega

end FirstOccurrence

/-- The parts between the first occurrence of the word, the first one behind it, and so on. -/
inductive Split (word : Text) : Text → List Text → Prop
  | whole {text : Text} (absent : ¬ word <:+: text) : Split word text [text]
  | cut {text before after : Text} {parts : List Text} (found : FirstOccurrence word text before after)
      (others : Split word after parts) : Split word text (before :: parts)

namespace Split

variable {word text : Text} {parts : List Text}

theorem exists_parts (nonempty : word ≠ []) (text : Text) : ∃ parts, Split word text parts := by
  by_cases occurs : word <:+: text
  · obtain ⟨before, after, found⟩ := FirstOccurrence.exists_of_infix occurs
    have shorter := found.shorter_behind nonempty
    obtain ⟨parts, others⟩ := exists_parts nonempty after
    exact ⟨before :: parts, .cut found others⟩
  · exact ⟨[text], .whole occurs⟩
termination_by text.length

theorem unique {others : List Text} (split : Split word text parts) (splitToo : Split word text others) :
    parts = others := by
  induction split generalizing others with
  | whole absent =>
      cases splitToo with
      | whole => rfl
      | cut found => exact absurd found.occurs absent
  | cut found behind induction =>
      cases splitToo with
      | whole absent => exact absurd found.occurs absent
      | cut foundToo behindToo =>
          obtain ⟨rfl, rfl⟩ := found.unique foundToo
          rw [induction behindToo]

theorem parts_nonempty (split : Split word text parts) : parts ≠ [] := by
  cases split <;> simp

theorem joined (split : Split word text parts) : word.intercalate parts = text := by
  induction split with
  | whole absent => exact List.intercalate_singleton
  | cut found others induction =>
      rw [List.intercalate_cons_of_ne_nil others.parts_nonempty, induction, found.parts, List.append_assoc]

theorem absent_in_parts (split : Split word text parts) (nonempty : word ≠ []) :
    ∀ part ∈ parts, ¬ word <:+: part := by
  induction split with
  | whole absent => simpa using absent
  | cut found others induction => exact List.forall_mem_cons.mpr ⟨found.absent_before nonempty, induction⟩

/-- Of two occurrences that overlap only the first one counts. -/
example : Split (ofString "aa") (ofString "aaab") [[], ofString "ab"] :=
  .cut (.of_cut (by decide)) (.whole (by decide))

end Split

end TextGrammar.Text
