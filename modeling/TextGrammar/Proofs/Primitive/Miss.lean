import TextGrammar.Proofs.Attempt.Miss

/-!
Spans and primitive grammars, and where they need a placeholder. A span is tested item by
item up to the first that does not pass, so only an item behind others that pass is tested.
Primitive grammars need no placeholder at all, on values no more than on texts.
-/

namespace TextGrammar

open Traced

variable {name : String}

/-- What a span on the source tests, as values. -/
def Medium.items : (medium : Medium) → medium.Source → List Value
  | .text, source => Value.singleTexts source
  | .value, source => if source.isTrue then source.items?.getD [] else []

namespace Primitive

section

variable {α : Type} {test : Value → Traced Bool} {convert : α → Value} {items : List α}

theorem leading_span_misses (misses : (leadingSpan (fun item => test (convert item)) items).Misses name) :
    ∃ before item behind, items.map convert = before ++ item :: behind ∧
      (∀ passed ∈ before, (test passed).result = .ok true) ∧ (test item).Misses name := by
  induction items with
  | nil => exact absurd misses (pure_misses_nothing _)
  | cons first items induction =>
      rcases misses_cases misses with here | ⟨truth, tested, behind⟩
      · exact ⟨[], convert first, items.map convert, rfl, by simp, here⟩
      · cases truth with
        | false => exact absurd behind (pure_misses_nothing _)
        | true =>
            obtain ⟨before, item, after, split, passed, missed⟩ :=
              induction (misses_before behind fun _ => pure_misses_nothing _)
            refine ⟨convert first :: before, item, after, by simp [split], ?_, missed⟩
            exact List.forall_mem_cons.mpr ⟨tested, passed⟩

theorem misses_leading_span {before behind : List Value} {item : Value}
    (split : items.map convert = before ++ item :: behind)
    (passed : ∀ earlier ∈ before, (test earlier).result = .ok true) (misses : (test item).Misses name) :
    (leadingSpan (fun item => test (convert item)) items).Misses name := by
  induction before generalizing items with
  | nil =>
      obtain ⟨first, others, rfl, rfl, _⟩ := List.map_eq_cons_iff.mp split
      exact misses.bind _
  | cons earlier before induction =>
      obtain ⟨first, others, rfl, rfl, later⟩ := List.map_eq_cons_iff.mp split
      obtain ⟨here, passedLater⟩ := List.forall_mem_cons.mp passed
      exact Misses.after here ((induction later passedLater).bind _)

end

variable {test : Value → Traced Bool} {medium : Medium} {source : medium.Source} {description : String}

theorem span_of_misses (misses : (spanOf description test medium source).Misses name) :
    ∃ before item behind, medium.items source = before ++ item :: behind ∧
      (∀ passed ∈ before, (test passed).result = .ok true) ∧ (test item).Misses name := by
  cases medium with
  | text =>
      apply leading_span_misses
      apply misses_before misses
      intro span
      split <;> exact pure_misses_nothing _
  | value =>
      change (spanOfItems description test source).Misses name at misses
      unfold spanOfItems at misses
      split at misses
      · rename_i nonempty
        split at misses
        · exact absurd misses (misuse_misses_nothing _)
        · rename_i items found
          have spanned : (leadingSpan test items).Misses name := by
            apply misses_before misses
            intro span
            dsimp only
            split
            · apply bind_misses_nothing (of_except_misses_nothing (.excerpt source))
              exact fun _ => pure_misses_nothing _
            · exact pure_misses_nothing _
          have same : Medium.value.items source = items.map id := by
            simp [Medium.items, nonempty, found]
          rw [same]
          exact leading_span_misses spanned
      · exact absurd misses (pure_misses_nothing _)

theorem misses_span_of {before behind : List Value} {item : Value}
    (split : medium.items source = before ++ item :: behind)
    (passed : ∀ earlier ∈ before, (test earlier).result = .ok true) (misses : (test item).Misses name) :
    (spanOf description test medium source).Misses name := by
  cases medium with
  | text => exact (misses_leading_span split passed misses).bind _
  | value =>
      change (spanOfItems description test source).Misses name
      unfold Medium.items at split
      unfold spanOfItems
      cases nonempty : source.isTrue with
      | false => simp [nonempty] at split
      | true =>
          cases found : source.items? with
          | none => simp [nonempty, found] at split
          | some items =>
              simp only [nonempty, found, if_true, Option.getD_some] at split ⊢
              have whole : items.map id = before ++ item :: behind := by simpa using split
              have spanned : (leadingSpan test items).Misses name := misses_leading_span whole passed misses
              exact spanned.bind _

/-- The class of a span is asked about values that are no single code points as well. -/
def Innocent : Primitive → Prop
  | span members => ∀ value, BlamesNoPlaceholder (members.holds value)
  | _ => True

theorem examine_character_blames (expected : CodePoint) (source : Value) :
    BlamesNoPlaceholder (examineCharacter expected source) := by
  unfold examineCharacter
  split
  · apply (BlamesNoPlaceholder.item source 0).bind
    intro first
    split
    · exact .ok _
    · exact (BlamesNoPlaceholder.print first).bind fun _ => (BlamesNoPlaceholder.excerpt source).bind fun _ => .ok _
  · exact .ok _

theorem examine_any_blames (source : Value) : BlamesNoPlaceholder (examineAny source) := by
  unfold examineAny
  split
  · exact (BlamesNoPlaceholder.item source 0).bind fun _ => .ok _
  · exact .ok _

theorem examine_literal_blames (word : Word) (source : Value) :
    BlamesNoPlaceholder (examineLiteral word source) := by
  unfold examineLiteral
  split
  · exact .misuse _
  · exact .ok _

theorem span_of_items_misses_nothing (blames : ∀ value, ¬ (test value).Misses name) (source : Value) :
    ¬ (spanOfItems description test source).Misses name := by
  intro misses
  have spanned : (spanOf description test .value source).Misses name := misses
  obtain ⟨_, item, _, _, _, missed⟩ := span_of_misses spanned
  exact blames item missed

theorem method_blames (method : String) (contains : CodePoint → Bool) (value : Value) :
    BlamesNoPlaceholder ((CodePointClass.ofMethod method contains).holds value) := by
  cases value with
  | text points => exact .ok _
  | _ => exact .misuse _

theorem examine_integer_misses_nothing (bounded : Bool) (source : Value) :
    ¬ (examineInteger bounded source).Misses name := by
  intro misses
  rcases Attempt.on_match_misses misses with spanned | ⟨_, _, _, refused⟩
  · apply span_of_items_misses_nothing _ source spanned
    exact fun item => of_except_misses_nothing (method_blames _ _ item)
  · exact misuse_misses_nothing _ refused

variable {leaf : Primitive}

theorem examine_other_misses_nothing (innocent : leaf.Innocent) (source : Value) :
    ¬ (leaf.examineOther source).Misses name := by
  cases leaf with
  | character point => exact of_except_misses_nothing (examine_character_blames point source)
  | anyCharacter => exact of_except_misses_nothing (examine_any_blames source)
  | span members =>
      apply span_of_items_misses_nothing
      exact fun item => of_except_misses_nothing (innocent item)
  | literal word => exact of_except_misses_nothing (examine_literal_blames word source)
  | textUpTo delimiter => exact misuse_misses_nothing _
  | textThrough delimiter => exact misuse_misses_nothing _
  | integer bound => exact examine_integer_misses_nothing bound.isSome source

theorem attempts_miss_nothing (innocent : leaf.Innocent) (medium : Medium) (source : medium.Source) :
    ¬ (leaf.attempts medium source).Misses name := by
  cases medium with
  | text => exact pure_misses_nothing _
  | value =>
      change ¬ (leaf.examine source).Misses name
      unfold examine
      split
      · exact pure_misses_nothing _
      · exact examine_other_misses_nothing innocent source

end Primitive
end TextGrammar
