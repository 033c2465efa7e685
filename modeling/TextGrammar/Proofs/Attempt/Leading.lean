import TextGrammar.Proofs.Attempt.Answer
import TextGrammar.Proofs.Text.Leading

/-!
Attempts that take the longest text of a language. That they do is kept by the combinations, as long
as what comes second does not open with a point that could also have gone on.
-/

namespace TextGrammar

open Text Language

namespace Attempt

/-- Takes the text of the language that leads the source, with a value that it means, or fails where no
text of the language stands in front. -/
def TakesLeading (attempt : Attempt Text) (language : Language CodePoint) (opens : CodePoint → Prop)
    (means : Text → Value → Prop) : Prop :=
  ∀ source,
    (∃ text rest value, Leads language opens source text rest ∧ means text value ∧
      attempt.Yields source value rest) ∨
    Absent language source ∧ ∃ kind, attempt.Refuses source kind

/-- The meaning of two texts in a row: the pair of what they mean. -/
def PairMeans (first second : Text → Value → Prop) (text : Text) (value : Value) : Prop :=
  ∃ one two left right, text = one ++ two ∧ value = .tuple [left, right] ∧ first one left ∧ second two right

namespace TakesLeading

variable {attempt first second : Attempt Text} {language one two : Language CodePoint}
  {opens follows : CodePoint → Prop} {means becomes firstMeans secondMeans : Text → Value → Prop}

theorem weaken (takes : attempt.TakesLeading language opens means)
    (narrower : ∀ point, follows point → opens point)
    (entails : ∀ text ∈ language, ∀ value, means text value → becomes text value) :
    attempt.TakesLeading language follows becomes := by
  intro source
  rcases takes source with ⟨text, rest, value, leads, meant, yields⟩ | refused
  · exact Or.inl ⟨text, rest, value, leads.weaken narrower, entails text leads.member value meant, yields⟩
  · exact Or.inr refused

theorem map {transform : Value → Traced Value} (takes : attempt.TakesLeading language opens means)
    (transformed : ∀ text ∈ language, ∀ value, means text value →
      ∃ result, transform value = pure result ∧ becomes text result) :
    (attempt.map transform).TakesLeading language opens becomes := by
  intro source
  rcases takes source with ⟨text, rest, value, leads, meant, yields⟩ | ⟨absent, kind, refuses⟩
  · obtain ⟨result, same, becoming⟩ := transformed text leads.member value meant
    exact Or.inl ⟨text, rest, result, leads, becoming, yields.map same⟩
  · exact Or.inr ⟨absent, kind, refuses.map⟩

theorem optional {default : Value} (takes : attempt.TakesLeading language opens means)
    (closed : OpensWith language fun point => ¬ opens point) (nonempty : [] ∉ language)
    (nothing : means [] default) : (attempt.optional default).TakesLeading (1 + language) opens means := by
  intro source
  rcases takes source with ⟨text, rest, value, leads, meant, yields⟩ | ⟨absent, kind, refuses⟩
  · have closedSource : ∀ point ∈ source.head?, ¬ opens point := by
      rw [← leads.parts]
      cases text with
      | nil => exact absurd leads.member nonempty
      | cons point others =>
          intro head first
          exact closed _ leads.member head first
    exact Or.inl ⟨text, rest, value, leads.optional closedSource, meant, yields.optional _⟩
  · exact Or.inl ⟨[], source, default, absent.optional, nothing, refuses.optional _⟩

theorem followed_by (begins : first.TakesLeading one opens firstMeans)
    (ends : second.TakesLeading two follows secondMeans) (heads : OpensWith two opens)
    (narrower : [] ∈ two → ∀ point, follows point → opens point) :
    (first.followedBy second).TakesLeading (one * two) follows (PairMeans firstMeans secondMeans) := by
  intro source
  rcases begins source with ⟨text, middle, value, leads, meant, yields⟩ | ⟨absent, kind, refuses⟩
  · rcases ends middle with ⟨behind, rest, other, leadsToo, meantToo, yieldsToo⟩ | ⟨absent, kind, refuses⟩
    · exact Or.inl ⟨text ++ behind, rest, .tuple [value, other], leads.followed_by leadsToo heads narrower,
        ⟨text, behind, value, other, rfl, rfl, meant, meantToo⟩, yields.followed_by yieldsToo⟩
    · exact Or.inr ⟨leads.absent_behind absent heads, kind, yields.followed_by_refusal refuses⟩
  · exact Or.inr ⟨absent.followed_by, kind, refuses.followed_by⟩

end TakesLeading

end Attempt

end TextGrammar
