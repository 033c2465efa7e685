import Mathlib.Computability.Language
import TextGrammar.Text.DecimalDigit

/-!
Texts of a language at the front of a source. Of two languages in a row the longest text begins with
the longest text of the first one, provided that a shorter one is followed by a point that no text of
the second one opens with. So whoever reads from left to right and never turns back takes the longest.
-/

namespace TextGrammar

open Language

namespace Text

variable {language first second : Language CodePoint} {opens follows : CodePoint → Prop}
  {source middle text one two rest : Text}

/-- No text of the language stands in front. -/
def Absent (language : Language CodePoint) (source : Text) : Prop := ∀ text ∈ language, ¬ text <+: source

/-- The longest text of the language in front, and what follows it. -/
structure LongestPrefix (language : Language CodePoint) (source text rest : Text) : Prop where
  parts : text ++ rest = source
  member : text ∈ language
  longest : ∀ other ∈ language, other <+: source → other.length ≤ text.length

/-- The longest text of the language in front, where any other one is followed by a point that does
not open what is to come. -/
structure Leads (language : Language CodePoint) (opens : CodePoint → Prop) (source text rest : Text) :
    Prop where
  parts : text ++ rest = source
  member : text ∈ language
  others : ∀ other ∈ language, ∀ more, other ++ more = source →
    other = text ∨ other.length ≤ text.length ∧ ∀ point ∈ more.head?, ¬ opens point

def OpensWith (language : Language CodePoint) (opens : CodePoint → Prop) : Prop :=
  ∀ text ∈ language, ∀ point ∈ text.head?, opens point

theorem OpensWith.mono (begins : OpensWith language opens) (wider : ∀ point, opens point → follows point) :
    OpensWith language follows :=
  fun text member point head => wider point (begins text member point head)

theorem OpensWith.optional (begins : OpensWith language opens) : OpensWith (1 + language) opens := by
  intro text member
  rcases (mem_add _ _ _).mp member with nothing | member
  · obtain rfl := (mem_one _).mp nothing
    simp
  · exact begins text member

theorem OpensWith.followed_by (begins : OpensWith first opens) (nonempty : [] ∉ first) :
    OpensWith (first * second) opens := by
  intro text member point head
  obtain ⟨one, oneMember, two, _, rfl⟩ := mem_mul.mp member
  cases one with
  | nil => exact absurd oneMember nonempty
  | cons front others => exact begins _ oneMember point head

/-- In front of a source that the language does not open stands at most the empty text. -/
theorem OpensWith.nothing_in_front (begins : OpensWith language opens)
    (closed : ∀ point ∈ (text ++ rest).head?, ¬ opens point) (member : text ∈ language) : text = [] := by
  cases text with
  | nil => rfl
  | cons point others => exact absurd (begins _ member point rfl) (closed point rfl)

theorem Absent.followed_by (absent : Absent first source) : Absent (first * second) source := by
  rintro text member ⟨more, parts⟩
  obtain ⟨one, oneMember, two, _, rfl⟩ := mem_mul.mp member
  exact absent one oneMember ⟨two ++ more, by rw [← parts, List.append_assoc]⟩

theorem Absent.optional (absent : Absent language source) : Leads (1 + language) opens source [] source where
  parts := rfl
  member := (mem_add _ _ _).mpr (Or.inl rfl)
  others := by
    intro other member more parts
    rcases (mem_add _ _ _).mp member with nothing | member
    · exact Or.inl ((mem_one _).mp nothing)
    · exact absurd ⟨more, parts⟩ (absent other member)

namespace Leads

theorem longest_prefix (leads : Leads language opens source text rest) :
    LongestPrefix language source text rest where
  parts := leads.parts
  member := leads.member
  longest := by
    rintro other member ⟨more, parts⟩
    rcases leads.others other member more parts with rfl | ⟨shorter, _⟩
    · exact Nat.le_refl _
    · exact shorter

theorem weaken (leads : Leads language opens source text rest)
    (narrower : ∀ point, follows point → opens point) : Leads language follows source text rest where
  parts := leads.parts
  member := leads.member
  others := by
    intro other member more parts
    rcases leads.others other member more parts with same | ⟨shorter, closed⟩
    · exact Or.inl same
    · exact Or.inr ⟨shorter, fun point head follow => closed point head (narrower point follow)⟩

theorem optional (leads : Leads language opens source text rest)
    (closed : ∀ point ∈ source.head?, ¬ opens point) : Leads (1 + language) opens source text rest where
  parts := leads.parts
  member := (mem_add _ _ _).mpr (Or.inr leads.member)
  others := by
    intro other member more parts
    rcases (mem_add _ _ _).mp member with nothing | member
    · obtain rfl := (mem_one _).mp nothing
      obtain rfl : more = source := parts
      exact Or.inr ⟨Nat.zero_le _, closed⟩
    · exact leads.others other member more parts

theorem followed_by (begins : Leads first opens source one middle) (ends : Leads second follows middle two rest)
    (heads : OpensWith second opens) (narrower : [] ∈ second → ∀ point, follows point → opens point) :
    Leads (first * second) follows source (one ++ two) rest where
  parts := by rw [List.append_assoc, ends.parts, begins.parts]
  member := append_mem_mul begins.member ends.member
  others := by
    intro other member more parts
    obtain ⟨front, frontMember, back, backMember, rfl⟩ := mem_mul.mp member
    rw [List.append_assoc] at parts
    rcases begins.others front frontMember (back ++ more) parts with rfl | ⟨shorter, closed⟩
    · have behind : back ++ more = middle := List.append_cancel_left (parts.trans begins.parts.symm)
      rcases ends.others back backMember more behind with rfl | ⟨shorter, closed⟩
      · exact Or.inl rfl
      · exact Or.inr ⟨by simpa using shorter, closed⟩
    · -- A shorter text of the first language leaves no room for anything of the second one.
      obtain rfl := heads.nothing_in_front closed backMember
      refine Or.inr ⟨?_, fun point head follow => closed point head (narrower backMember point follow)⟩
      simp only [List.length_append, List.length_nil]
      omega

theorem absent_behind (begins : Leads first opens source one middle) (absent : Absent second middle)
    (heads : OpensWith second opens) : Absent (first * second) source := by
  rintro other member ⟨more, parts⟩
  obtain ⟨front, frontMember, back, backMember, rfl⟩ := mem_mul.mp member
  rw [List.append_assoc] at parts
  rcases begins.others front frontMember (back ++ more) parts with rfl | ⟨_, closed⟩
  · have behind : back ++ more = middle := List.append_cancel_left (parts.trans begins.parts.symm)
    exact absent back backMember ⟨more, behind⟩
  · obtain rfl := heads.nothing_in_front closed backMember
    exact absent [] backMember List.nil_prefix

end Leads

/-- One of the points. -/
def anyOf (points : Text) : Language CodePoint := {text | ∃ point ∈ points, text = [point]}

/-- One decimal digit of any script, or more. -/
def digitRuns : Language CodePoint := {run | run ≠ [] ∧ ∀ point ∈ run, point.isDecimalDigit = true}

variable {points : Text}

theorem empty_not_any_of : [] ∉ anyOf points := by
  rintro ⟨point, _, nothing⟩
  exact absurd nothing (by simp)

theorem empty_not_digit_run : [] ∉ digitRuns := fun digits => digits.1 rfl

theorem empty_not_mul (nonempty : [] ∉ first) : [] ∉ first * second := by
  intro member
  obtain ⟨one, oneMember, two, _, nothing⟩ := mem_mul.mp member
  obtain ⟨rfl, _⟩ := List.append_eq_nil_iff.mp nothing
  exact nonempty oneMember

theorem any_of_opens_with : OpensWith (anyOf points) (· ∈ points) := by
  rintro text ⟨point, listed, rfl⟩ head first
  obtain rfl : point = head := by simpa using first
  exact listed

theorem digit_run_opens_with : OpensWith digitRuns fun point => point.isDecimalDigit = true := by
  rintro run ⟨_, decimal⟩ head first
  exact decimal head (List.mem_of_head? first)

/-- Of single points only one stands in front, whatever is to come. -/
theorem any_of_leads {point : CodePoint} (listed : point ∈ points) :
    Leads (anyOf points) opens (point :: rest) [point] rest where
  parts := rfl
  member := ⟨point, listed, rfl⟩
  others := by
    rintro other ⟨head, _, rfl⟩ more parts
    obtain ⟨rfl, _⟩ := List.cons.inj parts
    exact Or.inl rfl

theorem any_of_absent (differ : ∀ point ∈ source.head?, point ∉ points) : Absent (anyOf points) source := by
  rintro text ⟨point, listed, rfl⟩ ⟨more, rfl⟩
  exact differ point rfl listed

end Text

end TextGrammar
