/-!
Sets of numbers given by the closed intervals they consist of. The intervals
stand in increasing order, so a search ends at the first one that starts too
high; on increasing intervals that search misses nothing.
-/

namespace TextGrammar

abbrev Ranges := List (Nat × Nat)

namespace Ranges

def contains : Ranges → Nat → Bool
  | [], _ => false
  | (low, high) :: rest, number => low ≤ number && (number ≤ high || contains rest number)

/-- Every interval starts at `least` or later, is not empty and ends before the next one starts. -/
def increaseFrom (least : Nat) : Ranges → Bool
  | [] => true
  | (low, high) :: rest => least ≤ low && low ≤ high && increaseFrom (high + 1) rest

def isIncreasing (ranges : Ranges) : Bool := increaseFrom 0 ranges

theorem least_le_of_mem {ranges : Ranges} {least number : Nat} (increasing : increaseFrom least ranges)
    {interval : Nat × Nat} (member : interval ∈ ranges) (above : interval.1 ≤ number) : least ≤ number := by
  induction ranges generalizing least with
  | nil => cases member
  | cons head rest induction =>
      simp only [increaseFrom, Bool.and_eq_true, decide_eq_true_eq] at increasing
      rcases List.mem_cons.mp member with rfl | later
      · omega
      · have := induction increasing.2 later
        omega

theorem contains_iff_from {ranges : Ranges} {least : Nat} (increasing : increaseFrom least ranges)
    (number : Nat) :
    contains ranges number ↔ ∃ interval ∈ ranges, interval.1 ≤ number ∧ number ≤ interval.2 := by
  induction ranges generalizing least with
  | nil => simp [contains]
  | cons head rest induction =>
      simp only [increaseFrom, Bool.and_eq_true, decide_eq_true_eq] at increasing
      have later := induction increasing.2
      simp only [contains, Bool.and_eq_true, Bool.or_eq_true, decide_eq_true_eq, later,
        List.mem_cons, exists_eq_or_imp]
      constructor
      · rintro ⟨low, high | found⟩
        · exact Or.inl ⟨low, high⟩
        · exact Or.inr found
      · rintro (here | ⟨interval, member, low, high⟩)
        · exact ⟨here.1, Or.inl here.2⟩
        · have := least_le_of_mem increasing.2 member low
          exact ⟨by omega, Or.inr ⟨interval, member, low, high⟩⟩

/-- On increasing intervals the search finds exactly the numbers that lie in one of them. -/
theorem contains_iff {ranges : Ranges} (increasing : ranges.isIncreasing) (number : Nat) :
    ranges.contains number ↔ ∃ interval ∈ ranges, interval.1 ≤ number ∧ number ≤ interval.2 :=
  contains_iff_from increasing number

end Ranges

end TextGrammar
