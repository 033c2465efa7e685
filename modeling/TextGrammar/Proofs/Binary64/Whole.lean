import TextGrammar.Binary64.Nearest

/-!
Whole numbers as doubles. The doubles reach far beyond the whole numbers of 64 bits,
so each of those has a nearest double.
-/

namespace TextGrammar.Binary64

theorem round_quotient_le (numerator denominator : Nat) :
    roundQuotient numerator denominator ≤ numerator / denominator + 1 := by
  unfold roundQuotient
  dsimp only
  split
  · exact Nat.le_succ _
  · split
    · exact Nat.le_refl _
    · have := Nat.mod_lt (numerator / denominator) Nat.zero_lt_two
      omega

/-- A whole number begins with the bit of its logarithm. -/
theorem binary_exponent_whole {number : Nat} (positive : number ≠ 0) : binaryExponent number 1 = number.log2 := by
  have begins : 2 ^ number.log2 ≤ number := Nat.log2_self_le positive
  have one : Nat.log2 1 = 0 := by decide
  simp [binaryExponent, one, begins]

/-- Rounded up to the next power of two, a significand has one bit more than doubles keep. -/
theorem significand_le {number shift : Nat} (short : number < Nat.pow 2 (53 + shift)) :
    roundQuotient number (Nat.pow 2 shift) ≤ Nat.pow 2 53 := by
  have parts : Nat.pow 2 (53 + shift) = Nat.pow 2 shift * Nat.pow 2 53 := by
    rw [Nat.add_comm]
    exact Nat.pow_add 2 shift 53
  rw [parts] at short
  exact Nat.le_trans (round_quotient_le _ _) (Nat.div_lt_of_lt_mul short)

theorem nearest_bits_whole {number : Nat} (below : number < Nat.pow 2 64) :
    ∃ bits, nearestBits? number 1 = some bits := by
  by_cases zero : number = 0
  · exact ⟨0, by rw [nearestBits?, if_pos zero]⟩
  · have top : number < 2 ^ (number.log2 + 1) := Nat.lt_log2_self
    have small : number.log2 < 64 := (Nat.log2_lt zero).mpr below
    -- The last bit of the significand is the 52nd behind the first one, before or behind the point.
    obtain ⟨exponent, same⟩ : ∃ exponent : Int, exponent = number.log2 - 52 := ⟨_, rfl⟩
    have normal : max exponent leastExponent = exponent := by
      unfold leastExponent
      omega
    obtain ⟨significand, rounded, fits⟩ : ∃ significand : Nat,
        (if 0 ≤ exponent then roundQuotient number (1 * Nat.pow 2 exponent.toNat)
          else roundQuotient (number * Nat.pow 2 (-exponent).toNat) 1) = significand ∧
            significand ≤ Nat.pow 2 53 := by
      refine ⟨_, rfl, ?_⟩
      split
      · rw [Nat.one_mul]
        apply significand_le
        exact Nat.lt_of_lt_of_le top (Nat.pow_le_pow_right (by decide) (by omega))
      · have room : number.log2 + 1 + (-exponent).toNat = 53 := by omega
        apply @significand_le _ 0
        calc number * 2 ^ (-exponent).toNat
            < 2 ^ (number.log2 + 1) * 2 ^ (-exponent).toNat := Nat.mul_lt_mul_of_pos_right top (Nat.two_pow_pos _)
          _ = 2 ^ 53 := by rw [← Nat.pow_add, room]
    have field : (exponent - leastExponent).toNat ≤ 1085 := by
      unfold leastExponent
      omega
    have finite : (exponent - leastExponent).toNat * Nat.pow 2 52 + significand < infinityBits := by
      calc (exponent - leastExponent).toNat * Nat.pow 2 52 + significand
          ≤ 1085 * Nat.pow 2 52 + Nat.pow 2 53 := Nat.add_le_add (Nat.mul_le_mul_right _ field) fits
        _ < infinityBits := by decide
    have found : nearestBits? number 1 =
        some ((exponent - leastExponent).toNat * Nat.pow 2 52 + significand) := by
      rw [nearestBits?, if_neg zero]
      simp only [binary_exponent_whole zero, ← same, normal, rounded, finite, if_true]
    exact ⟨_, found⟩

/-- Every whole number of at most 64 bits and a sign has a nearest double. -/
theorem whole_has_double {number : Int} (below : number.natAbs < Nat.pow 2 64) :
    ∃ converted, ofInt? number = some converted := by
  obtain ⟨bits, known⟩ := nearest_bits_whole below
  exact ⟨_, by rw [ofInt?, nearest?, known]; rfl⟩

end TextGrammar.Binary64
