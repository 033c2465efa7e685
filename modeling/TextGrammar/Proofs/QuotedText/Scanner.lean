import TextGrammar.Grammar.QuotedText

/-!
A scanner for quoted text that goes over the text once, from left to right, and
keeps nothing but what it has collected. An escape is looked at before the code
point after it, a number before the keys. Numbers are what is printed for a code
point in four hexadecimal digits.
-/

namespace TextGrammar

namespace CodePoint

theorem ext_to_nat {left right : CodePoint} (same : left.toNat = right.toNat) : left = right := by
  cases left
  cases right
  simpa using same

/-- The last hexadecimal digit of a number. A letter may be a capital one. -/
def hexDigit (capital : Bool) (number : Nat) : CodePoint :=
  let digit := number % 16
  ⟨if digit < 10 then 48 + digit else if capital then 55 + digit else 87 + digit, by
    have bound : digit < 16 := Nat.mod_lt number (by decide)
    split
    · omega
    · split <;> omega⟩

theorem hex_digit_congr (capital : Bool) {one other : Nat} (same : one % 16 = other % 16) :
    hexDigit capital one = hexDigit capital other := by
  simp only [hexDigit, same]

theorem hex_value_of_hex_digit (capital : Bool) (number : Nat) :
    (hexDigit capital number).hexValue? = some (number % 16) := by
  have every : ∀ capital, ∀ digit : Fin 16, (hexDigit capital digit.val).hexValue? = some digit.val := by
    decide
  rw [← hex_digit_congr capital (Nat.mod_mod number 16)]
  exact every capital ⟨number % 16, Nat.mod_lt _ (by decide)⟩

theorem hex_value_bounds {point : CodePoint} {digit : Nat} (value : point.hexValue? = some digit) :
    digit < 16 ∧ point.toNat < 128 := by
  unfold hexValue? at value
  split at value
  · rename_i bounds
    simp only [Bool.and_eq_true, decide_eq_true_eq, Option.some.injEq] at bounds value
    omega
  · split at value
    · rename_i bounds
      simp only [Bool.and_eq_true, decide_eq_true_eq, Option.some.injEq] at bounds value
      omega
    · split at value
      · rename_i bounds
        simp only [Bool.and_eq_true, decide_eq_true_eq, Option.some.injEq] at bounds value
        omega
      · exact absurd value (by simp)

/-- Nothing but the digits of a value has that value. -/
theorem hex_digit_of_hex_value {point : CodePoint} {digit : Nat} (value : point.hexValue? = some digit) :
    ∃ capital, point = hexDigit capital digit := by
  have every : ∀ number : Fin 128, ∀ digit ∈ (mk number.val (by omega)).hexValue?,
      ∃ capital, mk number.val (by omega) = hexDigit capital digit := by
    decide
  exact every ⟨point.toNat, (hex_value_bounds value).2⟩ digit value

end CodePoint

namespace Text

/-- The code point that a `u` and four hexadecimal digits name, and the text after them. -/
def unicodeAt? : Text → Option (CodePoint × Text)
  | mark :: a :: b :: c :: d :: rest =>
      if mark = 'u' then do
        let number := 4096 * (← a.hexValue?) + 256 * (← b.hexValue?) + 16 * (← c.hexValue?) + (← d.hexValue?)
        return (← CodePoint.ofNat? number, rest)
      else none
  | _ => none

/-- A number in four hexadecimal digits, each letter among them in a case of its own. -/
def fourHexDigits (capitals : Fin 4 → Bool) (number : Nat) : Text :=
  [.hexDigit (capitals 0) (number / 4096), .hexDigit (capitals 1) (number / 256),
   .hexDigit (capitals 2) (number / 16), .hexDigit (capitals 3) number]

theorem unicode_at_four_hex_digits {point : CodePoint} (small : point.toNat ≤ 0xFFFF)
    (capitals : Fin 4 → Bool) (rest : Text) :
    unicodeAt? ('u' :: (fourHexDigits capitals point.toNat ++ rest)) = some (point, rest) := by
  have number : 4096 * (point.toNat / 4096 % 16) + 256 * (point.toNat / 256 % 16) +
      16 * (point.toNat / 16 % 16) + point.toNat % 16 = point.toNat := by omega
  simp only [fourHexDigits, List.cons_append, List.nil_append, unicodeAt?, if_true,
    CodePoint.hex_value_of_hex_digit, Option.bind_eq_bind, Option.bind_some, number,
    CodePoint.ofNat?, dif_pos point.isLt, Option.pure_def]

section

variable {a b c d : CodePoint} {w x y z : Nat}

theorem four_hex_values_le (isW : a.hexValue? = some w) (isX : b.hexValue? = some x)
    (isY : c.hexValue? = some y) (isZ : d.hexValue? = some z) :
    4096 * w + 256 * x + 16 * y + z ≤ 0xFFFF := by
  have := (CodePoint.hex_value_bounds isW).1
  have := (CodePoint.hex_value_bounds isX).1
  have := (CodePoint.hex_value_bounds isY).1
  have := (CodePoint.hex_value_bounds isZ).1
  omega

/-- Four points that have values are the digits of the number that the values make up. -/
theorem four_hex_digits_of_values (isW : a.hexValue? = some w) (isX : b.hexValue? = some x)
    (isY : c.hexValue? = some y) (isZ : d.hexValue? = some z) :
    ∃ capitals, [a, b, c, d] = fourHexDigits capitals (4096 * w + 256 * x + 16 * y + z) := by
  have boundX := (CodePoint.hex_value_bounds isX).1
  have boundY := (CodePoint.hex_value_bounds isY).1
  have boundZ := (CodePoint.hex_value_bounds isZ).1
  obtain ⟨first, rfl⟩ := CodePoint.hex_digit_of_hex_value isW
  obtain ⟨second, rfl⟩ := CodePoint.hex_digit_of_hex_value isX
  obtain ⟨third, rfl⟩ := CodePoint.hex_digit_of_hex_value isY
  obtain ⟨fourth, rfl⟩ := CodePoint.hex_digit_of_hex_value isZ
  have inFirst : CodePoint.hexDigit first w = .hexDigit first ((4096 * w + 256 * x + 16 * y + z) / 4096) :=
    CodePoint.hex_digit_congr first (by omega)
  have inSecond : CodePoint.hexDigit second x = .hexDigit second ((4096 * w + 256 * x + 16 * y + z) / 256) :=
    CodePoint.hex_digit_congr second (by omega)
  have inThird : CodePoint.hexDigit third y = .hexDigit third ((4096 * w + 256 * x + 16 * y + z) / 16) :=
    CodePoint.hex_digit_congr third (by omega)
  have inFourth : CodePoint.hexDigit fourth z = .hexDigit fourth (4096 * w + 256 * x + 16 * y + z) :=
    CodePoint.hex_digit_congr fourth (by omega)
  refine ⟨[first, second, third, fourth].get, ?_⟩
  rw [inFirst, inSecond, inThird, inFourth]
  rfl

end

/-- A number is read exactly where a `u` and the four digits of a code point stand. -/
theorem unicode_at_iff {source rest : Text} {point : CodePoint} :
    unicodeAt? source = some (point, rest) ↔
      point.toNat ≤ 0xFFFF ∧
        ∃ capitals, source = ('u' : CodePoint) :: (fourHexDigits capitals point.toNat ++ rest) := by
  constructor
  · intro found
    unfold unicodeAt? at found
    split at found
    · rename_i mark a b c d later
      split at found
      · rename_i isMark
        simp only [Option.bind_eq_bind, Option.bind_eq_some_iff, Option.pure_def, Option.some.injEq,
          Prod.mk.injEq] at found
        obtain ⟨w, isW, x, isX, y, isY, z, isZ, named, isNamed, rfl, rfl⟩ := found
        obtain ⟨capitals, digits⟩ := four_hex_digits_of_values isW isX isY isZ
        obtain ⟨bound, same⟩ := Option.dite_none_right_eq_some.mp isNamed
        obtain rfl := Option.some.inj same
        refine ⟨four_hex_values_le isW isX isY isZ, capitals, ?_⟩
        rw [isMark, ← digits]
        rfl
      · exact absurd found (by simp)
    · exact absurd found (by simp)
  · intro stands
    obtain ⟨small, capitals, rfl⟩ := stands
    exact unicode_at_four_hex_digits small capitals rest

theorem unicode_at_shorter {point : CodePoint} {source later : Text}
    (found : unicodeAt? source = some (point, later)) : later.length + 5 = source.length := by
  obtain ⟨_, capitals, rfl⟩ := unicode_at_iff.mp found
  rfl

theorem unicode_at_other {point : CodePoint} (other : point ≠ 'u') (rest : Text) :
    unicodeAt? (point :: rest) = none := by
  apply Option.eq_none_iff_forall_not_mem.mpr
  intro answer found
  obtain ⟨_, capitals, same⟩ := unicode_at_iff.mp found
  exact other (List.cons.inj same).1

end Text

namespace Quotation

variable (quotation : Quotation)

/-- What an escape before the point means, and the text that is then left. -/
def escapeAt (point : CodePoint) (rest : Text) : Text × Text :=
  match Text.unicodeAt? (point :: rest) with
  | some (named, later) => ([named], later)
  | none => ((quotation.escapes.lookup point).getD [point], rest)

theorem escape_at_shorter (point : CodePoint) (rest : Text) :
    (quotation.escapeAt point rest).2.length ≤ rest.length := by
  unfold escapeAt
  split
  · rename_i named later found
    have := Text.unicode_at_shorter found
    simp only [List.length_cons] at this
    dsimp only
    omega
  · exact Nat.le_refl _

/-- Puts what was collected before in front of what a scan collects. -/
def prepend (collected : Text) (scanned : Except FailureKind (Text × Text)) : Except FailureKind (Text × Text) :=
  scanned.map fun found => (collected ++ found.1, found.2)

/-- Scans behind the opening quote: the text that was collected up to the closing quote and what
follows it, or the kind of the failure. -/
def scanBody : Text → Except FailureKind (Text × Text)
  | [] => .error .emptyInput
  | point :: text =>
      if point = quotation.quote then .ok ([], text)
      else if point = quotation.escape then
        match text with
        | [] => .error .mismatch
        | next :: rest =>
            prepend (quotation.escapeAt next rest).1 (scanBody (quotation.escapeAt next rest).2)
      else prepend [point] (scanBody text)
termination_by text => text.length
decreasing_by
  · have := quotation.escape_at_shorter next rest
    simp only [List.length_cons]
    omega
  · simp

/-- Scans a text that has to begin with a quote. -/
def scan : Text → Except FailureKind (Text × Text)
  | [] => .error .emptyInput
  | point :: text => if point = quotation.quote then quotation.scanBody text else .error .mismatch

variable {quotation}

theorem prepend_prepend (first second : Text) (scanned : Except FailureKind (Text × Text)) :
    prepend first (prepend second scanned) = prepend (first ++ second) scanned := by
  cases scanned with
  | error kind => rfl
  | ok found => simp only [prepend, Except.map, List.append_assoc]

theorem prepend_nothing (scanned : Except FailureKind (Text × Text)) : prepend [] scanned = scanned := by
  cases scanned <;> rfl

theorem scan_body_nothing : quotation.scanBody [] = .error .emptyInput := by
  rw [scanBody]

theorem scan_body_quote (rest : Text) : quotation.scanBody (quotation.quote :: rest) = .ok ([], rest) := by
  rw [scanBody.eq_def]
  exact if_pos rfl

theorem scan_body_last_escape : quotation.scanBody [quotation.escape] = .error .mismatch := by
  rw [scanBody, if_neg quotation.differ.symm, if_pos rfl]

theorem scan_body_escape (next : CodePoint) (rest : Text) :
    quotation.scanBody (quotation.escape :: next :: rest) =
      prepend (quotation.escapeAt next rest).1 (quotation.scanBody (quotation.escapeAt next rest).2) := by
  rw [scanBody, if_neg quotation.differ.symm, if_pos rfl]

/-- A run of points that stand for themselves is collected as it is. -/
theorem scan_body_plain {run : Text} (plain : ∀ point ∈ run, quotation.plain.contains point = true)
    (rest : Text) : quotation.scanBody (run ++ rest) = prepend run (quotation.scanBody rest) := by
  induction run with
  | nil => rw [List.nil_append, prepend_nothing]
  | cons point run induction =>
      have own := plain point List.mem_cons_self
      simp only [Quotation.plain, Bool.and_eq_true, decide_eq_true_eq] at own
      have later := induction fun other member => plain other (List.mem_cons_of_mem _ member)
      rw [List.cons_append, scanBody.eq_def]
      dsimp only
      rw [if_neg own.1, if_neg own.2, later, prepend_prepend]
      rfl

end Quotation

end TextGrammar
