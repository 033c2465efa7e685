import TextGrammar.Proofs.QuotedText.Agreement

/-!
Ways of writing a text between quotes. The text is written in pieces, each of them in one of
four ways, and nothing marks where a piece ends. Whatever the two marks and the keys are, no
piece is read as another one, and no piece changes what the next one means.
-/

namespace TextGrammar

/-- One piece of a text between quotes, and the way in which it is written. -/
inductive Spelling (quotation : Quotation) where
  /-- A code point that is no mark stands for itself. -/
  | plain (point : CodePoint) (noQuote : point ≠ quotation.quote) (noEscape : point ≠ quotation.escape)
  /-- Behind an escape every code point stands for itself that is neither `u` nor a key, the marks
  among them. -/
  | escaped (point : CodePoint) (noNumber : point ≠ 'u') (noKey : quotation.escapes.lookup point = none)
  /-- A code point by its number. -/
  | numbered (point : CodePoint) (small : point.toNat ≤ 0xFFFF) (capitals : Fin 4 → Bool)
  /-- The text of a key. Behind an escape, `u` is no key where a number can be read. -/
  | keyed (key : CodePoint) (text : Text) (known : quotation.escapes.lookup key = some text)
      (noNumber : key ≠ 'u')

namespace Spelling

variable {quotation : Quotation}

def written : Spelling quotation → Text
  | plain point _ _ => [point]
  | escaped point _ _ => [quotation.escape, point]
  | numbered point _ capitals => quotation.escape :: 'u' :: Text.fourHexDigits capitals point.toNat
  | keyed key _ _ _ => [quotation.escape, key]

def meant : Spelling quotation → Text
  | plain point _ _ => [point]
  | escaped point _ _ => [point]
  | numbered point _ _ => [point]
  | keyed _ text _ _ => text

end Spelling

namespace Quotation

variable {quotation : Quotation}

theorem scan_body_spelling (spelling : Spelling quotation) (rest : Text) :
    quotation.scanBody (spelling.written ++ rest) = prepend spelling.meant (quotation.scanBody rest) := by
  cases spelling with
  | plain point noQuote noEscape =>
      have own : ∀ other ∈ [point], quotation.plain.contains other = true := by
        simp [Quotation.plain, noQuote, noEscape]
      exact scan_body_plain own rest
  | escaped point noNumber noKey =>
      have behind : quotation.escapeAt point rest = ([point], rest) := by
        simp only [escapeAt, Text.unicode_at_other noNumber, noKey, Option.getD_none]
      change quotation.scanBody (quotation.escape :: point :: rest) = _
      rw [scan_body_escape, behind]
      rfl
  | numbered point small capitals =>
      have behind : quotation.escapeAt 'u' (Text.fourHexDigits capitals point.toNat ++ rest) =
          ([point], rest) := by
        simp only [escapeAt, Text.unicode_at_four_hex_digits small]
      change quotation.scanBody
        (quotation.escape :: 'u' :: (Text.fourHexDigits capitals point.toNat ++ rest)) = _
      rw [scan_body_escape, behind]
      rfl
  | keyed key text known noNumber =>
      have behind : quotation.escapeAt key rest = (text, rest) := by
        simp only [escapeAt, Text.unicode_at_other noNumber, known, Option.getD_some]
      change quotation.scanBody (quotation.escape :: key :: rest) = _
      rw [scan_body_escape, behind]
      rfl

/-- What is collected of pieces in a row is what each of them means, up to the quote behind them. -/
theorem scan_body_spellings (spellings : List (Spelling quotation)) (rest : Text) :
    quotation.scanBody (spellings.flatMap Spelling.written ++ quotation.quote :: rest) =
      .ok (spellings.flatMap Spelling.meant, rest) := by
  induction spellings with
  | nil => exact scan_body_quote rest
  | cons spelling spellings induction =>
      simp only [List.flatMap_cons, List.append_assoc]
      rw [scan_body_spelling, induction]
      rfl

/-- The text with an escape in front of every mark, and all else as it is. -/
def escapeMarks (quotation : Quotation) (text : Text) : Text :=
  text.flatMap fun point =>
    if point = quotation.quote ∨ point = quotation.escape then [quotation.escape, point] else [point]

/-- Escaping the marks is a way of writing any text as long as the marks themselves are no keys. -/
theorem escape_marks_spells (quotation : Quotation)
    (quoteStays : quotation.quote ≠ 'u' ∧ quotation.escapes.lookup quotation.quote = none)
    (escapeStays : quotation.escape ≠ 'u' ∧ quotation.escapes.lookup quotation.escape = none) (text : Text) :
    ∃ spellings : List (Spelling quotation), spellings.flatMap Spelling.written = quotation.escapeMarks text ∧
      spellings.flatMap Spelling.meant = text := by
  induction text with
  | nil => exact ⟨[], rfl, rfl⟩
  | cons point text induction =>
      obtain ⟨spellings, written, meant⟩ := induction
      by_cases mark : point = quotation.quote ∨ point = quotation.escape
      · have stays : point ≠ 'u' ∧ quotation.escapes.lookup point = none := by
          rcases mark with rfl | rfl
          · exact quoteStays
          · exact escapeStays
        refine ⟨.escaped point stays.1 stays.2 :: spellings, ?_, congrArg (point :: ·) meant⟩
        simp only [List.flatMap_cons, written, escapeMarks, if_pos mark, Spelling.written]
      · refine ⟨.plain point (fun same => mark (Or.inl same)) (fun same => mark (Or.inr same)) :: spellings, ?_,
          congrArg (point :: ·) meant⟩
        simp only [List.flatMap_cons, written, escapeMarks, if_neg mark, Spelling.written]

end Quotation

namespace Grammar

open Attempt

variable {quotation : Quotation} {meaning : Reference → Attempts}

/-- The body ends at the quote that the scanner finds. -/
theorem quoted_text_yields {text collected rest : Text} (scanned : quotation.scanBody text = .ok (collected, rest)) :
    ((quotedText quotation).attempt meaning .text).Yields (quotation.quote :: text) (.text collected) rest := by
  obtain ⟨taken, left, ending, reads, same⟩ := quoted_body_yields meaning quotation text
  rw [scanned] at same
  rcases ending with rfl | rfl | ⟨later, rfl⟩
  · rw [Quotation.scan_body_nothing] at same
    exact absurd same (by simp [Quotation.prepend, Except.map])
  · rw [Quotation.scan_body_last_escape] at same
    exact absurd same (by simp [Quotation.prepend, Except.map])
  · rw [Quotation.scan_body_quote] at same
    simp only [Quotation.prepend, Except.map, List.append_nil, Except.ok.injEq, Prod.mk.injEq] at same
    obtain ⟨rfl, rfl⟩ := same
    exact between_yields (character_yields _ _) reads (character_yields _ _)

/-- A text that is written between quotes in any of the ways is read back, whatever follows the closing
quote. With the usual marks every text can be written with its marks escaped. -/
theorem spelled_text_is_read (quotation : Quotation) (spellings : List (Spelling quotation)) (scope : Scope)
    (budget : Nat) (rest : Text) :
    (quotedText quotation).runWithin budget scope
        (quotation.quote :: (spellings.flatMap Spelling.written ++ quotation.quote :: rest)) =
      pure (.matched (.text (spellings.flatMap Spelling.meant)) rest) ∧
    ∀ text : Text,
      (quotedText .general).runWithin budget scope
          (('"' : CodePoint) :: (Quotation.general.escapeMarks text ++ ('"' : CodePoint) :: rest)) =
        pure (.matched (.text text) rest) := by
  refine ⟨quoted_text_yields (Quotation.scan_body_spellings spellings rest), ?_⟩
  intro text
  obtain ⟨general, written, meant⟩ := Quotation.escape_marks_spells .general (by decide) (by decide) text
  have scanned := Quotation.scan_body_spellings general rest
  rw [written, meant] at scanned
  exact quoted_text_yields scanned

end Grammar

end TextGrammar
