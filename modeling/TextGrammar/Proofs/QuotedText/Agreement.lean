import TextGrammar.Proofs.Grammar.Answer
import TextGrammar.Proofs.QuotedText.Scanner
import TextGrammar.Scope

/-!
The grammar of quoted text answers as the scanner does. Its body takes whole runs of
plain points at a time and stops where neither a run nor an escape begins, so the
body is compared with the scanner by the text that it has collected so far.
-/

namespace TextGrammar

open Attempt

namespace Grammar

theorem hex_digit_listed {number : Nat} (bound : number < 128)
    (hex : (CodePoint.mk number (by omega)).hexValue?.isSome) :
    number ∈ hexDigits.text.map CodePoint.toNat := by
  revert number
  decide

/-- The listed digits are those that have a value. -/
theorem mem_hex_digits (point : CodePoint) : point ∈ hexDigits.text ↔ point.hexValue?.isSome := by
  constructor
  · have listed : ∀ point ∈ hexDigits.text, point.hexValue?.isSome := by decide
    exact listed point
  · intro hex
    obtain ⟨digit, value⟩ := Option.isSome_iff_exists.mp hex
    have bound := (CodePoint.hex_value_bounds value).2
    obtain ⟨other, member, same⟩ := List.mem_map.mp (hex_digit_listed bound hex)
    exact CodePoint.ext_to_nat same ▸ member

variable (meaning : Reference → Attempts)

theorem hex_code_yields {digits : Text} {more : Nat} (size : digits.length = more + 1)
    (hex : ∀ point ∈ digits, point ∈ hexDigits.text) (rest : Text) :
    ((hexCode more).attempt meaning .text).Yields (digits ++ rest) (.text digits) rest := by
  induction more generalizing digits rest with
  | zero =>
      obtain ⟨point, rfl⟩ := List.length_eq_one_iff.mp size
      exact one_of_yields (hex point (by simp)) rest
  | succ more induction =>
      rcases List.eq_nil_or_concat digits with rfl | ⟨front, last, rfl⟩
      · exact absurd size (by simp)
      · rw [List.concat_eq_append] at size hex ⊢
        have frontSize : front.length = more + 1 := by simpa using size
        have begins := induction frontSize (fun point member => hex point (by simp [member])) (last :: rest)
        have ends : (hexDigit.attempt meaning .text).Yields (last :: rest) (.text [last]) rest :=
          one_of_yields (hex last (by simp)) rest
        rw [List.append_assoc]
        exact (begins.followed_by ends).map rfl

theorem hex_code_refuses {run rest : Text} {more : Nat} (short : run.length ≤ more)
    (hex : ∀ point ∈ run, point ∈ hexDigits.text) (boundary : ∀ point ∈ rest.head?, point ∉ hexDigits.text) :
    ((hexCode more).attempt meaning .text).Refuses (run ++ rest) .exhausted := by
  induction more with
  | zero =>
      obtain rfl := List.length_eq_zero_iff.mp (Nat.le_zero.mp short)
      exact one_of_refuses boundary
  | succ more induction =>
      by_cases shorter : run.length ≤ more
      · exact (induction shorter).followed_by.map
      · have full : run.length = more + 1 := by omega
        have begins := hex_code_yields meaning full hex rest
        exact (begins.followed_by_refusal (one_of_refuses boundary)).map

/-- The numbers of four hexadecimal digits are all code points. -/
theorem unicode_escape_yields {a b c d : CodePoint} (hex : ∀ point ∈ [a, b, c, d], point ∈ hexDigits.text)
    (rest : Text) :
    ∃ named, Text.unicodeAt? ('u' :: a :: b :: c :: d :: rest) = some (named, rest) ∧
      (unicodeEscape.attempt meaning .text).Yields ('u' :: a :: b :: c :: d :: rest) (.text [named]) rest := by
  obtain ⟨w, isW⟩ := Option.isSome_iff_exists.mp ((mem_hex_digits a).mp (hex a (by simp)))
  obtain ⟨x, isX⟩ := Option.isSome_iff_exists.mp ((mem_hex_digits b).mp (hex b (by simp)))
  obtain ⟨y, isY⟩ := Option.isSome_iff_exists.mp ((mem_hex_digits c).mp (hex c (by simp)))
  obtain ⟨z, isZ⟩ := Option.isSome_iff_exists.mp ((mem_hex_digits d).mp (hex d (by simp)))
  have bound : 4096 * w + 256 * x + 16 * y + z < 0x110000 :=
    Nat.lt_of_le_of_lt (Text.four_hex_values_le isW isX isY isZ) (by decide)
  have number : hexNumber? [a, b, c, d] = some (4096 * w + 256 * x + 16 * y + z) := by
    simp [hexNumber?, isW, isX, isY, isZ]
    omega
  refine ⟨⟨4096 * w + 256 * x + 16 * y + z, bound⟩, ?_, ?_⟩
  · simp [Text.unicodeAt?, isW, isX, isY, isZ, CodePoint.ofNat?, bound]
  · have code : ((hexCode 3).attempt meaning .text).Yields (a :: b :: c :: d :: rest)
        (.text [a, b, c, d]) rest := hex_code_yields meaning rfl hex rest
    have applied : toCodePoint.apply (.text [a, b, c, d]) =
        .ok (.text [⟨4096 * w + 256 * x + 16 * y + z, bound⟩]) := by
      simp [toCodePoint, Transformer.ofPartial, number, CodePoint.ofNat?, bound]
    exact (preceded_by_yields (character_yields _ _) code).map (congrArg Traced.ofExcept applied)

theorem unicode_at_parts {source later : Text} {named : CodePoint}
    (found : Text.unicodeAt? source = some (named, later)) :
    ∃ a b c d, source = ('u' : CodePoint) :: a :: b :: c :: d :: later ∧
      ∀ point ∈ [a, b, c, d], point ∈ hexDigits.text := by
  obtain ⟨_, capitals, rfl⟩ := Text.unicode_at_iff.mp found
  refine ⟨_, _, _, _, rfl, ?_⟩
  simp [mem_hex_digits, CodePoint.hex_value_of_hex_digit]

theorem unicode_escape_reads {source later : Text} {named : CodePoint}
    (found : Text.unicodeAt? source = some (named, later)) :
    (unicodeEscape.attempt meaning .text).Yields source (.text [named]) later := by
  obtain ⟨a, b, c, d, rfl, hex⟩ := unicode_at_parts found
  obtain ⟨other, again, yields⟩ := unicode_escape_yields meaning hex later
  obtain ⟨rfl, _⟩ := Prod.mk.inj (Option.some.inj (found.symm.trans again))
  exact yields

theorem leading_four (run : Text) (long : 3 < run.length) :
    ∃ a b c d more, run = a :: b :: c :: d :: more := by
  rcases run with _ | ⟨a, _ | ⟨b, _ | ⟨c, _ | ⟨d, more⟩⟩⟩⟩
  case cons.cons.cons.cons => exact ⟨a, b, c, d, more, rfl⟩
  all_goals simp at long

/-- Without four hexadecimal digits behind a `u` there is no number to read. -/
theorem unicode_escape_refuses {source : Text} (nothing : Text.unicodeAt? source = none) :
    ∃ kind, (unicodeEscape.attempt meaning .text).Refuses source kind := by
  cases source with
  | nil => exact ⟨.emptyInput, (character_refuses_nothing 'u').followed_by.map.map⟩
  | cons mark text =>
      by_cases isMark : mark = 'u'
      · subst isMark
        obtain ⟨run, rest, rfl, inside, outside⟩ :=
          exists_span (fun point => decide (point ∈ hexDigits.text)) text
        have hex : ∀ point ∈ run, point ∈ hexDigits.text :=
          fun point member => of_decide_eq_true (inside point member)
        have boundary : ∀ point ∈ rest.head?, point ∉ hexDigits.text :=
          fun point member => of_decide_eq_false (outside point member)
        by_cases short : run.length ≤ 3
        · have refused := hex_code_refuses meaning short hex boundary
          exact ⟨.exhausted, ((character_yields _ _).followed_by_refusal refused).map.map⟩
        · obtain ⟨a, b, c, d, more, rfl⟩ := leading_four run (by omega)
          have four : ∀ point ∈ [a, b, c, d], point ∈ hexDigits.text := by
            intro point member
            exact hex point (List.mem_append_left more member)
          obtain ⟨named, found, _⟩ := unicode_escape_yields meaning four (more ++ rest)
          exact absurd (nothing.symm.trans found) (by simp)
      · exact ⟨.mismatch, (character_refuses isMark text).followed_by.map.map⟩

theorem escape_key_refuses {key point : CodePoint} {meant rest : Text} (differ : point ≠ key) :
    ∃ kind, ((escapeKey (key, meant)).attempt meaning .text).Refuses (point :: rest) kind :=
  ⟨.mismatch, map_constant_refuses (character_refuses differ rest)⟩

section

variable (quotation : Quotation)

/-- The alternatives behind an escape, in the order in which they are tried. -/
def meanings : Grammar := choiceOf unicodeEscape (quotation.escapes.map escapeKey ++ [anyCharacter])

theorem meanings_yields (point : CodePoint) (rest : Text) :
    ((meanings quotation).attempt meaning .text).Yields (point :: rest)
      (.text (quotation.escapeAt point rest).1) (quotation.escapeAt point rest).2 := by
  -- The cases are those of the order in which the alternatives are tried.
  unfold Quotation.escapeAt meanings
  cases found : Text.unicodeAt? (point :: rest) with
  | some answer =>
      obtain ⟨named, later⟩ := answer
      exact choice_of_yields (List.nil_append _).symm (by simp) (unicode_escape_reads meaning found)
  | none =>
      have unicode := unicode_escape_refuses meaning found
      cases known : quotation.escapes.lookup point with
      | some meant =>
          obtain ⟨before, after, listed, absent⟩ := List.lookup_eq_some_iff.mp known
          have alternatives : unicodeEscape :: (quotation.escapes.map escapeKey ++ [anyCharacter]) =
              (unicodeEscape :: before.map escapeKey) ++
                escapeKey (point, meant) :: (after.map escapeKey ++ [anyCharacter]) := by
            simp [listed]
          apply choice_of_yields alternatives _ (map_constant_yields (character_yields point rest))
          intro other earlier
          rcases List.mem_cons.mp earlier with rfl | keyed
          · exact unicode
          · obtain ⟨key, member, rfl⟩ := List.mem_map.mp keyed
            exact escape_key_refuses meaning (by simpa using absent key member)
      | none =>
          have alternatives : unicodeEscape :: (quotation.escapes.map escapeKey ++ [anyCharacter]) =
              (unicodeEscape :: quotation.escapes.map escapeKey) ++ anyCharacter :: [] := rfl
          apply choice_of_yields alternatives _ (any_character_yields point rest)
          intro other earlier
          rcases List.mem_cons.mp earlier with rfl | keyed
          · exact unicode
          · obtain ⟨key, member, rfl⟩ := List.mem_map.mp keyed
            exact escape_key_refuses meaning (by simpa using List.lookup_eq_none_iff.mp known key member)

theorem meanings_refuses : ((meanings quotation).attempt meaning .text).Refuses [] .exhausted := by
  apply choice_of_refuses
  intro grammar member
  rcases List.mem_cons.mp member with rfl | later
  · exact unicode_escape_refuses meaning rfl
  · rcases List.mem_append.mp later with keyed | last
    · obtain ⟨key, _, rfl⟩ := List.mem_map.mp keyed
      exact ⟨.emptyInput, map_constant_refuses (character_refuses_nothing key.1)⟩
    · obtain rfl := List.mem_singleton.mp last
      exact ⟨.emptyInput, any_character_refuses⟩

/-- One piece of the body: a run of plain points or one escape. -/
def piece : Grammar := choiceOf (span quotation.plain) [escaped quotation]

theorem plain_contains (point : CodePoint) :
    quotation.plain.contains point = true ↔ point ≠ quotation.quote ∧ point ≠ quotation.escape := by
  simp [Quotation.plain]

theorem piece_yields_run {run rest : Text} (nonempty : run ≠ [])
    (inside : ∀ point ∈ run, quotation.plain.contains point = true)
    (boundary : ∀ point ∈ rest.head?, quotation.plain.contains point = false) :
    ((piece quotation).attempt meaning .text).Yields (run ++ rest) (.text run) rest :=
  choice_of_yields (List.nil_append _).symm (by simp) (span_yields nonempty inside boundary)

theorem run_refuses {point : CodePoint} (mark : point = quotation.quote ∨ point = quotation.escape)
    (text : Text) : ∃ kind, ((span quotation.plain).attempt meaning .text).Refuses (point :: text) kind := by
  apply span_refuses
  intro other first
  obtain rfl : point = other := by simpa using first
  rcases mark with rfl | rfl <;> simp [Quotation.plain]

theorem piece_yields_escape (point : CodePoint) (rest : Text) :
    ((piece quotation).attempt meaning .text).Yields (quotation.escape :: point :: rest)
      (.text (quotation.escapeAt point rest).1) (quotation.escapeAt point rest).2 := by
  have escape : ((escaped quotation).attempt meaning .text).Yields (quotation.escape :: point :: rest)
      (.text (quotation.escapeAt point rest).1) (quotation.escapeAt point rest).2 :=
    preceded_by_yields (character_yields _ _) (meanings_yields meaning quotation point rest)
  have alternatives : span quotation.plain :: [escaped quotation] =
      [span quotation.plain] ++ escaped quotation :: [] := rfl
  apply choice_of_yields alternatives _ escape
  intro other earlier
  obtain rfl := List.mem_singleton.mp earlier
  exact run_refuses meaning quotation (Or.inr rfl) _

/-- Where the body ends: at the end of the text, at an escape with nothing behind it or at a quote. -/
def Ending (rest : Text) : Prop :=
  rest = [] ∨ rest = [quotation.escape] ∨ ∃ later, rest = quotation.quote :: later

theorem piece_refuses {rest : Text} (ending : Ending quotation rest) :
    ((piece quotation).attempt meaning .text).Refuses rest .exhausted := by
  apply choice_of_refuses
  intro grammar member
  rcases List.mem_cons.mp member with rfl | other
  · rcases ending with rfl | rfl | ⟨later, rfl⟩
    · exact span_refuses (by simp)
    · exact run_refuses meaning quotation (Or.inr rfl) _
    · exact run_refuses meaning quotation (Or.inl rfl) _
  · obtain rfl := List.mem_singleton.mp other
    rcases ending with rfl | rfl | ⟨later, rfl⟩
    · exact ⟨.emptyInput, (character_refuses_nothing _).followed_by.map⟩
    · exact ⟨.exhausted, ((character_yields _ _).followed_by_refusal (meanings_refuses meaning quotation)).map⟩
    · exact ⟨.mismatch, (character_refuses quotation.differ _).followed_by.map⟩

/-- The repetition of pieces stops at an ending, and the scanner collects up to there what was taken. -/
def BodyStops (source : Text) : Prop :=
  ∃ (texts : List Text) (rest : Text) (failure : Failure), Ending quotation rest ∧
    Repetition.run Medium.text.size ((piece quotation).attempt meaning .text) none source =
      pure ⟨texts.map .text, rest, .failed failure⟩ ∧
    quotation.scanBody source = Quotation.prepend texts.flatten (quotation.scanBody rest)

theorem body_stops_behind {source next meant : Text} (shorter : next.length < source.length)
    (yields : ((piece quotation).attempt meaning .text).Yields source (.text meant) next)
    (collected : quotation.scanBody source = Quotation.prepend meant (quotation.scanBody next))
    (later : BodyStops meaning quotation next) : BodyStops meaning quotation source := by
  obtain ⟨texts, rest, failure, ending, answered, scanned⟩ := later
  refine ⟨meant :: texts, rest, failure, ending, Repetition.run_of_step yields shorter answered, ?_⟩
  rw [collected, scanned, Quotation.prepend_prepend, List.flatten_cons]

theorem body_stops (source : Text) : BodyStops meaning quotation source := by
  by_cases ending : Ending quotation source
  · obtain ⟨failure, stopped⟩ := Repetition.run_of_refusal (piece_refuses meaning quotation ending)
    exact ⟨[], source, failure, ending, stopped, (Quotation.prepend_nothing _).symm⟩
  · cases source with
    | nil => exact absurd (Or.inl rfl) ending
    | cons point text =>
        by_cases isEscape : point = quotation.escape
        · subst isEscape
          cases text with
          | nil => exact absurd (Or.inr (Or.inl rfl)) ending
          | cons next rest =>
              have shorter : (quotation.escapeAt next rest).2.length <
                  (quotation.escape :: next :: rest).length := by
                have := quotation.escape_at_shorter next rest
                simp only [List.length_cons]
                omega
              exact body_stops_behind meaning quotation shorter
                (piece_yields_escape meaning quotation next rest) (Quotation.scan_body_escape next rest)
                (body_stops _)
        · have isPlain : quotation.plain.contains point = true := by
            refine (plain_contains quotation point).mpr ⟨fun isQuote => ending ?_, isEscape⟩
            exact Or.inr (Or.inr ⟨text, by rw [isQuote]⟩)
          -- A piece is as long a run as there is, while the scanner collects it point by point.
          obtain ⟨run, rest, parts, inside, boundary⟩ := exists_span quotation.plain.contains text
          have shorter : rest.length < (point :: text).length := by
            rw [parts, List.length_cons, List.length_append]
            omega
          have later := body_stops rest
          subst parts
          have all : ∀ other ∈ point :: run, quotation.plain.contains other = true := by
            intro other member
            rcases List.mem_cons.mp member with rfl | behind
            · exact isPlain
            · exact inside other behind
          exact body_stops_behind meaning quotation shorter
            (piece_yields_run meaning quotation (List.cons_ne_nil point run) all boundary)
            (Quotation.scan_body_plain all rest) later
termination_by source.length
decreasing_by all_goals exact shorter

theorem quoted_body_yields (source : Text) :
    ∃ collected rest, Ending quotation rest ∧
      ((quotedBody quotation).attempt meaning .text).Yields source (.text collected) rest ∧
      quotation.scanBody source = Quotation.prepend collected (quotation.scanBody rest) := by
  obtain ⟨texts, rest, failure, ending, answered, scanned⟩ := body_stops meaning quotation source
  refine ⟨texts.flatten, rest, ending, ?_, scanned⟩
  have repeated : (((piece quotation).many false).attempt meaning .text).Yields source
      (.list (texts.map .text)) rest := Repetition.repeated_yields answered (by simp)
  exact repeated.map (congrArg Traced.ofExcept (congrArg (Except.map Value.text) (join_texts rfl)))

end

/-- Quoted text reads what the scanner collects and leaves what the scanner leaves, or fails by the
same kind. It neither faults nor logs, whatever references mean. What the scanner takes for a number are
the four digits of a code point behind a `u`, in either case, and it collects that code point. -/
theorem quoted_text_scans (quotation : Quotation) (scope : Scope) (budget : Nat) (source : Text) :
    (∃ words, (quotedText quotation).runWithin budget scope source =
      pure (match quotation.scan source with
        | .ok (collected, rest) => .matched (.text collected) rest
        | .error kind => .failed (.saying words kind))) ∧
    ∀ (text rest : Text) (point : CodePoint), Text.unicodeAt? text = some (point, rest) ↔
      point.toNat ≤ 0xFFFF ∧
        ∃ capitals, text = ('u' : CodePoint) :: (Text.fourHexDigits capitals point.toNat ++ rest) := by
  refine ⟨?_, fun text rest point => Text.unicode_at_iff⟩
  change ∃ words, (between (character quotation.quote) (quotedBody quotation)
    (character quotation.quote)).attempt (scope.meaning budget) .text source = _
  cases source with
  | nil => exact between_refuses_open (character_refuses_nothing _)
  | cons point text =>
      by_cases isQuote : point = quotation.quote
      · subst isQuote
        have opens : ((character quotation.quote).attempt (scope.meaning budget) .text).Yields
            (quotation.quote :: text) (.text [quotation.quote]) text := character_yields _ _
        obtain ⟨collected, rest, ending, reads, scanned⟩ :=
          quoted_body_yields (scope.meaning budget) quotation text
        simp only [Quotation.scan, if_true, scanned]
        rcases ending with rfl | rfl | ⟨later, rfl⟩
        · simp only [Quotation.scan_body_nothing, Quotation.prepend, Except.map]
          exact between_refuses_close opens reads (character_refuses_nothing _)
        · simp only [Quotation.scan_body_last_escape, Quotation.prepend, Except.map]
          exact between_refuses_close opens reads (character_refuses quotation.differ.symm _)
        · simp only [Quotation.scan_body_quote, Quotation.prepend, Except.map, List.append_nil]
          exact ⟨[], between_yields opens reads (character_yields _ _)⟩
      · simp only [Quotation.scan, if_neg isQuote]
        exact between_refuses_open (character_refuses isQuote text)

end Grammar

end TextGrammar
