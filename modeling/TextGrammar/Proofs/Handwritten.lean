import TextGrammar.Constant
import TextGrammar.Proofs.Grammar.Structural
import TextGrammar.Provided

/-!
Grammars written by hand inside other grammars. The attempts of a caller can do
anything with a text, so what holds of every grammar holds under a condition on
them. The grammars that come with the library contain none.
-/

namespace TextGrammar.Grammar

/-- Every grammar written by hand has the property, among the parts that may be run on the text
itself. Parts that only read or check values are left out. -/
def EveryHandwritten (property : Attempts → Prop) : Grammar → Prop
  | primitive _ => True
  | custom _ attempts => property attempts
  | deferred _ => True
  | named grammar _ => grammar.EveryHandwritten property
  | map grammar _ => grammar.EveryHandwritten property
  | mapThrough grammar _ => grammar.EveryHandwritten property
  | mapError grammar _ => grammar.EveryHandwritten property
  | filter grammar _ => grammar.EveryHandwritten property
  | filterMatching grammar _ => grammar.EveryHandwritten property
  | spanWhere _ _ => True
  | spanMatching _ _ => True
  | debug grammar _ => grammar.EveryHandwritten property
  | optional grammar _ => grammar.EveryHandwritten property
  | followedBy first second => first.EveryHandwritten property ∧ second.EveryHandwritten property
  | many element _ => element.EveryHandwritten property
  | separatedBy element separator _ =>
      element.EveryHandwritten property ∧ separator.EveryHandwritten property
  | either first second => first.EveryHandwritten property ∧ second.EveryHandwritten property
  | choice alternatives => ∀ index, (alternatives index).EveryHandwritten property

variable {property : Attempts → Prop}

theorem every_handwritten_structural (property : Attempts → Prop) : Structural (EveryHandwritten property) where
  named every := every
  choice every := every

theorem every_handwritten_one_of (word : Word) : (oneOf word).EveryHandwritten property :=
  (every_handwritten_structural property).one_of (fun _ => trivial) word

theorem every_handwritten_of_word (word : Word) : (ofWord word).EveryHandwritten property := by
  unfold ofWord
  split <;> trivial

theorem every_handwritten_signed_integer (bound : Option Bound) :
    (signedInteger bound).EveryHandwritten property := by
  cases bound with
  | none => exact ⟨every_handwritten_one_of signs, trivial⟩
  | some limit => exact ⟨every_handwritten_one_of signs, trivial⟩

theorem every_handwritten_decimal_number : decimalNumber.EveryHandwritten property :=
  ⟨⟨⟨every_handwritten_one_of signs, trivial⟩, trivial, trivial⟩,
    ⟨every_handwritten_one_of _, every_handwritten_one_of signs⟩, trivial⟩

theorem every_handwritten_hex_code (more : Nat) : (hexCode more).EveryHandwritten property := by
  induction more with
  | zero => exact every_handwritten_one_of hexDigits
  | succ more induction => exact ⟨induction, every_handwritten_one_of hexDigits⟩

theorem every_handwritten_unicode_escape : unicodeEscape.EveryHandwritten property :=
  ⟨trivial, every_handwritten_hex_code 3⟩

theorem every_handwritten_quoted_text (quotation : Quotation) :
    (quotedText quotation).EveryHandwritten property := by
  have structural := every_handwritten_structural property
  have escapes := structural.escapes every_handwritten_unicode_escape (fun _ => trivial) trivial quotation
  exact ⟨⟨trivial, structural.pieces trivial ⟨trivial, escapes⟩⟩, trivial⟩

theorem every_handwritten_operator : operator.EveryHandwritten property :=
  (every_handwritten_structural property).operator fun _ => trivial

theorem every_handwritten_provided (provider : Provider) : provider.grammar.EveryHandwritten property := by
  have operation : operation.EveryHandwritten property :=
    ⟨⟨trivial, ⟨every_handwritten_operator, trivial⟩, trivial, trivial⟩, trivial⟩
  cases provider with
  | expression => exact ⟨trivial, operation⟩
  | number => trivial
  | operation => exact operation
  | operator => exact every_handwritten_operator
  | point => exact ⟨⟨trivial, trivial⟩, trivial⟩
  | tree => exact ⟨⟨trivial, trivial⟩, trivial⟩

end TextGrammar.Grammar
