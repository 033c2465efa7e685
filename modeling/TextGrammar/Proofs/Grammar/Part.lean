import TextGrammar.Proofs.Grammar.Structural
import TextGrammar.Proofs.Primitive.Miss
import TextGrammar.Proofs.Suffix

/-!
All parts of a grammar, those that read and check values among them. The functions that
callers put into a grammar can fault; a grammar is innocent when none of them pretends
that a placeholder has no definition. The grammars that types provide are innocent, and
so are whole numbers under a bound that is no number.
-/

namespace TextGrammar.Grammar

/-- The grammar has the property, and so has everything that it is made of. -/
def EveryPart (property : Grammar → Prop) : Grammar → Prop
  | primitive leaf => property (.primitive leaf)
  | custom label attempts => property (.custom label attempts)
  | deferred reference => property (.deferred reference)
  | named grammar label => property (.named grammar label) ∧ grammar.EveryPart property
  | map grammar transformer => property (.map grammar transformer) ∧ grammar.EveryPart property
  | mapThrough grammar reader =>
      property (.mapThrough grammar reader) ∧ grammar.EveryPart property ∧ reader.EveryPart property
  | mapError grammar transformer => property (.mapError grammar transformer) ∧ grammar.EveryPart property
  | filter grammar predicate => property (.filter grammar predicate) ∧ grammar.EveryPart property
  | filterMatching grammar checker =>
      property (.filterMatching grammar checker) ∧ grammar.EveryPart property ∧ checker.EveryPart property
  | spanWhere predicate description => property (.spanWhere predicate description)
  | spanMatching checker description =>
      property (.spanMatching checker description) ∧ checker.EveryPart property
  | debug grammar label => property (.debug grammar label) ∧ grammar.EveryPart property
  | optional grammar default => property (.optional grammar default) ∧ grammar.EveryPart property
  | followedBy first second =>
      property (.followedBy first second) ∧ first.EveryPart property ∧ second.EveryPart property
  | many element atLeastOne => property (.many element atLeastOne) ∧ element.EveryPart property
  | separatedBy element separator atLeastOne =>
      property (.separatedBy element separator atLeastOne) ∧
        element.EveryPart property ∧ separator.EveryPart property
  | either first second => property (.either first second) ∧ first.EveryPart property ∧ second.EveryPart property
  | choice alternatives => property (.choice alternatives) ∧ ∀ index, (alternatives index).EveryPart property

theorem EveryPart.mono {property weaker : Grammar → Prop} (weaken : ∀ part, property part → weaker part)
    {grammar : Grammar} (every : grammar.EveryPart property) : grammar.EveryPart weaker := by
  induction grammar <;> simp_all [EveryPart]

/-- The functions of the grammar itself, those of its parts not counted, fault for other reasons than
that a placeholder has no definition. -/
def Innocent : Grammar → Prop
  | primitive leaf => leaf.Innocent
  | custom _ attempts => ∀ medium source name, ¬ (attempts medium source).Misses name
  | map _ transformer => ∀ value, BlamesNoPlaceholder (transformer.apply value)
  | mapError _ transformer => ∀ value, BlamesNoPlaceholder (transformer.apply value)
  | filter _ predicate => ∀ value, BlamesNoPlaceholder (predicate.holds value)
  | spanWhere predicate _ => ∀ value, BlamesNoPlaceholder (predicate.holds value)
  | _ => True

theorem every_part_innocent_structural : Structural (EveryPart Innocent) where
  named every := ⟨trivial, every⟩
  choice every := ⟨trivial, every⟩

theorem of_partial_blames (description : String) (apply : Value → Option Value) (value : Value) :
    BlamesNoPlaceholder ((Transformer.ofPartial description apply).apply value) := by
  intro name
  simp only [Transformer.ofPartial]
  split <;> simp

theorem unwrap_blames (value : Value) : BlamesNoPlaceholder value.unwrap := by
  unfold Value.unwrap
  split <;> first | exact .ok _ | exact .misuse _

theorem map_constant_innocent {grammar : Grammar} (innocent : grammar.EveryPart Innocent) (value : Value) :
    (grammar.mapConstant value).EveryPart Innocent :=
  ⟨trivial, fun _ => .ok value, innocent⟩

theorem skipping_innocent {kept skipped : Grammar} (innocent : kept.EveryPart Innocent)
    (innocentToo : skipped.EveryPart Innocent) : (kept.skipping skipped).EveryPart Innocent :=
  ⟨trivial, fun value => .item value 0, trivial, innocent, innocentToo⟩

theorem between_innocent {left content right : Grammar} (begins : left.EveryPart Innocent)
    (innocent : content.EveryPart Innocent) (ends : right.EveryPart Innocent) :
    (between left content right).EveryPart Innocent :=
  ⟨trivial, of_partial_blames _ _, trivial, ⟨trivial, begins, innocent⟩, ends⟩

theorem whitespace_innocent : whitespace.EveryPart Innocent := ⟨trivial, Primitive.method_blames _ _⟩

theorem operator_innocent : operator.EveryPart Innocent := by
  apply every_part_innocent_structural.operator
  intro sign
  have mark : (character sign.toChar).EveryPart Innocent := trivial
  exact map_constant_innocent mark _

theorem number_innocent : number.EveryPart Innocent := ⟨trivial, of_partial_blames _ _, trivial⟩

theorem operation_innocent : operation.EveryPart Innocent := by
  have separated : operands.EveryPart Innocent := ⟨trivial, trivial, whitespace_innocent⟩
  have content : (operator.skippingSomeWhitespace.followedBy operands).EveryPart Innocent :=
    ⟨trivial, ⟨trivial, skipping_innocent operator_innocent whitespace_innocent⟩, separated⟩
  exact ⟨trivial, of_partial_blames _ _, between_innocent trivial content trivial⟩

theorem provided_innocent (provider : Provider) : provider.grammar.EveryPart Innocent := by
  cases provider with
  | expression => exact ⟨trivial, unwrap_blames, trivial, number_innocent, operation_innocent⟩
  | number => exact number_innocent
  | operation => exact operation_innocent
  | operator => exact operator_innocent
  | point =>
      exact ⟨of_partial_blames _ _, trivial, trivial, skipping_innocent trivial trivial, trivial⟩
  | tree => exact ⟨of_partial_blames _ _, between_innocent trivial ⟨trivial, trivial⟩ trivial⟩

theorem greater_blames (number : Int) (bound : Value) : BlamesNoPlaceholder ((Value.int number).greater bound) := by
  unfold Value.greater
  split
  · exact .ok _
  · exact .misuse _

theorem match_unordered_blames (bound : Value) (source : Text) :
    BlamesNoPlaceholder (Primitive.matchUnordered bound source) := by
  unfold Primitive.matchUnordered
  split
  · exact .ok _
  · apply (greater_blames _ bound).bind
    intro exceeded
    cases exceeded <;> exact .ok _

theorem unordered_innocent (label : String) (bound : Value) :
    (custom label (Primitive.unordered bound)).EveryPart Innocent := by
  intro medium source name
  have matched : ∀ points, ¬ (Traced.ofExcept (Primitive.matchUnordered bound points)).Misses name :=
    fun points => Traced.of_except_misses_nothing (match_unordered_blames bound points)
  cases medium with
  | text => exact matched source
  | value =>
      cases source with
      | text points => exact Traced.bind_misses_nothing (matched points) fun _ => Traced.pure_misses_nothing _
      | _ => exact Primitive.examine_integer_misses_nothing true _

/-- Whole numbers under a bound of any sort are innocent as well. -/
theorem integer_innocent {bound : Value} {grammar : Grammar} (built : integer? bound = .ok grammar) :
    grammar.EveryPart Innocent := by
  rcases integer_cases built with ⟨limit, rfl⟩ | ⟨label, rfl⟩
  · trivial
  · exact unordered_innocent label bound

end TextGrammar.Grammar
