import TextGrammar.Proofs.GuardedRecursion

/-!
Grammars that consume by the way they are built. Most primitives take something whenever
they match. So does a repetition that needs a value, whatever it repeats, because only what
made the text shorter counts as a value. In a sequence one part that consumes is enough,
as long as no other part leaves more than it was given; of alternatives all have to consume.
-/

namespace TextGrammar

open Traced

namespace Repetition

theorem chain_shortens {element : Attempt Text} {separator : Option (Attempt Text)} {source rest : Text}
    {values : List Value} (chain : Chain (Step Medium.text.size element separator) source values rest)
    (counted : values ≠ []) : rest.length < source.length := by
  have shortens : ∀ source value next, Step Medium.text.size element separator source value next →
      next.length < source.length := by
    rintro source value next ⟨_, _, _, after, before, afterwards, beforehand, shorter⟩
    obtain rfl := Except.ok.inj afterwards
    obtain rfl := Except.ok.inj beforehand
    exact shorter
  cases chain with
  | stop => exact absurd rfl counted
  | @next _ middle _ _ _ taken later =>
      have behind : rest.length ≤ middle.length :=
        @Chain.related _ _ (fun rest source => rest.length ≤ source.length) (fun _ => Nat.le_refl _) Nat.le_trans
          (fun source value next taken => Nat.le_of_lt (shortens source value next taken)) _ _ _ later
      exact Nat.lt_of_le_of_lt behind (shortens _ _ _ taken)

theorem repeated_shortens {name : String} {element : Attempt Text} {separator : Option (Attempt Text)} :
    (Attempt.repeated name Medium.text.size element separator true).Leaves
      fun rest source => rest.length < source.length := by
  intro source value rest answered
  obtain ⟨values, _, counted, chain⟩ := Attempt.repeated_matches answered
  exact chain_shortens chain (counted rfl)

end Repetition

namespace Grammar

variable {scope : Scope} {grammar first second : Grammar}

/-- The grammar leaves no more than there was, whenever it matches. -/
def Keeps (scope : Scope) (grammar : Grammar) : Prop :=
  ∀ budget, (grammar.runWithin budget scope).Leaves fun rest source => rest.length ≤ source.length

theorem Consumes.keeps (consumes : grammar.Consumes scope) : grammar.Keeps scope :=
  fun budget source value rest answered => Nat.le_of_lt (consumes budget source value rest answered)

theorem keeps_of_suffixes (leaves : ∀ budget, Attempts.LeaveSuffixes (grammar.attempt (scope.meaning budget))) :
    grammar.Keeps scope :=
  fun budget source value rest answered => (leaves budget source value rest answered).length_le

theorem Keeps.followed_by (begins : first.Keeps scope) (ends : second.Keeps scope) :
    (first.followedBy second).Keeps scope := by
  intro budget
  exact Attempt.followed_by_leaves (begins budget) (ends budget) fun _ _ _ => Nat.le_trans

theorem Keeps.skipping (begins : first.Keeps scope) (ends : second.Keeps scope) :
    (first.skipping second).Keeps scope := by
  intro budget source value rest answered
  obtain ⟨given, matched, _⟩ := Attempt.map_matches.mp answered
  exact begins.followed_by ends budget source given rest matched

/-- A reference does what its definition does, one of the budget later. -/
theorem deferred_consumes {reference : Reference} (found : scope reference = .ok grammar)
    (consumes : grammar.Consumes scope) : (deferred reference).Consumes scope := by
  intro budget source value rest answered
  cases budget with
  | zero => exact absurd answered (by simp [Attempt.Matches, runWithin, attempt, Scope.meaning, halt])
  | succ budget =>
      apply consumes budget source value rest
      simpa only [runWithin, attempt, Scope.meaning_of_definition found] using answered

/-- Grammars that consume by the way they are built. References are none of them, and neither are
grammars written by hand, but either may stand inside. -/
inductive AlwaysConsumes (scope : Scope) : Grammar → Prop
  | primitive {leaf : Primitive} (other : ∀ delimiter, leaf ≠ .textUpTo delimiter) :
      AlwaysConsumes scope (.primitive leaf)
  | integer {bound : Value} {grammar : Grammar} (built : integer? bound = .ok grammar) :
      AlwaysConsumes scope grammar
  | spanWhere (predicate : Predicate) (description : Option String) :
      AlwaysConsumes scope (.spanWhere predicate description)
  | spanMatching (checker : Grammar) (description : Option String) :
      AlwaysConsumes scope (.spanMatching checker description)
  | oneOrMore (element : Grammar) : AlwaysConsumes scope (element.many true)
  | separatedOnce (element separator : Grammar) : AlwaysConsumes scope (element.separatedBy separator true)
  | beginning {first second : Grammar} (consumes : AlwaysConsumes scope first) (keeps : second.Keeps scope) :
      AlwaysConsumes scope (first.followedBy second)
  | ending {first second : Grammar} (keeps : first.Keeps scope) (consumes : AlwaysConsumes scope second) :
      AlwaysConsumes scope (first.followedBy second)
  | named {grammar : Grammar} (consumes : AlwaysConsumes scope grammar) (label : String) :
      AlwaysConsumes scope (grammar.named label)
  | map {grammar : Grammar} (consumes : AlwaysConsumes scope grammar) (transformer : Transformer) :
      AlwaysConsumes scope (grammar.map transformer)
  | mapThrough {grammar : Grammar} (consumes : AlwaysConsumes scope grammar) (reader : Grammar) :
      AlwaysConsumes scope (grammar.mapThrough reader)
  | mapError {grammar : Grammar} (consumes : AlwaysConsumes scope grammar) (transformer : Transformer) :
      AlwaysConsumes scope (grammar.mapError transformer)
  | filter {grammar : Grammar} (consumes : AlwaysConsumes scope grammar) (predicate : Predicate) :
      AlwaysConsumes scope (grammar.filter predicate)
  | filterMatching {grammar : Grammar} (consumes : AlwaysConsumes scope grammar) (checker : Grammar) :
      AlwaysConsumes scope (grammar.filterMatching checker)
  | debug {grammar : Grammar} (consumes : AlwaysConsumes scope grammar) (label : Option String) :
      AlwaysConsumes scope (grammar.debug label)
  | either {first second : Grammar} (consumes : AlwaysConsumes scope first)
      (consumesToo : AlwaysConsumes scope second) : AlwaysConsumes scope (first.either second)
  | choice {others : Nat} {alternatives : Fin (others + 1) → Grammar}
      (consume : ∀ index, AlwaysConsumes scope (alternatives index)) :
      AlwaysConsumes scope (.choice alternatives)

namespace AlwaysConsumes

theorem consumes (always : AlwaysConsumes scope grammar) : grammar.Consumes scope := by
  intro budget
  induction always with
  | primitive other => exact Primitive.leaf_shortens other
  | integer built =>
      rcases integer_cases built with ⟨limit, rfl⟩ | ⟨label, rfl⟩
      · exact Primitive.leaf_shortens (by simp)
      · exact fun source value rest answered => Primitive.shorter_of_digits (Primitive.unordered_takes answered)
  | spanWhere predicate description => exact Primitive.span_of_shortens _ _
  | spanMatching checker description => exact Primitive.span_of_shortens _ _
  | oneOrMore element => exact Repetition.repeated_shortens
  | separatedOnce element separator => exact Repetition.repeated_shortens
  | beginning consumes keeps induction =>
      exact Attempt.followed_by_leaves induction (keeps budget) fun _ _ _ => Nat.lt_of_le_of_lt
  | ending keeps consumes induction =>
      exact Attempt.followed_by_leaves (keeps budget) induction fun _ _ _ => Nat.lt_of_lt_of_le
  | named consumes label induction => exact induction
  | map consumes transformer induction =>
      intro source value rest answered
      obtain ⟨given, matched, _⟩ := Attempt.map_matches.mp answered
      exact induction source given rest matched
  | mapThrough consumes reader induction =>
      intro source value rest answered
      obtain ⟨given, matched, _⟩ := Attempt.map_matches.mp answered
      exact induction source given rest matched
  | mapError consumes transformer induction =>
      intro source value rest answered
      exact induction source value rest (Attempt.map_error_matches.mp answered)
  | filter consumes predicate induction =>
      intro source value rest answered
      exact induction source value rest (Attempt.filter_matches.mp answered).1
  | filterMatching consumes checker induction =>
      intro source value rest answered
      exact induction source value rest (Attempt.filter_matches.mp answered).1
  | debug consumes label induction =>
      intro source value rest answered
      exact induction source value rest (Attempt.observe_matches answered)
  | either consumes consumesToo induction inductionToo =>
      intro source value rest answered
      rcases Attempt.either_matches.mp answered with ⟨inner, matched, _⟩ | ⟨_, inner, matched, _⟩
      · exact induction source inner rest matched
      · exact inductionToo source inner rest matched
  | choice consume induction =>
      intro source value rest answered
      obtain ⟨attempt, member, matched⟩ := Attempt.choice_matches answered
      obtain ⟨index, rfl⟩ := List.mem_ofFn.mp member
      exact induction index source value rest matched

theorem keeps (always : AlwaysConsumes scope grammar) : grammar.Keeps scope := always.consumes.keeps

theorem map_constant (always : AlwaysConsumes scope grammar) (value : Value) :
    AlwaysConsumes scope (grammar.mapConstant value) :=
  (always.map _).named _

theorem structural : Structural (AlwaysConsumes scope) where
  named always := always.named _
  choice := .choice

theorem character (point : CodePoint) : AlwaysConsumes scope (character point) := .primitive (by simp)

theorem one_of (word : Word) : AlwaysConsumes scope (oneOf word) := structural.one_of .character word

/-- One of two parts in a row consumes. -/
theorem in_sequence (begins : first.Keeps scope) (ends : second.Keeps scope)
    (member : AlwaysConsumes scope first ∨ AlwaysConsumes scope second) :
    AlwaysConsumes scope (first.followedBy second) :=
  member.elim (fun always => .beginning always ends) (fun always => .ending begins always)

theorem skipping {kept skipped : Grammar} (begins : kept.Keeps scope) (ends : skipped.Keeps scope)
    (member : AlwaysConsumes scope kept ∨ AlwaysConsumes scope skipped) :
    AlwaysConsumes scope (kept.skipping skipped) :=
  ((in_sequence begins ends member).map _).named _

theorem preceded_by {kept skipped : Grammar} (begins : skipped.Keeps scope) (ends : kept.Keeps scope)
    (member : AlwaysConsumes scope skipped ∨ AlwaysConsumes scope kept) :
    AlwaysConsumes scope (kept.precededBy skipped) :=
  ((in_sequence begins ends member).map _).named _

theorem between {left content right : Grammar} (begins : left.Keeps scope) (middle : content.Keeps scope)
    (ends : right.Keeps scope)
    (member : (AlwaysConsumes scope left ∨ AlwaysConsumes scope content) ∨ AlwaysConsumes scope right) :
    AlwaysConsumes scope (between left content right) :=
  ((in_sequence (begins.followed_by middle) ends (member.imp_left (in_sequence begins middle))).map _).named _

theorem split {left separator right : Grammar} (begins : left.Keeps scope) (middle : separator.Keeps scope)
    (ends : right.Keeps scope)
    (member : (AlwaysConsumes scope left ∨ AlwaysConsumes scope separator) ∨ AlwaysConsumes scope right) :
    AlwaysConsumes scope (split left separator right) :=
  (in_sequence (begins.skipping middle) ends (member.imp_left (skipping begins middle))).named _

end AlwaysConsumes

end Grammar

end TextGrammar
