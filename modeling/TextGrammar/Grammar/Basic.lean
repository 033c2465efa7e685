import TextGrammar.Attempt.Alternative
import TextGrammar.Attempt.Repetition
import TextGrammar.Primitive.Examination
import TextGrammar.Reference

/-!
Grammars and what they do. A grammar is a finite tree of primitives, combinators
and references. Its name is built from the names of its parts; its attempt runs
on a text, or on another medium, once every reference has been given a meaning.
-/

namespace TextGrammar

inductive Grammar where
  | primitive (leaf : Primitive)
  /-- Hand-written attempts under a name of their own. -/
  | custom (label : String) (attempts : Attempts)
  | deferred (reference : Reference)
  | named (grammar : Grammar) (label : String)
  | map (grammar : Grammar) (transformer : Transformer)
  /-- Runs another grammar on the value; its outcome is the new value. -/
  | mapThrough (grammar reader : Grammar)
  /-- Runs the message of a failure through a function. -/
  | mapError (grammar : Grammar) (transformer : Transformer)
  /-- Refuses the values that the predicate does not hold for. -/
  | filter (grammar : Grammar) (predicate : Predicate)
  /-- Refuses the values that another grammar does not match. -/
  | filterMatching (grammar checker : Grammar)
  /-- The longest span of code points each of which passes a test that may fault. -/
  | spanWhere (predicate : Predicate) (description : Option String)
  /-- The longest span of code points each of which another grammar matches. -/
  | spanMatching (checker : Grammar) (description : Option String)
  /-- Logs every outcome under the label, or else under the grammar's name. -/
  | debug (grammar : Grammar) (label : Option String)
  | optional (grammar : Grammar) (default : Value)
  | followedBy (first second : Grammar)
  | many (element : Grammar) (atLeastOne : Bool)
  | separatedBy (element separator : Grammar) (atLeastOne : Bool)
  | either (first second : Grammar)
  | choice {others : Nat} (alternatives : Fin (others + 1) → Grammar)

namespace Grammar

def name : Grammar → String
  | primitive leaf => leaf.name
  | custom label _ => label
  | deferred reference => reference.name
  | named _ label => label
  | map grammar transformer => grammar.name ++ ".map(" ++ transformer.description ++ ")"
  | mapThrough grammar reader => grammar.name ++ ".map(" ++ reader.name ++ ")"
  | mapError grammar transformer => grammar.name ++ ".map_error(" ++ transformer.description ++ ")"
  | filter grammar predicate => grammar.name ++ ".where(" ++ predicate.description ++ ")"
  | filterMatching grammar checker => grammar.name ++ ".where(" ++ checker.name ++ ")"
  | spanWhere predicate description =>
      "string_matching(" ++ description.getD predicate.description ++ ")"
  | spanMatching checker description => "string_matching(" ++ description.getD checker.name ++ ")"
  | debug grammar _ => grammar.name
  | optional grammar default => grammar.name ++ ".optional(" ++ default.print ++ ")"
  | followedBy first second => first.name ++ ".followed_by(" ++ second.name ++ ")"
  | many element false => element.name ++ ".zero_or_more()"
  | many element true => element.name ++ ".one_or_more()"
  | separatedBy element separator false => element.name ++ ".separated_by(" ++ separator.name ++ ")"
  | separatedBy element separator true => element.name ++ ".separated_by1(" ++ separator.name ++ ")"
  | either first second => "either(" ++ first.name ++ ", " ++ second.name ++ ")"
  | choice alternatives =>
      "choice(" ++ String.intercalate ", " (List.ofFn fun index => (alternatives index).name) ++ ")"

/-- The failure for a value that something of the given name refuses. -/
def refusal (refuser : String) (value : Value) : Except Fault Failure :=
  value.print?.map fun printed => .saying (printed ++ " was rejected by " ++ refuser ++ ".") .rejected

/-- The line that a grammar under observation logs. -/
def observation {σ : Type} (print : σ → Except Fault String) (tag : String) (source : σ) :
    Outcome σ → Except Fault Text
  | .matched value rest => do
      return Text.ofString (tag ++ " matched " ++ (← value.print?) ++ ", remainder " ++ (← print rest))
  | .failed failure => do
      let place := Text.ofString (tag ++ " failed on " ++ (← print source) ++ ": ")
      return place ++ (← failure.message.display?)

/-- What a grammar does, given what references do. A grammar that reads or checks values is run
on them as they are. -/
def attempt (meaning : Reference → Attempts) : Grammar → (medium : Medium) → Attempt medium.Source
  | primitive leaf, medium => leaf.attempts medium
  | custom _ attempts, medium => attempts medium
  | deferred reference, medium => meaning reference medium
  | named grammar _, medium => grammar.attempt meaning medium
  | map grammar transformer, medium =>
      (grammar.attempt meaning medium).map fun value => Traced.ofExcept (transformer.apply value)
  | mapThrough grammar reader, medium =>
      (grammar.attempt meaning medium).map fun value =>
        return (← reader.attempt meaning .value value).toValue
  | mapError grammar transformer, medium =>
      (grammar.attempt meaning medium).mapError transformer.apply
  | filter grammar predicate, medium =>
      (grammar.attempt meaning medium).filter
        (fun value => Traced.ofExcept (predicate.holds value)) (refusal predicate.description)
  | filterMatching grammar checker, medium =>
      (grammar.attempt meaning medium).filter
        (fun value => return (← checker.attempt meaning .value value).isMatch)
        fun value => refusal checker.name value
  | spanWhere predicate description, medium =>
      Primitive.spanOf (description.getD predicate.description)
        (fun item => Traced.ofExcept (predicate.holds item)) medium
  | spanMatching checker description, medium =>
      Primitive.spanOf (description.getD checker.name)
        (fun item => return (← checker.attempt meaning .value item).isMatch) medium
  | debug grammar label, medium =>
      (grammar.attempt meaning medium).observe fun source outcome =>
        observation medium.print (label.getD grammar.name) source outcome
  | optional grammar default, medium => (grammar.attempt meaning medium).optional default
  | followedBy first second, medium =>
      (first.attempt meaning medium).followedBy (second.attempt meaning medium)
  | many element atLeastOne, medium =>
      .repeated (many element atLeastOne).name medium.size (element.attempt meaning medium) none
        atLeastOne
  | separatedBy element separator atLeastOne, medium =>
      .repeated (separatedBy element separator atLeastOne).name medium.size
        (element.attempt meaning medium) (some (separator.attempt meaning medium)) atLeastOne
  | either first second, medium =>
      .either (first.attempt meaning medium) (second.attempt meaning medium)
  | choice alternatives, medium =>
      .choice (List.ofFn fun index => (alternatives index).attempt meaning medium)

end Grammar

end TextGrammar
