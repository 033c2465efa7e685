import TextGrammar.Scope

/-!
Sessions: variables that hold grammars, and placeholders that are defined at
most once. Running a grammar changes no session, and a step that faults leaves
the session as it was. A reply holds no value that cannot be written.
-/

namespace TextGrammar

structure Session where
  /-- The latest binding of a variable comes first. -/
  bindings : List (String × Grammar)
  /-- The definitions of the placeholders in the order in which these were made. -/
  definitions : List (Option Grammar)

inductive Step where
  | store (variableName : String) (grammar : Grammar)
  | forward (variableName name : String)
  | define (variableName : String) (grammar : Grammar)
  | run (grammar : Grammar) (source : Text)
  | parse (grammar : Grammar) (source : Text)

inductive Reply where
  | grammar (grammar : Grammar)
  | outcome (outcome : Outcome Text)
  | value (value : Value)

namespace Session

def empty : Session := ⟨[], []⟩

def forwardName : String := "forward"

def lookup (session : Session) (variableName : String) : Except Fault Grammar :=
  match session.bindings.lookup variableName with
  | some grammar => .ok grammar
  | none => .error (.unknownVariable variableName)

def definition? (session : Session) (index : Nat) : Option Grammar := session.definitions[index]?.join

def scope (session : Session) : Scope
  | .provided provider => .ok provider.grammar
  | .stored variableName _ => session.lookup variableName
  | .placeholder index name =>
      match session.definition? index with
      | some grammar => .ok grammar
      | none => .error (.undefinedPlaceholder name)

def store (session : Session) (variableName : String) (grammar : Grammar) : Session :=
  { session with bindings := (variableName, grammar) :: session.bindings }

def placeholder (session : Session) (name : String) : Grammar :=
  .deferred (.placeholder session.definitions.length name)

def forward (session : Session) (variableName name : String) : Session :=
  ⟨(variableName, session.placeholder name) :: session.bindings, session.definitions ++ [none]⟩

/-- Gives a placeholder its definition, unless it has one. -/
def define (session : Session) (target grammar : Grammar) : Traced Session :=
  match target with
  | .deferred (.placeholder index name) =>
      match session.definition? index with
      | some _ => Traced.fault (.definedTwice name)
      | none => do
          Traced.write .debug ("Defined forward parser " ++ name ++ " as " ++ grammar.name)
          return { session with definitions := session.definitions.set index (some grammar) }
  | _ => Traced.fault (.misuse (.noField "Parser" "define"))

/-- The outcome itself, if its value or message can be written. -/
def writtenOutcome? : Outcome Text → Except Fault (Outcome Text)
  | .matched value rest => return .matched (← value.written?) rest
  | .failed failure => return .failed ⟨← failure.message.written?, failure.kind⟩

def answer (session : Session) : Step → Traced (Session × Reply)
  | .store variableName grammar => return (session.store variableName grammar, .grammar grammar)
  | .forward variableName name =>
      return (session.forward variableName name, .grammar (session.placeholder name))
  | .define variableName grammar => do
      let target ← Traced.ofExcept (session.lookup variableName)
      return (← session.define target grammar, .grammar target)
  | .run grammar source => do
      let outcome ← grammar.runIn session.scope source
      return (session, .outcome (← Traced.ofExcept (writtenOutcome? outcome)))
  | .parse grammar source => do
      let value ← grammar.parseIn session.scope source
      return (session, .value (← Traced.ofExcept value.written?))

/-- The session after a step, and the reply with what the step logged. -/
def step (session : Session) (request : Step) : Session × Traced Reply :=
  let answered := session.answer request
  let next :=
    match answered.result with
    | .ok reply => reply.1
    | .error _ => session
  (next, ⟨answered.log, answered.result.map Prod.snd⟩)

end Session

end TextGrammar
