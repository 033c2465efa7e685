import TextGrammar.Proofs.Congruence.Rewriting

/-!
Grammars under observation. Where observations are put into a grammar nothing else
changes: names, values, rests, messages and faults stay, and the records of the
observations stand between the records that the grammar logs anyway. The labels of
the observations are left open, which tells the two sorts of records apart: a record
of an observation shows the label of its place, whatever it is.
-/

namespace TextGrammar

/-- Labels for the places where observations are put in. -/
abbrev Labels (κ : Type) := κ → Option String

/-- What an observation sees when the grammar in its place, which has the name, comes to an outcome. -/
structure Sight (κ : Type) where
  place : κ
  name : String
  medium : Medium
  source : medium.Source
  outcome : Outcome medium.Source

/-- A record of the grammar itself, or one of an observation. -/
inductive Entry (κ : Type) where
  | own (record : Record)
  | inserted (sight : Sight κ)

namespace Entry

variable {κ : Type}

def record? (labels : Labels κ) : Entry κ → Except Fault Record
  | own record => .ok record
  | inserted ⟨place, name, medium, source, outcome⟩ => do
      return ⟨.debug, ← Grammar.observation medium.print ((labels place).getD name) source outcome⟩

/-- The records that stay when those of the observations are deleted. -/
def ownRecords : List (Entry κ) → List Record
  | [] => []
  | own record :: entries => record :: ownRecords entries
  | inserted _ :: entries => ownRecords entries

theorem own_records_append (before behind : List (Entry κ)) :
    ownRecords (before ++ behind) = ownRecords before ++ ownRecords behind := by
  induction before with
  | nil => rfl
  | cons entry before induction => cases entry <;> simp [ownRecords, induction]

theorem own_records_own (records : List Record) :
    ownRecords (records.map (own : Record → Entry κ)) = records := by
  induction records with
  | nil => rfl
  | cons record records induction => exact congrArg (record :: ·) induction

end Entry

namespace Traced

variable {κ α β : Type}

/-- Writes the entries one after the other and ends with the result. An entry that cannot be written
is a fault. -/
def replay (labels : Labels κ) (result : Except Halt α) : List (Entry κ) → Traced α
  | [] => ⟨[], result⟩
  | entry :: entries => do
      let record ← ofExcept (entry.record? labels)
      write record.level record.message
      replay labels result entries

theorem replay_own (labels : Labels κ) (given : Traced α) :
    replay labels given.result (given.log.map .own) = given := by
  obtain ⟨log, result⟩ := given
  induction log with
  | nil => rfl
  | cons record log induction =>
      change (write record.level record.message >>= fun _ => replay labels result (log.map .own)) = _
      rw [induction]
      rfl

theorem replay_records {labels : Labels κ} {result : Except Halt α} {entries : List (Entry κ)}
    {records : List Record} (written : entries.mapM (Entry.record? labels) = .ok records) :
    replay labels result entries = ⟨records, result⟩ := by
  induction entries generalizing records with
  | nil =>
      obtain rfl := Except.ok.inj written
      rfl
  | cons entry entries induction =>
      rw [List.mapM_cons] at written
      unfold replay
      cases first : entry.record? labels with
      | error reason => exact absurd written (by simp [first, bind, Except.bind])
      | ok record =>
          cases others : entries.mapM (Entry.record? labels) with
          | error reason => exact absurd written (by simp [first, others, bind, Except.bind])
          | ok later =>
              simp only [first, others, bind, Except.bind, pure, Except.pure, Except.ok.injEq] at written
              subst written
              change (write record.level record.message >>= fun _ => replay labels result entries) = _
              rw [induction others]
              rfl

theorem replay_bind_ok {labels : Labels κ} {value : α} {result : Except Halt β} {next : α → Traced β}
    {behind : List (Entry κ)} (later : next value = replay labels result behind)
    (entries : List (Entry κ)) :
    (replay labels (.ok value) entries >>= next) = replay labels result (entries ++ behind) := by
  induction entries with
  | nil =>
      rw [List.nil_append, ← later]
      exact pure_bind value next
  | cons entry entries induction =>
      simp only [replay, List.cons_append, bind_assoc, induction]

theorem replay_bind_error {labels : Labels κ} (reason : Halt) (next : α → Traced β)
    (entries : List (Entry κ)) :
    (replay labels (.error reason) entries >>= next) = replay labels (.error reason) entries := by
  induction entries with
  | nil => rfl
  | cons entry entries induction => simp only [replay, bind_assoc, induction]

/-- Without observations all entries are own records. -/
theorem own_entries (given : Traced α) : ∃ entries : List (Entry κ), Entry.ownRecords entries = given.log ∧
    ∀ labels, given = replay labels given.result entries :=
  ⟨given.log.map .own, Entry.own_records_own _, fun labels => (replay_own labels given).symm⟩

/-- With every choice of labels the members write the same entries, whose own records are the log of
the single computation, and they have its result. -/
def observed (κ : Type) : Congruence (Labels κ) where
  Relates family given := ∃ entries : List (Entry κ), Entry.ownRecords entries = given.log ∧
    ∀ labels, family labels = replay labels given.result entries
  self {_ given} _ := own_entries given
  bind := by
    intro _ _ family given nexts next related later
    obtain ⟨entries, logged, replayed⟩ := related
    change ∃ _, _ = (given.bind next).log ∧ ∀ _, _ = replay _ (given.bind next).result _
    cases answered : given.result with
    | error reason =>
        refine ⟨entries, ?_, ?_⟩
        · rw [bind_of_error answered]
          exact logged
        · intro labels
          rw [bind_of_error answered, replayed labels, answered]
          exact replay_bind_error reason (nexts labels) entries
    | ok value =>
        obtain ⟨behind, loggedLater, replayedLater⟩ := later value answered
        refine ⟨entries ++ behind, ?_, ?_⟩
        · rw [bind_of_ok answered, Entry.own_records_append, logged, loggedLater]
        · intro labels
          rw [bind_of_ok answered, replayed labels, answered]
          exact replay_bind_ok (replayedLater labels) entries

theorem observed_is_reflexive (κ : Type) : (observed κ).IsReflexive := own_entries

end Traced

open Traced

namespace Grammar

variable {κ : Type}

/-- What a part has become is put under observation at some place. -/
def Observes (κ : Type) (family : Labels κ → Grammar) (_ : Grammar) (others : Labels κ → Grammar) : Prop :=
  ∃ place, others = fun labels => (family labels).debug (labels place)

theorem debug_alike {meanings : Labels κ → Reference → Attempts} {meaning : Reference → Attempts}
    {family : Labels κ → Grammar} {grammar : Grammar}
    (alike : Alike (observed κ) meanings meaning family grammar) (place : κ) :
    Alike (observed κ) meanings meaning (fun labels => (family labels).debug (labels place)) grammar where
  name := alike.name
  attempt medium source := by
    obtain ⟨entries, logged, replayed⟩ := alike.attempt medium source
    cases answered : (grammar.attempt meaning medium source).result with
    | error reason =>
        refine ⟨entries, logged, fun labels => ?_⟩
        simp only [Grammar.attempt, Attempt.observe, replayed labels, answered]
        exact replay_bind_error reason _ entries
    | ok outcome =>
        refine ⟨entries ++ [.inserted ⟨place, grammar.name, medium, source, outcome⟩], ?_, fun labels => ?_⟩
        · rw [Entry.own_records_append, logged]
          exact List.append_nil _
        · simp only [Grammar.attempt, Attempt.observe, replayed labels, answered, alike.name]
          apply replay_bind_ok
          simp only [replay, Entry.record?]
          cases observation medium.print ((labels place).getD grammar.name) source outcome with
          | error reason => rfl
          | ok line => rfl

theorem observed_alike {meanings : Labels κ → Reference → Attempts} {meaning : Reference → Attempts}
    (related : ReferencesAlike (observed κ) meanings meaning)
    {family : Labels κ → Grammar} {grammar : Grammar} (inserted : Rewritten (Observes κ) family grammar) :
    Alike (observed κ) meanings meaning family grammar := by
  apply inserted.alike (observed_is_reflexive κ) _ related
  intro family grammar others used alike
  obtain ⟨place, rfl⟩ := used
  exact debug_alike alike place

theorem meaning_observed {scopes : Labels κ → Scope} {scope : Scope}
    (elsewhere : Scope.Rewritten (Observes κ) scopes scope) (budget : Nat) :
    ReferencesAlike (observed κ) (fun labels => (scopes labels).meaning budget) (scope.meaning budget) := by
  induction budget with
  | zero => exact fun _ _ _ => observed_is_reflexive κ _
  | succ budget induction =>
      intro reference medium source
      rcases elsewhere reference with ⟨reason, halted, halts⟩ | ⟨definition, family, leads, leadToo, inserted⟩
      · simp only [Scope.meaning, halted, halts]
        exact observed_is_reflexive κ _
      · simp only [Scope.meaning, leads, leadToo]
        exact (observed_alike induction inserted).attempt medium source

/-- Observations that are put in anywhere, in definitions as well, change the log only. What they add
to it depends on their labels; what they do not add is the log without them. -/
theorem observations_are_transparent {scopes : Labels κ → Scope} {scope : Scope}
    {family : Labels κ → Grammar} {grammar : Grammar}
    (elsewhere : Scope.Rewritten (Observes κ) scopes scope) (inserted : Rewritten (Observes κ) family grammar)
    (budget : Nat) (source : Text) :
    (∀ labels, (family labels).name = grammar.name) ∧
      ∃ entries : List (Entry κ), Entry.ownRecords entries = (grammar.runWithin budget scope source).log ∧
        ∀ labels records, entries.mapM (Entry.record? labels) = .ok records →
          (family labels).runWithin budget (scopes labels) source =
            ⟨records, (grammar.runWithin budget scope source).result⟩ := by
  have alike := observed_alike (meaning_observed elsewhere budget) inserted
  obtain ⟨entries, logged, replayed⟩ := alike.attempt .text source
  refine ⟨alike.name, entries, logged, ?_⟩
  intro labels records written
  exact (replayed labels).trans (replay_records written)

/-- Trees in a repetition whose elements need not take anything. -/
def looseTrees : Grammar := ((deferred (.provided .tree)).optional .null).many false

/-- Every element is observed, inside the repetition. -/
def observedTrees (labels : Labels Bool) : Grammar :=
  (((deferred (.provided .tree)).debug (labels false)).optional .null).many false

/-- Every child of a tree is observed, inside the definition that refers to itself. -/
def observedTree (labels : Labels Bool) : Grammar :=
  (between (character '(') (((deferred (.provided .tree)).debug (labels true)).many false)
    (character ')')).map toTree

def observedScope (labels : Labels Bool) : Scope
  | .provided .tree => .ok (observedTree labels)
  | other => Scope.provided other

theorem observed_scope_rewritten : Scope.Rewritten (Observes Bool) observedScope Scope.provided := by
  have children : Rewritten (Observes Bool) (fun labels => (deferred (.provided .tree)).debug (labels true))
      (deferred (.provided .tree)) := .rewrite (.deferred (.provided .tree)) ⟨true, rfl⟩
  have definition : Rewritten (Observes Bool) observedTree tree := by
    apply Rewritten.map
    apply Rewritten.named
    · exact .map (.followedBy (.followedBy (.refl _) (.many children false)) (.refl _)) innerValue
    · exact fun _ => rfl
  intro reference
  rcases reference with ⟨index, name⟩ | ⟨variableName, label⟩ | provider
  · exact Scope.Rewritten.refl Scope.provided _
  · exact Scope.Rewritten.refl Scope.provided _
  · cases provider
    case tree => exact Or.inr ⟨tree, observedTree, rfl, fun _ => rfl, definition⟩
    all_goals exact Scope.Rewritten.refl Scope.provided _

/-- The grammar itself logs the record that stays last of the four. -/
theorem observed_trees_add_records :
    ((observedTrees fun _ => none).runWithin 3 (observedScope fun _ => none)
        (Text.ofString "()")).log.length = 4 ∧
      ∃ entries : List (Entry Bool), Entry.ownRecords entries =
          [⟨.warning, Text.ofString
            "provided(Tree).optional(None).zero_or_more(): an iteration matched without consuming input, stopping."⟩] ∧
        ∀ labels records, entries.mapM (Entry.record? labels) = .ok records →
          (observedTrees labels).runWithin 3 (observedScope labels) (Text.ofString "()") =
            ⟨records, (looseTrees.runWithin 3 Scope.provided (Text.ofString "()")).result⟩ := by
  have inserted : Rewritten (Observes Bool) observedTrees looseTrees :=
    .many (.optional (.rewrite (.deferred (.provided .tree)) ⟨false, rfl⟩) .null) false
  have transparent := observations_are_transparent observed_scope_rewritten inserted 3 (Text.ofString "()")
  obtain ⟨entries, logged, written⟩ := transparent.2
  refine ⟨by decide +kernel, entries, ?_, written⟩
  rw [logged]
  decide +kernel

end Grammar

end TextGrammar
