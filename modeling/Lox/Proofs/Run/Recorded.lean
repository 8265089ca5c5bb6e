/-
Nothing is run that is no part of the history. An evaluator that stops as soon as it meets a tree
that is not part of it does the same in every session, so what holds of every event of a history
holds of all that is run.
-/

import Lox.Proofs.Run.Everywhere

namespace Lox

open Scope

variable {start : Session} {machine : Machine} {environment : Environment}

/-! ### The recorded evaluator -/

open scoped Classical in
mutual

/-- Evaluates an expression if that is part of the history, and otherwise stops. -/
noncomputable def Recorded.evaluate (start : Session) : Nat → Expression → Run Value
  | 0, _ => throw .exhausted
  | depth + 1, expression => fun machine =>
    if ∃ environment, Happens start (.evaluation environment expression machine) then
      Evaluator.evaluateNode
        ⟨Recorded.evaluate start depth, Recorded.execute start depth, depth⟩ expression machine
    else .error .exhausted machine

/-- Executes a statement if that is part of the history, and otherwise stops. -/
noncomputable def Recorded.execute (start : Session) : Nat → Statement → Run Flow
  | 0, _ => throw .exhausted
  | depth + 1, statement => fun machine =>
    if ∃ environment, Happens start (.execution environment statement machine) then
      Evaluator.executeNode
        ⟨Recorded.evaluate start depth, Recorded.execute start depth, depth⟩ statement machine
    else .error .exhausted machine

end

/-- The recorded evaluator of a depth. -/
noncomputable def recorded (start : Session) (depth : Nat) : Evaluator :=
  ⟨Recorded.evaluate start depth, Recorded.execute start depth, depth⟩

/-! ### Nothing else is run -/

theorem Watch.recorded_trusts (watch : Watch) (depth : Nat) :
    watch.Trusts (evaluator depth) (recorded watch.start depth) := by
  induction depth with
  | zero =>
    exact ⟨fun _ ready _ => .throw ready.sound, fun _ ready _ _ => .throw ready.sound,
      fun ended => ⟨0, ended⟩, fun ended => ⟨0, ended⟩, rfl⟩
  | succ depth inductionHypothesis =>
    refine ⟨fun happened ready placed => ?_, fun happened ready confined placed => ?_,
      fun ended => ⟨depth + 1, ended⟩, fun ended => ⟨depth + 1, ended⟩, rfl⟩
    · have keeps := evaluateNode_keeps inductionHypothesis happened ready placed
      exact ⟨(if_pos ⟨_, happened⟩).trans keeps.1, keeps.2⟩
    · have keeps := executeNode_keeps inductionHypothesis happened ready confined placed
      exact ⟨(if_pos ⟨_, happened⟩).trans keeps.1, keeps.2⟩

/-- In the session, every tree that is met in a run is part of the history: programs that are
accepted, statements and expressions run just as they do where it has to be. -/
structure Session.OnlyHappens (start : Session) : Prop where
  interpret : ∀ {statements machine}, Happens start (.program statements machine) → ∀ depth,
    (recorded start depth).executeEvery statements machine = Lox.interpret depth statements machine
  execute : ∀ {environment statement machine},
    Happens start (.execution environment statement machine) → ∀ depth,
    (recorded start depth).execute statement machine = Lox.execute depth statement machine
  evaluate : ∀ {environment expression machine},
    Happens start (.evaluation environment expression machine) → ∀ depth,
    (recorded start depth).evaluate expression machine = Lox.evaluate depth expression machine

theorem Session.Sound.onlyHappens (started : start.Sound start) : start.OnlyHappens where
  interpret {statements _} happened depth := by
    obtain ⟨limit, ready, placed⟩ := Session.bears started happened
    have keeps := Watch.executeEvery_keeps (Watch.recorded_trusts _ depth) statements happened ready
      placed
    rw [interpret_eq]
    exact keeps.1
  execute {_ statement _} happened depth := by
    obtain ⟨limit, ready, placed⟩ := Session.bears started happened
    have ⟨wider, confined⟩ := ready.behind statement
    exact ((Watch.recorded_trusts _ depth).execute happened wider confined placed).1
  evaluate happened depth := by
    obtain ⟨limit, ready, placed⟩ := Session.bears started happened
    exact ((Watch.recorded_trusts _ depth).evaluate happened ready placed).1

end Lox
