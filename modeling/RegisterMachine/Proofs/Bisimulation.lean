import RegisterMachine.Proofs.Lockstep
import RegisterMachine.Proofs.Operating

/-!
# Bisimulations

A relation between machines under which steps are answered alike, and which the
steps keep, is kept by every call. The batches and the runs of related machines
are answered alike, a run of one ends if and only if the same run of the other
does, and both report the same address when they are interrupted. So machines
that are related cannot be told apart by calling on them.

The answers to some calls and the state after them are determined by the machine
and the calls. For a relation that is kept by every call this says that whatever
two related machines answer to the same calls is the same, and that they are
still related afterwards.
-/

namespace RegisterMachine

open Stateful (Alike)

namespace Stateful

theorem Alike.symm
    {ε σ τ α : Type}
    {related : σ → τ → Prop}
    {ended : EStateM.Result ε σ α}
    {otherEnded : EStateM.Result ε τ α}
    (alike : Alike related ended otherEnded) :
    Alike (fun right left => related left right) otherEnded ended := by
  cases alike with
  | ok isRelated => exact .ok isRelated
  | error isRelated => exact .error isRelated

end Stateful

namespace Machine

variable {World : Type}

theorem exists_reply_eq
    {α : Type}
    {related : Machine World → Machine World → Prop}
    {leftAfter : Machine World}
    {answer : Answer}
    {succeeded : α → Answer}
    {ended otherEnded : EStateM.Result Trap (Machine World) α}
    (alike : Alike related ended otherEnded)
    (replied : reply succeeded ended = (answer, leftAfter)) :
    ∃ rightAfter, reply succeeded otherEnded = (answer, rightAfter) ∧
      related leftAfter rightAfter := by
  cases alike with
  | ok isRelated =>
      cases replied
      exact ⟨_, rfl, isRelated⟩
  | error isRelated =>
      cases replied
      exact ⟨_, rfl, isRelated⟩

variable [Console World]

/-! ## Calls have one answer -/

section Determinism

variable {machine after otherAfter : Machine World}
variable {call : Call}
variable {answer otherAnswer : Answer}

/-- A run that ends has one result, however large the bound on its steps is. -/
theorem run_unique
    {bound otherBound : Nat}
    {result other : EStateM.Result Trap (Machine World) Unit}
    (ended : run bound machine = some result)
    (otherEnded : run otherBound machine = some other) :
    result = other := by
  have sameAnswer := finalAnswer_unique (execute_of_run ended) (execute_of_run otherEnded)
  exact answerOfRun_inj.mp sameAnswer

theorem Responds.unique
    (responds : machine.Responds call answer after)
    (otherResponds : machine.Responds call otherAnswer otherAfter) :
    answer = otherAnswer ∧ after = otherAfter := by
  cases responds with
  | step replied =>
      cases otherResponds with
      | step otherReplied => exact Prod.mk.inj (replied.symm.trans otherReplied)
  | run ended replied =>
      cases otherResponds with
      | run otherEnded otherReplied =>
          cases run_unique ended otherEnded
          exact Prod.mk.inj (replied.symm.trans otherReplied)
  | execute replied =>
      cases otherResponds with
      | execute otherReplied => exact Prod.mk.inj (replied.symm.trans otherReplied)
  | interrupt =>
      cases otherResponds with
      | interrupt => exact ⟨rfl, rfl⟩

/-- The calls determine what they are answered with and the state after them. -/
theorem Undergoes.unique
    {exchanges others : List (Call × Answer)}
    (undergone : machine.Undergoes exchanges after)
    (otherUndergone : machine.Undergoes others otherAfter)
    (sameCalls : exchanges.map Prod.fst = others.map Prod.fst) :
    exchanges = others ∧ after = otherAfter := by
  induction undergone generalizing others with
  | nil =>
      cases otherUndergone with
      | nil => exact ⟨rfl, rfl⟩
      | cons => cases sameCalls
  | cons responds _ inductionHypothesis =>
      cases otherUndergone with
      | nil => cases sameCalls
      | cons otherResponds otherUndergone =>
          obtain ⟨rfl, sameLaterCalls⟩ := List.cons.inj sameCalls
          obtain ⟨rfl, rfl⟩ := responds.unique otherResponds
          obtain ⟨rfl, rfl⟩ := inductionHypothesis otherUndergone sameLaterCalls
          exact ⟨rfl, rfl⟩

end Determinism

/-! ## Relations that are kept by every call -/

/-- A relation between machines that step alike and point to the same address, also when they have
been stopped from outside. -/
structure Bisimulation (related : Machine World → Machine World → Prop) : Prop where
  step_alike
      {left right : Machine World} :
    related left right →
    Alike related (step left) (step right)
  address?_eq
      {left right : Machine World} :
    related left right →
    right.address? = left.address?
  halt
      {left right : Machine World} :
    related left right →
    related left.halt right.halt

namespace Bisimulation

variable {related : Machine World → Machine World → Prop}
variable {left right leftAfter rightAfter : Machine World}
variable {call : Call}
variable {answer : Answer}

theorem symm
    (bisimulation : Bisimulation related) :
    Bisimulation fun right left => related left right where
  step_alike isRelated := (bisimulation.step_alike isRelated).symm
  address?_eq isRelated := (bisimulation.address?_eq isRelated).symm
  halt isRelated := bisimulation.halt isRelated

theorem next?_eq_none
    (bisimulation : Bisimulation related)
    (isRelated : related left right)
    (nothing : left.next? = none) :
    right.next? = none := by
  have alike := bisimulation.step_alike isRelated
  rw [step_of_next?_eq_none nothing] at alike
  generalize stepped : step right = ended at alike
  cases alike with
  | ok _ => exact (next?_eq_none_of_step_eq_false stepped).1

theorem next?_isSome_eq
    (bisimulation : Bisimulation related)
    (isRelated : related left right) :
    right.next?.isSome = left.next?.isSome := by
  rw [Bool.eq_iff_iff, ← not_iff_not, Option.not_isSome_iff_eq_none, Option.not_isSome_iff_eq_none]
  exact ⟨bisimulation.symm.next?_eq_none isRelated, bisimulation.next?_eq_none isRelated⟩

/-- Batches are answered alike on related machines. -/
theorem execute_alike
    (bisimulation : Bisimulation related)
    (isRelated : related left right)
    (cycles : Nat) :
    Alike related (execute cycles left) (execute cycles right) := by
  induction cycles generalizing left right with
  | zero =>
      simp only [execute, bisimulation.next?_isSome_eq isRelated]
      split
      · exact .ok isRelated
      · exact .ok (bisimulation.halt isRelated)
  | succ cycles inductionHypothesis =>
      have alike := bisimulation.step_alike isRelated
      simp only [execute]
      generalize step left = ended at alike ⊢
      generalize step right = otherEnded at alike ⊢
      cases alike with
      | @ok didExecute _ _ relatedAfter =>
          cases didExecute with
          | true => exact inductionHypothesis relatedAfter
          | false => exact .ok relatedAfter
      | error relatedAfter => exact .error relatedAfter

/-- Runs of related machines end alike, or neither has ended within the bound. -/
theorem run_alike
    (bisimulation : Bisimulation related)
    (isRelated : related left right)
    (bound : Nat) :
    Option.Rel (Alike related) (run bound left) (run bound right) := by
  induction bound generalizing left right with
  | zero => exact .none
  | succ bound inductionHypothesis =>
      have alike := bisimulation.step_alike isRelated
      simp only [run]
      generalize step left = ended at alike ⊢
      generalize step right = otherEnded at alike ⊢
      cases alike with
      | @ok didExecute _ _ relatedAfter =>
          cases didExecute with
          | true => exact inductionHypothesis relatedAfter
          | false => exact .some (.ok relatedAfter)
      | error relatedAfter => exact .some (.error relatedAfter)

/-- A call that one machine responds to gets the same answer from every machine it is related
to. -/
theorem exists_responds
    (bisimulation : Bisimulation related)
    (isRelated : related left right)
    (responds : left.Responds call answer leftAfter) :
    ∃ rightAfter, right.Responds call answer rightAfter ∧ related leftAfter rightAfter := by
  cases responds with
  | step replied =>
      obtain ⟨rightAfter, rightReplied, relatedAfter⟩ :=
        exists_reply_eq (bisimulation.step_alike isRelated) replied
      exact ⟨rightAfter, .step rightReplied, relatedAfter⟩
  | @run bound result _ _ ended replied =>
      have endedAlike := bisimulation.run_alike isRelated bound
      rw [ended] at endedAlike
      generalize rightEnded : run bound right = rightResult at endedAlike
      cases endedAlike with
      | some alike =>
          obtain ⟨rightAfter, rightReplied, relatedAfter⟩ := exists_reply_eq alike replied
          exact ⟨rightAfter, .run rightEnded rightReplied, relatedAfter⟩
  | @execute cycles _ _ replied =>
      obtain ⟨rightAfter, rightReplied, relatedAfter⟩ :=
        exists_reply_eq (bisimulation.execute_alike isRelated cycles) replied
      exact ⟨rightAfter, .execute rightReplied, relatedAfter⟩
  | interrupt =>
      have responds : right.Responds .interrupt (.interrupted right.interrupt.1) right.halt :=
        .interrupt
      simp only [interrupt, bisimulation.address?_eq isRelated] at responds
      exact ⟨right.halt, responds, bisimulation.halt isRelated⟩

theorem exists_undergoes
    (bisimulation : Bisimulation related)
    {exchanges : List (Call × Answer)}
    (isRelated : related left right)
    (undergone : left.Undergoes exchanges leftAfter) :
    ∃ rightAfter, right.Undergoes exchanges rightAfter ∧ related leftAfter rightAfter := by
  induction undergone generalizing right with
  | nil => exact ⟨right, .nil, isRelated⟩
  | cons responds _ inductionHypothesis =>
      obtain ⟨middle, rightResponds, relatedMiddle⟩ :=
        bisimulation.exists_responds isRelated responds
      obtain ⟨rightAfter, rightUndergone, relatedAfter⟩ := inductionHypothesis relatedMiddle
      exact ⟨rightAfter, .cons rightResponds rightUndergone, relatedAfter⟩

/-- Related machines answer the same calls with the same answers, and are related after them. -/
theorem eq_and_related_of_undergoes
    (bisimulation : Bisimulation related)
    {exchanges others : List (Call × Answer)}
    (isRelated : related left right)
    (undergone : left.Undergoes exchanges leftAfter)
    (otherUndergone : right.Undergoes others rightAfter)
    (sameCalls : exchanges.map Prod.fst = others.map Prod.fst) :
    exchanges = others ∧ related leftAfter rightAfter := by
  obtain ⟨after, rightUndergone, relatedAfter⟩ :=
    bisimulation.exists_undergoes isRelated undergone
  obtain ⟨rfl, rfl⟩ := rightUndergone.unique otherUndergone sameCalls
  exact ⟨rfl, relatedAfter⟩

end Bisimulation

/-! ## Machines that cannot be told apart -/

/-- What is done by the instruction at an address. -/
def effectAt?
    (program : Program)
    (address : Nat) : Option (Exec World Unit) :=
  (program.get? address).map Exec.instruction

theorem length_eq_of_effectAt?
    {program other : Program}
    (effect_eq :
      ∀ address, (effectAt? other address : Option (Exec World Unit)) = effectAt? program address) :
    other.length = program.length := by
  have none_iff (address : Nat) : other.get? address = none ↔ program.get? address = none := by
    simpa [effectAt?] using congrArg (· = none) (effect_eq address)
  simp only [Program.get?_eq_none_iff] at none_iff
  exact Nat.le_antisymm ((none_iff _).mpr le_rfl) ((none_iff _).mp le_rfl)

theorem nextEffect?_eq_bind (machine : Machine World) :
    machine.nextEffect? =
      if machine.running then
        machine.address?.bind fun address =>
          (effectAt? machine.program address).map fun effect => (address, effect)
      else
        none := by
  simp only [nextEffect?, next?, effectAt?, bind, pure]
  split
  · cases machine.address? with
    | none => rfl
    | some address =>
        simp only [Option.bind_some]
        cases machine.program.get? address <;> rfl
  · rfl

/-- Machines at the same point of programs that do the same at every address cannot be told apart,
if they find the same words everywhere and have the same console. -/
theorem Congruence.bisimulation
    {related : Machine World → Machine World → Prop}
    (congruence : Congruence related)
    (effect_eq :
      ∀ {left right}, related left right → ∀ address,
        (effectAt? right.program address : Option (Exec World Unit)) =
          effectAt? left.program address)
    (counter_eq :
      ∀ {left right}, related left right → right.counter = left.counter)
    (running_eq :
      ∀ {left right}, related left right → right.running = left.running)
    (console_eq :
      ∀ {left right}, related left right → right.console = left.console)
    (console :
      ∀ {left right} (console : World), related left right →
        related { left with console } { right with console }) :
    Bisimulation related := by
  have address?_eq {left right : Machine World} (isRelated : related left right) :
      right.address? = left.address? := by
    simp only [address?, counter_eq isRelated, length_eq_of_effectAt? (effect_eq isRelated)]
  -- Whatever is done on the console is done on the same console.
  have console_alike {left right : Machine World} {α : Type} (isRelated : related left right)
      (act : EStateM Report World α) :
      Alike related (Exec.onConsole act left) (Exec.onConsole act right) := by
    simp only [Exec.onConsole, console_eq isRelated]
    cases act left.console with
    | ok value after => exact .ok (console after isRelated)
    | error fault after => exact .error (console after isRelated)
  refine ⟨?_, address?_eq, congruence.halt⟩
  intro left right isRelated
  have next_eq : right.nextEffect? = left.nextEffect? := by
    simp only [nextEffect?_eq_bind, running_eq isRelated, address?_eq isRelated,
      effect_eq isRelated]
  have relatedAdvanced : related left.advanced right.advanced := by
    unfold advanced
    rw [counter_eq isRelated]
    exact congruence.jump _ isRelated
  apply congruence.step_alike next_eq fun _ => isRelated
  intro address instruction _
  apply congruence.instruction_alike fun _ => relatedAdvanced
  · intro target _
    exact console_alike relatedAdvanced _
  · intro source word _ _
    exact console_alike relatedAdvanced _

end Machine
end RegisterMachine
