import Mathlib.Algebra.BigOperators.Group.List.Basic
import Mathlib.Algebra.Order.Ring.Nat
import RegisterMachine.Command.TermConsole
import RegisterMachine.Machine.ByteConsole
import RegisterMachine.Proofs.Steps

/-!
# Batches of steps

A batch ends in one of three ways: the machine is still running, it has stopped,
or an instruction has failed. Two batches in a row, of which the first leaves
the machine running, do what one batch of their common size does, and a batch
that does not leave it running would have done the same had it been larger. So
the sizes of the batches have no influence on a run. Executing batches until the
machine does not answer that it is running ends exactly as the run does.
-/

namespace RegisterMachine
namespace Machine

variable {World : Type}
variable {machine after : Machine World}

/-- What is known after a batch that is followed by another if the machine is running. -/
def followedBy
    (second : Machine World → EStateM.Result Trap (Machine World) Status) :
    EStateM.Result Trap (Machine World) Status → EStateM.Result Trap (Machine World) Status
  | .ok .running after => second after
  | .ok .stopped after => .ok .stopped after
  | .error trap after => .error trap after

/-- The answer of a batch unless it says that the machine is running. -/
def finalAnswer :
    EStateM.Result Trap (Machine World) Status → Option (EStateM.Result Trap (Machine World) Status)
  | .ok .running _ => none
  | .ok .stopped after => some (.ok .stopped after)
  | .error trap after => some (.error trap after)

/-- Execute batches of given sizes, up to the first that does not answer that the machine is
running. Its answer is the outcome, and there is none when the batches are used up before. -/
def executeBatches [Console World] :
    List Nat → Machine World → Option (EStateM.Result Trap (Machine World) Status)
  | [], _ => none
  | cycles :: batches, machine =>
      match execute cycles machine with
      | .ok .running after => executeBatches batches after
      | .ok .stopped after => some (.ok .stopped after)
      | .error trap after => some (.error trap after)

/-- The answer of a batch that ends as a run does. -/
def answerOfRun :
    EStateM.Result Trap (Machine World) Unit → EStateM.Result Trap (Machine World) Status
  | .ok () after => .ok .stopped after
  | .error trap after => .error trap after

@[simp] theorem finalAnswer_answerOfRun (outcome : EStateM.Result Trap (Machine World) Unit) :
    finalAnswer (answerOfRun outcome) = some (answerOfRun outcome) := by
  cases outcome <;> rfl

theorem answerOfRun_inj
    {result other : EStateM.Result Trap (Machine World) Unit} :
    answerOfRun result = answerOfRun other ↔ result = other := by
  cases result <;> cases other <;> simp [answerOfRun]

/-! ## Two batches in a row -/

variable [Console World]

/-- A machine with no instruction to execute is stopped by a batch of any size. -/
theorem execute_of_next?_eq_none
    (noInstruction : machine.next? = none)
    (cycles : Nat) :
    execute cycles machine = .ok .stopped machine.halt := by
  cases cycles with
  | zero => simp [execute, noInstruction]
  | succ cycles => simp only [execute, step_of_next?_eq_none noInstruction]

/-- A batch can be interrupted at any place and taken up again. -/
theorem execute_add
    (first second : Nat)
    (machine : Machine World) :
    execute (first + second) machine = followedBy (execute second) (execute first machine) := by
  induction first generalizing machine with
  | zero =>
      rw [Nat.zero_add]
      cases instruction : machine.next? with
      | some next => simp [execute, instruction, followedBy]
      | none =>
          rw [execute_of_next?_eq_none instruction, execute_of_next?_eq_none instruction]
          rfl
  | succ first inductionHypothesis =>
      rw [Nat.succ_add]
      simp only [execute]
      match step machine with
      | .ok true after => exact inductionHypothesis after
      | .ok false after => rfl
      | .error trap after => rfl

/-- A larger batch ends as a batch that did not leave the machine running. -/
theorem execute_add_of_finalAnswer
    {cycles : Nat}
    {answer : EStateM.Result Trap (Machine World) Status}
    (final : finalAnswer (execute cycles machine) = some answer)
    (more : Nat) :
    execute (cycles + more) machine = answer := by
  rw [execute_add]
  match ended : execute cycles machine with
  | .ok .running after =>
      rw [ended] at final
      cases final
  | .ok .stopped after =>
      rw [ended] at final
      cases final
      rfl
  | .error trap after =>
      rw [ended] at final
      cases final
      rfl

/-- Two batches that do not leave the machine running end alike. -/
theorem finalAnswer_unique
    {cycles otherCycles : Nat}
    {answer other : EStateM.Result Trap (Machine World) Status}
    (final : finalAnswer (execute cycles machine) = some answer)
    (otherFinal : finalAnswer (execute otherCycles machine) = some other) :
    answer = other := by
  calc
    answer = execute (cycles + otherCycles) machine :=
      (execute_add_of_finalAnswer final otherCycles).symm
    _ = execute (otherCycles + cycles) machine := by rw [Nat.add_comm]
    _ = other := execute_add_of_finalAnswer otherFinal cycles

/-! ## Batches and runs -/

/-- Some batches, one after the other, end as one batch of their common size. -/
theorem executeBatches_cons
    (cycles : Nat)
    (batches : List Nat)
    (machine : Machine World) :
    executeBatches (cycles :: batches) machine =
      finalAnswer (execute (cycles :: batches).sum machine) := by
  induction batches generalizing cycles machine with
  | nil =>
      rw [List.sum_singleton]
      simp only [executeBatches]
      match execute cycles machine with
      | .ok .running after => rfl
      | .ok .stopped after => rfl
      | .error trap after => rfl
  | cons next batches inductionHypothesis =>
      rw [List.sum_cons, execute_add, executeBatches]
      match execute cycles machine with
      | .ok .running after => exact inductionHypothesis next after
      | .ok .stopped after => rfl
      | .error trap after => rfl

/-- A batch that is large enough ends as the run does. -/
theorem execute_of_run
    {bound : Nat}
    {outcome : EStateM.Result Trap (Machine World) Unit}
    (ended : run bound machine = some outcome) :
    finalAnswer (execute bound machine) = some (answerOfRun outcome) := by
  induction bound generalizing machine with
  | zero => cases ended
  | succ bound inductionHypothesis =>
      simp only [run] at ended
      simp only [execute]
      match stepped : step machine with
      | .ok true after =>
          rw [stepped] at ended
          exact inductionHypothesis ended
      | .ok false after =>
          rw [stepped] at ended
          cases ended
          rfl
      | .error trap after =>
          rw [stepped] at ended
          cases ended
          rfl

/-- Batches that are not empty get through any number of steps. -/
theorem le_sum_map_range
    {sizes : Nat → Nat}
    (positive : ∀ index, 0 < sizes index)
    (count : Nat) :
    count ≤ ((List.range count).map sizes).sum := by
  have enough : ((List.range count).map sizes).length ≤ ((List.range count).map sizes).sum := by
    apply List.length_le_sum_of_one_le
    intro size isSize
    obtain ⟨index, -, rfl⟩ := List.mem_map.mp isSize
    exact positive index
  rwa [List.length_map, List.length_range] at enough

section Runs

variable {bound : Nat}
variable {outcome : EStateM.Result Trap (Machine World) Unit}

/-- Batches that end can only end as the run does. -/
theorem executeBatches_of_run
    (ended : run bound machine = some outcome)
    {batches : List Nat}
    {answer : EStateM.Result Trap (Machine World) Status}
    (batchesEnded : executeBatches batches machine = some answer) :
    answer = answerOfRun outcome := by
  cases batches with
  | nil => cases batchesEnded
  | cons cycles batches =>
      rw [executeBatches_cons] at batchesEnded
      exact finalAnswer_unique batchesEnded (execute_of_run ended)

/-- Batches that are not empty end when the run does. -/
theorem exists_executeBatches_of_run
    (ended : run bound machine = some outcome)
    {sizes : Nat → Nat}
    (positive : ∀ index, 0 < sizes index) :
    ∃ count, executeBatches ((List.range count).map sizes) machine =
      some (answerOfRun outcome) := by
  cases bound with
  | zero => cases ended
  | succ bound =>
      refine ⟨bound + 1, ?_⟩
      obtain ⟨more, sum_eq⟩ := Nat.exists_eq_add_of_le (le_sum_map_range positive (bound + 1))
      rw [List.range_succ_eq_map, List.map_cons] at sum_eq ⊢
      rw [executeBatches_cons, sum_eq, execute_add_of_finalAnswer (execute_of_run ended),
        finalAnswer_answerOfRun]

end Runs

section Answers

variable {cycles : Nat}
variable {batches : List Nat}
variable {answer : EStateM.Result Trap (Machine World) Status}
variable {result : EStateM.Result Trap (Machine World) Unit}

/-- A batch leaves the machine running or ends as a run does. -/
theorem execute_cases
    (cycles : Nat)
    (machine : Machine World) :
    (∃ after, execute cycles machine = .ok .running after) ∨
    ∃ result, execute cycles machine = answerOfRun result := by
  cases execute cycles machine with
  | ok status after =>
      cases status with
      | running => exact .inl ⟨after, rfl⟩
      | stopped => exact .inr ⟨.ok () after, rfl⟩
  | error trap after => exact .inr ⟨.error trap after, rfl⟩

theorem executeBatches_cons_of_running
    (executed : execute cycles machine = .ok .running after) :
    executeBatches (cycles :: batches) machine = executeBatches batches after := by
  rw [executeBatches, executed]

theorem executeBatches_cons_of_answerOfRun
    (executed : execute cycles machine = answerOfRun result) :
    executeBatches (cycles :: batches) machine = some (answerOfRun result) := by
  rw [executeBatches, executed]
  cases result <;> rfl

/-- A batch that does not leave the machine running ends as a run does. -/
theorem exists_run_of_execute
    (final : finalAnswer (execute cycles machine) = some answer) :
    ∃ result, run (cycles + 1) machine = some result ∧ answer = answerOfRun result := by
  induction cycles generalizing machine with
  | zero =>
      cases found : machine.next? with
      | some entry =>
          simp only [execute, found, Option.isSome_some, if_true, finalAnswer] at final
          cases final
      | none =>
          rw [execute_of_next?_eq_none found, finalAnswer] at final
          cases final
          refine ⟨.ok () machine.halt, ?_, rfl⟩
          simp only [run, step_of_next?_eq_none found]
  | succ cycles inductionHypothesis =>
      rcases step_cases machine with ⟨after, stepped⟩ | ⟨-, stepped⟩ | ⟨trap, after, stepped⟩
      · simp only [execute, stepped] at final
        rw [run, stepped]
        exact inductionHypothesis final
      · simp only [execute, stepped] at final
        cases final
        rw [run, stepped]
        exact ⟨.ok () machine.halt, rfl, rfl⟩
      · simp only [execute, stepped] at final
        cases final
        rw [run, stepped]
        exact ⟨.error trap after, rfl, rfl⟩

/-- Batches that end, end as a run does. -/
theorem exists_run_of_executeBatches
    (ended : executeBatches batches machine = some answer) :
    ∃ bound result, run bound machine = some result ∧ answer = answerOfRun result := by
  cases batches with
  | nil => cases ended
  | cons cycles batches =>
      rw [executeBatches_cons] at ended
      exact ⟨_, exists_run_of_execute ended⟩

end Answers

/-- The sizes of batches have no influence. A batch that leaves the machine running is the first
part of a larger one, a batch that does not is the whole of every larger one, and a run that ends
is reproduced by batches of any sizes that are not zero. -/
theorem execute_in_batches (machine : Machine World) :
    (∀ first second after,
      execute first machine = .ok .running after →
        execute (first + second) machine = execute second after) ∧
    (∀ first second after,
      execute first machine = .ok .stopped after →
        execute (first + second) machine = .ok .stopped after) ∧
    (∀ first second trap after,
      execute first machine = .error trap after →
        execute (first + second) machine = .error trap after) ∧
    (∀ bound outcome,
      run bound machine = some outcome →
        ∀ sizes : Nat → Nat, (∀ index, 0 < sizes index) →
          (∃ count,
            executeBatches ((List.range count).map sizes) machine =
              some (answerOfRun outcome)) ∧
          ∀ count answer,
            executeBatches ((List.range count).map sizes) machine = some answer →
              answer = answerOfRun outcome) := by
  refine ⟨?_, ?_, ?_, ?_⟩
  · intro first second after stillRunning
    rw [execute_add, stillRunning]
    rfl
  · intro first second after stopped
    rw [execute_add, stopped]
    rfl
  · intro first second trap after failed
    rw [execute_add, failed]
    rfl
  · intro bound outcome ended sizes positive
    refine ⟨exists_executeBatches_of_run ended positive, ?_⟩
    intro count answer batchesEnded
    exact executeBatches_of_run ended batchesEnded

/-- A line editor whose user has prepared all answers. -/
structure Script where
  answers : List Command.Edited
  remembered : List String := []
  deriving DecidableEq

instance : Command.LineEditor Script where
  readLine script :=
    match script.answers with
    | [] => .ok .ended script
    | answer :: answers => .ok answer { script with answers }
  remember line script := { script with remembered := line :: script.remembered }

/-- A machine that writes two and one and then reads. -/
def countdown (console : World) : Machine World where
  program := .ofList
    [.copy (.literal 2) ⟨0⟩,
      .write (.register ⟨0⟩),
      .arith .sub (.register ⟨0⟩) (.literal 1) ⟨0⟩,
      .jump .positive (.register ⟨0⟩) (.literal 1),
      .read ⟨1⟩]
  console := console

/-- A terminal at which the user interrupts the first read. -/
def impatient : Command.TermConsole Script Sink where
  editor := { answers := [.interrupt, .line "3"] }
  sink := {}

/-- The countdown is cut inside its loop. On a terminal where the user interrupts the read, batches
of one, two, three and more steps fail where the run fails. -/
theorem countdown_in_batches :
    (∃ after : Machine ByteConsole,
      execute 3 (countdown { input := [], sink := {} }) = .ok .running after ∧
      execute (3 + 4) (countdown { input := [], sink := {} }) = execute 4 after) ∧
    ∃ after count,
      after.console.sink.written = "2\n1\n" ∧
      run 9 (countdown impatient) =
        some (.error ⟨4, .console { kind := .interrupted }⟩ after) ∧
      executeBatches ((List.range count).map (· + 1)) (countdown impatient) =
        some (.error ⟨4, .console { kind := .interrupted }⟩ after) := by
  constructor
  · let start : Machine ByteConsole := countdown { input := [], sink := {} }
    let middle : Machine ByteConsole :=
      { start with
        storage := { registers := ⟨#v[1, 0, 0, 0, 0, 0, 0, 0, 0, 0, 0, 0, 0, 0, 0, 0]⟩ }
        counter := 3
        console := { input := [], sink := { written := "2\n" } } }
    obtain ⟨continued, -⟩ := execute_in_batches start
    have stillRunning : execute 3 start = .ok .running middle := by decide +kernel
    exact ⟨middle, stillRunning, continued 3 4 middle stillRunning⟩
  · let last : Machine (Command.TermConsole Script Sink) :=
      { countdown impatient with
        counter := 5
        running := false
        console := { editor := { answers := [.line "3"] }, sink := { written := "2\n1\n" } } }
    obtain ⟨-, -, -, reproduced⟩ := execute_in_batches (countdown impatient)
    have failed :
        run 9 (countdown impatient) =
          some (.error ⟨4, .console { kind := .interrupted }⟩ last) := by
      decide +kernel
    obtain ⟨⟨count, batchesFailed⟩, -⟩ := reproduced 9 _ failed (· + 1) Nat.succ_pos
    exact ⟨last, count, rfl, failed, batchesFailed⟩

end Machine
end RegisterMachine
