import RegisterMachine.Proofs.Footprint
import RegisterMachine.Proofs.Tracing

/-!
# Programs that jump forward

A step leaves the program counter at the next instruction, or at the address of
a jump that is taken. If every jump of a program goes forward or out of the
program, the program counter only grows until it leaves the program. So no
instruction is executed twice, and a batch as large as the program never leaves
the machine running.
-/

namespace RegisterMachine

/-- The operand that holds the address an instruction jumps to, if it is a jump whose condition is
met. -/
def Instruction.jumpAddress? (storage : Storage) : Instruction → Option Operand
  | .jump condition source address =>
      if storage.meets condition source then some address else none
  | _ => none

/-- A program whose jumps go to literal addresses, each of them negative or behind the jump. -/
def Program.JumpsForward (program : Program) : Prop :=
  ∀ place condition source address,
    program.get? place = some (.jump condition source address) →
      ∃ target : Word,
        address = .literal target ∧ (target.toInt < 0 ∨ (place : Int) < target.toInt)

namespace Machine

variable {World : Type}
variable {machine after : Machine World}

/-- How many instructions lie ahead of the program counter. There are none when it has left the
program. -/
def remaining (machine : Machine World) : Nat :=
  if machine.counter.toInt < 0 then 0 else machine.program.length - machine.counter.toInt.toNat

theorem remaining_pos
    {address : Nat}
    {instruction : Instruction}
    (found : machine.next? = some (address, instruction)) :
    0 < machine.remaining := by
  obtain ⟨-, counter_eq, get_eq⟩ := next?_eq_some_iff.mp found
  have inside := Program.lt_length_of_get? get_eq
  rw [remaining, if_neg (by omega)]
  omega

/-! ## Where a step leaves the program counter -/

variable [Console World]

/-- An instruction leaves the program counter alone unless it is a jump whose condition is met. -/
theorem Exec.counter_of_instruction
    {instruction : Instruction}
    (executed : Exec.instruction instruction machine = .ok () after) :
    match instruction.jumpAddress? machine.storage with
    | some address => machine.storage.value address = .ok after.counter
    | none => after.counter = machine.counter := by
  have unmoved (notJump : instruction.isJump = false) : after.counter = machine.counter := by
    have kept := instruction_keeps_counter notJump machine
    rwa [Stateful.next, executed] at kept
  cases instruction with
  | jump condition source address =>
      obtain ⟨tested, tested_eq, continued⟩ := examine_bind_eq_ok_iff.mp executed
      simp only [Instruction.jumpAddress?, Storage.meets, tested_eq]
      split at continued
      · rename_i holds
        obtain ⟨target, target_eq, moved⟩ := examine_bind_eq_ok_iff.mp continued
        cases moved
        rw [if_pos holds]
        exact target_eq
      · rename_i fails
        cases continued
        rw [if_neg fails]
  | _ => exact unmoved rfl

/-- A step moves the program counter to the next instruction, or to the address of a jump whose
condition is met. -/
theorem counter_of_step
    (stepped : step machine = .ok true after) :
    ∃ address instruction,
      machine.next? = some (address, instruction) ∧
      match instruction.jumpAddress? machine.storage with
      | some operand => machine.storage.value operand = .ok after.counter
      | none => after.counter = machine.counter + 1 := by
  obtain ⟨address, instruction, found, executed⟩ := step_eq_true_iff.mp stepped
  exact ⟨address, instruction, found, Exec.counter_of_instruction executed⟩

/-- The program counter grows when it moves past an instruction, unless it wraps around to a
negative word. -/
theorem toInt_add_one_cases (counter : Word) :
    (counter + 1).toInt < 0 ∨ counter.toInt < (counter + 1).toInt := by
  have upper := counter.toInt_lt
  have lower := counter.le_toInt
  rw [Int64.toInt_add, Int64.toInt_one]
  by_cases isLast : counter.toInt = 9223372036854775807
  · left
    rw [isLast]
    decide
  · right
    rw [Int.bmod_eq_of_le (by omega) (by omega)]
    omega

/-- In a program that jumps forward, a step takes the program counter forward or below zero. -/
theorem counter_of_step_of_forward
    (forward : machine.program.JumpsForward)
    (stepped : step machine = .ok true after) :
    after.counter.toInt < 0 ∨ machine.counter.toInt < after.counter.toInt := by
  obtain ⟨place, instruction, found, moved⟩ := counter_of_step stepped
  obtain ⟨-, counter_eq, get_eq⟩ := next?_eq_some_iff.mp found
  cases jumps : instruction.jumpAddress? machine.storage with
  | none =>
      rw [jumps] at moved
      rw [moved]
      exact toInt_add_one_cases machine.counter
  | some operand =>
      rw [jumps] at moved
      cases instruction with
      | jump condition source address =>
          obtain ⟨target, rfl, ahead⟩ := forward place condition source address get_eq
          simp only [Instruction.jumpAddress?] at jumps
          split at jumps
          · cases jumps
            cases moved
            rwa [counter_eq]
          · cases jumps
      | _ => cases jumps

/-! ## Running to the end -/

theorem remaining_lt_of_step
    (forward : machine.program.JumpsForward)
    (stepped : step machine = .ok true after) :
    after.remaining < machine.remaining := by
  obtain ⟨address, instruction, found, -⟩ := step_eq_true_iff.mp stepped
  obtain ⟨-, counter_eq, get_eq⟩ := next?_eq_some_iff.mp found
  have inside := Program.lt_length_of_get? get_eq
  have ahead := counter_of_step_of_forward forward stepped
  simp only [remaining, (frame_of_step_eq_true stepped).1]
  split <;> split <;> omega

/-- In a program that jumps forward, a machine dispatches instructions at ever greater addresses up
to an end, and no more than lie ahead of it. -/
theorem exists_dispatches_of_forward
    (machine : Machine World)
    (forward : machine.program.JumpsForward) :
    ∃ entries result,
      Dispatches machine entries result ∧
      entries.length ≤ machine.remaining ∧
      (∀ entry ∈ entries, machine.counter.toInt ≤ entry.1.toInt) ∧
      (entries.map fun entry => entry.1.toInt).Pairwise (· < ·) := by
  induction ahead : machine.remaining using Nat.strongRecOn generalizing machine with
  | ind count inductionHypothesis =>
      subst ahead
      rcases step_cases machine with ⟨after, stepped⟩ | ⟨nothing, -⟩ | ⟨trap, after, failed⟩
      · obtain ⟨address, instruction, found, executed⟩ := step_eq_true_iff.mp stepped
        obtain ⟨isRunning, counter_eq, get_eq⟩ := next?_eq_some_iff.mp found
        have fewer := remaining_lt_of_step forward stepped
        have moved := counter_of_step_of_forward forward stepped
        rw [← (frame_of_step_eq_true stepped).1] at forward
        obtain ⟨entries, result, dispatched, bounded, later, ascending⟩ :=
          inductionHypothesis _ fewer after forward rfl
        -- A machine whose program counter is negative dispatches nothing more.
        have behind : ∀ entry ∈ entries, machine.counter.toInt < entry.1.toInt := by
          intro entry isMember
          rcases moved with negative | grown
          · have nothing : after.next? = none := next?_eq_none_iff.mpr (.inr (.inl negative))
            rw [(dispatched.of_next?_eq_none nothing).1] at isMember
            cases isMember
          · exact Int.lt_of_lt_of_le grown (later entry isMember)
        refine ⟨_, result, .executes isRunning counter_eq get_eq executed dispatched, ?_, ?_, ?_⟩
        · rw [List.length_cons]
          omega
        · refine List.forall_mem_cons.mpr ⟨Int.le_refl _, ?_⟩
          intro entry isMember
          exact Int.le_of_lt (behind entry isMember)
        · rw [List.map_cons, List.pairwise_cons]
          exact ⟨List.forall_mem_map.mpr behind, ascending⟩
      · refine ⟨[], _, .stops (next?_eq_none_iff.mp nothing), Nat.zero_le _, ?_, .nil⟩
        simp
      · obtain ⟨instruction, last, found, executed, -⟩ := step_eq_error_iff.mp failed
        obtain ⟨isRunning, counter_eq, get_eq⟩ := next?_eq_some_iff.mp found
        refine ⟨_, _, .fails isRunning counter_eq get_eq executed, remaining_pos found, ?_, ?_⟩
        · simp
        · exact List.pairwise_singleton _ _

/-- A batch as large as the number of instructions that are dispatched ends as the run does, since
it finds nothing left to execute. -/
theorem Dispatches.execute_eq
    {entries : List (Word × Instruction)}
    {result : EStateM.Result Trap (Machine World) Unit}
    (dispatched : Dispatches machine entries result) :
    Machine.execute entries.length machine = answerOfRun result := by
  induction dispatched with
  | stops noInstruction =>
      exact execute_of_next?_eq_none (next?_eq_none_iff.mpr noInstruction) 0
  | executes isRunning pointed found executed _ inductionHypothesis =>
      have next_eq := next?_eq_some_iff.mpr ⟨isRunning, pointed, found⟩
      have stepped := step_eq_true_iff.mpr ⟨_, _, next_eq, executed⟩
      simp only [List.length_cons, Machine.execute, stepped]
      exact inductionHypothesis
  | fails isRunning pointed found failed =>
      have next_eq := next?_eq_some_iff.mpr ⟨isRunning, pointed, found⟩
      simp only [List.length_singleton, Machine.execute, step_of_next?_eq_some next_eq, failed]
      rfl

/-- Batches that are large enough, and runs with a bound that is large enough, end as the
instructions that are dispatched do. -/
theorem Dispatches.ends
    {entries : List (Word × Instruction)}
    {result : EStateM.Result Trap (Machine World) Unit}
    {cycles : Nat}
    (dispatched : Dispatches machine entries result)
    (enough : entries.length ≤ cycles) :
    Machine.execute cycles machine = answerOfRun result ∧
    Machine.run (cycles + 1) machine = some result := by
  obtain ⟨more, rfl⟩ := Nat.exists_eq_add_of_le enough
  have final :
      finalAnswer (Machine.execute entries.length machine) = some (answerOfRun result) := by
    rw [dispatched.execute_eq, finalAnswer_answerOfRun]
  have executed := execute_add_of_finalAnswer final more
  have finalLater :
      finalAnswer (Machine.execute (entries.length + more) machine) =
        some (answerOfRun result) := by
    rw [executed, finalAnswer_answerOfRun]
  obtain ⟨other, run_eq, same⟩ := exists_run_of_execute finalLater
  refine ⟨executed, ?_⟩
  rwa [answerOfRun_inj.mp same]

/-- A program that jumps forward always stops. Its instructions are executed at ever greater
addresses, so each at most once. A batch as large as the program does not leave the machine
running, and the run ends as that batch does. -/
theorem forward_jumping_program_stops
    (program : Program)
    (forward : program.JumpsForward)
    (console : World) :
    ∃ entries result,
      Dispatches { program, console } entries result ∧
      (entries.map fun entry => entry.1.toInt).Pairwise (· < ·) ∧
      entries.length ≤ program.length ∧
      execute program.length { program, console } = answerOfRun result ∧
      (∀ after, execute program.length { program, console } ≠ .ok .running after) ∧
      ∀ bound, program.length < bound → run bound { program, console } = some result := by
  obtain ⟨entries, result, dispatched, bounded, -, ascending⟩ :=
    exists_dispatches_of_forward { program, console } forward
  have enough : entries.length ≤ program.length := bounded
  have executed := (dispatched.ends enough).1
  refine ⟨entries, result, dispatched, ascending, enough, executed, ?_, ?_⟩
  · intro after stillRunning
    rw [stillRunning] at executed
    cases result <;> cases executed
  · intro bound isLarger
    obtain ⟨more, rfl⟩ := Nat.exists_eq_add_of_lt isLarger
    exact (dispatched.ends (Nat.le_add_right_of_le enough)).2

/-- A machine that executes its whole program, with a jump to the next instruction on the way, and
leaves it by a jump to a negative address. -/
def straight : Machine ByteConsole where
  program := .ofList
    [.jump .zero (.register ⟨0⟩) (.literal 1),
      .write (.literal 4),
      .jump .positive (.literal 1) (.literal (-7))]
  console := { input := [], sink := {} }

/-- The last of as many cycles as there are instructions takes the machine out of its program, and
the batch answers that it has stopped. -/
theorem straight_stops :
    straight.program.JumpsForward ∧
    ∃ after,
      after.console.sink.written = "4\n" ∧
      execute 2 straight = .ok .running
        { straight with counter := 2, console := { input := [], sink := { written := "4\n" } } } ∧
      execute 3 straight = .ok .stopped after ∧
      ∀ bound, 3 < bound → run bound straight = some (.ok () after) := by
  have forward : straight.program.JumpsForward := by
    intro place condition source address get_eq
    rcases place with _ | _ | _ | place
    · cases get_eq
      exact ⟨1, rfl, .inr (by decide)⟩
    · cases get_eq
    · cases get_eq
      exact ⟨-7, rfl, .inl (by decide)⟩
    · cases get_eq
  let last : Machine ByteConsole :=
    { straight with
      counter := -7
      running := false
      console := { input := [], sink := { written := "4\n" } } }
  have stopped : execute 3 straight = .ok .stopped last := by decide +kernel
  obtain ⟨entries, result, -, -, -, executed, -, run_eq⟩ :=
    forward_jumping_program_stops straight.program forward straight.console
  have same : answerOfRun result = answerOfRun (.ok () last) := executed.symm.trans stopped
  rw [answerOfRun_inj.mp same] at run_eq
  exact ⟨forward, last, rfl, by decide +kernel, stopped, run_eq⟩

end Machine
end RegisterMachine
