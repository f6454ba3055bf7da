import RegisterMachine.Machine.Execution
import RegisterMachine.Stateful

/-!
# Steps

What a step is made of. There is an instruction to execute exactly when the
machine is running and the program counter points into the program. A step then
moves the program counter past the instruction and executes it, and it fails
when the instruction does. No instruction changes the program, and none stops
the machine: that is done by the step, when there is no instruction or when the
instruction has failed.
-/

namespace RegisterMachine

namespace Stateful

variable {ε σ τ α β : Type}

/-- A computation that leaves a view of the state as it is, whether it fails or not. -/
def Keeps (view : σ → τ) (act : EStateM ε σ α) : Prop :=
  ∀ state, view (next act state) = view state

theorem Keeps.bind
    {view : σ → τ}
    {first : EStateM ε σ α}
    {second : α → EStateM ε σ β}
    (firstKeeps : Keeps view first)
    (secondKeeps : ∀ value, Keeps view (second value)) :
    Keeps view (first >>= second) := by
  intro state
  have kept := firstKeeps state
  simp only [next, Bind.bind, EStateM.bind] at kept ⊢
  cases ended : first state with
  | ok value middle =>
      rw [ended] at kept
      exact (secondKeeps value middle).trans kept
  | error error middle =>
      rw [ended] at kept
      exact kept

end Stateful

namespace Program

variable {program : Program}
variable {address : Nat}

theorem get?_eq_none_iff :
    program.get? address = none ↔ program.length ≤ address := by
  unfold get? length
  exact Array.getElem?_eq_none_iff

theorem lt_length_of_get?
    {instruction : Instruction}
    (found : program.get? address = some instruction) :
    address < program.length := by
  apply Nat.lt_of_not_le
  intro outside
  rw [get?_eq_none_iff.mpr outside] at found
  cases found

end Program

namespace Machine

variable {World : Type}
variable {machine after : Machine World}
variable {address : Nat}
variable {instruction : Instruction}

/-! ## The next instruction -/

theorem address?_eq_some_iff :
    machine.address? = some address ↔
      machine.counter.toInt = address ∧ address < machine.program.length := by
  simp only [address?, Int64.lt_iff_toInt_lt, Int64.toInt_zero]
  by_cases negative : machine.counter.toInt < 0
  · rw [if_pos negative]
    simp only [reduceCtorEq, false_iff]
    omega
  · rw [if_neg negative]
    by_cases inside : machine.counter.toInt.toNat < machine.program.length
    · rw [if_pos inside, Option.some.injEq]
      omega
    · rw [if_neg inside]
      simp only [reduceCtorEq, false_iff]
      omega

/-- A step executes the instruction that the program counter of a running machine points to. -/
theorem next?_eq_some_iff :
    machine.next? = some (address, instruction) ↔
      machine.running = true ∧
      machine.counter.toInt = address ∧
      machine.program.get? address = some instruction := by
  unfold next?
  split
  · rename_i isRunning
    simp only [isRunning, true_and, bind, Option.bind_eq_some_iff, address?_eq_some_iff, pure,
      Option.some.injEq, Prod.mk.injEq]
    constructor
    · rintro ⟨pointedTo, ⟨counter_eq, -⟩, found, get_eq, rfl, rfl⟩
      exact ⟨counter_eq, get_eq⟩
    · rintro ⟨counter_eq, get_eq⟩
      exact ⟨address, ⟨counter_eq, Program.lt_length_of_get? get_eq⟩, instruction, get_eq, rfl, rfl⟩
  · rename_i stopped
    simp [stopped]

/-- There is nothing to execute when the machine has stopped or the program counter has left the
program. -/
theorem next?_eq_none_iff :
    machine.next? = none ↔
      machine.running = false ∨
      machine.counter.toInt < 0 ∨ machine.program.length ≤ machine.counter.toInt := by
  cases found : machine.next? with
  | some entry =>
      obtain ⟨isRunning, counter_eq, get_eq⟩ := next?_eq_some_iff.mp found
      have inside := Program.lt_length_of_get? get_eq
      simp only [isRunning, reduceCtorEq, false_or, false_iff]
      omega
  | none =>
      simp only [true_iff]
      cases isRunning : machine.running with
      | false => exact .inl rfl
      | true =>
          right
          by_cases inside :
              0 ≤ machine.counter.toInt ∧ machine.counter.toInt < machine.program.length
          · exfalso
            cases get_eq : machine.program.get? machine.counter.toInt.toNat with
            | none =>
                have outside := Program.get?_eq_none_iff.mp get_eq
                omega
            | some instruction =>
                have next_eq := next?_eq_some_iff.mpr
                  ⟨isRunning, (Int.toNat_of_nonneg inside.1).symm, get_eq⟩
                rw [found] at next_eq
                cases next_eq
          · omega

/-- The program counter does not wrap around when it moves past an instruction. -/
theorem toInt_counter_add_one
    (short : machine.program.length ≤ 9223372036854775807)
    (found : machine.next? = some (address, instruction)) :
    (machine.counter + 1).toInt = machine.counter.toInt + 1 := by
  obtain ⟨-, counter_eq, get_eq⟩ := next?_eq_some_iff.mp found
  have inside := Program.lt_length_of_get? get_eq
  rw [Int64.toInt_add, Int64.toInt_one]
  apply Int.bmod_eq_of_le <;> omega

theorem halt_of_stopped
    (stopped : machine.running = false) :
    machine.halt = machine := by
  unfold halt
  rw [← stopped]

/-! ## One step -/

/-- The machine with the program counter moved past the next instruction. -/
def advanced (machine : Machine World) : Machine World :=
  { machine with counter := machine.counter + 1 }

section Step

variable [Console World]

theorem step_of_next?_eq_none
    (noInstruction : machine.next? = none) :
    step machine = .ok false machine.halt := by
  simp only [step, noInstruction]

theorem step_of_next?_eq_some
    (found : machine.next? = some (address, instruction)) :
    step machine =
      match Exec.instruction instruction machine.advanced with
      | .ok () after => .ok true after
      | .error fault failed => .error ⟨address, fault⟩ failed.halt := by
  simp only [step, found]
  rfl

theorem step_eq_true_iff :
    step machine = .ok true after ↔
      ∃ address instruction,
        machine.next? = some (address, instruction) ∧
        Exec.instruction instruction machine.advanced = .ok () after := by
  constructor
  · intro stepped
    cases found : machine.next? with
    | none =>
        simp only [step, found] at stepped
        cases stepped
    | some entry =>
        obtain ⟨address, instruction⟩ := entry
        rw [step_of_next?_eq_some found] at stepped
        refine ⟨address, instruction, rfl, ?_⟩
        split at stepped
        · rename_i ended
          cases stepped
          exact ended
        · cases stepped
  · rintro ⟨address, instruction, found, ended⟩
    rw [step_of_next?_eq_some found, ended]

theorem next?_eq_none_of_step_eq_false
    (stepped : step machine = .ok false after) :
    machine.next? = none ∧ after = machine.halt := by
  cases found : machine.next? with
  | none =>
      simp only [step, found] at stepped
      cases stepped
      exact ⟨rfl, rfl⟩
  | some entry =>
      rw [step_of_next?_eq_some found] at stepped
      split at stepped
      · cases stepped
      · cases stepped

theorem step_eq_error_iff
    {trap : Trap} :
    step machine = .error trap after ↔
      ∃ instruction failed,
        machine.next? = some (trap.address, instruction) ∧
        Exec.instruction instruction machine.advanced = .error trap.fault failed ∧
        after = failed.halt := by
  constructor
  · intro stepped
    cases found : machine.next? with
    | none =>
        simp only [step, found] at stepped
        cases stepped
    | some entry =>
        obtain ⟨address, instruction⟩ := entry
        rw [step_of_next?_eq_some found] at stepped
        split at stepped
        · cases stepped
        · rename_i fault failed ended
          cases stepped
          exact ⟨instruction, failed, rfl, ended, rfl⟩
  · rintro ⟨instruction, failed, found, ended, rfl⟩
    rw [step_of_next?_eq_some found, ended]

/-- A step executes an instruction, or there is none to execute, or the instruction fails. -/
theorem step_cases (machine : Machine World) :
    (∃ after, step machine = .ok true after) ∨
    (machine.next? = none ∧ step machine = .ok false machine.halt) ∨
    ∃ trap after, step machine = .error trap after := by
  cases stepped : step machine with
  | ok didExecute after =>
      cases didExecute with
      | true => exact .inl ⟨after, rfl⟩
      | false =>
          obtain ⟨nothing, rfl⟩ := next?_eq_none_of_step_eq_false stepped
          exact .inr (.inl ⟨nothing, rfl⟩)
  | error trap after => exact .inr (.inr ⟨trap, after, rfl⟩)

end Step

/-! ## What stays the same -/

/-- What no instruction changes: the program, and whether the machine is running. -/
def frame (machine : Machine World) : Program × Bool :=
  (machine.program, machine.running)

namespace Exec

section Keeps

variable {τ : Type}
variable {view : Machine World → τ}

theorem examine_keeps
    {α : Type}
    (look : Storage → Except Fault α) :
    Stateful.Keeps view (examine look) := by
  intro machine
  simp only [Stateful.next, examine]
  cases look machine.storage <;> rfl

theorem store_keeps
    (storing : ∀ machine storage, view { machine with storage } = view machine)
    (word : Word)
    (location : Location) :
    Stateful.Keeps view (store word location) := by
  apply (examine_keeps _).bind
  intro storage machine
  exact storing machine storage

theorem onConsole_keeps
    {α : Type}
    (changing : ∀ machine console, view { machine with console } = view machine)
    (act : EStateM Report World α) :
    Stateful.Keeps view (onConsole act) := by
  intro machine
  simp only [Stateful.next, onConsole]
  cases act machine.console <;> exact changing machine _

/-- An instruction leaves a view of the machine as it is, also when it fails, if the view does not
depend on the storage and, where the instruction reads, writes or jumps, not on that either. -/
theorem instruction_keeps_view
    [Console World]
    {instruction : Instruction}
    (storing : ∀ machine storage, view { machine with storage } = view machine)
    (reading :
      ∀ target, instruction = .read target →
        Stateful.Keeps view (onConsole Console.read))
    (writing :
      ∀ source word, instruction = .write source →
        Stateful.Keeps view (onConsole (Console.write word)))
    (jumping :
      ∀ condition source address, instruction = .jump condition source address →
        ∀ machine counter, view { machine with counter } = view machine) :
    Stateful.Keeps view (Exec.instruction instruction) := by
  cases instruction with
  | copy source target =>
      apply (examine_keeps _).bind
      intro word
      exact store_keeps storing word (.register target)
  | load address target =>
      apply (examine_keeps _).bind
      intro word
      exact store_keeps storing word (.register target)
  | store source address =>
      apply (examine_keeps _).bind
      intro word
      exact store_keeps storing word address.location
  | arith op lhs rhs target =>
      apply (examine_keeps _).bind
      intro left
      apply (examine_keeps _).bind
      intro right
      exact store_keeps storing (op.apply left right) (.register target)
  | read target =>
      apply (reading target rfl).bind
      intro word
      exact store_keeps storing word (.register target)
  | write source =>
      apply (examine_keeps _).bind
      intro word
      exact writing source word rfl
  | jump condition source address =>
      apply (examine_keeps _).bind
      intro tested
      split
      · apply (examine_keeps _).bind
        intro target machine
        exact jumping condition source address rfl machine target
      · exact fun machine => rfl

end Keeps

variable [Console World]

/-- An instruction leaves the program alone and does not stop the machine, also when it fails. -/
theorem instruction_keeps (instruction : Instruction) :
    Stateful.Keeps frame (Exec.instruction instruction : Exec World Unit) := by
  apply instruction_keeps_view
  · exact fun machine storage => rfl
  · intro target _
    exact onConsole_keeps (fun machine console => rfl) _
  · intro source word _
    exact onConsole_keeps (fun machine console => rfl) _
  · exact fun condition source address _ machine counter => rfl

/-- Only a jump sets the program counter. -/
theorem instruction_keeps_counter
    {instruction : Instruction}
    (notJump : instruction.isJump = false) :
    Stateful.Keeps counter (Exec.instruction instruction : Exec World Unit) := by
  apply instruction_keeps_view
  · exact fun machine storage => rfl
  · intro target _
    exact onConsole_keeps (fun machine console => rfl) _
  · intro source word _
    exact onConsole_keeps (fun machine console => rfl) _
  · rintro condition source address rfl
    cases notJump

end Exec

variable [Console World]

/-- A step that executes an instruction leaves the machine running, with the same program. -/
theorem frame_of_step_eq_true
    (stepped : step machine = .ok true after) :
    after.program = machine.program ∧ after.running = true := by
  obtain ⟨address, instruction, found, ended⟩ := step_eq_true_iff.mp stepped
  obtain ⟨isRunning, -, -⟩ := next?_eq_some_iff.mp found
  have kept := Exec.instruction_keeps instruction machine.advanced
  rw [Stateful.next, ended] at kept
  obtain ⟨program_eq, running_eq⟩ := Prod.mk.inj kept
  exact ⟨program_eq, running_eq.trans isRunning⟩

theorem frame_of_step_eq_error
    {trap : Trap}
    (failed : step machine = .error trap after) :
    after.program = machine.program ∧ after.running = false := by
  obtain ⟨instruction, last, -, ended, rfl⟩ := step_eq_error_iff.mp failed
  have kept := Exec.instruction_keeps instruction machine.advanced
  rw [Stateful.next, ended] at kept
  exact ⟨(Prod.mk.inj kept).1, rfl⟩

end Machine
end RegisterMachine
