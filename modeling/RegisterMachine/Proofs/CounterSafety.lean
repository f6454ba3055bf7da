import RegisterMachine.Proofs.ForwardJumps

/-!
# Safe use of the program counter

A jump can set the program counter to any word. A step puts the counter to three
uses: its bits are taken as an index, the instruction at the index is looked up,
and the counter is moved by one. Each of them can go wrong for some words. A
checked step breaks down where one does. Since a step compares the counter with
the bounds of the program before all three uses, a checked step never breaks
down and does what a step does, provided that every address of the program, and
the one behind it, is a word.
-/

namespace RegisterMachine

namespace Machine

variable {World : Type}
variable {machine after : Machine World}
variable {address : Nat}
variable {instruction : Instruction}

/-- The number that the bits of the program counter stand for when they are taken as unsigned. -/
def index (machine : Machine World) : Nat :=
  machine.counter.toUInt64.toNat

/-- Unless the program counter is negative, its bits stand for the same number when they are taken
as unsigned. -/
theorem index_eq_counter
    (nonnegative : 0 ≤ machine.counter) :
    (machine.index : Int) = machine.counter.toInt := by
  rw [index, Int64.toNat_toUInt64_of_le nonnegative, ← Int64.toNat_toInt]
  apply Int.toNat_of_nonneg
  rwa [Int64.le_iff_toInt_le, Int64.toInt_zero] at nonnegative

theorem address?_eq_some_iff_index :
    machine.address? = some address ↔
      0 ≤ machine.counter ∧ machine.index = address ∧ address < machine.program.length := by
  rw [address?_eq_some_iff]
  constructor
  · rintro ⟨counter_eq, inside⟩
    have nonnegative : 0 ≤ machine.counter := by
      rw [Int64.le_iff_toInt_le, Int64.toInt_zero]
      omega
    have sameNumber := index_eq_counter nonnegative
    exact ⟨nonnegative, by omega, inside⟩
  · rintro ⟨nonnegative, index_eq, inside⟩
    rw [← index_eq_counter nonnegative, index_eq]
    exact ⟨rfl, inside⟩

/-- The word behind the program counter is there when an instruction is executed. -/
theorem ofInt?_counter_add_one
    (short : machine.program.length ≤ 9223372036854775807)
    (found : machine.next? = some (address, instruction)) :
    Word.ofInt? (machine.counter.toInt + 1) = some machine.advanced.counter := by
  obtain ⟨-, counter_eq, get_eq⟩ := next?_eq_some_iff.mp found
  have inside := Program.lt_length_of_get? get_eq
  rw [Word.ofInt?, if_pos (by omega), ← toInt_counter_add_one short found, Int64.ofInt_toInt]
  rfl

/-! ## Checked steps -/

variable [Console World]

/-- A step in which each use of the program counter is checked. It breaks down when the index is
not what the counter stands for, when there is no instruction at the index, or when no word
follows the counter. -/
def checkedStep (machine : Machine World) : Option (EStateM.Result Trap (Machine World) Bool) :=
  if machine.counter < 0 then some (.ok false machine.halt)
  else if (machine.index : Int) ≠ machine.counter.toInt then none
  else if machine.program.length ≤ machine.index ∨ machine.running = false then
    some (.ok false machine.halt)
  else do
    let instruction ← machine.program.get? machine.index
    let counter ← Word.ofInt? (machine.counter.toInt + 1)
    return match Exec.instruction instruction { machine with counter } with
      | .ok () after => .ok true after
      | .error fault after => .error ⟨machine.index, fault⟩ after.halt

theorem checkedStep_of_next?_eq_some
    (short : machine.program.length ≤ 9223372036854775807)
    (found : machine.next? = some (address, instruction)) :
    machine.checkedStep = some (step machine) := by
  obtain ⟨isRunning, counter_eq, get_eq⟩ := next?_eq_some_iff.mp found
  have inside := Program.lt_length_of_get? get_eq
  obtain ⟨nonnegative, index_eq, -⟩ :=
    address?_eq_some_iff_index.mp (address?_eq_some_iff.mpr ⟨counter_eq, inside⟩)
  have goesOn : ¬(machine.program.length ≤ address ∨ machine.running = false) := by
    rw [isRunning]
    simpa using inside
  rw [checkedStep, if_neg (Int64.not_lt.mpr nonnegative), index_eq,
    if_neg (not_not.mpr counter_eq.symm), if_neg goesOn, get_eq,
    ofInt?_counter_add_one short found, step_of_next?_eq_some found]
  rfl

theorem checkedStep_of_next?_eq_none
    (nothing : machine.next? = none) :
    machine.checkedStep = some (step machine) := by
  rw [step_of_next?_eq_none nothing, checkedStep]
  by_cases negative : machine.counter < 0
  · rw [if_pos negative]
  · have sameNumber := index_eq_counter (Int64.not_lt.mp negative)
    have stops : machine.program.length ≤ machine.index ∨ machine.running = false := by
      rcases next?_eq_none_iff.mp nothing with stopped | below | behind
      · exact .inr stopped
      · omega
      · exact .inl (by omega)
    rw [if_neg negative, if_neg (not_not.mpr sameNumber), if_pos stops]

/-- No use of the program counter goes wrong, so the checks make no difference. -/
theorem checkedStep_eq_step
    (short : machine.program.length ≤ 9223372036854775807) :
    machine.checkedStep = some (step machine) := by
  cases found : machine.next? with
  | none => exact checkedStep_of_next?_eq_none found
  | some entry => exact checkedStep_of_next?_eq_some short found

/-- A step moves the program counter by one, without wrapping around, or to the address of a jump
whose condition is met. -/
theorem toInt_counter_of_step
    (short : machine.program.length ≤ 9223372036854775807)
    (stepped : step machine = .ok true after) :
    ∃ address instruction,
      machine.next? = some (address, instruction) ∧
      match instruction.jumpAddress? machine.storage with
      | some operand => machine.storage.value operand = .ok after.counter
      | none => after.counter.toInt = machine.counter.toInt + 1 := by
  obtain ⟨address, instruction, found, moved⟩ := counter_of_step stepped
  refine ⟨address, instruction, found, ?_⟩
  cases jumps : instruction.jumpAddress? machine.storage with
  | some operand =>
      rw [jumps] at moved
      exact moved
  | none =>
      rw [jumps] at moved
      rw [moved, toInt_counter_add_one short found]

/-- In every state that a machine comes to, whatever it is called on to do and wherever its program
jumps, the program counter can be used. Unless it is negative, its bits are the index that it stands
for. Where it points into the program, there is an instruction, and a step that executes it moves
the counter past it without wrapping around. So the checks of a checked step make no difference. The
counter is left one further on, or at the address of a jump whose condition is met. -/
theorem counter_is_safe_to_use
    (program : Program)
    (short : program.length ≤ 9223372036854775807)
    (console : World)
    (exchanges : List (Call × Answer))
    (machine state : Machine World)
    (undergone : Undergoes { program, console } exchanges machine)
    (reaches : machine.Reaches state) :
    (0 ≤ state.counter → (state.index : Int) = state.counter.toInt) ∧
    (∀ address,
      state.address? = some address ↔
        0 ≤ state.counter ∧ state.index = address ∧ address < program.length) ∧
    (∀ address,
      state.address? = some address →
        ∃ instruction,
          program.get? address = some instruction ∧
          (state.running = true →
            state.next? = some (address, instruction) ∧
            (state.counter + 1).toInt = state.counter.toInt + 1)) ∧
    state.checkedStep = some (step state) ∧
    ∀ after, step state = .ok true after →
      ∃ address instruction,
        state.next? = some (address, instruction) ∧
        match instruction.jumpAddress? state.storage with
        | some operand => state.storage.value operand = .ok after.counter
        | none => after.counter.toInt = state.counter.toInt + 1 := by
  have program_eq : state.program = program :=
    reaches.program_eq.trans undergone.program_eq
  subst program_eq
  refine ⟨index_eq_counter, ?_, ?_, checkedStep_eq_step short, ?_⟩
  · intro address
    exact address?_eq_some_iff_index
  · intro address found
    obtain ⟨counter_eq, inside⟩ := address?_eq_some_iff.mp found
    obtain ⟨instruction, get_eq⟩ := Option.ne_none_iff_exists'.mp
      (mt Program.get?_eq_none_iff.mp (Nat.not_le.mpr inside))
    refine ⟨instruction, get_eq, ?_⟩
    intro isRunning
    have next_eq := next?_eq_some_iff.mpr ⟨isRunning, counter_eq, get_eq⟩
    exact ⟨next_eq, toInt_counter_add_one short next_eq⟩
  · intro after stepped
    exact toInt_counter_of_step short stepped

/-- A machine that computes the least word, by wrapping around, and jumps to it. -/
def leap : Machine ByteConsole where
  program :=
    .ofList
      [.arith .add (.literal 9223372036854775807) (.literal 1) ⟨0⟩,
        .jump .negative (.register ⟨0⟩) (.register ⟨0⟩)]
  console := { input := [], sink := {} }

/-- The jump is taken to the least word, where the machine finds nothing to execute. -/
theorem leap_leaves_program :
    ∃ state after,
      leap.Undergoes [(.step, .stepped true)] state ∧
      state.Reaches after ∧
      state.storage.value (.register ⟨0⟩) = .ok after.counter ∧
      after.counter = -9223372036854775808 ∧
      state.checkedStep = some (.ok true after) ∧
      after.checkedStep = some (.ok false after.halt) := by
  let state : Machine ByteConsole :=
    { leap with
      storage :=
        { registers :=
            ⟨#v[-9223372036854775808, 0, 0, 0, 0, 0, 0, 0, 0, 0, 0, 0, 0, 0, 0, 0]⟩ }
      counter := 1 }
  let after : Machine ByteConsole := { state with counter := -9223372036854775808 }
  have first : step leap = .ok true state := by decide +kernel
  have stepped : step state = .ok true after := by decide +kernel
  have stopped : step after = .ok false after.halt := by decide +kernel
  have undergone : leap.Undergoes [(.step, .stepped true)] state :=
    .cons (.step (by rw [first]; rfl)) .nil
  have reaches : state.Reaches after := .single stepped
  have short : leap.program.length ≤ 9223372036854775807 := by decide
  obtain ⟨-, -, -, checked, moves⟩ :=
    counter_is_safe_to_use leap.program short leap.console _ state state undergone .refl
  obtain ⟨-, -, -, checkedAfter, -⟩ :=
    counter_is_safe_to_use leap.program short leap.console _ state after undergone reaches
  obtain ⟨address, instruction, found, moved⟩ := moves after stepped
  cases found
  exact ⟨state, after, undergone, reaches, moved, rfl, checked.trans (congrArg some stepped),
    checkedAfter.trans (congrArg some stopped)⟩

end Machine
end RegisterMachine
