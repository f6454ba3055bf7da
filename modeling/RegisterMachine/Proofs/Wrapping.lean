import RegisterMachine.Machine.ByteConsole
import RegisterMachine.Proofs.IntegerMachine
import RegisterMachine.Proofs.Steps

/-!
# Wrapping around

The machine follows the reference machine over the integers. Each word it holds
is the integer of the reference machine wrapped around, and wrapping commutes
with the operations, so it is enough to wrap at the end of a computation. Only
jumps look at a word as a number: they compare it with zero and use it as an
address. As long as these integers are words, both machines go the same way.
-/

namespace RegisterMachine

namespace Word

/-- An integer that is a word as it stands. -/
def InRange (n : Int) : Prop :=
  -9223372036854775808 ≤ n ∧ n ≤ 9223372036854775807

instance decidableInRange (n : Int) : Decidable (InRange n) :=
  inferInstanceAs (Decidable (_ ∧ _))

theorem toInt_ofInt_of_inRange
    {n : Int}
    (inRange : InRange n) :
    (Int64.ofInt n).toInt = n := by
  obtain ⟨lower, upper⟩ := inRange
  apply Int64.toInt_ofInt_of_le <;> omega

end Word

/-- Wrapping commutes with the operations. -/
theorem ArithOp.apply_ofInt
    (op : ArithOp)
    (lhs rhs : Int) :
    op.apply (Int64.ofInt lhs) (Int64.ofInt rhs) = Int64.ofInt (op.applyExactly lhs rhs) := by
  cases op with
  | add => exact (Int64.ofInt_add lhs rhs).symm
  | sub => exact (Int64.ofInt_sub lhs rhs).symm
  | mul => exact (Int64.ofInt_mul lhs rhs).symm

/-- Wrapping changes nothing about a condition on an integer that is a word. -/
theorem Condition.holds_ofInt
    (condition : Condition)
    {value : Int}
    (inRange : Word.InRange value) :
    condition.holds (Int64.ofInt value) = condition.holdsExactly value := by
  have same := Word.toInt_ofInt_of_inRange inRange
  cases condition with
  | zero =>
      apply decide_eq_decide.mpr
      rw [← Int64.toInt_inj, same, Int64.toInt_zero]
  | positive =>
      apply decide_eq_decide.mpr
      rw [Int64.lt_iff_toInt_lt, same, Int64.toInt_zero]
  | negative =>
      apply decide_eq_decide.mpr
      rw [Int64.lt_iff_toInt_lt, same, Int64.toInt_zero]

/-! ## Storage -/

/-- Storage that holds the integers of the reference machine, wrapped around to words. -/
structure Storage.Wraps
    (storage : Storage)
    (exact : IntegerStorage) : Prop where
  /-- Each register holds its integer. -/
  registers_eq : storage.registers.words = exact.registers.map Int64.ofInt
  /-- The same cells have been stored to, and each holds its integer. -/
  lookup_eq (address : Word) :
    storage.memory.cells.lookup address = (exact.memory address).map Int64.ofInt

namespace Storage.Wraps

variable {storage : Storage}
variable {exact : IntegerStorage}

theorem initial : Wraps {} {} where
  registers_eq := by
    rw [Vector.map_replicate]
    rfl
  lookup_eq _ := rfl

theorem fetch_eq
    (wraps : storage.Wraps exact)
    (location : Location) :
    storage.fetch location = (exact.fetch location).map Int64.ofInt := by
  cases location with
  | register place =>
      simp only [fetch, IntegerStorage.fetch, Registers.get]
      split
      · simp [wraps.registers_eq, Except.map]
      · rfl
  | cell address =>
      simp only [fetch, IntegerStorage.fetch, Memory.get, wraps.lookup_eq]
      cases exact.memory address <;> rfl

theorem value_eq
    (wraps : storage.Wraps exact)
    (operand : Operand) :
    storage.value operand = (exact.value operand).map Int64.ofInt := by
  cases operand with
  | register place => exact wraps.fetch_eq (.register place)
  | literal word => simp [value, IntegerStorage.value, Except.map]

/-- Storing at a location keeps storage wrapped, and fails for the same locations. -/
theorem store_wraps
    (wraps : storage.Wraps exact)
    (value : Int)
    (location : Location) :
    match exact.store value location with
    | .ok exactAfter =>
        ∃ after, storage.store (Int64.ofInt value) location = .ok after ∧ after.Wraps exactAfter
    | .error fault => storage.store (Int64.ofInt value) location = .error fault := by
  cases location with
  | register place =>
      simp only [IntegerStorage.store, store, Registers.set]
      by_cases inRange : place.number < Register.count
      · simp only [inRange, dif_pos]
        refine ⟨_, rfl, ?_, wraps.lookup_eq⟩
        simp [wraps.registers_eq, Vector.map_set]
      · simp only [inRange, dif_neg, not_false_eq_true]
        rfl
  | cell address =>
      refine ⟨_, rfl, wraps.registers_eq, ?_⟩
      intro other
      simp only [Memory.set, Memory.lookup_insert, wraps.lookup_eq]
      split <;> rfl

end Storage.Wraps

/-! ## Computations -/

/-- The text of some integers, each wrapped around and on a line of its own. -/
def wrappedLines (values : List Int) : String :=
  String.join (values.map fun value => Word.text (Int64.ofInt value) ++ "\n")

/-- A machine that stands where the reference machine stands. Both execute the same program, and
the sink was as given when nothing had been written. -/
structure Machine.Wraps
    {Source : Type}
    (program : Program)
    (sink : Sink)
    (machine : Machine (LineConsole Source Sink))
    (ideal : IntegerMachine Source) : Prop where
  program_eq : machine.program = program
  idealProgram_eq : ideal.program = program
  /-- Every register and every memory cell holds its integer, wrapped around. -/
  storage_wraps : machine.storage.Wraps ideal.storage
  /-- The program counter holds its integer as it stands. -/
  counter_eq : machine.counter.toInt = ideal.counter
  running_eq : machine.running = ideal.running
  input_eq : machine.console.input = ideal.input
  /-- The integers that the reference machine has written are written, wrapped around. -/
  sink_eq :
    machine.console.sink =
      { sink with written := sink.written ++ wrappedLines ideal.written }

/-- Computations on both machines end alike: both succeed, or both fail with the same fault, and
the machines they leave stand at the same place. -/
inductive EndAlike
    {Source : Type}
    {α β : Type}
    (program : Program)
    (sink : Sink)
    (same : α → β → Prop) :
    EStateM.Result Fault (IntegerMachine Source) α →
      EStateM.Result Fault (Machine (LineConsole Source Sink)) β → Prop
  | ok
      {exact : α}
      {wrapped : β}
      {ideal : IntegerMachine Source}
      {machine : Machine (LineConsole Source Sink)} :
      same exact wrapped →
      machine.Wraps program sink ideal →
      EndAlike program sink same (.ok exact ideal) (.ok wrapped machine)
  | error
      {fault : Fault}
      {ideal : IntegerMachine Source}
      {machine : Machine (LineConsole Source Sink)} :
      machine.Wraps program sink ideal →
      EndAlike program sink same (.error fault ideal) (.error fault machine)

/-- A word is an integer wrapped around. -/
def IsWrapped (value : Int) (word : Word) : Prop :=
  word = Int64.ofInt value

section Lockstep

variable {Source α β γ δ : Type}
variable {program : Program}
variable {sink : Sink}
variable {ideal : IntegerMachine Source}
variable {machine : Machine (LineConsole Source Sink)}

theorem EndAlike.bind
    {same : α → β → Prop}
    {sameAfter : γ → δ → Prop}
    {first : IntegerMachine.Exec Source α}
    {first' : Machine.Exec (LineConsole Source Sink) β}
    {second : α → IntegerMachine.Exec Source γ}
    {second' : β → Machine.Exec (LineConsole Source Sink) δ}
    (alike : EndAlike program sink same (first ideal) (first' machine))
    (continued :
      ∀ exact wrapped idealAfter machineAfter,
        first ideal = .ok exact idealAfter →
        same exact wrapped →
        machineAfter.Wraps program sink idealAfter →
        EndAlike program sink sameAfter (second exact idealAfter) (second' wrapped machineAfter)) :
    EndAlike program sink sameAfter ((first >>= second) ideal) ((first' >>= second') machine) := by
  simp only [Bind.bind, EStateM.bind]
  generalize firstEnded : first ideal = ended at alike
  generalize first' machine = ended' at alike
  cases alike with
  | ok isSame wraps => exact continued _ _ _ _ firstEnded isSame wraps
  | error wraps => exact .error wraps

theorem value_endAlike
    (wraps : machine.Wraps program sink ideal)
    (operand : Operand) :
    EndAlike program sink IsWrapped
      (IntegerMachine.Exec.value operand ideal) (Machine.Exec.value operand machine) := by
  simp only [IntegerMachine.Exec.value, IntegerMachine.Exec.examine, Machine.Exec.value,
    Machine.Exec.examine, wraps.storage_wraps.value_eq]
  cases ideal.storage.value operand with
  | ok value => exact .ok rfl wraps
  | error fault => exact .error wraps

theorem fetch_endAlike
    (wraps : machine.Wraps program sink ideal)
    (location : Location) :
    EndAlike program sink IsWrapped
      (IntegerMachine.Exec.fetch location ideal) (Machine.Exec.fetch location machine) := by
  simp only [IntegerMachine.Exec.fetch, IntegerMachine.Exec.examine, Machine.Exec.fetch,
    Machine.Exec.examine, wraps.storage_wraps.fetch_eq]
  cases ideal.storage.fetch location with
  | ok value => exact .ok rfl wraps
  | error fault => exact .error wraps

theorem store_endAlike
    (wraps : machine.Wraps program sink ideal)
    {value : Int}
    {word : Word}
    (isWrapped : IsWrapped value word)
    (location : Location) :
    EndAlike program sink (@Eq Unit)
      (IntegerMachine.Exec.store value location ideal)
      (Machine.Exec.store word location machine) := by
  subst isWrapped
  have stored := wraps.storage_wraps.store_wraps value location
  simp only [IntegerMachine.Exec.store, IntegerMachine.Exec.examine, Machine.Exec.store,
    Machine.Exec.examine, Bind.bind, EStateM.bind]
  cases exactStored : ideal.storage.store value location with
  | ok exactAfter =>
      rw [exactStored] at stored
      obtain ⟨after, stored, storageWraps⟩ := stored
      rw [stored]
      exact .ok rfl { wraps with storage_wraps := storageWraps }
  | error fault =>
      rw [exactStored] at stored
      rw [stored]
      exact .error wraps

theorem read_endAlike
    [LineInput Source]
    (wraps : machine.Wraps program sink ideal) :
    EndAlike program sink IsWrapped
      (IntegerMachine.Exec.read ideal)
      (Machine.Exec.onConsole LineConsole.readInteger machine) := by
  simp only [IntegerMachine.Exec.read, Machine.Exec.onConsole, LineConsole.readInteger,
    wraps.input_eq]
  cases LineInput.readLine ideal.input with
  | ok line input =>
      simp only
      cases integerOfLine line with
      | ok word => exact .ok (Int64.ofInt_toInt word).symm { wraps with input_eq := rfl }
      | error report => exact .error { wraps with input_eq := rfl }
  | error text input => exact .error { wraps with input_eq := rfl }

/-- A sink that takes in whatever is written. -/
def Sink.Accepts (sink : Sink) : Prop :=
  sink.room = none ∧ sink.refusal = none

theorem writeLine_of_accepts
    {sink : Sink}
    (accepts : sink.Accepts)
    (word : Word) :
    writeLine word sink =
      .ok () { sink with written := sink.written ++ (word.text ++ "\n") } := by
  obtain ⟨unlimited, flushes⟩ := accepts
  simp [writeLine, EStateM.adaptExcept, TextOutput.write, TextOutput.flush, Bind.bind,
    EStateM.bind, Sink.append, Sink.flush, unlimited, flushes]

theorem LineConsole.writeInteger_of_accepts
    {console : LineConsole Source Sink}
    (accepts : console.sink.Accepts)
    (word : Word) :
    LineConsole.writeInteger word console =
      .ok ()
        { console with
          sink :=
            { console.sink with written := console.sink.written ++ (word.text ++ "\n") } } := by
  simp only [LineConsole.writeInteger, writeLine_of_accepts accepts]

theorem wrappedLines_append
    (values : List Int)
    (value : Int) :
    wrappedLines (values ++ [value]) =
      wrappedLines values ++ (Word.text (Int64.ofInt value) ++ "\n") := by
  simp [wrappedLines]

theorem write_endAlike
    (accepts : sink.Accepts)
    (wraps : machine.Wraps program sink ideal)
    {value : Int}
    {word : Word}
    (isWrapped : IsWrapped value word) :
    EndAlike program sink (@Eq Unit)
      (IntegerMachine.Exec.write value ideal)
      (Machine.Exec.onConsole (LineConsole.writeInteger word) machine) := by
  subst isWrapped
  have stillAccepts : machine.console.sink.Accepts := by
    rw [wraps.sink_eq]
    exact accepts
  simp only [Machine.Exec.onConsole, LineConsole.writeInteger_of_accepts stillAccepts]
  refine .ok rfl { wraps with sink_eq := ?_ }
  simp only [wrappedLines_append, wraps.sink_eq, String.append_assoc]

/-! ## Steps -/

/-- An instruction does alike on both machines, provided that the integers on which it bases a jump
are words. -/
theorem instruction_endAlike
    [LineInput Source]
    (accepts : sink.Accepts)
    (wraps : machine.Wraps program sink ideal)
    {instruction : Instruction}
    (inRange : ∀ value ∈ instruction.jumpValues ideal.storage, Word.InRange value) :
    EndAlike program sink (@Eq Unit)
      (IntegerMachine.Exec.instruction instruction ideal)
      (Machine.Exec.instruction instruction machine) := by
  cases instruction with
  | copy source target =>
      apply (value_endAlike wraps source).bind
      intro value word _ _ _ isWrapped wraps
      exact store_endAlike wraps isWrapped (.register target)
  | load address target =>
      apply (fetch_endAlike wraps address.location).bind
      intro value word _ _ _ isWrapped wraps
      exact store_endAlike wraps isWrapped (.register target)
  | store source address =>
      apply (value_endAlike wraps source).bind
      intro value word _ _ _ isWrapped wraps
      exact store_endAlike wraps isWrapped address.location
  | arith op lhs rhs target =>
      apply (value_endAlike wraps lhs).bind
      intro left leftWord _ _ _ leftWrapped wraps
      apply (value_endAlike wraps rhs).bind
      intro right rightWord _ _ _ rightWrapped wraps
      apply store_endAlike wraps
      rw [IsWrapped, leftWrapped, rightWrapped, op.apply_ofInt]
  | read target =>
      apply (read_endAlike wraps).bind
      intro value word _ _ _ isWrapped wraps
      exact store_endAlike wraps isWrapped (.register target)
  | write source =>
      apply (value_endAlike wraps source).bind
      intro value word _ _ _ isWrapped wraps
      exact write_endAlike accepts wraps isWrapped
  | jump condition source address =>
      apply (value_endAlike wraps source).bind
      intro tested word idealAfter machineAfter evaluated isWrapped wrapsAfter
      obtain ⟨tested_eq, rfl⟩ := IntegerMachine.Exec.examine_eq_ok_iff.mp evaluated
      have testedInRange := inRange tested (Instruction.tested_mem_jumpValues tested_eq)
      rw [isWrapped, condition.holds_ofInt testedInRange]
      by_cases holds : condition.holdsExactly tested = true
      · rw [if_pos holds, if_pos holds]
        apply (value_endAlike wrapsAfter address).bind
        intro target word idealLast machineLast evaluated isWrapped wrapsLast
        obtain ⟨target_eq, rfl⟩ := IntegerMachine.Exec.examine_eq_ok_iff.mp evaluated
        have targetInRange :=
          inRange target (Instruction.target_mem_jumpValues tested_eq holds target_eq)
        refine .ok rfl { wrapsLast with counter_eq := ?_ }
        rw [isWrapped]
        exact Word.toInt_ofInt_of_inRange targetInRange
      · rw [if_neg holds, if_neg holds]
        exact .ok rfl wrapsAfter

/-- Both machines execute the same instruction next. -/
theorem Machine.Wraps.next?_eq
    (wraps : machine.Wraps program sink ideal) :
    machine.next? = ideal.next? := by
  have address_eq : machine.address? = ideal.address? := by
    simp only [Machine.address?, IntegerMachine.address?, Int64.lt_iff_toInt_lt, Int64.toInt_zero,
      wraps.counter_eq, wraps.program_eq, wraps.idealProgram_eq]
  simp only [Machine.next?, IntegerMachine.next?, wraps.running_eq, wraps.program_eq,
    wraps.idealProgram_eq, address_eq]

/-- A step answers alike on both machines and leaves them at the same place. -/
theorem step_lockstep
    [LineInput Source]
    (short : program.length ≤ 9223372036854775807)
    (accepts : sink.Accepts)
    (wraps : machine.Wraps program sink ideal)
    (inRange : ∀ value ∈ ideal.jumpValues, Word.InRange value) :
    Stateful.answer Machine.step machine = Stateful.answer IntegerMachine.step ideal ∧
      (Stateful.next Machine.step machine).Wraps program sink
        (Stateful.next IntegerMachine.step ideal) := by
  simp only [Stateful.answer, Stateful.next, Machine.step, IntegerMachine.step]
  cases found : machine.next? with
  | none =>
      rw [← wraps.next?_eq, found]
      exact ⟨rfl, { wraps with running_eq := rfl }⟩
  | some entry =>
      obtain ⟨address, instruction⟩ := entry
      have moved :
          Machine.Wraps program sink { machine with counter := machine.counter + 1 }
            { ideal with counter := ideal.counter + 1 } := by
        refine { wraps with counter_eq := ?_ }
        rw [Machine.toInt_counter_add_one (wraps.program_eq ▸ short) found, wraps.counter_eq]
      have idealFound := wraps.next?_eq.symm.trans found
      rw [IntegerMachine.jumpValues, idealFound] at inRange
      have alike := instruction_endAlike accepts moved inRange
      simp only [idealFound]
      generalize
        IntegerMachine.Exec.instruction instruction { ideal with counter := ideal.counter + 1 } =
          idealEnded at alike ⊢
      generalize
        Machine.Exec.instruction instruction { machine with counter := machine.counter + 1 } =
          ended at alike ⊢
      cases alike with
      | ok _ wraps => exact ⟨rfl, wraps⟩
      | error wraps => exact ⟨rfl, { wraps with running_eq := rfl }⟩

/-- Steps answer alike on both machines for as long as the integers that jumps are based on are
words. -/
theorem steps_lockstep
    [LineInput Source]
    (short : program.length ≤ 9223372036854775807)
    (accepts : sink.Accepts)
    (wraps : machine.Wraps program sink ideal)
    (times : Nat)
    (inRange : ∀ before < times,
      ∀ value ∈ (Stateful.after IntegerMachine.step before ideal).jumpValues,
        Word.InRange value) :
    Stateful.answers Machine.step times machine =
        Stateful.answers IntegerMachine.step times ideal ∧
      (Stateful.after Machine.step times machine).Wraps program sink
        (Stateful.after IntegerMachine.step times ideal) := by
  induction times generalizing machine ideal with
  | zero => exact ⟨rfl, wraps⟩
  | succ times inductionHypothesis =>
      obtain ⟨answer_eq, wrapsNext⟩ :=
        step_lockstep short accepts wraps (inRange 0 (Nat.succ_pos times))
      obtain ⟨answers_eq, wrapsAfter⟩ :=
        inductionHypothesis wrapsNext fun before isBefore =>
          inRange (before + 1) (Nat.succ_lt_succ isBefore)
      refine ⟨?_, wrapsAfter⟩
      rw [Stateful.answers, Stateful.answers, answer_eq, answers_eq]

end Lockstep

/-- The machine follows the reference machine over the integers step by step, as long as every
integer that a jump tests and every integer that a taken jump goes to is a word. -/
theorem steps_wrap_around
    {Source : Type}
    [LineInput Source]
    (program : Program)
    (input : Source)
    (sink : Sink)
    (times : Nat)
    (short : program.length ≤ 9223372036854775807)
    (accepts : sink.Accepts)
    (inRange : ∀ before < times,
      ∀ value ∈ (Stateful.after IntegerMachine.step before { program, input }).jumpValues,
        Word.InRange value) :
    ∀ done ≤ times,
      Stateful.answers Machine.step done { program, console := LineConsole.mk input sink } =
          Stateful.answers IntegerMachine.step done { program, input } ∧
        (Stateful.after Machine.step done
            { program, console := LineConsole.mk input sink }).Wraps program sink
          (Stateful.after IntegerMachine.step done { program, input }) := by
  intro done isDone
  have initial :
      Machine.Wraps program sink
        { program, console := { input, sink } } { program, input } :=
    { program_eq := rfl
      idealProgram_eq := rfl
      storage_wraps := .initial
      counter_eq := rfl
      running_eq := rfl
      input_eq := rfl
      sink_eq := by simp [wrappedLines] }
  apply steps_lockstep short accepts initial
  intro before isBefore
  exact inRange before (Nat.lt_of_lt_of_le isBefore isDone)

/-- A program that squares the largest word, moves the square through memory, jumps on a
difference and writes the square. -/
def squareProgram : Program :=
  .ofList
    [.arith .mul (.literal 9223372036854775807) (.literal 9223372036854775807) ⟨0⟩,
      .store (.register ⟨0⟩) (.literal (-5)),
      .load (.literal (-5)) ⟨1⟩,
      .arith .sub (.register ⟨1⟩) (.register ⟨0⟩) ⟨2⟩,
      .jump .zero (.register ⟨2⟩) (.literal 6),
      .write (.literal 0),
      .write (.register ⟨1⟩),
      .read ⟨3⟩]

/-- A machine that executes this program. There is nothing to read for it. -/
def squarer : Machine ByteConsole where
  program := squareProgram
  console := { input := [], sink := {} }

/-- The same over the integers. -/
def exactSquarer : IntegerMachine (List UInt8) where
  program := squareProgram
  input := []

/-- The square of the largest word is written as one, which it is congruent to. -/
theorem square_wraps_around :
    (Stateful.after IntegerMachine.step 7 exactSquarer).written =
      [85070591730234615847396907784232501249] ∧
    (Stateful.after Machine.step 7 squarer).console.sink.written = "1\n" ∧
    Stateful.answers Machine.step 7 squarer =
      Stateful.answers IntegerMachine.step 7 exactSquarer := by
  obtain ⟨answers_eq, wraps⟩ :=
    steps_wrap_around squareProgram ([] : List UInt8) {} 7 (by decide) ⟨rfl, rfl⟩
      (by decide +kernel) 7 (Nat.le_refl 7)
  have written_eq :
      (Stateful.after IntegerMachine.step 7 exactSquarer).written =
        [85070591730234615847396907784232501249] := by
    decide +kernel
  have sink_eq := congrArg Sink.written wraps.sink_eq
  refine ⟨written_eq, sink_eq.trans ?_, answers_eq⟩
  rw [← exactSquarer, written_eq]
  decide +kernel

end RegisterMachine
