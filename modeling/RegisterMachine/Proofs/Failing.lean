import RegisterMachine.Machine.ByteConsole
import RegisterMachine.Proofs.Steps

/-!
# Failing instructions

Why an instruction fails, and what it leaves behind. An instruction goes through
the registers that it uses in a fixed order, and the first one that the machine
does not have is the fault. A jump uses the register of its address only when it
is taken, and a read uses its target only when it has read an integer. Apart
from registers, only the console can fail. Registers and memory are changed last
of all, so an instruction that fails has not touched them.

Most of this holds of every console. A line console adds that none of its own
reports is an internal error or has a place in it.
-/

namespace RegisterMachine

/-! ## The registers that an instruction uses -/

/-- Whether a register is one that the machine does not have. -/
def Register.isMissing (place : Register) : Bool :=
  decide (Register.count ≤ place.number)

/-- The register that an operand names, if it names one. -/
def Operand.registers : Operand → List Register
  | .register place => [place]
  | .literal _ => []

/-- The register at a location, if the location is one. -/
def Location.registers : Location → List Register
  | .register place => [place]
  | .cell _ => []

@[simp] theorem Location.registers_location (operand : Operand) :
    operand.location.registers = operand.registers := by
  cases operand <;> rfl

/-- Whether the word that an operand stands for meets a condition. -/
def Storage.meets (storage : Storage) (condition : Condition) (source : Operand) : Bool :=
  match storage.value source with
  | .ok tested => condition.holds tested
  | .error _ => false

namespace Console

variable {World : Type} [Console World]
variable {console after : World}

/-- Whether a read would give an integer. -/
def offersInteger (console : World) : Bool :=
  match read console with
  | .ok _ _ => true
  | .error _ _ => false

theorem offersInteger_of_ok
    {word : Word}
    (wasRead : read console = .ok word after) :
    offersInteger console = true := by
  simp only [offersInteger, wasRead]

theorem offersInteger_of_error
    {report : Report}
    (refused : read console = .error report after) :
    offersInteger console = false := by
  simp only [offersInteger, refused]

end Console

namespace Instruction

/-- The registers that an instruction names, in the order of evaluation. -/
def registers : Instruction → List Register
  | .copy source target => source.registers ++ [target]
  | .load address target => address.registers ++ [target]
  | .store source address => source.registers ++ address.registers
  | .arith _ lhs rhs target => lhs.registers ++ (rhs.registers ++ [target])
  | .read target => [target]
  | .write source => source.registers
  | .jump _ source address => source.registers ++ address.registers

/-- The registers that an instruction uses, in the order of evaluation: those that it names, but
the target of a read only if there is an integer to read, and the address of a jump only if the
jump is taken. -/
def uses
    {World : Type}
    [Console World]
    (storage : Storage)
    (console : World) : Instruction → List Register
  | .read target => if Console.offersInteger console then [target] else []
  | .jump condition source address =>
      source.registers ++ if storage.meets condition source then address.registers else []
  | instruction => instruction.registers

/-- Whether an instruction reads or writes. -/
def accessesConsole : Instruction → Bool
  | .read _ | .write _ => true
  | _ => false

theorem uses_subset_registers
    {World : Type}
    [Console World]
    (storage : Storage)
    (console : World)
    (instruction : Instruction) :
    instruction.uses storage console ⊆ instruction.registers := by
  cases instruction with
  | read target =>
      simp only [uses, registers]
      split <;> simp
  | jump condition source address =>
      simp only [uses, registers]
      split <;> simp
  | _ => exact List.Subset.refl _

end Instruction

/-- The fault of using some registers one after the other: the first one that is missing. -/
def missing? (places : List Register) : Option Fault :=
  (places.find? Register.isMissing).map .registerOutOfRange

@[simp] theorem missing?_nil : missing? [] = none := rfl

theorem missing?_append
    (first second : List Register) :
    missing? (first ++ second) = (missing? first).or (missing? second) := by
  simp only [missing?, List.find?_append]
  cases first.find? Register.isMissing <;> rfl

theorem missing?_singleton (place : Register) :
    missing? [place] =
      if place.number < Register.count then none else some (.registerOutOfRange place) := by
  simp only [missing?, List.find?_cons, Register.isMissing, List.find?_nil]
  split
  · rename_i isMissing
    rw [if_neg (Nat.not_lt.mpr (of_decide_eq_true isMissing))]
    rfl
  · rename_i isPresent
    rw [if_pos (Nat.not_le.mp (of_decide_eq_false isPresent))]
    rfl

theorem missing?_eq_some_iff
    {places : List Register}
    {fault : Fault} :
    missing? places = some fault ↔
      ∃ place, places.find? Register.isMissing = some place ∧ .registerOutOfRange place = fault :=
  Option.map_eq_some_iff

theorem exists_missing?
    {places : List Register}
    {place : Register}
    (isUsed : place ∈ places)
    (outOfRange : Register.count ≤ place.number) :
    ∃ fault, missing? places = some fault := by
  have found : (places.find? Register.isMissing).isSome = true :=
    List.find?_isSome.mpr ⟨place, isUsed, decide_eq_true outOfRange⟩
  obtain ⟨first, isFirst⟩ := Option.isSome_iff_exists.mp found
  exact ⟨.registerOutOfRange first, missing?_eq_some_iff.mpr ⟨first, isFirst, rfl⟩⟩

theorem kind_of_missing?
    {places : List Register}
    {fault : Fault}
    (isMissing : missing? places = some fault) :
    fault.report.kind = .internalError := by
  obtain ⟨place, -, rfl⟩ := missing?_eq_some_iff.mp isMissing
  rfl

/-! ## Reports -/

/-- A report that says neither where the program was nor where in the source text. -/
structure Report.HasNoPlace (report : Report) : Prop where
  address_eq : report.address = none
  span_eq : report.span = .nowhere

/-- The report of a trap has the address of the instruction that failed, unless the console has
given another one. -/
theorem Trap.address_report
    {trap : Trap}
    (noPlace : trap.fault.report.HasNoPlace) :
    trap.report.address = some trap.address := by
  simp [Trap.report, Report.inAddress, noPlace.address_eq]

theorem hasNoPlace_of_missing?
    {places : List Register}
    {fault : Fault}
    (isMissing : missing? places = some fault) :
    fault.report.HasNoPlace := by
  obtain ⟨place, -, rfl⟩ := missing?_eq_some_iff.mp isMissing
  exact ⟨rfl, rfl⟩

/-! ## Storage -/

namespace Storage

variable {storage : Storage}
variable {fault : Fault}

theorem fetch_eq_error_iff (location : Location) :
    storage.fetch location = .error fault ↔ missing? location.registers = some fault := by
  cases location with
  | register place =>
      simp only [fetch, Registers.get, Location.registers, missing?_singleton]
      split <;> simp
  | cell address => simp [fetch, Location.registers]

theorem value_eq_error_iff (operand : Operand) :
    storage.value operand = .error fault ↔ missing? operand.registers = some fault := by
  cases operand with
  | register place => exact fetch_eq_error_iff (.register place)
  | literal word => simp [value, Operand.registers]

theorem store_eq_error_iff
    (word : Word)
    (location : Location) :
    storage.store word location = .error fault ↔ missing? location.registers = some fault := by
  cases location with
  | register place =>
      simp only [store, Registers.set, Location.registers, missing?_singleton]
      split <;> simp [Except.map]
  | cell address => simp [store, Location.registers]

end Storage

/-! ## Line consoles -/

/-- A line that is refused is not an integer. -/
theorem report_of_parseInteger
    {line : String}
    {report : Report}
    (refused : parseInteger line = .error report) :
    report.kind = .illegalInput ∧ report.HasNoPlace := by
  simp only [parseInteger] at refused
  split at refused
  · cases refused
  · cases refused
    exact ⟨rfl, rfl, rfl⟩

theorem parseInteger_of_integerOfLine
    {line : String}
    {word : Word}
    (isInteger : integerOfLine line = .ok word) :
    parseInteger line = .ok word := by
  unfold integerOfLine at isInteger
  split at isInteger
  · cases isInteger
  · exact isInteger

theorem report_of_integerOfLine
    {line : String}
    {report : Report}
    (refused : integerOfLine line = .error report) :
    report.kind = (if line = "" then .inputPastEnd else .illegalInput) ∧ report.HasNoPlace := by
  unfold integerOfLine at refused
  split at refused
  · rename_i isEmpty
    cases refused
    rw [if_pos isEmpty]
    exact ⟨rfl, rfl, rfl⟩
  · rename_i nonempty
    rw [if_neg nonempty]
    exact report_of_parseInteger refused

theorem report_of_writeLine
    {Target : Type}
    [TextOutput Target]
    {word : Word}
    {sink after : Target}
    {report : Report}
    (failed : writeLine word sink = .error report after) :
    report.kind = .outputError ∧ report.HasNoPlace := by
  unfold writeLine EStateM.adaptExcept at failed
  split at failed
  · cases failed
    exact ⟨rfl, rfl, rfl⟩
  · cases failed

namespace LineConsole

variable {Source Target : Type}
variable {console after : LineConsole Source Target}
variable {report : Report}
variable {word : Word}

section Operations

variable [LineInput Source] [TextOutput Target]

@[simp] theorem read_eq_readInteger :
    (Console.read : EStateM Report (LineConsole Source Target) Word) = readInteger :=
  rfl

@[simp] theorem write_eq_writeInteger (word : Word) :
    (Console.write word : EStateM Report (LineConsole Source Target) Unit) = writeInteger word :=
  rfl

end Operations

theorem report_of_readInteger
    [LineInput Source]
    (failed : readInteger console = .error report after) :
    (report.kind = .inputPastEnd ∨ report.kind = .illegalInput) ∧ report.HasNoPlace := by
  simp only [readInteger] at failed
  split at failed
  · split at failed
    · cases failed
    · rename_i refused
      cases failed
      obtain ⟨kind_eq, noPlace⟩ := report_of_integerOfLine refused
      refine ⟨?_, noPlace⟩
      rw [kind_eq]
      split
      · exact .inl rfl
      · exact .inr rfl
  · cases failed
    exact ⟨.inr rfl, rfl, rfl⟩

theorem report_of_writeInteger
    [TextOutput Target]
    (failed : writeInteger word console = .error report after) :
    report.kind = .outputError ∧ report.HasNoPlace := by
  unfold writeInteger at failed
  split at failed
  · cases failed
  · rename_i refused
    cases failed
    exact report_of_writeLine refused

/-- Reading an integer takes its line off the input and leaves the sink alone. -/
theorem exists_line_of_readInteger
    [LineInput Source]
    (wasRead : readInteger console = .ok word after) :
    after.sink = console.sink ∧
    ∃ line,
      LineInput.readLine console.input = .ok line after.input ∧
      parseInteger line = .ok word := by
  simp only [readInteger] at wasRead
  split at wasRead
  · rename_i taken
    split at wasRead
    · rename_i isInteger
      cases wasRead
      exact ⟨rfl, _, taken, parseInteger_of_integerOfLine isInteger⟩
    · cases wasRead
  · cases wasRead

end LineConsole

/-- What an instruction takes off the input: a read takes the line of an integer, and any other
takes nothing. -/
def Instruction.TakesInput
    {Source : Type}
    [LineInput Source]
    (input rest : Source) : Instruction → Prop
  | .read _ =>
      ∃ line word, LineInput.readLine input = .ok line rest ∧ parseInteger line = .ok word
  | _ => rest = input

/-- A line is taken off some bytes. It goes up to the first line feed, which is taken with it, or
up to the end when there is none. -/
def TakesLine (input line rest : List UInt8) : Prop :=
  lineFeed ∉ line ∧ (input = line ++ lineFeed :: rest ∨ input = line ∧ rest = [])

theorem takesLine_takeWhile (input : List UInt8) :
    TakesLine input (input.takeWhile (· ≠ lineFeed))
      ((input.dropWhile (· ≠ lineFeed)).drop 1) := by
  constructor
  · intro inLine
    have notFeed := List.all_eq_true.mp List.all_takeWhile lineFeed inLine
    simp at notFeed
  · have cut := List.takeWhile_append_dropWhile (p := (· ≠ lineFeed)) (l := input)
    have ending := List.head?_dropWhile_not (· ≠ lineFeed) input
    cases dropped : input.dropWhile (· ≠ lineFeed) with
    | nil =>
        rw [dropped, List.append_nil] at cut
        exact .inr ⟨cut.symm, rfl⟩
    | cons feed others =>
        rw [dropped] at cut ending
        have feed_eq : feed = lineFeed := by simpa using ending
        rw [feed_eq] at cut
        exact .inl cut.symm

theorem exists_takesLine_of_readLine
    {input rest : List UInt8}
    {text : String}
    (taken : LineInput.readLine input = .ok text rest) :
    ∃ line, TakesLine input line rest := by
  refine ⟨input.takeWhile (· ≠ lineFeed), ?_⟩
  simp only [LineInput.readLine, takeLine] at taken
  split at taken
  · cases taken
    exact takesLine_takeWhile input
  · cases taken

/-! ## Why an instruction fails -/

/-- Why an instruction fails, with the console that it leaves. -/
inductive Instruction.Fails
    {World : Type}
    [Console World]
    (storage : Storage)
    (console : World) : Instruction → Fault → World → Prop
  | missing {instruction : Instruction} {fault : Fault} :
      (∀ target, instruction ≠ .read target) →
      missing? (instruction.uses storage console) = some fault →
      Fails storage console instruction fault console
  | missingTarget {target : Register} {word : Word} {fault : Fault} {after : World} :
      Console.read console = .ok word after →
      missing? [target] = some fault →
      Fails storage console (.read target) fault after
  | input {target : Register} {report : Report} {after : World} :
      Console.read console = .error report after →
      Fails storage console (.read target) (.console report) after
  | output {source : Operand} {word : Word} {report : Report} {after : World} :
      storage.value source = .ok word →
      Console.write word console = .error report after →
      Fails storage console (.write source) (.console report) after

namespace Instruction

variable {storage : Storage}
variable {instruction : Instruction}
variable {fault : Fault}

theorem exists_fails_of_missing?
    {World : Type}
    [Console World]
    {console : World}
    (isMissing : missing? (instruction.uses storage console) = some fault) :
    ∃ after, instruction.Fails storage console fault after := by
  cases instruction with
  | read target =>
      cases wasRead : Console.read console with
      | ok word after =>
          rw [uses, Console.offersInteger_of_ok wasRead] at isMissing
          exact ⟨after, .missingTarget wasRead isMissing⟩
      | error refused after =>
          rw [uses, Console.offersInteger_of_error wasRead] at isMissing
          cases isMissing
  | _ => exact ⟨console, .missing (by simp) isMissing⟩

section LineConsole

variable {Source Target : Type} [LineInput Source] [TextOutput Target]
variable {console after : LineConsole Source Target}

/-- Whatever the reason is, the fault itself names no place. -/
theorem Fails.hasNoPlace
    (fails : instruction.Fails storage console fault after) :
    fault.report.HasNoPlace := by
  cases fails with
  | missing _ isMissing => exact hasNoPlace_of_missing? isMissing
  | missingTarget _ isMissing => exact hasNoPlace_of_missing? isMissing
  | input refused => exact (LineConsole.report_of_readInteger refused).2
  | output _ refused => exact (LineConsole.report_of_writeInteger refused).2

/-- An internal error is about the first missing register that the instruction uses. It leaves the
console alone, but a read has taken its line off the input. -/
theorem Fails.of_internalError
    (fails : instruction.Fails storage console fault after)
    (isInternal : fault.report.kind = .internalError) :
    missing? (instruction.uses storage console) = some fault ∧
    after.sink = console.sink ∧
    instruction.TakesInput console.input after.input := by
  cases fails with
  | missing notRead isMissing =>
      refine ⟨isMissing, rfl, ?_⟩
      cases instruction with
      | read target => exact absurd rfl (notRead target)
      | _ => rfl
  | @missingTarget target word fault after wasRead isMissing =>
      obtain ⟨sink_eq, line, taken, isInteger⟩ := LineConsole.exists_line_of_readInteger wasRead
      refine ⟨?_, sink_eq, line, word, taken, isInteger⟩
      rw [uses, Console.offersInteger_of_ok wasRead]
      exact isMissing
  | @input target report after refused =>
      have kind_eq : report.kind = .internalError := isInternal
      rcases (LineConsole.report_of_readInteger refused).1 with otherKind | otherKind
      · cases otherKind.symm.trans kind_eq
      · cases otherKind.symm.trans kind_eq
  | @output source word report after _ refused =>
      have kind_eq : report.kind = .internalError := isInternal
      cases (LineConsole.report_of_writeInteger refused).1.symm.trans kind_eq

end LineConsole
end Instruction

/-! ## Computations that use registers -/

namespace Machine
namespace Exec

variable {World : Type}
variable {α β : Type}
variable {machine after : Machine World}
variable {fault : Fault}
variable {places others : List Register}

/-- A computation that fails when one of some registers is missing and not otherwise. The fault is
the first that is missing, and the machine is as it was. -/
def Needs (machine : Machine World) (places : List Register) (act : Exec World α) : Prop :=
  ∀ fault after,
    act machine = .error fault after ↔ missing? places = some fault ∧ after = machine

theorem examine_eq_ok_iff
    {look : Storage → Except Fault α}
    {result : α} :
    examine look machine = .ok result after ↔
      look machine.storage = .ok result ∧ after = machine := by
  unfold examine
  cases look machine.storage with
  | ok value => simp [eq_comm]
  | error fault => simp

theorem needs_examine
    {look : Storage → Except Fault α}
    (looked : ∀ fault, look machine.storage = .error fault ↔ missing? places = some fault) :
    Needs machine places (examine look) := by
  intro fault after
  rw [← looked fault]
  unfold examine
  cases look machine.storage with
  | ok value => simp
  | error fault => simp [eq_comm]

theorem needs_nil
    {act : Exec World α}
    {result : α}
    (succeeded : act machine = .ok result after) :
    Needs machine [] act := by
  intro fault other
  simp [succeeded]

/-- A look at the storage and what is done after it use their registers one after the other. -/
theorem Needs.bind
    {look : Storage → Except Fault α}
    {act : α → Exec World β}
    (first : Needs machine places (examine look))
    (second : ∀ result, look machine.storage = .ok result → Needs machine others (act result)) :
    Needs machine (places ++ others) (examine look >>= act) := by
  intro fault after
  rw [Stateful.bind_eq_error_iff, first fault after, missing?_append]
  cases looked : look machine.storage with
  | ok result =>
      have present : missing? places = none := by
        rw [Option.eq_none_iff_forall_ne_some]
        intro fault isMissing
        have failed := (first fault machine).mpr ⟨isMissing, rfl⟩
        simp only [examine, looked] at failed
        cases failed
      have continued := second result looked fault after
      simp [examine_eq_ok_iff, looked, present, continued, and_assoc]
  | error found =>
      have absent : missing? places = some found := by
        have failed : examine look machine = .error found machine := by simp only [examine, looked]
        exact ((first found machine).mp failed).1
      simp [examine_eq_ok_iff, looked, absent]

theorem needs_value (operand : Operand) :
    Needs machine operand.registers (value operand) :=
  needs_examine fun _ => Storage.value_eq_error_iff operand

theorem needs_fetch (location : Location) :
    Needs machine location.registers (fetch location) :=
  needs_examine fun _ => Storage.fetch_eq_error_iff location

theorem needs_store
    (word : Word)
    (location : Location) :
    Needs machine location.registers (store word location) := by
  rw [← List.append_nil location.registers]
  apply (needs_examine fun _ => Storage.store_eq_error_iff word location).bind
  intro storage _
  exact needs_nil rfl

/-- An instruction that leaves the console alone fails on the registers that it uses and on
nothing else. -/
theorem needs_instruction
    [Console World]
    {instruction : Instruction}
    (quiet : instruction.accessesConsole = false) :
    Needs machine (instruction.uses machine.storage machine.console)
      (Exec.instruction instruction) := by
  cases instruction with
  | copy source target =>
      apply (needs_value source).bind
      intro word _
      exact needs_store word (.register target)
  | load address target =>
      simp only [Instruction.uses, Instruction.registers]
      rw [← Location.registers_location address]
      apply (needs_fetch address.location).bind
      intro word _
      exact needs_store word (.register target)
  | store source address =>
      apply (needs_value source).bind
      intro word _
      rw [← Location.registers_location address]
      exact needs_store word address.location
  | arith op lhs rhs target =>
      apply (needs_value lhs).bind
      intro left _
      apply (needs_value rhs).bind
      intro right _
      exact needs_store (op.apply left right) (.register target)
  | read target => cases quiet
  | write source => cases quiet
  | jump condition source address =>
      apply (needs_value source).bind
      intro tested looked
      simp only [Storage.meets, looked]
      split
      · rw [← List.append_nil address.registers]
        apply (needs_value address).bind
        intro target _
        exact needs_nil rfl
      · exact needs_nil rfl

theorem onConsole_eq_ok_iff
    {act : EStateM Report World α}
    {result : α} :
    onConsole act machine = .ok result after ↔
      ∃ console, act machine.console = .ok result console ∧ after = { machine with console } := by
  unfold onConsole
  cases act machine.console with
  | ok value console => simp [and_assoc, eq_comm]
  | error fault console => simp

theorem onConsole_eq_error_iff
    {act : EStateM Report World α} :
    onConsole act machine = .error fault after ↔
      ∃ report console,
        act machine.console = .error report console ∧
        fault = .console report ∧
        after = { machine with console } := by
  unfold onConsole
  cases act machine.console with
  | ok value console => simp
  | error fault console => simp [and_assoc, eq_comm]

variable [Console World]

theorem fails_iff_of_quiet
    {instruction : Instruction}
    {console : World}
    (quiet : instruction.accessesConsole = false) :
    instruction.Fails machine.storage machine.console fault console ↔
      missing? (instruction.uses machine.storage machine.console) = some fault ∧
        console = machine.console := by
  constructor
  · intro fails
    cases fails with
    | missing _ isMissing => exact ⟨isMissing, rfl⟩
    | missingTarget _ _ => cases quiet
    | input _ => cases quiet
    | output _ _ => cases quiet
  · rintro ⟨isMissing, rfl⟩
    refine .missing ?_ isMissing
    rintro target rfl
    cases quiet

theorem read_eq_error_iff
    {target : Register} :
    Exec.instruction (.read target) machine = .error fault after ↔
      ∃ console,
        Instruction.Fails machine.storage machine.console (.read target) fault console ∧
        after = { machine with console } := by
  simp only [Exec.instruction, Stateful.bind_eq_error_iff, onConsole_eq_error_iff,
    onConsole_eq_ok_iff]
  constructor
  · rintro (⟨report, console, failed, rfl, rfl⟩ |
      ⟨word, middle, ⟨console, wasRead, rfl⟩, notStored⟩)
    · exact ⟨console, .input failed, rfl⟩
    · obtain ⟨isMissing, rfl⟩ := (needs_store word (.register target) fault after).mp notStored
      exact ⟨console, .missingTarget wasRead isMissing, rfl⟩
  · rintro ⟨console, fails, rfl⟩
    cases fails with
    | missing notRead _ => exact absurd rfl (notRead target)
    | input failed => exact .inl ⟨_, console, failed, rfl, rfl⟩
    | missingTarget wasRead isMissing =>
        refine .inr ⟨_, _, ⟨console, wasRead, rfl⟩, ?_⟩
        exact (needs_store _ (.register target) fault _).mpr ⟨isMissing, rfl⟩

theorem write_eq_error_iff
    {source : Operand} :
    Exec.instruction (.write source) machine = .error fault after ↔
      ∃ console,
        Instruction.Fails machine.storage machine.console (.write source) fault console ∧
        after = { machine with console } := by
  simp only [Exec.instruction, Stateful.bind_eq_error_iff, needs_value source fault after,
    onConsole_eq_error_iff]
  constructor
  · rintro (⟨isMissing, rfl⟩ | ⟨word, middle, looked, ⟨report, console, failed, rfl, rfl⟩⟩)
    · exact ⟨after.console, .missing (by simp) isMissing, rfl⟩
    · obtain ⟨value_eq, rfl⟩ := examine_eq_ok_iff.mp looked
      exact ⟨console, .output value_eq failed, rfl⟩
  · rintro ⟨console, fails, rfl⟩
    cases fails with
    | missing _ isMissing => exact .inl ⟨isMissing, rfl⟩
    | output value_eq failed =>
        exact .inr
          ⟨_, machine, examine_eq_ok_iff.mpr ⟨value_eq, rfl⟩, _, console, failed, rfl, rfl⟩

/-- An instruction fails for one of four reasons. Whatever the reason, only the console can have
changed. -/
theorem instruction_eq_error_iff
    {instruction : Instruction} :
    Exec.instruction instruction machine = .error fault after ↔
      ∃ console,
        instruction.Fails machine.storage machine.console fault console ∧
        after = { machine with console } := by
  cases access : instruction.accessesConsole with
  | false =>
      rw [needs_instruction access fault after]
      simp [fails_iff_of_quiet access, and_assoc]
  | true =>
      cases instruction with
      | read target => exact read_eq_error_iff
      | write source => exact write_eq_error_iff
      | _ => cases access

end Exec

/-! ## Steps that fail -/

/-- A step fails when its instruction does. The program counter has moved on, the machine has
stopped, and only the console can have changed besides. -/
theorem step_eq_error_iff_fails
    {World : Type}
    [Console World]
    {machine after : Machine World}
    {trap : Trap} :
    step machine = .error trap after ↔
      ∃ instruction console,
        machine.next? = some (trap.address, instruction) ∧
        instruction.Fails machine.storage machine.console trap.fault console ∧
        after = { machine with counter := machine.counter + 1, running := false, console } := by
  simp only [step_eq_error_iff, Exec.instruction_eq_error_iff]
  constructor
  · rintro ⟨instruction, failed, found, ⟨console, fails, rfl⟩, rfl⟩
    exact ⟨instruction, console, found, fails, rfl⟩
  · rintro ⟨instruction, console, found, fails, rfl⟩
    exact ⟨instruction, _, found, ⟨console, fails, rfl⟩, rfl⟩

section LineConsole

variable {Source Target : Type} [LineInput Source] [TextOutput Target]

theorem hasNoPlace_of_step
    {machine after : Machine (LineConsole Source Target)}
    {trap : Trap}
    (failed : step machine = .error trap after) :
    trap.fault.report.HasNoPlace := by
  obtain ⟨instruction, console, -, fails, -⟩ := step_eq_error_iff_fails.mp failed
  exact fails.hasNoPlace

/-- A step that fails leaves registers and memory as they were, stops the machine just past the
failing instruction, and reports the address of that instruction. It fails with an internal error
exactly when the instruction uses a register that the machine does not have. The sink is then as it
was, and so is the input, but a read has taken off the line of the integer that it has read. On
bytes the line goes up to the first line feed. -/
theorem failing_step_is_atomic
    (machine : Machine (LineConsole Source Target))
    (short : machine.program.length ≤ 9223372036854775807) :
    (∀ trap after, step machine = .error trap after →
      after.storage = machine.storage ∧
      after.program = machine.program ∧
      after.running = false ∧
      after.counter.toInt = machine.counter.toInt + 1 ∧
      (∃ address : Nat,
        trap.report.address = some address ∧
        machine.counter.toInt = address ∧
        address < machine.program.length) ∧
      (trap.report.kind = .internalError →
        ∃ address instruction place,
          machine.next? = some (address, instruction) ∧
          (instruction.uses machine.storage machine.console).find? Register.isMissing =
            some place ∧
          trap.report.text = "REGISTER " ++ place.spelling ++ " OUT OF RANGE" ∧
          after.console.sink = machine.console.sink ∧
          instruction.TakesInput machine.console.input after.console.input)) ∧
    ((∃ trap after, step machine = .error trap after ∧ trap.report.kind = .internalError) ↔
      ∃ address instruction,
        machine.next? = some (address, instruction) ∧
        ∃ place ∈ instruction.uses machine.storage machine.console,
          Register.count ≤ place.number) ∧
    ∀ (input rest : List UInt8) (text : String),
      LineInput.readLine input = .ok text rest → ∃ line, TakesLine input line rest := by
  refine ⟨?_, ?_, fun input rest text taken => exists_takesLine_of_readLine taken⟩
  · intro trap after failed
    have noPlace := hasNoPlace_of_step failed
    obtain ⟨instruction, console, found, fails, rfl⟩ := step_eq_error_iff_fails.mp failed
    obtain ⟨-, counter_eq, get_eq⟩ := next?_eq_some_iff.mp found
    refine ⟨rfl, rfl, rfl, toInt_counter_add_one short found, ?_, ?_⟩
    · exact ⟨trap.address, Trap.address_report noPlace, counter_eq,
        Program.lt_length_of_get? get_eq⟩
    · intro isInternal
      obtain ⟨isMissing, sink_eq, input_eq⟩ := fails.of_internalError isInternal
      obtain ⟨place, isFirst, fault_eq⟩ := missing?_eq_some_iff.mp isMissing
      refine ⟨trap.address, instruction, place, found, isFirst, ?_, sink_eq, input_eq⟩
      rw [Trap.report, ← fault_eq]
      rfl
  · constructor
    · rintro ⟨trap, after, failed, isInternal⟩
      obtain ⟨instruction, console, found, fails, rfl⟩ := step_eq_error_iff_fails.mp failed
      obtain ⟨isMissing, -, -⟩ := fails.of_internalError isInternal
      obtain ⟨place, isFirst, -⟩ := missing?_eq_some_iff.mp isMissing
      refine ⟨trap.address, instruction, found, place, List.mem_of_find?_eq_some isFirst, ?_⟩
      have isMissing : place.isMissing = true := List.find?_some isFirst
      exact of_decide_eq_true isMissing
    · rintro ⟨address, instruction, found, place, isUsed, outOfRange⟩
      obtain ⟨fault, isMissing⟩ := exists_missing? isUsed outOfRange
      obtain ⟨console, fails⟩ := Instruction.exists_fails_of_missing? isMissing
      refine ⟨⟨address, fault⟩, _,
        step_eq_error_iff_fails.mpr ⟨instruction, console, found, fails, rfl⟩, ?_⟩
      exact kind_of_missing? isMissing

end LineConsole

/-- A machine that stands at a read into a register that it does not have. -/
def strayRead : Machine ByteConsole where
  program := .ofList [.jump .zero (.literal 0) (.register ⟨16⟩), .read ⟨200⟩]
  counter := 1
  console := { input := [55, 10, 56], sink := {} }

/-- The read fails after it has read the first of two lines, and the jump before it would fail on
the register that it goes to. -/
theorem strayRead_fails :
    (∃ trap after line,
      step strayRead = .error trap after ∧
      after.counter.toInt = 2 ∧
      after.storage = strayRead.storage ∧
      trap.report.address = some 1 ∧
      trap.report.text = "REGISTER r200 OUT OF RANGE" ∧
      TakesLine [55, 10, 56] line after.console.input) ∧
    ∃ trap after,
      step { strayRead with counter := 0 } = .error trap after ∧
      trap.report.kind = .internalError := by
  constructor
  · obtain ⟨atomic, -, takesLine⟩ := failing_step_is_atomic strayRead (by decide)
    have failed :
        step strayRead =
          .error ⟨1, .registerOutOfRange ⟨200⟩⟩
            { strayRead with
              counter := 2
              running := false
              console := { input := [56], sink := {} } } := by
      decide +kernel
    obtain ⟨storage_eq, -, -, counter_eq, -, internal⟩ := atomic _ _ failed
    obtain ⟨address, instruction, place, found, -, -, -, takesInput⟩ := internal rfl
    cases found
    obtain ⟨text, word, taken, -⟩ := takesInput
    obtain ⟨line, takesLine⟩ := takesLine _ _ _ taken
    exact ⟨_, _, line, failed, counter_eq, storage_eq, rfl, by decide +kernel, takesLine⟩
  · obtain ⟨-, internal_iff, -⟩ :=
      failing_step_is_atomic { strayRead with counter := 0 } (by decide)
    exact internal_iff.mpr
      ⟨0, .jump .zero (.literal 0) (.register ⟨16⟩), rfl, ⟨16⟩, by decide, by decide⟩

end Machine
end RegisterMachine
