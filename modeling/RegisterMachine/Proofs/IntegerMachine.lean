import RegisterMachine.Machine.Execution
import RegisterMachine.Stateful

/-!
# The machine over the integers

A reference machine executes the same programs as the machine, instruction for
instruction, but computes with integers of any size: its registers, its memory
cells and its program counter never wrap around. Memory cells are named by
literals, so their addresses are words here too. The integers that are written
are kept in a row.
-/

namespace RegisterMachine

/-- The exact result of an operation. -/
def ArithOp.applyExactly : ArithOp → Int → Int → Int
  | .add, lhs, rhs => lhs + rhs
  | .sub, lhs, rhs => lhs - rhs
  | .mul, lhs, rhs => lhs * rhs

/-- Whether an integer meets a condition. -/
def Condition.holdsExactly : Condition → Int → Bool
  | .zero, value => decide (value = 0)
  | .positive, value => decide (0 < value)
  | .negative, value => decide (value < 0)

/-- The registers and the memory of the reference machine. -/
structure IntegerStorage where
  registers : Vector Int Register.count := .replicate Register.count 0
  /-- The integers in the cells that have been stored to. -/
  memory : Word → Option Int := fun _ => none

namespace IntegerStorage

/-- The integer at a location. A cell that has not been stored to holds zero. -/
def fetch (storage : IntegerStorage) : Location → Except Fault Int
  | .register place =>
      if inRange : place.number < Register.count then
        .ok storage.registers[place.number]
      else
        .error (.registerOutOfRange place)
  | .cell address => .ok ((storage.memory address).getD 0)

/-- Store an integer at a location. -/
def store (storage : IntegerStorage) (value : Int) : Location → Except Fault IntegerStorage
  | .register place =>
      if inRange : place.number < Register.count then
        .ok { storage with registers := storage.registers.set place.number value }
      else
        .error (.registerOutOfRange place)
  | .cell address =>
      .ok { storage with
        memory := fun other => if other = address then some value else storage.memory other }

/-- The integer that an operand stands for when it is a value. -/
def value (storage : IntegerStorage) : Operand → Except Fault Int
  | .register place => storage.fetch (.register place)
  | .literal word => .ok word.toInt

end IntegerStorage

/-- The integers on which an instruction bases a jump: the integer that it tests and, if the jump
is taken, the integer that it goes to. -/
def Instruction.jumpValues (storage : IntegerStorage) : Instruction → List Int
  | .jump condition source address =>
      match storage.value source with
      | .ok tested =>
          if condition.holdsExactly tested then
            match storage.value address with
            | .ok target => [tested, target]
            | .error _ => [tested]
          else [tested]
      | .error _ => []
  | _ => []

namespace Instruction

variable {storage : IntegerStorage}
variable {condition : Condition}
variable {source address : Operand}
variable {tested target : Int}

theorem tested_mem_jumpValues
    (tested_eq : storage.value source = .ok tested) :
    tested ∈ (jump condition source address).jumpValues storage := by
  simp only [jumpValues, tested_eq]
  split
  · split <;> exact List.mem_cons_self
  · exact List.mem_cons_self

theorem target_mem_jumpValues
    (tested_eq : storage.value source = .ok tested)
    (holds : condition.holdsExactly tested = true)
    (target_eq : storage.value address = .ok target) :
    target ∈ (jump condition source address).jumpValues storage := by
  simp [jumpValues, tested_eq, holds, target_eq]

end Instruction

/-- The state of the reference machine. -/
structure IntegerMachine (Source : Type) where
  program : Program
  storage : IntegerStorage := {}
  counter : Int := 0
  running : Bool := true
  input : Source
  /-- The integers that have been written, in order. -/
  written : List Int := []

namespace IntegerMachine

variable {Source : Type}

/-- The address that the program counter points to, if it lies in the program. -/
def address? (machine : IntegerMachine Source) : Option Nat :=
  if machine.counter < 0 then none
  else
    let address := machine.counter.toNat
    if address < machine.program.length then some address else none

/-- The instruction that the next step executes, with its address. -/
def next? (machine : IntegerMachine Source) : Option (Nat × Instruction) :=
  if machine.running then do
    let address ← machine.address?
    let instruction ← machine.program.get? address
    return (address, instruction)
  else
    none

/-- Bring the machine to a stop. -/
def halt (machine : IntegerMachine Source) : IntegerMachine Source :=
  { machine with running := false }

/-- A computation on the reference machine that can fail with a fault. -/
abbrev Exec (Source : Type) : Type → Type :=
  EStateM Fault (IntegerMachine Source)

namespace Exec

/-- The outcome of a look at the storage. -/
def examine {α : Type} (look : IntegerStorage → Except Fault α) : Exec Source α := fun machine =>
  match look machine.storage with
  | .ok result => .ok result machine
  | .error fault => .error fault machine

theorem examine_eq_ok_iff
    {α : Type}
    {look : IntegerStorage → Except Fault α}
    {result : α}
    {machine after : IntegerMachine Source} :
    examine look machine = .ok result after ↔
      look machine.storage = .ok result ∧ after = machine := by
  unfold examine
  cases look machine.storage with
  | ok value => simp [eq_comm]
  | error fault => simp

/-- The integer that an operand stands for. -/
def value (operand : Operand) : Exec Source Int :=
  examine (·.value operand)

/-- The integer at a location. -/
def fetch (location : Location) : Exec Source Int :=
  examine (·.fetch location)

/-- Store an integer at a location. -/
def store (value : Int) (location : Location) : Exec Source Unit := do
  let storage ← examine (·.store value location)
  modify fun machine => { machine with storage }

/-- Read the integer on the next line of the input. -/
def read [LineInput Source] : Exec Source Int := fun machine =>
  match LineInput.readLine machine.input with
  | .ok line input =>
      match integerOfLine line with
      | .ok word => .ok word.toInt { machine with input }
      | .error report => .error (.console report) { machine with input }
  | .error text input =>
      .error (.console { kind := .illegalInput, text }) { machine with input }

/-- Write an integer, whatever its size. -/
def write (value : Int) : Exec Source Unit :=
  modify fun machine => { machine with written := machine.written ++ [value] }

/-- Execute an instruction after the program counter has moved past it. -/
def instruction [LineInput Source] : Instruction → Exec Source Unit
  | .copy source target => do
      store (← value source) (.register target)
  | .load address target => do
      store (← fetch address.location) (.register target)
  | .store source address => do
      store (← value source) address.location
  | .arith op lhs rhs target => do
      store (op.applyExactly (← value lhs) (← value rhs)) (.register target)
  | .read target => do
      store (← read) (.register target)
  | .write source => do
      write (← value source)
  | .jump condition source address => do
      if condition.holdsExactly (← value source) then
        let target ← value address
        modify fun machine => { machine with counter := target }

end Exec

/-- Execute one instruction, and tell whether there was one to execute. -/
def step [LineInput Source] : EStateM Trap (IntegerMachine Source) Bool := fun machine =>
  match machine.next? with
  | none => .ok false machine.halt
  | some (address, instruction) =>
      match Exec.instruction instruction { machine with counter := machine.counter + 1 } with
      | .ok () after => .ok true after
      | .error fault after => .error ⟨address, fault⟩ after.halt

/-- The integers on which the next step bases a jump, if it executes one. -/
def jumpValues (machine : IntegerMachine Source) : List Int :=
  match machine.next? with
  | some (_, instruction) => instruction.jumpValues machine.storage
  | none => []

end IntegerMachine
end RegisterMachine
