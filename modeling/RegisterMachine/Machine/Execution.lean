import RegisterMachine.Assembly.Program
import RegisterMachine.Machine.Console
import RegisterMachine.Machine.Storage

/-!
# Execution

A machine executes one program on its storage and its console, whatever kind of
console that is. The program counter holds the address of the next instruction.
There is no instruction that stops the machine: it stops when the program
counter leaves the program, when an instruction fails, or when it is
interrupted, and it never starts again.

One step executes one instruction. A batch is a bounded number of steps, and a
run goes on until the machine stops. A run may go on for ever, so it takes a
bound on the number of steps and has no outcome when the bound is too small.
-/

namespace RegisterMachine

/-- The state of a machine, together with that of its console. -/
structure Machine (World : Type) where
  program : Program
  storage : Storage := {}
  /-- The address of the next instruction, if it lies in the program. -/
  counter : Word := 0
  running : Bool := true
  console : World
  deriving DecidableEq

namespace Machine

variable {World : Type}

/-- The address that the program counter points to, if it lies in the program. -/
def address? (machine : Machine World) : Option Nat :=
  if machine.counter < 0 then none
  else
    let address := machine.counter.toInt.toNat
    if address < machine.program.length then some address else none

/-- The instruction that the next step executes, with its address. -/
def next? (machine : Machine World) : Option (Nat × Instruction) :=
  if machine.running then do
    let address ← machine.address?
    let instruction ← machine.program.get? address
    return (address, instruction)
  else
    none

/-- Bring the machine to a stop. -/
def halt (machine : Machine World) : Machine World :=
  { machine with running := false }

/-- A computation on a machine that can fail with a fault. -/
abbrev Exec (World : Type) : Type → Type :=
  EStateM Fault (Machine World)

namespace Exec

/-- The outcome of a look at the storage. -/
def examine {α : Type} (look : Storage → Except Fault α) : Exec World α := fun machine =>
  match look machine.storage with
  | .ok result => .ok result machine
  | .error fault => .error fault machine

/-- The word that an operand stands for. -/
def value (operand : Operand) : Exec World Word :=
  examine (·.value operand)

/-- The word at a location. -/
def fetch (location : Location) : Exec World Word :=
  examine (·.fetch location)

/-- Store a word at a location. -/
def store (word : Word) (location : Location) : Exec World Unit := do
  let storage ← examine (·.store word location)
  modify fun machine => { machine with storage }

/-- Act on the console alone. -/
def onConsole {α : Type} (act : EStateM Report World α) : Exec World α := fun machine =>
  match act machine.console with
  | .ok result console => .ok result { machine with console }
  | .error report console => .error (.console report) { machine with console }

/-- Execute an instruction after the program counter has moved past it. -/
def instruction [Console World] : Instruction → Exec World Unit
  | .copy source target => do
      store (← value source) (.register target)
  | .load address target => do
      store (← fetch address.location) (.register target)
  | .store source address => do
      store (← value source) address.location
  | .arith op lhs rhs target => do
      store (op.apply (← value lhs) (← value rhs)) (.register target)
  | .read target => do
      store (← onConsole Console.read) (.register target)
  | .write source => do
      onConsole (Console.write (← value source))
  | .jump condition source address => do
      if condition.holds (← value source) then
        let target ← value address
        modify fun machine => { machine with counter := target }

end Exec

/-- What a batch of steps ends with. -/
inductive Status
  | running
  | stopped
  deriving DecidableEq

section Running

variable [Console World]

/-- Execute one instruction, and tell whether there was one to execute. -/
def step : EStateM Trap (Machine World) Bool := fun machine =>
  match machine.next? with
  | none => .ok false machine.halt
  | some (address, instruction) =>
      match Exec.instruction instruction { machine with counter := machine.counter + 1 } with
      | .ok () after => .ok true after
      | .error fault after => .error ⟨address, fault⟩ after.halt

/-- Execute a bounded number of instructions. The machine stops at once when none is left. -/
def execute : Nat → EStateM Trap (Machine World) Status
  | 0 => fun machine =>
      if machine.next?.isSome then .ok .running machine else .ok .stopped machine.halt
  | cycles + 1 => fun machine =>
      match step machine with
      | .ok true after => execute cycles after
      | .ok false after => .ok .stopped after
      | .error trap after => .error trap after

/-- Execute instructions until the machine stops, if it stops within a bound on the steps. -/
def run : Nat → Machine World → Option (EStateM.Result Trap (Machine World) Unit)
  | 0, _ => none
  | bound + 1, machine =>
      match step machine with
      | .ok true after => run bound after
      | .ok false after => some (.ok () after)
      | .error trap after => some (.error trap after)

end Running

/-- Stop the machine from outside, and report where it was. -/
def interrupt (machine : Machine World) : Report × Machine World :=
  ({ kind := .interrupted, address := machine.address? }, machine.halt)

end Machine
end RegisterMachine
