import RegisterMachine.Assembly.Instruction

/-!
# Programs

A program is a row of instructions. The address of an instruction is its place
in the row, counted from zero. A program can be written as source text, one
instruction on a line, and as a listing, where each line begins with the address
of its instruction.
-/

namespace RegisterMachine

/-- A row of instructions. -/
structure Program where
  instructions : Array Instruction
  deriving DecidableEq

namespace Program

/-- The program of a list of instructions. -/
def ofList (instructions : List Instruction) : Program :=
  ⟨instructions.toArray⟩

/-- The number of instructions. -/
def length (program : Program) : Nat :=
  program.instructions.size

/-- The instruction at an address. -/
def get? (program : Program) (address : Nat) : Option Instruction :=
  program.instructions[address]?

/-- The tokens of a program, instruction after instruction. -/
def tokens (program : Program) : List Token :=
  program.instructions.toList.flatMap Instruction.tokens

/-- The source text of a program. -/
def text (program : Program) : String :=
  String.join (program.instructions.toList.map fun instruction => instruction.text ++ "\n")

/-- The width to which addresses are filled up with blanks in a listing. -/
def addressWidth : Nat := 4

/-- A line of a listing. -/
def listingLine (address : Nat) (instruction : Instruction) : String :=
  String.ofList ((Nat.toDigits 10 address).leftpad addressWidth ' ') ++ " " ++
    instruction.text ++ "\n"

/-- The line of an address in the listing. -/
def line? (program : Program) (address : Nat) : Option String :=
  (program.get? address).map (listingLine address)

/-- The listing of a program. -/
def listing (program : Program) : String :=
  String.join (program.instructions.toList.mapIdx listingLine)

end Program
end RegisterMachine
