import RegisterMachine.Word

/-!
# Tokens

The words of the assembly language. A mnemonic names an instruction, a register
is written with its number after the letter `r`, and a condition is written by
its name. These are the reserved words of the language: each is one unbroken
run of letters and digits, and the spelling of a token determines it.
-/

namespace RegisterMachine

/-- A register, by its number. The machine has the registers whose number is small enough. -/
structure Register where
  number : Nat
  deriving DecidableEq

namespace Register

/-- How many registers the machine has. -/
abbrev count : Nat := 16

/-- The registers of the machine. -/
def all : List Register :=
  (List.range count).map Register.mk

/-- The name of a register. -/
def spelling (register : Register) : String :=
  "r" ++ Decimal.ofNat register.number

end Register

/-- The names of the instructions. -/
inductive Mnemonic
  | copy
  | load
  | store
  | arith (op : ArithOp)
  | read
  | write
  | jump
  deriving DecidableEq

namespace Mnemonic

/-- Every mnemonic. -/
def all : List Mnemonic :=
  [.copy, .load, .store, .arith .add, .arith .mul, .arith .sub, .read, .write, .jump]

/-- The written form of a mnemonic. -/
def spelling : Mnemonic → String
  | .copy => "CP"
  | .load => "LOAD"
  | .store => "STORE"
  | .arith op => op.spelling
  | .read => "READ"
  | .write => "WRITE"
  | .jump => "JUMP"

theorem mem_all (mnemonic : Mnemonic) : mnemonic ∈ all := by
  cases mnemonic with
  | arith op => cases op <;> decide
  | _ => decide

end Mnemonic

/-- The tokens of the assembly language. -/
inductive Token
  | mnemonic (name : Mnemonic)
  | register (place : Register)
  | number (word : Word)
  | condition (test : Condition)
  | comma
  deriving DecidableEq

namespace Token

/-- The shortest written form of a token. -/
def spelling : Token → String
  | .mnemonic name => name.spelling
  | .register place => place.spelling
  | .number word => word.text
  | .condition test => test.spelling
  | .comma => ","

/-- A token as it is named in a report, where no token means the end of the text. -/
def describe : Option Token → String
  | some token => token.spelling
  | none => "END OF INPUT"

/-- The tokens that are reserved words. -/
def reserved : List Token :=
  Mnemonic.all.map .mnemonic ++ Register.all.map .register ++ Condition.all.map .condition

/-- The reserved words with their tokens. -/
def reservedWords : List (List Char × Token) :=
  reserved.map fun token => (token.spelling.toList, token)

/-- The token of a reserved word. -/
def ofReserved? (word : List Char) : Option Token :=
  reservedWords.lookup word

@[simp] theorem ofReserved?_nil : ofReserved? [] = none := by
  decide

end Token
end RegisterMachine
