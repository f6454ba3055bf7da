import RegisterMachine.Assembly.Token

/-!
# Instructions

The instructions of the machine and their written form. Each mnemonic has a
shape, the row of slots that its operands and commas fill in source order. An
instruction is its mnemonic together with what fills the slots, so reading it
and writing it are both governed by the shape.
-/

namespace RegisterMachine

/-- An operand: a register or a literal word. -/
inductive Operand
  | register (place : Register)
  | literal (word : Word)
  deriving DecidableEq

/-- The instructions of the machine. -/
inductive Instruction
  | copy (source : Operand) (target : Register)
  | load (address : Operand) (target : Register)
  | store (source address : Operand)
  | arith (op : ArithOp) (lhs rhs : Operand) (target : Register)
  | read (target : Register)
  | write (source : Operand)
  | jump (condition : Condition) (source address : Operand)
  deriving DecidableEq

namespace Token

/-- The operand that a token is, if it is one. -/
def operand? : Token → Option Operand
  | .register place => some (.register place)
  | .number word => some (.literal word)
  | _ => none

/-- The register that a token is, if it is one. -/
def register? : Token → Option Register
  | .register place => some place
  | _ => none

/-- The condition that a token is, if it is one. -/
def condition? : Token → Option Condition
  | .condition test => some test
  | _ => none

end Token

/-- The places after a mnemonic. -/
inductive Slot
  | value
  | register
  | condition
  | comma
  deriving DecidableEq

namespace Slot

/-- What can fill a slot. -/
@[reducible] def Content : Slot → Type
  | .value => Operand
  | .register => Register
  | .condition => Condition
  | .comma => Unit

/-- The name of a slot in a report. -/
def description : Slot → String
  | .value => "VALUE"
  | .register => "REGISTER"
  | .condition => "CONDITION"
  | .comma => "COMMA"

/-- The token that is written for what fills a slot. -/
def token : (slot : Slot) → slot.Content → Token
  | .value, .register place => .register place
  | .value, .literal word => .number word
  | .register, place => .register place
  | .condition, test => .condition test
  | .comma, () => .comma

/-- What a token fills a slot with, if it fits. -/
def content? : (slot : Slot) → Token → Option slot.Content
  | .value, found => found.operand?
  | .register, found => found.register?
  | .condition, found => found.condition?
  | .comma, found => if found = .comma then some () else none

/-- A token fits a slot exactly when it is written for the content it brings. -/
theorem content?_eq_some_iff
    {slot : Slot}
    {found : Token}
    {content : slot.Content} :
    slot.content? found = some content ↔ found = slot.token content := by
  cases slot with
  | value => cases content <;> cases found <;> simp [content?, token, Token.operand?]
  | register => cases found <;> simp [content?, token, Token.register?]
  | condition => cases found <;> simp [content?, token, Token.condition?]
  | comma => simp [content?, token]

end Slot

/-- What fills a row of slots. -/
@[reducible] def Contents : List Slot → Type
  | [] => Unit
  | slot :: slots => slot.Content × Contents slots

namespace Contents

/-- The tokens that are written for what fills a row of slots. -/
def tokens : (slots : List Slot) → Contents slots → List Token
  | [], () => []
  | slot :: slots, (content, contents) => slot.token content :: tokens slots contents

end Contents

namespace Mnemonic

/-- The row of slots after a mnemonic. -/
@[reducible] def shape : Mnemonic → List Slot
  | .copy => [.value, .comma, .register]
  | .load => [.value, .comma, .register]
  | .store => [.value, .comma, .value]
  | .arith _ => [.value, .comma, .value, .comma, .register]
  | .read => [.register]
  | .write => [.value]
  | .jump => [.condition, .comma, .value, .comma, .value]

/-- The instruction of a mnemonic whose slots have been filled. -/
def instruction : (mnemonic : Mnemonic) → Contents mnemonic.shape → Instruction
  | .copy, (source, (), target, ()) => .copy source target
  | .load, (address, (), target, ()) => .load address target
  | .store, (source, (), address, ()) => .store source address
  | .arith op, (lhs, (), rhs, (), target, ()) => .arith op lhs rhs target
  | .read, (target, ()) => .read target
  | .write, (source, ()) => .write source
  | .jump, (test, (), source, (), address, ()) => .jump test source address

end Mnemonic

namespace Instruction

/-- The mnemonic of an instruction. -/
def mnemonic : Instruction → Mnemonic
  | .copy .. => .copy
  | .load .. => .load
  | .store .. => .store
  | .arith op .. => .arith op
  | .read .. => .read
  | .write .. => .write
  | .jump .. => .jump

/-- What fills the slots of an instruction. -/
def contents : (instruction : Instruction) → Contents instruction.mnemonic.shape
  | .copy source target => (source, (), target, ())
  | .load address target => (address, (), target, ())
  | .store source address => (source, (), address, ())
  | .arith _ lhs rhs target => (lhs, (), rhs, (), target, ())
  | .read target => (target, ())
  | .write source => (source, ())
  | .jump test source address => (test, (), source, (), address, ())

@[simp] theorem instruction_contents (instruction : Instruction) :
    instruction.mnemonic.instruction instruction.contents = instruction := by
  cases instruction <;> rfl

/-- The tokens after the mnemonic of an instruction. -/
def operandTokens (instruction : Instruction) : List Token :=
  Contents.tokens instruction.mnemonic.shape instruction.contents

/-- The tokens of an instruction. -/
def tokens (instruction : Instruction) : List Token :=
  .mnemonic instruction.mnemonic :: instruction.operandTokens

@[simp] theorem tokens_instruction
    (mnemonic : Mnemonic)
    (contents : Contents mnemonic.shape) :
    (mnemonic.instruction contents).tokens =
      .mnemonic mnemonic :: Contents.tokens mnemonic.shape contents := by
  cases mnemonic <;> rfl

/-- The written form of an instruction: a blank after the mnemonic and none after that. -/
def text (instruction : Instruction) : String :=
  instruction.mnemonic.spelling ++ " " ++
    String.join (instruction.operandTokens.map Token.spelling)

/-- Whether an instruction can change the order of execution. -/
def isJump : Instruction → Bool
  | .jump .. => true
  | _ => false

end Instruction
end RegisterMachine
