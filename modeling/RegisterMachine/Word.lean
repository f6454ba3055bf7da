import RegisterMachine.Decimal

/-!
# Machine words

Registers, memory cells, addresses and literals hold signed words of sixty-four
bits. Arithmetic wraps around; a condition compares a word with zero.
-/

namespace RegisterMachine

/-- A signed word of sixty-four bits. -/
abbrev Word : Type := Int64

namespace Word

/-- The word of an integer that lies in the range of words, from `-2 ^ 63` to `2 ^ 63 - 1`. -/
def ofInt? (n : Int) : Option Word :=
  if -9223372036854775808 ≤ n ∧ n ≤ 9223372036854775807 then some (Int64.ofInt n) else none

/-- A word in decimal. -/
def text (word : Word) : String :=
  Decimal.ofInt word.toInt

end Word

/-- The operations on two words. -/
inductive ArithOp
  | add
  | sub
  | mul
  deriving DecidableEq

namespace ArithOp

/-- The result of an operation, wrapped around to a word. -/
def apply : ArithOp → Word → Word → Word
  | .add, lhs, rhs => lhs + rhs
  | .sub, lhs, rhs => lhs - rhs
  | .mul, lhs, rhs => lhs * rhs

/-- The name of an operation. -/
def spelling : ArithOp → String
  | .add => "ADD"
  | .sub => "SUB"
  | .mul => "MUL"

end ArithOp

/-- The comparisons of a word with zero. -/
inductive Condition
  | zero
  | positive
  | negative
  deriving DecidableEq

namespace Condition

/-- Every condition. -/
def all : List Condition :=
  [.zero, .positive, .negative]

/-- Whether a word meets a condition. -/
def holds : Condition → Word → Bool
  | .zero, word => decide (word = 0)
  | .positive, word => decide (0 < word)
  | .negative, word => decide (word < 0)

/-- The name of a condition. -/
def spelling : Condition → String
  | .zero => "zero"
  | .positive => "pos"
  | .negative => "neg"

/-- The condition of a name. -/
def ofSpelling? (name : String) : Option Condition :=
  all.find? (·.spelling = name)

@[simp] theorem ofSpelling?_spelling (condition : Condition) :
    ofSpelling? condition.spelling = some condition := by
  cases condition <;> decide

end Condition
end RegisterMachine
