import RegisterMachine.Assembly.Instruction
import RegisterMachine.Machine.Fault

/-!
# Storage

The registers and the memory of the machine. Every location holds a word, which
is zero until another one is stored. Memory keeps the cells that have been
stored to, in ascending order of their addresses, so two memories with the same
stored cells are equal.
-/

namespace RegisterMachine

/-- The words in the registers. -/
structure Registers where
  words : Vector Word Register.count
  deriving DecidableEq

namespace Registers

/-- Registers that all hold zero. -/
def zero : Registers := ⟨.replicate Register.count 0⟩

/-- The word in a register. -/
def get (registers : Registers) (place : Register) : Except Fault Word :=
  if inRange : place.number < Register.count then
    .ok registers.words[place.number]
  else
    .error (.registerOutOfRange place)

/-- Put a word into a register. -/
def set (registers : Registers) (place : Register) (word : Word) : Except Fault Registers :=
  if inRange : place.number < Register.count then
    .ok ⟨registers.words.set place.number word⟩
  else
    .error (.registerOutOfRange place)

end Registers

/-- The memory cells that have been stored to, as pairs of an address and a word. -/
structure Memory where
  cells : List (Word × Word)
  /-- The addresses are strictly ascending. -/
  ascending : cells.Pairwise (fun cell later => cell.1 < later.1)
  deriving DecidableEq

namespace Memory

/-- Memory that has not been stored to. -/
def empty : Memory := ⟨[], .nil⟩

/-- Put a word among ascending cells, in place of the one that has its address. -/
def insert (address word : Word) : List (Word × Word) → List (Word × Word)
  | [] => [(address, word)]
  | cell :: cells =>
      if address < cell.1 then (address, word) :: cell :: cells
      else if cell.1 < address then cell :: insert address word cells
      else (address, word) :: cells

/-- The addresses after a word has been put among cells. -/
theorem mem_insert
    {address word : Word}
    {cells : List (Word × Word)}
    {cell : Word × Word}
    (isMember : cell ∈ insert address word cells) :
    cell = (address, word) ∨ cell ∈ cells := by
  fun_induction insert address word cells <;> grind

theorem insert_ascending
    {address word : Word}
    {cells : List (Word × Word)}
    (ascending : cells.Pairwise (fun cell later => cell.1 < later.1)) :
    (insert address word cells).Pairwise (fun cell later => cell.1 < later.1) := by
  fun_induction insert address word cells with
  | case1 => exact List.pairwise_singleton _ _
  | case2 cell cells before =>
      refine List.pairwise_cons.mpr ⟨?_, ascending⟩
      intro later isMember
      rcases List.mem_cons.mp isMember with rfl | isMember
      · exact before
      · exact Int64.lt_trans before ((List.pairwise_cons.mp ascending).1 later isMember)
  | case3 cell cells notBefore after ih =>
      obtain ⟨headBefore, tailAscending⟩ := List.pairwise_cons.mp ascending
      refine List.pairwise_cons.mpr ⟨?_, ih tailAscending⟩
      intro later isMember
      rcases mem_insert isMember with rfl | isMember
      · exact after
      · exact headBefore later isMember
  | case4 cell cells notBefore notAfter =>
      obtain ⟨headBefore, tailAscending⟩ := List.pairwise_cons.mp ascending
      have sameAddress : cell.1 = address :=
        Int64.le_antisymm (Int64.not_lt.mp notBefore) (Int64.not_lt.mp notAfter)
      exact List.pairwise_cons.mpr
        ⟨fun later isMember => sameAddress ▸ headBefore later isMember, tailAscending⟩

/-- Looking an address up after a word has been put among cells. -/
theorem lookup_insert
    (address word other : Word)
    (cells : List (Word × Word)) :
    (insert address word cells).lookup other =
      if other = address then some word else cells.lookup other := by
  fun_induction insert address word cells <;> grind

/-- The word in a cell. -/
def get (memory : Memory) (address : Word) : Word :=
  (memory.cells.lookup address).getD 0

/-- Store a word to a cell. -/
def set (memory : Memory) (address word : Word) : Memory where
  cells := insert address word memory.cells
  ascending := insert_ascending memory.ascending

/-- How many cells have been stored to. -/
def size (memory : Memory) : Nat :=
  memory.cells.length

end Memory

/-- The registers and the memory of the machine. -/
structure Storage where
  registers : Registers := .zero
  memory : Memory := .empty
  deriving DecidableEq

/-- A place that holds a word. -/
inductive Location
  | register (place : Register)
  | cell (address : Word)
  deriving DecidableEq

/-- The location that an operand names when it stands for an address. A register names itself. -/
def Operand.location : Operand → Location
  | .register place => .register place
  | .literal address => .cell address

namespace Storage

/-- The word at a location. -/
def fetch (storage : Storage) : Location → Except Fault Word
  | .register place => storage.registers.get place
  | .cell address => .ok (storage.memory.get address)

/-- Store a word at a location. -/
def store (storage : Storage) (word : Word) : Location → Except Fault Storage
  | .register place =>
      (storage.registers.set place word).map fun registers => { storage with registers }
  | .cell address => .ok { storage with memory := storage.memory.set address word }

/-- The word that an operand stands for when it is a value. -/
def value (storage : Storage) : Operand → Except Fault Word
  | .register place => storage.registers.get place
  | .literal word => .ok word

end Storage
end RegisterMachine
