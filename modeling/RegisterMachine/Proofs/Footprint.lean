import Mathlib.Data.Finset.Card
import RegisterMachine.Proofs.Failing
import RegisterMachine.Proofs.Operating

/-!
# The footprint of a program

An instruction stores at most one word, and where it stores can be read off it.
An address that is a register names the register itself, so the contents of a
register never become an address of memory. Whatever a machine is called on to
do, its storage changes only by words stored at the destinations of its program.
Every other location keeps what it held, and no memory cell is ever given up.
-/

namespace RegisterMachine

/-! ## Destinations -/

/-- The location that an instruction stores to, if it stores. -/
def Instruction.destination? : Instruction → Option Location
  | .copy _ target => some (.register target)
  | .load _ target => some (.register target)
  | .store _ address => some address.location
  | .arith _ _ _ target => some (.register target)
  | .read target => some (.register target)
  | .write _ => none
  | .jump _ _ _ => none

/-- The literal address that an instruction stores to, if it stores to one. -/
def Instruction.storedAddress? : Instruction → Option Word
  | .store _ (.literal address) => some address
  | _ => none

namespace Program

/-- The locations that the instructions of a program store to. -/
def destinations (program : Program) : List Location :=
  program.instructions.toList.filterMap Instruction.destination?

/-- The literal addresses that the instructions of a program store to. -/
def storedAddresses (program : Program) : Finset Word :=
  (program.instructions.toList.filterMap Instruction.storedAddress?).toFinset

end Program

theorem Instruction.destination?_eq_cell_iff
    {instruction : Instruction}
    {address : Word} :
    instruction.destination? = some (.cell address) ↔
      instruction.storedAddress? = some address := by
  cases instruction with
  | store source operand =>
      cases operand <;> simp [destination?, storedAddress?, Operand.location]
  | _ => simp [destination?, storedAddress?]

namespace Program

variable {program : Program}
variable {location : Location}

theorem mem_destinations_iff :
    location ∈ program.destinations ↔
      ∃ instruction ∈ program.instructions, instruction.destination? = some location := by
  simp only [destinations, List.mem_filterMap, Array.mem_toList_iff]

theorem cell_mem_destinations_iff
    {address : Word} :
    .cell address ∈ program.destinations ↔ address ∈ program.storedAddresses := by
  simp only [destinations, storedAddresses, List.mem_toFinset, List.mem_filterMap,
    Instruction.destination?_eq_cell_iff]

theorem mem_storedAddresses_iff
    {address : Word} :
    address ∈ program.storedAddresses ↔
      ∃ source, .store source (.literal address) ∈ program.instructions := by
  simp only [storedAddresses, List.mem_toFinset, List.mem_filterMap, Array.mem_toList_iff]
  constructor
  · rintro ⟨instruction, isMember, stores⟩
    unfold Instruction.storedAddress? at stores
    split at stores
    · cases stores
      exact ⟨_, isMember⟩
    · cases stores
  · rintro ⟨source, isMember⟩
    exact ⟨_, isMember, rfl⟩

theorem mem_destinations_of_get?
    {address : Nat}
    {instruction : Instruction}
    (found : program.get? address = some instruction)
    (isDestination : instruction.destination? = some location) :
    location ∈ program.destinations :=
  mem_destinations_iff.mpr ⟨instruction, Array.mem_of_getElem? found, isDestination⟩

end Program

/-! ## Memory -/

namespace Memory

/-- The addresses that have been stored to, in ascending order. -/
def addresses (memory : Memory) : List Word :=
  memory.cells.map Prod.fst

theorem addresses_nodup (memory : Memory) : memory.addresses.Nodup := by
  rw [addresses, List.nodup_iff_pairwise_ne, List.pairwise_map]
  exact memory.ascending.imp fun {_ _} isBefore same => Int64.ne_of_lt isBefore same

/-- There are as many cells as addresses, and no address is counted twice. -/
theorem size_eq_card (memory : Memory) : memory.size = memory.addresses.toFinset.card := by
  rw [List.toFinset_card_of_nodup memory.addresses_nodup, addresses, List.length_map, size]

theorem mem_addresses_iff
    {memory : Memory}
    {address : Word} :
    address ∈ memory.addresses ↔ (memory.cells.lookup address).isSome = true := by
  rw [addresses, List.mem_map, List.lookup_isSome_iff]
  constructor
  · rintro ⟨cell, isCell, rfl⟩
    exact ⟨cell, isCell, beq_self_eq_true _⟩
  · rintro ⟨cell, isCell, same⟩
    exact ⟨cell, isCell, (eq_of_beq same).symm⟩

@[simp] theorem mem_addresses_set
    {memory : Memory}
    {address other word : Word} :
    address ∈ (memory.set other word).addresses ↔
      address = other ∨ address ∈ memory.addresses := by
  rw [mem_addresses_iff, mem_addresses_iff, set, lookup_insert]
  split <;> simp_all

theorem get_set
    (memory : Memory)
    (address other word : Word) :
    (memory.set other word).get address =
      if address = other then word else memory.get address := by
  rw [get, set, lookup_insert]
  split <;> rfl

end Memory

/-! ## Storing -/

namespace Storage

variable {storage before after : Storage}
variable {word : Word}
variable {location other : Location}
variable {locations : List Location}

/-- A word that has been stored at a location is found there. -/
theorem fetch_of_store
    (stored : storage.store word location = .ok after) :
    after.fetch location = .ok word := by
  cases location with
  | register place =>
      simp only [store, Registers.set] at stored
      split at stored
      · rename_i inRange
        cases stored
        simp [fetch, Registers.get, inRange]
      · cases stored
  | cell address =>
      cases stored
      simp [fetch, Memory.get_set]

/-- Storing a word leaves every other location as it is. -/
theorem fetch_of_store_of_ne
    (stored : storage.store word location = .ok after)
    (different : other ≠ location) :
    after.fetch other = storage.fetch other := by
  cases location with
  | register place =>
      simp only [store, Registers.set] at stored
      split at stored
      · cases stored
        cases other with
        | register held =>
            have numbers_ne : place.number ≠ held.number := by
              intro same
              cases place
              cases held
              cases same
              exact different rfl
            simp only [fetch, Registers.get, Vector.getElem_set_ne _ _ numbers_ne]
        | cell address => rfl
      · cases stored
  | cell address =>
      cases stored
      cases other with
      | register held => rfl
      | cell kept =>
          have addresses_ne : kept ≠ address := by
            rintro rfl
            exact different rfl
          simp only [fetch, Memory.get_set, if_neg addresses_ne]

/-- Storing a word gives up no address and adds at most the one that it is stored at. -/
theorem mem_addresses_of_store
    (stored : storage.store word location = .ok after)
    (address : Word) :
    address ∈ after.memory.addresses ↔
      .cell address = location ∨ address ∈ storage.memory.addresses := by
  cases location with
  | register place =>
      simp only [store, Registers.set] at stored
      split at stored
      · cases stored
        simp
      · cases stored
  | cell target =>
      cases stored
      simp

/-- There is room for a word in every register that the machine has. -/
theorem exists_store_of_lt
    {place : Register}
    (inRange : place.number < Register.count)
    (storage : Storage)
    (word : Word) :
    ∃ after, storage.store word (.register place) = .ok after := by
  simp only [store, Registers.set, dif_pos inRange]
  exact ⟨_, rfl⟩

/-- A storage becomes another by words that are stored at some locations, one after the other. -/
def Develops (locations : List Location) : Storage → Storage → Prop :=
  Relation.ReflTransGen fun before after =>
    ∃ location ∈ locations, ∃ word, before.store word location = .ok after

namespace Develops

theorem fetch_eq
    (develops : Develops locations before after)
    (notStored : location ∉ locations) :
    after.fetch location = before.fetch location := by
  induction develops with
  | refl => rfl
  | tail _ last inductionHypothesis =>
      obtain ⟨target, isTarget, word, stored⟩ := last
      have different : location ≠ target := by
        rintro rfl
        exact notStored isTarget
      rw [fetch_of_store_of_ne stored different, inductionHypothesis]

theorem mem_addresses
    (develops : Develops locations before after)
    {address : Word}
    (isAddress : address ∈ after.memory.addresses) :
    .cell address ∈ locations ∨ address ∈ before.memory.addresses := by
  induction develops with
  | refl => exact .inr isAddress
  | tail _ last inductionHypothesis =>
      obtain ⟨target, isTarget, word, stored⟩ := last
      rcases (mem_addresses_of_store stored address).mp isAddress with rfl | isEarlier
      · exact .inl isTarget
      · exact inductionHypothesis isEarlier

theorem addresses_subset
    (develops : Develops locations before after) :
    before.memory.addresses ⊆ after.memory.addresses := by
  induction develops with
  | refl => exact List.Subset.refl _
  | tail _ last inductionHypothesis =>
      obtain ⟨target, -, word, stored⟩ := last
      intro address isAddress
      exact (mem_addresses_of_store stored address).mpr (.inr (inductionHypothesis isAddress))

end Develops
end Storage

/-! ## What becomes of the storage -/

namespace Machine

variable {World : Type}
variable {machine after : Machine World}

namespace Exec

/-- A look at the storage leaves the machine as it is for what comes after. -/
theorem examine_bind_eq_ok_iff
    {α β : Type}
    {look : Storage → Except Fault α}
    {act : α → Exec World β}
    {result : β} :
    (examine look >>= act) machine = .ok result after ↔
      ∃ value, look machine.storage = .ok value ∧ act value machine = .ok result after := by
  simp only [Stateful.bind_eq_ok_iff, examine_eq_ok_iff]
  constructor
  · rintro ⟨value, middle, ⟨looked, rfl⟩, continued⟩
    exact ⟨value, looked, continued⟩
  · rintro ⟨value, looked, continued⟩
    exact ⟨value, machine, ⟨looked, rfl⟩, continued⟩

theorem store_eq_ok_iff
    {word : Word}
    {location : Location} :
    store word location machine = .ok () after ↔
      ∃ storage,
        machine.storage.store word location = .ok storage ∧ after = { machine with storage } := by
  simp only [store, examine_bind_eq_ok_iff]
  constructor
  · rintro ⟨storage, stored, modified⟩
    cases modified
    exact ⟨storage, stored, rfl⟩
  · rintro ⟨storage, stored, rfl⟩
    exact ⟨storage, stored, rfl⟩

theorem storage_of_store
    {word : Word}
    {location : Location}
    (stored : store word location machine = .ok () after) :
    machine.storage.store word location = .ok after.storage := by
  obtain ⟨storage, becomes, rfl⟩ := store_eq_ok_iff.mp stored
  exact becomes

variable [Console World]

/-- An instruction leaves the storage as it is or stores one word at its destination. -/
theorem storage_of_instruction
    {instruction : Instruction}
    (executed : Exec.instruction instruction machine = .ok () after) :
    after.storage = machine.storage ∨
      ∃ location word,
        instruction.destination? = some location ∧
        machine.storage.store word location = .ok after.storage := by
  cases instruction with
  | copy source target =>
      obtain ⟨word, -, stored⟩ := examine_bind_eq_ok_iff.mp executed
      exact .inr ⟨_, word, rfl, storage_of_store stored⟩
  | load address target =>
      obtain ⟨word, -, stored⟩ := examine_bind_eq_ok_iff.mp executed
      exact .inr ⟨_, word, rfl, storage_of_store stored⟩
  | store source address =>
      obtain ⟨word, -, stored⟩ := examine_bind_eq_ok_iff.mp executed
      exact .inr ⟨_, word, rfl, storage_of_store stored⟩
  | arith op lhs rhs target =>
      obtain ⟨left, -, continued⟩ := examine_bind_eq_ok_iff.mp executed
      obtain ⟨right, -, stored⟩ := examine_bind_eq_ok_iff.mp continued
      exact .inr ⟨_, op.apply left right, rfl, storage_of_store stored⟩
  | read target =>
      obtain ⟨word, middle, wasRead, stored⟩ := Stateful.bind_eq_ok_iff.mp executed
      obtain ⟨console, -, rfl⟩ := onConsole_eq_ok_iff.mp wasRead
      have becomes := storage_of_store stored
      exact .inr ⟨_, word, rfl, becomes⟩
  | write source =>
      obtain ⟨word, -, written⟩ := examine_bind_eq_ok_iff.mp executed
      obtain ⟨console, -, rfl⟩ := onConsole_eq_ok_iff.mp written
      exact .inl rfl
  | jump condition source address =>
      obtain ⟨tested, -, continued⟩ := examine_bind_eq_ok_iff.mp executed
      split at continued
      · obtain ⟨target, -, moved⟩ := examine_bind_eq_ok_iff.mp continued
        cases moved
        exact .inl rfl
      · cases continued
        exact .inl rfl

end Exec

variable [Console World]

theorem develops_of_step
    (stepped : step machine = .ok true after) :
    Storage.Develops machine.program.destinations machine.storage after.storage := by
  obtain ⟨address, instruction, found, executed⟩ := step_eq_true_iff.mp stepped
  obtain ⟨-, -, get_eq⟩ := next?_eq_some_iff.mp found
  rcases Exec.storage_of_instruction executed with unchanged | ⟨location, word, isTarget, stored⟩
  · rw [unchanged]
    exact .refl
  · exact .single ⟨location, Program.mem_destinations_of_get? get_eq isTarget, word, stored⟩

theorem Reaches.develops
    (reaches : machine.Reaches after) :
    Storage.Develops machine.program.destinations machine.storage after.storage := by
  induction reaches with
  | refl => exact .refl
  | tail earlier stepped inductionHypothesis =>
      have develops := develops_of_step stepped
      rw [Reaches.program_eq earlier] at develops
      exact inductionHypothesis.trans develops

/-- However a call ends, the end of it stores nothing. -/
theorem Concludes.storage_eq
    {answer : Answer}
    (concludes : machine.Concludes answer after) :
    after.storage = machine.storage := by
  cases concludes with
  | trapped failed =>
      obtain ⟨_, _, -, -, rfl⟩ := step_eq_error_iff_fails.mp failed
      rfl
  | _ => rfl

theorem Responds.develops
    {call : Call}
    {answer : Answer}
    (responds : machine.Responds call answer after) :
    Storage.Develops machine.program.destinations machine.storage after.storage := by
  obtain ⟨last, reaches, concludes⟩ := responds.exists_concludes
  rw [concludes.storage_eq]
  exact reaches.develops

/-- Whatever a machine is called on to do, its storage changes only at the destinations of its
program. -/
theorem Undergoes.develops
    {exchanges : List (Call × Answer)}
    (undergone : machine.Undergoes exchanges after) :
    Storage.Develops machine.program.destinations machine.storage after.storage := by
  induction undergone with
  | nil => exact .refl
  | cons responds _ inductionHypothesis =>
      rw [responds.program_eq] at inductionHypothesis
      exact responds.develops.trans inductionHypothesis

/-- A load from a cell that holds a word succeeds, and the target then holds the word. -/
theorem exists_step_of_load
    {place : Nat}
    {address : Word}
    {target : Register}
    (found : machine.next? = some (place, .load (.literal address) target))
    (inRange : target.number < Register.count) :
    ∃ after,
      step machine = .ok true after ∧
      after.storage.registers.get target = .ok (machine.storage.memory.get address) := by
  obtain ⟨storage, stored⟩ :=
    Storage.exists_store_of_lt inRange machine.storage (machine.storage.memory.get address)
  refine ⟨{ machine.advanced with storage }, ?_, Storage.fetch_of_store stored⟩
  apply step_eq_true_iff.mpr
  refine ⟨place, _, found, ?_⟩
  apply Exec.examine_bind_eq_ok_iff.mpr
  exact ⟨machine.storage.memory.get address, rfl, Exec.store_eq_ok_iff.mpr ⟨storage, stored, rfl⟩⟩

/-- However a new machine is operated, its memory has only addresses that its program stores to as
literals, and it keeps all that it has. A load from any other literal address gives zero, a
register that is no destination of the program holds zero, and the program is as it was. -/
theorem footprint_is_static
    (program : Program)
    (console : World)
    (exchanges : List (Call × Answer))
    (machine : Machine World)
    (undergone : Undergoes { program, console } exchanges machine) :
    (∀ address ∈ machine.storage.memory.addresses,
      ∃ source, .store source (.literal address) ∈ program.instructions) ∧
    machine.storage.memory.size ≤ program.storedAddresses.card ∧
    (∀ address, (∀ source, .store source (.literal address) ∉ program.instructions) →
      ∀ place target, machine.next? = some (place, .load (.literal address) target) →
        target.number < Register.count →
        ∃ after,
          step machine = .ok true after ∧ after.storage.registers.get target = .ok 0) ∧
    (∀ later after, machine.Undergoes later after →
      machine.storage.memory.addresses ⊆ after.storage.memory.addresses) ∧
    (∀ register : Register, register.number < Register.count →
      (∀ instruction ∈ program.instructions,
        instruction.destination? ≠ some (.register register)) →
      machine.storage.registers.get register = .ok 0) ∧
    machine.program = program := by
  have develops := undergone.develops
  have literal (address : Word) (isAddress : address ∈ machine.storage.memory.addresses) :
      address ∈ program.storedAddresses := by
    rcases develops.mem_addresses isAddress with isDestination | isEarlier
    · exact Program.cell_mem_destinations_iff.mp isDestination
    · cases isEarlier
  refine ⟨?_, ?_, ?_, ?_, ?_, undergone.program_eq⟩
  · intro address isAddress
    exact Program.mem_storedAddresses_iff.mp (literal address isAddress)
  · rw [Memory.size_eq_card]
    apply Finset.card_le_card
    intro address isAddress
    exact literal address (List.mem_toFinset.mp isAddress)
  · intro address notStored place target found inRange
    obtain ⟨after, stepped, loaded⟩ := exists_step_of_load found inRange
    have notDestination : .cell address ∉ program.destinations := by
      rw [Program.cell_mem_destinations_iff, Program.mem_storedAddresses_iff]
      rintro ⟨source, isStored⟩
      exact notStored source isStored
    have zero : machine.storage.memory.get address = 0 :=
      Except.ok.inj (develops.fetch_eq notDestination)
    rw [zero] at loaded
    exact ⟨after, stepped, loaded⟩
  · intro later after undergoneLater
    exact undergoneLater.develops.addresses_subset
  · intro register inRange neverStored
    have notDestination : .register register ∉ program.destinations := by
      rw [Program.mem_destinations_iff]
      rintro ⟨instruction, isMember, stores⟩
      exact neverStored instruction isMember stores
    have unchanged := develops.fetch_eq notDestination
    refine unchanged.trans ?_
    simp [Storage.fetch, Registers.get, Registers.zero, inRange]

/-- A machine that stores at an address in a register and at a literal one, and then loads from the
address that the register held. -/
def detour : Machine ByteConsole where
  program :=
    .ofList
      [.copy (.literal 9) ⟨3⟩,
        .store (.literal 5) (.register ⟨3⟩),
        .store (.register ⟨3⟩) (.literal (-2)),
        .load (.literal 9) ⟨4⟩]
  console := { input := [], sink := {} }

/-- The register takes the place of the cell whose address it held, so the load gives zero. -/
theorem detour_loads_zero :
    ∃ machine after,
      detour.Undergoes [(.execute 3, .executed .running)] machine ∧
      machine.storage.memory.cells = [(-2, 5)] ∧
      machine.storage.memory.size ≤ 1 ∧
      machine.storage.registers.get ⟨3⟩ = .ok 5 ∧
      machine.storage.registers.get ⟨5⟩ = .ok 0 ∧
      step machine = .ok true after ∧
      after.storage.registers.get ⟨4⟩ = .ok 0 := by
  let machine : Machine ByteConsole :=
    { detour with
      storage :=
        { registers := ⟨#v[0, 0, 0, 5, 0, 0, 0, 0, 0, 0, 0, 0, 0, 0, 0, 0]⟩
          memory := Memory.empty.set (-2) 5 }
      counter := 3 }
  have batch : execute 3 detour = .ok .running machine := by decide +kernel
  have undergone : detour.Undergoes [(.execute 3, .executed .running)] machine :=
    .cons (.execute (by rw [batch]; rfl)) .nil
  obtain ⟨-, small, loadsZero, -, holdsZero, -⟩ :=
    footprint_is_static detour.program detour.console _ machine undergone
  have notStored (source : Operand) :
      .store source (.literal 9) ∉ detour.program.instructions := by
    simp [detour, Program.ofList]
  obtain ⟨after, stepped, loaded⟩ := loadsZero 9 notStored 3 ⟨4⟩ rfl (by decide)
  refine ⟨machine, after, undergone, rfl, small, rfl, ?_, stepped, loaded⟩
  exact holdsZero ⟨5⟩ (by decide) (by decide)

end Machine
end RegisterMachine
