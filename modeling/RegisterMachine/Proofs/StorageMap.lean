import Mathlib.Data.List.Nodup
import RegisterMachine.Proofs.Footprint

/-!
# Storage is a map

A machine has sixteen registers and a memory cell for every word. Words can be
stored in three ways: at the location that an operand names, straight into a
register, and straight to a memory cell. However they are stored, each location
holds the word that was stored at it last, and zero if there was none. The only
stores that fail are those into a register that the machine does not have; they
change nothing, and nothing can be fetched from there either.

A storage is known from its entries, which are the words in the registers and
the words in the cells that have been stored to. So stores at different
locations can change places, and the storage after them is the same down to the
cells that memory keeps.
-/

namespace RegisterMachine

/-! ## Deposits -/

/-- A location that the machine has. -/
def Location.IsPresent : Location → Prop
  | .register place => place.number < Register.count
  | .cell _ => True

instance Location.decidableIsPresent (location : Location) : Decidable location.IsPresent :=
  match location with
  | .register place => inferInstanceAs (Decidable (place.number < Register.count))
  | .cell _ => .isTrue trivial

/-- The memory address of a location, if it is a cell. -/
def Location.address? : Location → Option Word
  | .register _ => none
  | .cell address => some address

theorem Location.address?_eq_some_iff
    {location : Location}
    {address : Word} :
    location.address? = some address ↔ location = .cell address := by
  cases location <;> simp [address?]

theorem Location.not_isPresent_iff
    {location : Location} :
    ¬location.IsPresent ↔ ∃ place, location = .register place ∧ Register.count ≤ place.number := by
  constructor
  · intro isAbsent
    cases location with
    | register place => exact ⟨place, rfl, Nat.le_of_not_lt isAbsent⟩
    | cell address => exact absurd trivial isAbsent
  · rintro ⟨place, rfl, outOfRange⟩
    exact Nat.not_lt_of_le outOfRange

namespace Storage

variable {place : Register}

theorem fetch_of_le
    (outOfRange : Register.count ≤ place.number)
    (storage : Storage) :
    storage.fetch (.register place) = .error (.registerOutOfRange place) := by
  simp only [fetch, Registers.get, dif_neg (Nat.not_lt_of_le outOfRange)]

theorem store_of_le
    (outOfRange : Register.count ≤ place.number)
    (storage : Storage)
    (word : Word) :
    storage.store word (.register place) = .error (.registerOutOfRange place) := by
  simp only [store, Registers.set, dif_neg (Nat.not_lt_of_le outOfRange)]
  rfl

end Storage

/-- A word that is to be stored, with the way in which it is stored: at the location that an
operand names, straight into a register, or straight to a memory cell. -/
inductive Deposit
  | operand (address : Operand) (word : Word)
  | register (place : Register) (word : Word)
  | cell (address word : Word)

namespace Deposit

/-- Where a deposit is to be stored. -/
def location : Deposit → Location
  | .operand address _ => address.location
  | .register place _ => .register place
  | .cell address _ => .cell address

/-- The word that a deposit brings. -/
def word : Deposit → Word
  | .operand _ word => word
  | .register _ word => word
  | .cell _ word => word

/-- The storage with a deposit stored in its way, or why it cannot be stored. -/
def outcome (storage : Storage) : Deposit → Except Fault Storage
  | .operand address word => storage.store word address.location
  | .register place word =>
      (storage.registers.set place word).map fun registers => { storage with registers }
  | .cell address word => .ok { storage with memory := storage.memory.set address word }

/-- Store a deposit. If that fails, the storage stays as it is. -/
def make (deposit : Deposit) : EStateM Fault Storage Unit := fun storage =>
  match deposit.outcome storage with
  | .ok after => .ok () after
  | .error fault => .error fault storage

/-- The memory addresses that some deposits are to be stored at. -/
def addresses (deposits : List Deposit) : Finset Word :=
  (deposits.filterMap fun deposit => deposit.location.address?).toFinset

theorem mem_addresses_iff
    {deposits : List Deposit}
    {address : Word} :
    address ∈ addresses deposits ↔ ∃ deposit ∈ deposits, deposit.location = .cell address := by
  simp only [addresses, List.mem_toFinset, List.mem_filterMap, Location.address?_eq_some_iff]

variable {deposit : Deposit}

/-- The way in which a deposit is stored makes no difference. -/
theorem outcome_eq_store
    (deposit : Deposit)
    (storage : Storage) :
    deposit.outcome storage = storage.store deposit.word deposit.location := by
  cases deposit <;> rfl

/-- A deposit at a location that the machine has succeeds. -/
theorem exists_make_of_isPresent
    (isPresent : deposit.location.IsPresent)
    (storage : Storage) :
    ∃ after,
      deposit.make storage = .ok () after ∧
      storage.store deposit.word deposit.location = .ok after := by
  have exists_store : ∃ after, storage.store deposit.word deposit.location = .ok after := by
    cases location_eq : deposit.location with
    | register place =>
        rw [location_eq] at isPresent
        exact Storage.exists_store_of_lt isPresent storage deposit.word
    | cell address => exact ⟨_, rfl⟩
  obtain ⟨after, stored⟩ := exists_store
  refine ⟨after, ?_, stored⟩
  simp only [make, outcome_eq_store, stored]

/-- A deposit fails exactly in a register that the machine does not have, and it then leaves the
storage as it is. -/
theorem make_eq_error_iff
    {storage after : Storage}
    {fault : Fault} :
    deposit.make storage = .error fault after ↔
      ∃ place,
        deposit.location = .register place ∧
        Register.count ≤ place.number ∧
        fault = .registerOutOfRange place ∧
        after = storage := by
  constructor
  · intro failed
    have isAbsent : ¬deposit.location.IsPresent := by
      intro isPresent
      obtain ⟨stored, made, -⟩ := exists_make_of_isPresent isPresent storage
      cases made.symm.trans failed
    obtain ⟨place, location_eq, outOfRange⟩ := Location.not_isPresent_iff.mp isAbsent
    simp only [make, outcome_eq_store, location_eq, Storage.store_of_le outOfRange] at failed
    cases failed
    exact ⟨place, location_eq, outOfRange, rfl, rfl⟩
  · rintro ⟨place, location_eq, outOfRange, rfl, rfl⟩
    simp only [make, outcome_eq_store, location_eq, Storage.store_of_le outOfRange]

theorem exists_make_of_not_isPresent
    (isAbsent : ¬deposit.location.IsPresent)
    (storage : Storage) :
    ∃ fault, deposit.make storage = .error fault storage := by
  obtain ⟨place, location_eq, outOfRange⟩ := Location.not_isPresent_iff.mp isAbsent
  exact ⟨_, make_eq_error_iff.mpr ⟨place, location_eq, outOfRange, rfl, rfl⟩⟩

end Deposit

/-! ## Entries -/

namespace Memory

theorem mem_cells_iff
    {memory : Memory}
    {address word : Word} :
    (address, word) ∈ memory.cells ↔ memory.cells.lookup address = some word := by
  rw [List.lookup_eq_some_iff]
  constructor
  · intro isCell
    obtain ⟨before, later, cells_eq⟩ := List.append_of_mem isCell
    refine ⟨before, later, cells_eq, ?_⟩
    intro cell isEarlier
    have ascending := memory.ascending
    rw [cells_eq] at ascending
    have isBefore : cell.1 < address :=
      (List.pairwise_append.mp ascending).2.2 cell isEarlier _ List.mem_cons_self
    exact bne_iff_ne.mpr (Int64.ne_of_lt isBefore).symm
  · rintro ⟨before, later, cells_eq, -⟩
    rw [cells_eq]
    exact List.mem_append_right before List.mem_cons_self

/-- A memory is known from what is found in it. -/
theorem eq_of_lookup_eq
    {left right : Memory}
    (same : ∀ address, left.cells.lookup address = right.cells.lookup address) :
    left = right := by
  have nodup (memory : Memory) : memory.cells.Nodup := memory.addresses_nodup.of_map
  have perm : left.cells.Perm right.cells := by
    apply (List.perm_ext_iff_of_nodup (nodup left) (nodup right)).mpr
    rintro ⟨address, word⟩
    rw [mem_cells_iff, mem_cells_iff, same]
  -- Both are in ascending order, which leaves no choice of the order.
  have cells_eq : left.cells = right.cells := by
    apply List.Perm.eq_of_pairwise _ left.ascending right.ascending perm
    intro cell other _ _ isBefore isAfter
    exact absurd isAfter (Int64.lt_asymm isBefore)
  cases left
  cases right
  cases cells_eq
  rfl

end Memory

namespace Storage

/-- The word that a storage keeps at a location: in a register that the machine has, or in a cell
that has been stored to. -/
def kept? (storage : Storage) : Location → Option Word
  | .register place => (storage.registers.get place).toOption
  | .cell address => storage.memory.cells.lookup address

variable {storage left right after : Storage}
variable {word : Word}
variable {location other : Location}

/-- Where a storage keeps no word, it holds zero. -/
theorem fetch_of_isPresent
    (isPresent : location.IsPresent) :
    storage.fetch location = .ok ((storage.kept? location).getD 0) := by
  cases location with
  | register place =>
      have inRange : place.number < Register.count := isPresent
      simp [fetch, kept?, Registers.get, inRange, Except.toOption]
  | cell address => rfl

/-- A storage is known from its entries. -/
theorem eq_of_kept?_eq
    (same : ∀ location, left.kept? location = right.kept? location) :
    left = right := by
  have registers_eq : left.registers = right.registers := by
    suffices left.registers.words = right.registers.words by
      cases leftRegisters : left.registers
      cases rightRegisters : right.registers
      simp_all
    apply Vector.ext
    intro number inRange
    have words_eq := same (.register ⟨number⟩)
    simpa [kept?, Registers.get, inRange, Except.toOption] using words_eq
  have memory_eq : left.memory = right.memory :=
    Memory.eq_of_lookup_eq fun address => same (.cell address)
  cases left
  cases right
  cases registers_eq
  cases memory_eq
  rfl

/-- Storing a word makes one entry and leaves the others as they are. -/
theorem kept?_of_store
    (stored : storage.store word location = .ok after)
    (other : Location) :
    after.kept? other = if other = location then some word else storage.kept? other := by
  cases other with
  | register held =>
      split
      · rename_i same
        cases same
        exact congrArg Except.toOption (fetch_of_store stored)
      · rename_i different
        exact congrArg Except.toOption (fetch_of_store_of_ne stored different)
  | cell address =>
      cases location with
      | register place =>
          simp only [store, Registers.set] at stored
          split at stored
          · cases stored
            rfl
          · cases stored
      | cell target =>
          cases stored
          simp only [kept?, Memory.set, Memory.lookup_insert, Location.cell.injEq]

/-! ## Histories of deposits -/

/-- The storage after some deposits have been stored one after the other. -/
def afterDeposits (storage : Storage) (deposits : List Deposit) : Storage :=
  deposits.foldl (fun storage deposit => Stateful.next deposit.make storage) storage

/-- Of some deposits that are stored one after the other, those that succeed. -/
def accepted (storage : Storage) : List Deposit → List Deposit
  | [] => []
  | deposit :: deposits =>
      match deposit.make storage with
      | .ok () stored => deposit :: stored.accepted deposits
      | .error _ kept => kept.accepted deposits

/-- The last word that is successfully stored at a location, if there is one. -/
def lastStored?
    (storage : Storage)
    (deposits : List Deposit)
    (location : Location) : Option Word :=
  ((storage.accepted deposits).reverse.find? (·.location = location)).map Deposit.word

/-- A deposit makes one entry, unless it fails, and leaves the others as they are. -/
theorem kept?_make
    (storage : Storage)
    (deposit : Deposit)
    (location : Location) :
    (Stateful.next deposit.make storage).kept? location =
      if location = deposit.location ∧ location.IsPresent then some deposit.word
      else storage.kept? location := by
  by_cases isPresent : deposit.location.IsPresent
  · obtain ⟨after, made, stored⟩ := Deposit.exists_make_of_isPresent isPresent storage
    rw [Stateful.next, made, kept?_of_store stored]
    by_cases same : location = deposit.location
    · rw [if_pos same, if_pos ⟨same, same ▸ isPresent⟩]
    · rw [if_neg same, if_neg (fun both => same both.1)]
  · obtain ⟨fault, failed⟩ := Deposit.exists_make_of_not_isPresent isPresent storage
    rw [Stateful.next, failed, if_neg]
    rintro ⟨rfl, present⟩
    exact isPresent present

/-- Deposits at different locations can change places. -/
theorem next_make_comm
    {first second : Deposit}
    (different : first.location ≠ second.location)
    (storage : Storage) :
    Stateful.next second.make (Stateful.next first.make storage) =
      Stateful.next first.make (Stateful.next second.make storage) := by
  apply eq_of_kept?_eq
  intro location
  simp only [kept?_make]
  split
  · rename_i atSecond
    rw [if_neg]
    rintro ⟨atFirst, -⟩
    exact different (atFirst.symm.trans atSecond.1)
  · rfl

/-- Whether a deposit succeeds depends on its location alone. -/
theorem accepted_eq_filter
    (storage : Storage)
    (deposits : List Deposit) :
    storage.accepted deposits = deposits.filter (·.location.IsPresent) := by
  induction deposits generalizing storage with
  | nil => rfl
  | cons deposit deposits inductionHypothesis =>
      by_cases isPresent : deposit.location.IsPresent
      · obtain ⟨stored, made, -⟩ := Deposit.exists_make_of_isPresent isPresent storage
        rw [List.filter_cons_of_pos (by simpa using isPresent), ← inductionHypothesis stored]
        simp only [accepted, made]
      · obtain ⟨fault, failed⟩ := Deposit.exists_make_of_not_isPresent isPresent storage
        rw [List.filter_cons_of_neg (by simpa using isPresent), ← inductionHypothesis storage]
        simp only [accepted, failed]

/-- The first of some deposits counts only where none of the others does. -/
theorem lastStored?_cons
    (storage : Storage)
    (deposit : Deposit)
    (deposits : List Deposit)
    (location : Location) :
    storage.lastStored? (deposit :: deposits) location =
      ((Stateful.next deposit.make storage).lastStored? deposits location).or
        (if location = deposit.location ∧ location.IsPresent then some deposit.word else none) := by
  simp only [lastStored?, accepted_eq_filter]
  by_cases isPresent : deposit.location.IsPresent
  · rw [List.filter_cons_of_pos (by simpa using isPresent), List.reverse_cons, List.find?_append,
      Option.map_or, List.find?_singleton]
    by_cases same : deposit.location = location
    · subst same
      simp [isPresent]
    · simp [same, Ne.symm same]
  · have notStored : ¬(location = deposit.location ∧ location.IsPresent) := by
      rintro ⟨rfl, present⟩
      exact isPresent present
    rw [List.filter_cons_of_neg (by simpa using isPresent), if_neg notStored, Option.or_none]

/-- A word is stored last at a cell exactly when some deposit is to be stored there. -/
theorem isSome_lastStored?_cell_iff
    {deposits : List Deposit}
    {address : Word} :
    (storage.lastStored? deposits (.cell address)).isSome = true ↔
      address ∈ Deposit.addresses deposits := by
  rw [lastStored?, Option.isSome_map, List.find?_isSome, accepted_eq_filter,
    Deposit.mem_addresses_iff]
  simp only [List.mem_reverse, List.mem_filter, decide_eq_true_eq]
  constructor
  · rintro ⟨deposit, ⟨isMember, -⟩, location_eq⟩
    exact ⟨deposit, isMember, location_eq⟩
  · rintro ⟨deposit, isMember, location_eq⟩
    exact ⟨deposit, ⟨isMember, location_eq ▸ trivial⟩, location_eq⟩

/-- Every entry is the last word stored, or it was there before. -/
theorem kept?_afterDeposits
    (storage : Storage)
    (deposits : List Deposit)
    (location : Location) :
    (storage.afterDeposits deposits).kept? location =
      (storage.lastStored? deposits location).or (storage.kept? location) := by
  induction deposits generalizing storage with
  | nil => rfl
  | cons deposit deposits inductionHypothesis =>
      rw [afterDeposits, List.foldl_cons, ← afterDeposits, inductionHypothesis, kept?_make,
        lastStored?_cons, Option.or_assoc]
      split <;> rfl

/-- Deposits at different locations can change places in a history. -/
theorem afterDeposits_comm
    {first second : Deposit}
    (different : first.location ≠ second.location)
    (storage : Storage)
    (before later : List Deposit) :
    storage.afterDeposits (before ++ first :: second :: later) =
      storage.afterDeposits (before ++ second :: first :: later) := by
  simp only [afterDeposits, List.foldl_append, List.foldl_cons, next_make_comm different]

/-- No location holds anything but zero at the beginning. -/
theorem getD_kept?_initial (location : Location) :
    ((({} : Storage).kept? location).getD 0) = 0 := by
  cases location with
  | register place =>
      simp only [kept?, Registers.get, Registers.zero]
      split <;> simp [Except.toOption]
  | cell address => rfl

end Storage

/-- Whatever is stored, in whatever way and order, a register of the machine and a memory cell hold
the word that was stored there last, and zero if there was none. Only in registers that the machine
does not have can nothing be stored or fetched, and an attempt changes nothing. Stores at different
locations can change places. Memory keeps one cell for each address that was stored to, in
ascending order, with the last word. -/
theorem storage_holds_last_stored_words (deposits : List Deposit) :
    (∀ location : Location,
      location.IsPresent →
        (Storage.afterDeposits {} deposits).fetch location =
          .ok ((Storage.lastStored? {} deposits location).getD 0)) ∧
    (∀ place : Register,
      Register.count ≤ place.number →
        (Storage.afterDeposits {} deposits).fetch (.register place) =
          .error (.registerOutOfRange place)) ∧
    (∀ (deposit : Deposit) (fault : Fault) (after : Storage),
      deposit.make (Storage.afterDeposits {} deposits) = .error fault after ↔
        ∃ place,
          deposit.location = .register place ∧
          Register.count ≤ place.number ∧
          fault = .registerOutOfRange place ∧
          after = Storage.afterDeposits {} deposits) ∧
    (∀ (first second : Deposit) (later : List Deposit),
      first.location ≠ second.location →
        Storage.afterDeposits {} (deposits ++ first :: second :: later) =
          Storage.afterDeposits {} (deposits ++ second :: first :: later)) ∧
    (Storage.afterDeposits {} deposits).memory.cells.Pairwise
      (fun cell later => cell.1 < later.1) ∧
    (∀ address word : Word,
      (address, word) ∈ (Storage.afterDeposits {} deposits).memory.cells ↔
        Storage.lastStored? {} deposits (.cell address) = some word) ∧
    (Storage.afterDeposits {} deposits).memory.addresses.toFinset = Deposit.addresses deposits ∧
    (Storage.afterDeposits {} deposits).memory.size = (Deposit.addresses deposits).card := by
  have lookup_eq (address : Word) :
      (Storage.afterDeposits {} deposits).memory.cells.lookup address =
        Storage.lastStored? {} deposits (.cell address) :=
    (Storage.kept?_afterDeposits {} deposits (.cell address)).trans Option.or_none
  have addresses_eq :
      (Storage.afterDeposits {} deposits).memory.addresses.toFinset =
        Deposit.addresses deposits := by
    ext address
    rw [List.mem_toFinset, Memory.mem_addresses_iff, lookup_eq,
      Storage.isSome_lastStored?_cell_iff]
  refine ⟨?_, ?_, ?_, ?_, Memory.ascending _, ?_, addresses_eq, ?_⟩
  · intro location isPresent
    rw [Storage.fetch_of_isPresent isPresent, Storage.kept?_afterDeposits]
    cases Storage.lastStored? {} deposits location with
    | none => rw [Option.none_or, Storage.getD_kept?_initial, Option.getD_none]
    | some word => rfl
  · intro place outOfRange
    exact Storage.fetch_of_le outOfRange _
  · intro deposit fault after
    exact Deposit.make_eq_error_iff
  · intro first second later different
    exact Storage.afterDeposits_comm different {} deposits later
  · intro address word
    rw [Memory.mem_cells_iff, lookup_eq]
  · rw [Memory.size_eq_card, addresses_eq]

/-- Deposits at both ends of memory, a zero among them, with one in the last register that the
machine has and one in the first that it does not have. -/
def farDeposits : List Deposit :=
  [.cell 9223372036854775807 4,
    .operand (.literal (-9223372036854775808)) 6,
    .register ⟨16⟩ 5,
    .operand (.register ⟨15⟩) 3,
    .cell (-9223372036854775808) 0]

/-- The zero that was stored last is kept, and of the failed deposit nothing is. Another deposit
that fails can change places with one that does not. -/
theorem farDeposits_are_held :
    (Storage.afterDeposits {} farDeposits).fetch (.cell (-9223372036854775808)) = .ok 0 ∧
    (Storage.afterDeposits {} farDeposits).fetch (.register ⟨15⟩) = .ok 3 ∧
    (Storage.afterDeposits {} farDeposits).fetch (.register ⟨16⟩) =
      .error (.registerOutOfRange ⟨16⟩) ∧
    (Storage.afterDeposits {} farDeposits).memory.cells =
      [(-9223372036854775808, 0), (9223372036854775807, 4)] ∧
    (Storage.afterDeposits {} farDeposits).memory.size = 2 ∧
    Deposit.make (.register ⟨255⟩ 1) (Storage.afterDeposits {} farDeposits) =
      .error (.registerOutOfRange ⟨255⟩) (Storage.afterDeposits {} farDeposits) ∧
    Storage.afterDeposits {} (farDeposits ++ [.register ⟨16⟩ 1, .cell 0 2]) =
      Storage.afterDeposits {} (farDeposits ++ [.cell 0 2, .register ⟨16⟩ 1]) := by
  obtain ⟨holds, refuses, fails_iff, commutes, -, -, -, size_eq⟩ :=
    storage_holds_last_stored_words farDeposits
  refine ⟨?_, ?_, refuses ⟨16⟩ (by decide), by decide +kernel, ?_, ?_, ?_⟩
  · exact holds (.cell (-9223372036854775808)) trivial
  · exact holds (.register ⟨15⟩) (by decide)
  · rw [size_eq]
    decide +kernel
  · exact (fails_iff _ _ _).mpr ⟨⟨255⟩, rfl, by decide, rfl, rfl⟩
  · exact commutes (.register ⟨16⟩ 1) (.cell 0 2) [] (by decide)

/-- Not every location holds a word. Nothing has been stored in the first register that the machine
does not have, and yet it does not hold zero. -/
theorem absent_register_holds_no_word :
    ¬∀ (deposits : List Deposit) (location : Location),
      (Storage.afterDeposits {} deposits).fetch location =
        .ok ((Storage.lastStored? {} deposits location).getD 0) := by
  intro holds
  exact absurd (holds [] (.register ⟨16⟩)) (by decide)

end RegisterMachine
