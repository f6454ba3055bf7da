import RegisterMachine.Proofs.Bisimulation
import RegisterMachine.Proofs.Footprint

/-!
# Stored zeros

Memory keeps the cells that have been stored to, also those that zero has been
stored to. A cell that has not been stored to holds zero as well, so two
memories can hold the same words and yet keep different cells. No machine tells
such memories apart: whatever it is called on to do, it answers the same, and
the memories still hold the same words afterwards.
-/

namespace RegisterMachine

namespace Storage

/-- Two storages hold the same words. Their memories may keep different cells. -/
structure LooksLike (left right : Storage) : Prop where
  registers_eq : right.registers = left.registers
  get_eq (address : Word) : right.memory.get address = left.memory.get address

namespace LooksLike

variable {left right leftAfter rightAfter : Storage}

theorem fetch_eq
    (looksLike : left.LooksLike right)
    (location : Location) :
    right.fetch location = left.fetch location := by
  cases location with
  | register place => simp only [fetch, looksLike.registers_eq]
  | cell address => simp only [fetch, looksLike.get_eq]

/-- Storages hold the same words after the same word has been stored at the same location. -/
theorem store
    {word : Word}
    {location : Location}
    (looksLike : left.LooksLike right)
    (leftStored : left.store word location = .ok leftAfter)
    (rightStored : right.store word location = .ok rightAfter) :
    leftAfter.LooksLike rightAfter := by
  cases location with
  | register place =>
      simp only [Storage.store, Registers.set, looksLike.registers_eq] at leftStored rightStored
      split at leftStored
      · rename_i inRange
        rw [dif_pos inRange] at rightStored
        cases leftStored
        cases rightStored
        exact ⟨rfl, looksLike.get_eq⟩
      · cases leftStored
  | cell target =>
      cases leftStored
      cases rightStored
      refine ⟨looksLike.registers_eq, ?_⟩
      intro address
      simp only [Memory.get_set, looksLike.get_eq]

end LooksLike
end Storage

namespace Machine

variable {World : Type}

/-- Two machines that differ at most in which of the cells that hold zero have been stored to. -/
structure LooksLike (left right : Machine World) : Prop where
  program_eq : right.program = left.program
  storage : left.storage.LooksLike right.storage
  counter_eq : right.counter = left.counter
  running_eq : right.running = left.running
  console_eq : right.console = left.console

theorem congruence_looksLike : Congruence (LooksLike : Machine World → Machine World → Prop) where
  fetch_eq location looksLike := looksLike.storage.fetch_eq location
  store looksLike leftStored rightStored :=
    { looksLike with storage := looksLike.storage.store leftStored rightStored }
  jump _ looksLike := { looksLike with counter_eq := rfl }
  halt looksLike := { looksLike with running_eq := rfl }

variable [Console World]

theorem bisimulation_looksLike :
    Bisimulation (LooksLike : Machine World → Machine World → Prop) := by
  apply congruence_looksLike.bisimulation
  · intro left right looksLike address
    rw [looksLike.program_eq]
  · intro left right looksLike
    exact looksLike.counter_eq
  · intro left right looksLike
    exact looksLike.running_eq
  · intro left right looksLike
    exact looksLike.console_eq
  · intro left right console looksLike
    exact { looksLike with console_eq := rfl }

/-- A zero that has been stored is not told apart from a cell that has not been stored to. Machines
that differ at most in such cells answer the same calls, with the same answers, and afterwards they
still differ at most in such cells. -/
theorem stored_zero_is_not_observed
    (left right : Machine World)
    (looksLike : left.LooksLike right) :
    (∀ exchanges,
      (∃ leftAfter, left.Undergoes exchanges leftAfter) ↔
        ∃ rightAfter, right.Undergoes exchanges rightAfter) ∧
    ∀ leftExchanges rightExchanges leftAfter rightAfter,
      left.Undergoes leftExchanges leftAfter →
      right.Undergoes rightExchanges rightAfter →
      leftExchanges.map Prod.fst = rightExchanges.map Prod.fst →
      leftExchanges = rightExchanges ∧ leftAfter.LooksLike rightAfter := by
  constructor
  · intro exchanges
    constructor
    · rintro ⟨leftAfter, undergone⟩
      obtain ⟨rightAfter, undergoneToo, -⟩ :=
        bisimulation_looksLike.exists_undergoes looksLike undergone
      exact ⟨rightAfter, undergoneToo⟩
    · rintro ⟨rightAfter, undergone⟩
      obtain ⟨leftAfter, undergoneToo, -⟩ :=
        bisimulation_looksLike.symm.exists_undergoes looksLike undergone
      exact ⟨leftAfter, undergoneToo⟩
  · intro leftExchanges rightExchanges leftAfter rightAfter undergone otherUndergone sameCalls
    exact bisimulation_looksLike.eq_and_related_of_undergoes
      looksLike undergone otherUndergone sameCalls

/-- A machine that writes the words at two addresses, stores to the first of them, and then fails,
as there is nothing to read. -/
def reporter (memory : Memory) : Machine ByteConsole where
  program :=
    .ofList
      [.load (.literal 5) ⟨0⟩,
        .write (.register ⟨0⟩),
        .load (.literal (-1)) ⟨0⟩,
        .write (.register ⟨0⟩),
        .store (.literal 7) (.literal 5),
        .read ⟨0⟩]
  storage := { memory }
  console := { input := [], sink := {} }

/-- A memory that zero has been stored to at both addresses. -/
def twoZeros : Memory :=
  (Memory.empty.set 5 0).set (-1) 0

/-- The two zeros make no difference, and one of them is still there when the machine has failed. -/
theorem reporter_overlooks_zeros :
    let noMoreInput : Trap := ⟨5, .console { kind := .inputPastEnd }⟩
    (reporter .empty).LooksLike (reporter twoZeros) ∧
    ∃ after zerosAfter,
      (reporter .empty).Undergoes
        [(.execute 3, .executed .running), (.run, .trapped noMoreInput)] after ∧
      (reporter twoZeros).Undergoes
        [(.execute 3, .executed .running), (.run, .trapped noMoreInput)] zerosAfter ∧
      after.storage.memory.cells = [(5, 7)] ∧
      zerosAfter.storage.memory.cells = [(-1, 0), (5, 7)] ∧
      after.LooksLike zerosAfter := by
  intro noMoreInput
  have looksLike : (reporter .empty).LooksLike (reporter twoZeros) := by
    refine ⟨rfl, ⟨rfl, ?_⟩, rfl, rfl, rfl⟩
    intro address
    simp only [reporter, twoZeros, Memory.get_set]
    split
    · rfl
    · split <;> rfl
  let middle (memory : Memory) : Machine ByteConsole :=
    { reporter memory with
      counter := 3
      console := { input := [], sink := { written := "0\n" } } }
  let last (memory : Memory) : Machine ByteConsole :=
    { reporter memory with
      counter := 6
      running := false
      console := { input := [], sink := { written := "0\n0\n" } } }
  have undergoes
      (memory : Memory)
      (batch : execute 3 (reporter memory) = .ok .running (middle memory))
      (ended :
        run 4 (middle memory) = some (.error noMoreInput (last (memory.set 5 7)))) :
      (reporter memory).Undergoes
        [(.execute 3, .executed .running), (.run, .trapped noMoreInput)]
        (last (memory.set 5 7)) :=
    .cons (.execute (by rw [batch]; rfl)) (.cons (.run ended rfl) .nil)
  have undergone := undergoes .empty (by decide +kernel) (by decide +kernel)
  have zerosUndergone := undergoes twoZeros (by decide +kernel) (by decide +kernel)
  obtain ⟨-, sameAfter⟩ := stored_zero_is_not_observed _ _ looksLike
  obtain ⟨-, looksLikeAfter⟩ := sameAfter _ _ _ _ undergone zerosUndergone rfl
  exact ⟨looksLike, _, _, undergone, zerosUndergone, rfl, rfl, looksLikeAfter⟩

end Machine
end RegisterMachine
