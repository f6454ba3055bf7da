import RegisterMachine.Proofs.Bisimulation

/-!
# Registers in the place of addresses

A register in the place of an address is not an address that is looked up in
memory. It is the register itself. So a store to a register does what a copy
into it does, and a load from a register does what a copy out of it does, and
they fail alike when a register is missing.

A machine whose program has copies in the place of some of these instructions is
at every point where the machine with the original program is.
-/

namespace RegisterMachine

/-- The copy that a store to a register or a load from a register amounts to. Other instructions
are left as they are. -/
def Instruction.asCopy : Instruction → Instruction
  | .store source (.register target) => .copy source target
  | .load (.register source) target => .copy (.register source) target
  | instruction => instruction

namespace Program

/-- The program that has copies at the chosen addresses, where the instructions there amount to
copies. -/
def withCopies
    (chosen : Nat → Bool)
    (program : Program) : Program where
  instructions := program.instructions.mapIdx fun address instruction =>
    if chosen address then instruction.asCopy else instruction

variable (chosen : Nat → Bool)
variable (program : Program)

@[simp] theorem get?_withCopies (address : Nat) :
    (program.withCopies chosen).get? address =
      (program.get? address).map fun instruction =>
        if chosen address then instruction.asCopy else instruction :=
  Array.getElem?_mapIdx

example :
    withCopies (· < 2)
      (.ofList
        [.store (.literal 5) (.register ⟨3⟩), .load (.register ⟨3⟩) ⟨4⟩,
          .store (.literal 5) (.register ⟨99⟩)]) =
      .ofList
        [.copy (.literal 5) ⟨3⟩, .copy (.register ⟨3⟩) ⟨4⟩,
          .store (.literal 5) (.register ⟨99⟩)] := by
  decide

end Program

namespace Machine

variable {World : Type}

/-- The machine that has copies in its program at the chosen addresses. -/
def withCopies
    (chosen : Nat → Bool)
    (machine : Machine World) : Machine World :=
  { machine with program := machine.program.withCopies chosen }

variable (chosen : Nat → Bool)

section Effects

variable [Console World]

/-- A store to a register and a load from a register are executed as copies. -/
theorem Exec.instruction_asCopy (instruction : Instruction) :
    (Exec.instruction instruction.asCopy : Exec World Unit) = Exec.instruction instruction := by
  cases instruction with
  | store source address => cases address <;> rfl
  | load address target => cases address <;> rfl
  | _ => rfl

theorem effectAt?_withCopies
    (program : Program)
    (address : Nat) :
    (effectAt? (program.withCopies chosen) address : Option (Exec World Unit)) =
      effectAt? program address := by
  simp only [effectAt?, Program.get?_withCopies, Option.map_map]
  congr 1
  funext instruction
  cases chosen address with
  | true => exact Exec.instruction_asCopy instruction
  | false => rfl

end Effects

theorem congruence_withCopies :
    Congruence fun left right : Machine World => right = left.withCopies chosen where
  fetch_eq location := by
    rintro rfl
    rfl
  store := by
    rintro left right word location leftStorage rightStorage rfl leftStored rightStored
    cases leftStored.symm.trans rightStored
    rfl
  jump counter := by
    rintro rfl
    rfl
  halt := by
    rintro left right rfl
    rfl

theorem bisimulation_withCopies [Console World] :
    Bisimulation fun left right : Machine World => right = left.withCopies chosen := by
  apply (congruence_withCopies chosen).bisimulation
  · rintro left right rfl
    exact effectAt?_withCopies chosen left.program
  · rintro left right rfl
    rfl
  · rintro left right rfl
    rfl
  · rintro left right rfl
    rfl
  · rintro left right console rfl
    rfl

end Machine

/-- A register in the place of an address is the register. A machine undergoes the same calls, with
the same answers, whether a register is stored to or copied into, and whether a register is loaded
from or copied out of. After them it differs in nothing but its program. -/
theorem register_address_is_register
    {World : Type}
    [Console World]
    (chosen : Nat → Bool)
    (machine after : Machine World)
    (exchanges : List (Machine.Call × Machine.Answer)) :
    (machine.withCopies chosen).Undergoes exchanges after ↔
      ∃ original, machine.Undergoes exchanges original ∧ after = original.withCopies chosen := by
  have bisimulation :
      Machine.Bisimulation fun left right : Machine World => right = left.withCopies chosen :=
    Machine.bisimulation_withCopies chosen
  constructor
  · intro undergone
    exact bisimulation.symm.exists_undergoes rfl undergone
  · rintro ⟨original, undergone, rfl⟩
    obtain ⟨after, otherUndergone, rfl⟩ := bisimulation.exists_undergoes rfl undergone
    exact otherUndergone

end RegisterMachine
