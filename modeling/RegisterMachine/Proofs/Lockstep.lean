import RegisterMachine.Proofs.Failing

/-!
# Machines in lockstep

Two machines step alike when the instruction that is executed next does the same
on both, and when neither their storages nor their consoles can tell it which of
them it is executed on. What this asks of a relation between machines is said
once for the storage, where every instruction is at work. Only a read and a
write can tell consoles apart, by what these answer.

Two machines that differ in nothing but their consoles are a first use of this:
they step alike for as long as the consoles answer alike.
-/

namespace RegisterMachine
namespace Stateful

variable {ε σ τ α β : Type}

/-- Two computations have ended alike: with the same answer, and in states that are related. -/
inductive Alike
    (related : σ → τ → Prop) :
    EStateM.Result ε σ α → EStateM.Result ε τ α → Prop
  | ok {value : α} {left : σ} {right : τ} :
      related left right →
      Alike related (.ok value left) (.ok value right)
  | error {error : ε} {left : σ} {right : τ} :
      related left right →
      Alike related (.error error left) (.error error right)

section Alike

variable {related : σ → τ → Prop}
variable {first : EStateM ε σ α}
variable {other : EStateM ε τ α}
variable {left : σ}
variable {right : τ}

/-- Computations end alike when their answers are the same and the states they leave are related. -/
theorem alike_iff :
    Alike related (first left) (other right) ↔
      answer first left = answer other right ∧ related (next first left) (next other right) := by
  simp only [answer, next]
  constructor
  · intro alike
    generalize first left = ended at alike ⊢
    generalize other right = otherEnded at alike ⊢
    cases alike with
    | ok isRelated => exact ⟨rfl, isRelated⟩
    | error isRelated => exact ⟨rfl, isRelated⟩
  · cases first left with
    | ok value after =>
        cases other right with
        | ok otherValue otherAfter =>
            rintro ⟨same, isRelated⟩
            cases same
            exact .ok isRelated
        | error error otherAfter =>
            rintro ⟨same, -⟩
            cases same
    | error error after =>
        cases other right with
        | ok value otherAfter =>
            rintro ⟨same, -⟩
            cases same
        | error otherError otherAfter =>
            rintro ⟨same, isRelated⟩
            cases same
            exact .error isRelated

/-- Sequences end alike when their first computations do and what comes after them does. -/
theorem Alike.bind
    {second : α → EStateM ε σ β}
    {otherSecond : α → EStateM ε τ β}
    (alike : Alike related (first left) (other right))
    (continued :
      ∀ value leftAfter rightAfter,
        related leftAfter rightAfter →
        Alike related (second value leftAfter) (otherSecond value rightAfter)) :
    Alike related ((first >>= second) left) ((other >>= otherSecond) right) := by
  simp only [Bind.bind, EStateM.bind]
  generalize first left = ended at alike
  generalize other right = otherEnded at alike
  cases alike with
  | ok isRelated => exact continued _ _ _ isRelated
  | error isRelated => exact .error isRelated

end Alike
end Stateful

namespace Machine

open Stateful (Alike)

variable {World : Type}

/-! ## Machines with storages that cannot be told apart -/

/-- A relation between machines that find the same words everywhere. Related machines stay related
when they store a word at the same location, jump to the same address, or stop. -/
structure Congruence (related : Machine World → Machine World → Prop) : Prop where
  fetch_eq
      {left right : Machine World}
      (location : Location) :
    related left right →
    right.storage.fetch location = left.storage.fetch location
  store
      {left right : Machine World}
      {word : Word}
      {location : Location}
      {leftStorage rightStorage : Storage} :
    related left right →
    left.storage.store word location = .ok leftStorage →
    right.storage.store word location = .ok rightStorage →
    related { left with storage := leftStorage } { right with storage := rightStorage }
  jump
      {left right : Machine World}
      (counter : Word) :
    related left right →
    related { left with counter } { right with counter }
  halt
      {left right : Machine World} :
    related left right →
    related left.halt right.halt

/-- What the next step does, with the address of its instruction. -/
def nextEffect? [Console World] (machine : Machine World) : Option (Nat × Exec World Unit) :=
  machine.next?.map fun entry => (entry.1, Exec.instruction entry.2)

namespace Congruence

variable {related : Machine World → Machine World → Prop}
variable {left right : Machine World}

theorem value_eq
    (congruence : Congruence related)
    (isRelated : related left right)
    (operand : Operand) :
    right.storage.value operand = left.storage.value operand := by
  cases operand with
  | register place => exact congruence.fetch_eq (.register place) isRelated
  | literal word => rfl

theorem value_alike
    (congruence : Congruence related)
    (isRelated : related left right)
    (operand : Operand) :
    Alike related (Exec.value operand left) (Exec.value operand right) := by
  simp only [Exec.value, Exec.examine, congruence.value_eq isRelated operand]
  cases left.storage.value operand with
  | ok word => exact .ok isRelated
  | error fault => exact .error isRelated

theorem fetch_alike
    (congruence : Congruence related)
    (isRelated : related left right)
    (location : Location) :
    Alike related (Exec.fetch location left) (Exec.fetch location right) := by
  simp only [Exec.fetch, Exec.examine, congruence.fetch_eq location isRelated]
  cases left.storage.fetch location with
  | ok word => exact .ok isRelated
  | error fault => exact .error isRelated

theorem store_alike
    (congruence : Congruence related)
    (isRelated : related left right)
    (word : Word)
    (location : Location) :
    Alike related (Exec.store word location left) (Exec.store word location right) := by
  simp only [Exec.store, Exec.examine, Bind.bind, EStateM.bind]
  -- Whether a word can be stored depends on the location alone.
  cases leftStored : left.storage.store word location with
  | error fault =>
      have isMissing := (Storage.store_eq_error_iff word location).mp leftStored
      rw [(Storage.store_eq_error_iff word location).mpr isMissing]
      exact .error isRelated
  | ok leftStorage =>
      cases rightStored : right.storage.store word location with
      | error fault =>
          have isMissing := (Storage.store_eq_error_iff word location).mp rightStored
          rw [(Storage.store_eq_error_iff word location).mpr isMissing] at leftStored
          cases leftStored
      | ok rightStorage => exact .ok (congruence.store isRelated leftStored rightStored)

variable [Console World]

/-- An instruction does alike on related machines if, where it reads or writes, their consoles
answer alike. -/
theorem instruction_alike
    (congruence : Congruence related)
    {instruction : Instruction}
    (kept : (∀ target, instruction ≠ .read target) → related left right)
    (wasRead :
      ∀ target, instruction = .read target →
        Alike related
          (Exec.onConsole Console.read left) (Exec.onConsole Console.read right))
    (written :
      ∀ source word, instruction = .write source →
        left.storage.value source = .ok word →
        Alike related
          (Exec.onConsole (Console.write word) left)
          (Exec.onConsole (Console.write word) right)) :
    Alike related (Exec.instruction instruction left) (Exec.instruction instruction right) := by
  cases instruction with
  | copy source target =>
      apply (congruence.value_alike (kept (by simp)) source).bind
      intro word left right isRelated
      exact congruence.store_alike isRelated word (.register target)
  | load address target =>
      apply (congruence.fetch_alike (kept (by simp)) address.location).bind
      intro word left right isRelated
      exact congruence.store_alike isRelated word (.register target)
  | store source address =>
      apply (congruence.value_alike (kept (by simp)) source).bind
      intro word left right isRelated
      exact congruence.store_alike isRelated word address.location
  | arith op lhs rhs target =>
      apply (congruence.value_alike (kept (by simp)) lhs).bind
      intro leftWord left right isRelated
      apply (congruence.value_alike isRelated rhs).bind
      intro rightWord left right isRelated
      exact congruence.store_alike isRelated (op.apply leftWord rightWord) (.register target)
  | read target =>
      apply (wasRead target rfl).bind
      intro word left right isRelated
      exact congruence.store_alike isRelated word (.register target)
  | write source =>
      -- The consoles are compared where the word is known, so the evaluation is done first.
      have isRelated := kept (by simp)
      simp only [Exec.instruction, Exec.value, Exec.examine, Bind.bind, EStateM.bind,
        congruence.value_eq isRelated source]
      cases evaluated : left.storage.value source with
      | ok word => exact written source word rfl evaluated
      | error fault => exact .error isRelated
  | jump condition source address =>
      apply (congruence.value_alike (kept (by simp)) source).bind
      intro tested left right isRelated
      split
      · apply (congruence.value_alike isRelated address).bind
        intro target left right isRelated
        exact .ok (congruence.jump target isRelated)
      · exact .ok isRelated

/-- Machines step alike if they are to execute the same next and that does alike on both. -/
theorem step_alike
    (congruence : Congruence related)
    (next_eq : right.nextEffect? = left.nextEffect?)
    (idle : left.next? = none → related left right)
    (executed :
      ∀ address instruction, left.next? = some (address, instruction) →
        Alike related
          (Exec.instruction instruction left.advanced)
          (Exec.instruction instruction right.advanced)) :
    Alike related (step left) (step right) := by
  cases found : left.next? with
  | none =>
      have foundToo : right.next? = none := by simpa [nextEffect?, found] using next_eq
      rw [step_of_next?_eq_none found, step_of_next?_eq_none foundToo]
      exact .ok (congruence.halt (idle found))
  | some entry =>
      obtain ⟨address, instruction⟩ := entry
      have alike := executed address instruction found
      rw [nextEffect?, nextEffect?, found, Option.map_some, Option.map_eq_some_iff] at next_eq
      obtain ⟨⟨sameAddress, other⟩, foundToo, entry_eq⟩ := next_eq
      obtain ⟨rfl, effect_eq⟩ := Prod.mk.inj entry_eq
      rw [step_of_next?_eq_some found, step_of_next?_eq_some foundToo, effect_eq]
      generalize Exec.instruction instruction left.advanced = ended at alike ⊢
      generalize Exec.instruction instruction right.advanced = otherEnded at alike ⊢
      cases alike with
      | ok isRelated => exact .ok isRelated
      | error isRelated => exact .error (congruence.halt isRelated)

end Congruence

/-! ## Machines that differ in their consoles -/

/-- Two machines that differ in nothing but their consoles, which are related. -/
def Matches
    (related : World → World → Prop)
    (left right : Machine World) : Prop :=
  ∃ console, related left.console console ∧ right = { left with console }

section Matches

variable {related : World → World → Prop}
variable {machine : Machine World}
variable {console : World}

theorem congruence_matches (related : World → World → Prop) :
    Congruence (Matches related) where
  fetch_eq location := by
    rintro ⟨console, isRelated, rfl⟩
    rfl
  store := by
    rintro left right word location leftStorage rightStorage ⟨console, isRelated, rfl⟩
      leftStored rightStored
    cases leftStored.symm.trans rightStored
    exact ⟨console, isRelated, rfl⟩
  jump counter := by
    rintro ⟨console, isRelated, rfl⟩
    exact ⟨console, isRelated, rfl⟩
  halt := by
    rintro left right ⟨console, isRelated, rfl⟩
    exact ⟨console, isRelated, rfl⟩

theorem Exec.onConsole_alike
    {α : Type}
    {act : EStateM Report World α}
    (alike : Alike related (act machine.console) (act console)) :
    Alike (Matches related)
      (onConsole act machine) (onConsole act { machine with console }) := by
  simp only [onConsole]
  generalize act machine.console = ended at alike ⊢
  generalize act console = otherEnded at alike ⊢
  cases alike with
  | ok isRelated => exact .ok ⟨_, isRelated, rfl⟩
  | error isRelated => exact .error ⟨_, isRelated, rfl⟩

variable [Console World]

/-- A step does alike on two consoles if, where its instruction reads or writes, the consoles
answer alike. -/
theorem step_alike
    (kept :
      (∀ address target, machine.next? ≠ some (address, .read target)) →
        related machine.console console)
    (wasRead :
      ∀ address target, machine.next? = some (address, .read target) →
        Alike related (Console.read machine.console) (Console.read console))
    (written :
      ∀ address source word, machine.next? = some (address, .write source) →
        machine.storage.value source = .ok word →
        Alike related
          (Console.write word machine.console) (Console.write word console)) :
    Alike (Matches related) (step machine) (step { machine with console }) := by
  apply (congruence_matches related).step_alike
  · rfl
  · intro found
    exact ⟨console, kept (by simp [found]), rfl⟩
  · intro address instruction found
    apply (congruence_matches related).instruction_alike
    · intro notRead
      refine ⟨console, kept ?_, rfl⟩
      intro other target
      rw [found]
      simpa using fun _ => notRead target
    · rintro target rfl
      have alike := wasRead address target found
      exact Exec.onConsole_alike alike
    · rintro source word rfl evaluated
      have alike := written address source word found evaluated
      exact Exec.onConsole_alike alike

end Matches

end Machine
end RegisterMachine
