import RegisterMachine.Proofs.Failing
import RegisterMachine.Proofs.Operating
import RegisterMachine.Proofs.Reassembling

/-!
# Programs that cannot go wrong by themselves

The scanner reads no register that the machine does not have, and neither the
reader nor the machine looks at the numbers of registers again. So an assembled
program names only registers of the machine, and executing it never fails on a
register, however the machine is operated. All that can fail is the console,
where the program reads or writes.
-/

namespace RegisterMachine

/-- A program that names only registers of the machine. -/
def Program.RegistersPresent (program : Program) : Prop :=
  ∀ address instruction, program.get? address = some instruction →
    ∀ place ∈ instruction.registers, place.number < Register.count

/-- A report about the console: the input fails at a read of the program, or the output at a
write. -/
def Program.FailsAtConsole (program : Program) (report : Report) : Prop :=
  ∃ address,
    report.address = some address ∧
    ((report.kind = .inputPastEnd ∨ report.kind = .illegalInput) ∧
        (∃ target, program.get? address = some (.read target)) ∨
      report.kind = .outputError ∧
        ∃ source, program.get? address = some (.write source))

theorem Program.FailsAtConsole.kind_ne_internalError
    {program : Program}
    {report : Report}
    (atConsole : program.FailsAtConsole report) :
    report.kind ≠ .internalError := by
  obtain ⟨address, -, cause⟩ := atConsole
  rcases cause with ⟨kind_eq | kind_eq, -⟩ | ⟨kind_eq, -⟩ <;>
    rw [kind_eq] <;>
    decide

/-! ## Assembled programs -/

/-- The registers that an instruction names are those among its tokens, in the same order. -/
theorem Instruction.registers_eq_filterMap (instruction : Instruction) :
    instruction.registers = instruction.tokens.filterMap Token.register? := by
  cases instruction with
  | copy source target => cases source <;> rfl
  | load address target => cases address <;> rfl
  | store source address => cases source <;> cases address <;> rfl
  | arith op lhs rhs target => cases lhs <;> cases rhs <;> rfl
  | read target => rfl
  | write source => cases source <;> rfl
  | jump condition source address => cases source <;> cases address <;> rfl

theorem Instruction.register_mem_tokens
    {instruction : Instruction}
    {place : Register}
    (isNamed : place ∈ instruction.registers) :
    .register place ∈ instruction.tokens := by
  rw [registers_eq_filterMap] at isNamed
  obtain ⟨token, isToken, register_eq⟩ := List.mem_filterMap.mp isNamed
  cases token with
  | register other =>
      cases register_eq
      exact isToken
  | _ => cases register_eq

/-- An assembled program names only registers of the machine. -/
theorem registersPresent_of_assemble
    {source : String}
    {program : Program}
    (assembled : assemble source = .ok program) :
    program.RegistersPresent := by
  intro address instruction found place isNamed
  obtain ⟨pieces, cutting, tokens_eq⟩ :=
    exists_cutting_of_lex (assemble_eq_ok_iff_lex.mp assembled)
  have isMember : instruction ∈ program.instructions.toList := by
    rw [Program.get?, ← Array.getElem?_toList] at found
    exact List.mem_of_getElem? found
  have isToken : Token.register place ∈ Piece.tokens pieces := by
    rw [tokens_eq]
    exact List.mem_flatMap_of_mem isMember (Instruction.register_mem_tokens isNamed)
  have notStray := cutting.isStray_eq_false _ isToken
  exact Nat.not_le.mp (of_decide_eq_false notStray)

/-! ## Failing at the console -/

theorem missing?_eq_none_of_present
    {places : List Register}
    (present : ∀ place ∈ places, place.number < Register.count) :
    missing? places = none := by
  rw [Option.eq_none_iff_forall_ne_some]
  intro fault isMissing
  obtain ⟨place, isFirst, -⟩ := missing?_eq_some_iff.mp isMissing
  have outOfRange : place.isMissing = true := List.find?_some isFirst
  have inRange := present place (List.mem_of_find?_eq_some isFirst)
  exact absurd inRange (Nat.not_lt.mpr (of_decide_eq_true outOfRange))

namespace Machine

variable {Source Target : Type} [LineInput Source] [TextOutput Target]
variable {machine after : Machine (LineConsole Source Target)}
variable {exchanges : List (Call × Answer)}

/-- A step of a program that names only registers of the machine fails only at the console. -/
theorem failsAtConsole_of_step
    {trap : Trap}
    (present : machine.program.RegistersPresent)
    (failed : step machine = .error trap after) :
    machine.program.FailsAtConsole trap.report := by
  obtain ⟨instruction, console, found, fails, -⟩ := step_eq_error_iff_fails.mp failed
  obtain ⟨-, -, get_eq⟩ := next?_eq_some_iff.mp found
  have presentHere := present trap.address instruction get_eq
  refine ⟨trap.address, Trap.address_report (hasNoPlace_of_step failed), ?_⟩
  obtain ⟨address, fault⟩ := trap
  cases fails with
  | missing _ isMissing =>
      have usesPresent :
          ∀ place ∈ instruction.uses machine.storage machine.console,
            place.number < Register.count := by
        intro place isUsed
        exact presentHere place (instruction.uses_subset_registers _ _ isUsed)
      cases (missing?_eq_none_of_present usesPresent).symm.trans isMissing
  | missingTarget _ isMissing =>
      cases (missing?_eq_none_of_present presentHere).symm.trans isMissing
  | input refused => exact .inl ⟨(LineConsole.report_of_readInteger refused).1, _, get_eq⟩
  | output _ refused => exact .inr ⟨(LineConsole.report_of_writeInteger refused).1, _, get_eq⟩

/-- However a machine is operated, a program that names only registers of the machine fails only at
the console. -/
theorem Undergoes.failsAtConsole
    (undergone : machine.Undergoes exchanges after)
    (present : machine.program.RegistersPresent) :
    ∀ exchange ∈ exchanges, exchange.1 ≠ .interrupt →
      ∀ report, exchange.2.report? = some report → machine.program.FailsAtConsole report := by
  induction undergone with
  | nil => simp
  | @cons machine middle after call answer exchanges responds _ inductionHypothesis =>
      rw [responds.program_eq] at inductionHypothesis
      rw [List.forall_mem_cons]
      refine ⟨?_, inductionHypothesis present⟩
      intro notInterrupted report isError
      obtain ⟨trap, rfl, rfl⟩ := responds.exists_trap notInterrupted isError
      obtain ⟨last, reaches, failed⟩ := responds.exists_step_eq_error
      rw [← reaches.program_eq] at present ⊢
      exact failsAtConsole_of_step present failed

end Machine

/-- A program that was assembled, or that names only registers of the machine for another reason,
never fails with an internal error, however the machine is operated. It fails only at a read whose
input is used up or is not an integer, and at a write whose output is refused. -/
theorem assembled_program_fails_only_at_console
    {Source Target : Type}
    [LineInput Source]
    [TextOutput Target]
    (program : Program)
    (origin : (∃ source, assemble source = .ok program) ∨ program.RegistersPresent)
    (console : LineConsole Source Target)
    (exchanges : List (Machine.Call × Machine.Answer))
    (machine : Machine (LineConsole Source Target))
    (undergone : Machine.Undergoes { program, console } exchanges machine) :
    ∀ exchange ∈ exchanges, exchange.1 ≠ .interrupt →
      ∀ report, exchange.2.report? = some report →
        report.kind ≠ .internalError ∧ program.FailsAtConsole report := by
  intro exchange isMember notInterrupted report isError
  have present : program.RegistersPresent := by
    rcases origin with ⟨source, assembled⟩ | present
    · exact registersPresent_of_assemble assembled
    · exact present
  have atConsole := undergone.failsAtConsole present exchange isMember notInterrupted report isError
  exact ⟨atConsole.kind_ne_internalError, atConsole⟩

/-- A machine that echoes an integer to a device that is full. -/
def echo : Machine ByteConsole where
  program := .ofList [.read ⟨15⟩, .write (.register ⟨15⟩)]
  console := { input := [45, 55, 10], sink := .deviceFull }

/-- The trap of a write to a device that is full. -/
def fullTrap : Trap where
  address := 1
  fault := .console { kind := .outputError, text := "No space left on device (os error 28)" }

/-- An echo of an integer to a device that is full fails where it writes. -/
theorem echo_fails_at_write :
    ∃ after,
      assemble "READ r15 WRITE r15" = .ok echo.program ∧
      echo.Undergoes [(.step, .stepped true), (.run, .trapped fullTrap)] after ∧
      ∃ address source,
        fullTrap.report.address = some address ∧
        echo.program.get? address = some (.write source) := by
  let middle : Machine ByteConsole :=
    { echo with
      storage := { registers := ⟨#v[0, 0, 0, 0, 0, 0, 0, 0, 0, 0, 0, 0, 0, 0, 0, -7]⟩ }
      counter := 1
      console := { input := [], sink := .deviceFull } }
  let last : Machine ByteConsole := { middle with counter := 2, running := false }
  have assembled : assemble "READ r15 WRITE r15" = .ok echo.program := by decide +kernel
  have stepped : Machine.step echo = .ok true middle := by decide +kernel
  have failed : Machine.run 1 middle = some (.error fullTrap last) := by decide +kernel
  have undergone : echo.Undergoes [(.step, .stepped true), (.run, .trapped fullTrap)] last :=
    .cons (.step (by rw [stepped]; rfl)) (.cons (.run failed rfl) .nil)
  obtain ⟨-, address, address_eq, cause⟩ :=
    assembled_program_fails_only_at_console _ (.inl ⟨_, assembled⟩) _ _ _ undergone
      (.run, .trapped fullTrap) (by simp) (by simp) _ rfl
  rcases cause with ⟨isInput | isInput, -⟩ | ⟨-, source, get_eq⟩
  · cases isInput
  · cases isInput
  · exact ⟨last, assembled, undergone, address, source, address_eq, get_eq⟩

end RegisterMachine
