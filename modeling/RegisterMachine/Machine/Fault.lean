import RegisterMachine.Assembly.Token
import RegisterMachine.Report

/-!
# Faults

Why an instruction can fail: it names a register that the machine does not have,
or the console cannot read or write. What a console has to say about it is a
report. A fault becomes a trap when the address of the failing instruction is
known.
-/

namespace RegisterMachine

/-- Why an instruction fails. -/
inductive Fault
  | registerOutOfRange (place : Register)
  | console (report : Report)
  deriving DecidableEq

namespace Fault

/-- The report of a fault, before the address is known. -/
def report : Fault → Report
  | .registerOutOfRange place =>
      { kind := .internalError
        text := "REGISTER " ++ place.spelling ++ " OUT OF RANGE" }
  | .console report => report

end Fault

/-- A fault together with the address of the instruction that failed. -/
structure Trap where
  address : Nat
  fault : Fault
  deriving DecidableEq

namespace Trap

/-- The report of a trap. -/
def report (trap : Trap) : Report :=
  trap.fault.report.inAddress trap.address

end Trap
end RegisterMachine
