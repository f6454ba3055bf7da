import RegisterMachine.Assembly.Program
import RegisterMachine.Assembly.Scanner
import RegisterMachine.Stateful

/-!
# Reading programs

A program is read from a scanner instruction by instruction: a mnemonic, then
the contents of its slots. Reading ends at the end of the text or at the first
token that cannot stand where it does. Such a token has been handed out by the
scanner, so the scanner is left just after it; a lexical error leaves the
scanner just after the last token.
-/

namespace RegisterMachine

/-- What a program may have at a place: a new instruction, or the content of a slot. -/
inductive Expectation
  | instruction
  | slot (place : Slot)
  deriving DecidableEq

namespace Expectation

/-- The name of an expectation in a report. -/
def description : Expectation → String
  | .instruction => "INSTRUCTION"
  | .slot place => place.description

end Expectation

/-- Why a source text is not a program. -/
inductive AssemblyError
  | lexical (error : LexicalError)
  | unexpected (expected : Expectation) (found : Option Token) (span : Span)
  deriving DecidableEq

namespace AssemblyError

/-- The report of an assembly error. -/
def report : AssemblyError → Report
  | .lexical error => error.report
  | .unexpected expected found span =>
      { kind := .syntaxError
        span := span
        text := "EXPECTED " ++ expected.description ++ ", FOUND " ++ Token.describe found }

end AssemblyError

/-- A computation that reads from a scanner. -/
abbrev Reader : Type → Type :=
  EStateM AssemblyError Scanner

namespace Reader

/-- Read the next token, or none at the end of the text. -/
def token? : Reader (Option Token) := fun scanner =>
  match scanner.next with
  | .ok (token, after) => .ok token after
  | .error error => .error (.lexical error) scanner

/-- Refuse the token that was read last. -/
def refuse {α : Type} (expected : Expectation) (found : Option Token) : Reader α := do
  throw (.unexpected expected found (← get).span)

/-- Read the content of a slot. -/
def content (slot : Slot) : Reader slot.Content := do
  let found ← token?
  match found.bind slot.content? with
  | some content => return content
  | none => refuse (.slot slot) found

/-- Read the contents of a row of slots. -/
def contents : (slots : List Slot) → Reader (Contents slots)
  | [] => return ()
  | slot :: slots => do
      let first ← content slot
      let others ← contents slots
      return (first, others)

/-- Read an instruction, or none at the end of the text. -/
def instruction? : Reader (Option Instruction) := do
  match ← token? with
  | none => return none
  | some (.mnemonic name) => return some (name.instruction (← contents name.shape))
  | some found => refuse .instruction (some found)

theorem token?_eq_ok_iff
    {scanner after : Scanner}
    {found : Option Token} :
    token? scanner = .ok found after ↔ scanner.next = .ok (found, after) := by
  unfold token?
  split <;> simp_all

/-- Reading the content of a slot leaves no more text to be read. -/
theorem length_rest_le_of_content
    {slot : Slot}
    {scanner after : Scanner}
    {filled : slot.Content}
    (wasRead : content slot scanner = .ok filled after) :
    after.rest.length ≤ scanner.rest.length := by
  obtain ⟨found, middle, handedOut, accepted⟩ := Stateful.bind_eq_ok_iff.mp wasRead
  have shorter := Scanner.length_rest_le_of_next (token?_eq_ok_iff.mp handedOut)
  cases fits : found.bind slot.content? with
  | none =>
      rw [fits] at accepted
      cases accepted
  | some filled =>
      rw [fits] at accepted
      cases accepted
      exact shorter

/-- Reading the contents of a row of slots leaves no more text to be read. -/
theorem length_rest_le_of_contents
    {slots : List Slot}
    {scanner after : Scanner}
    {filled : Contents slots}
    (wasRead : contents slots scanner = .ok filled after) :
    after.rest.length ≤ scanner.rest.length := by
  induction slots generalizing scanner after with
  | nil =>
      cases wasRead
      exact Nat.le_refl _
  | cons slot slots ih =>
      obtain ⟨first, middle, firstRead, othersRead⟩ := Stateful.bind_eq_ok_iff.mp wasRead
      obtain ⟨others, last, othersRead, returned⟩ := Stateful.bind_eq_ok_iff.mp othersRead
      cases returned
      exact Nat.le_trans (ih othersRead) (length_rest_le_of_content firstRead)

/-- Reading an instruction shortens the text that is still to be read. -/
theorem length_rest_lt_of_instruction?
    {scanner after : Scanner}
    {instruction : Instruction}
    (wasRead : instruction? scanner = .ok (some instruction) after) :
    after.rest.length < scanner.rest.length := by
  obtain ⟨found, middle, handedOut, accepted⟩ := Stateful.bind_eq_ok_iff.mp wasRead
  have handedOut := token?_eq_ok_iff.mp handedOut
  match found with
  | none => cases accepted
  | some (.mnemonic name) =>
      obtain ⟨filled, last, contentsRead, returned⟩ := Stateful.bind_eq_ok_iff.mp accepted
      cases returned
      exact Nat.lt_of_le_of_lt (length_rest_le_of_contents contentsRead)
        (Scanner.length_rest_lt_of_next handedOut)
  | some (.register _) => cases accepted
  | some (.number _) => cases accepted
  | some (.condition _) => cases accepted
  | some .comma => cases accepted

/-- Read the instructions up to the end of the text, after those read before. -/
def programAfter (done : Array Instruction) : Reader Program := fun scanner =>
  match wasRead : instruction? scanner with
  | .ok (some instruction) after =>
      have := length_rest_lt_of_instruction? wasRead
      programAfter (done.push instruction) after
  | .ok none after => .ok ⟨done⟩ after
  | .error error after => .error error after
termination_by scanner => scanner.rest.length

/-- Read a program up to the end of the text. -/
def program : Reader Program :=
  programAfter #[]

end Reader

/-- The program of a source text. -/
def assemble (source : String) : Except AssemblyError Program :=
  match Reader.program (Scanner.ofSource source) with
  | .ok program _ => .ok program
  | .error error _ => .error error

end RegisterMachine
