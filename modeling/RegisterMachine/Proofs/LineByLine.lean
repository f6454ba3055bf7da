import RegisterMachine.Proofs.InputLines
import RegisterMachine.Proofs.Lockstep

/-!
# Input is read line by line

A machine reads nothing ahead. Two machines that differ only in their inputs
execute the same instructions with the same results until a read goes past the
lines with which both inputs begin. The number of lines on which the inputs
still agree goes down by one with every read, and with nothing else.
-/

namespace RegisterMachine
namespace LineConsole

variable {Target : Type}

/-- Two consoles with the same sink whose inputs begin with the same lines, up to a number of
lines. -/
structure AgreeFor
    (count : Nat)
    (left right : LineConsole (List UInt8) Target) : Prop where
  sink_eq : right.sink = left.sink
  lines_eq : (inputLines right.input).take count = (inputLines left.input).take count

namespace AgreeFor

variable {count fewer : Nat}
variable {left right : LineConsole (List UInt8) Target}

theorem mono
    (agree : AgreeFor count left right)
    (isFewer : fewer ≤ count) :
    AgreeFor fewer left right where
  sink_eq := agree.sink_eq
  lines_eq := by
    rw [← Nat.min_eq_left isFewer, ← List.take_take, agree.lines_eq, List.take_take]

/-- Consoles that agree for one more line answer a read alike. -/
theorem read
    (agree : AgreeFor (1 + count) left right) :
    Stateful.Alike (AgreeFor count) (readInteger left) (readInteger right) := by
  obtain ⟨leftAnswer, leftLines⟩ := readInteger_line left
  obtain ⟨rightAnswer, rightLines⟩ := readInteger_line right
  have lines_eq := agree.lines_eq
  rw [Nat.add_comm] at lines_eq
  refine Stateful.alike_iff.mpr ⟨?_, ?_, ?_⟩
  · have head_eq := congrArg List.head? lines_eq
    simp only [List.head?_take, Nat.succ_ne_zero, if_false] at head_eq
    rw [leftAnswer, rightAnswer, head_eq]
  · rw [readInteger_sink, readInteger_sink, agree.sink_eq]
  · have tail_eq := congrArg (List.drop 1) lines_eq
    rw [List.drop_take, List.drop_take, Nat.add_sub_cancel, List.drop_one, List.drop_one] at tail_eq
    rw [leftLines, rightLines, tail_eq]

/-- Consoles that agree answer a write alike and go on agreeing. -/
theorem write
    [TextOutput Target]
    (agree : AgreeFor count left right)
    (word : Word) :
    Stateful.Alike (AgreeFor count) (writeInteger word left) (writeInteger word right) := by
  obtain ⟨answer_eq, sinkAfter_eq, leftInput⟩ := writeInteger_sink word agree.sink_eq
  have rightInput : (Stateful.next (writeInteger word) right).input = right.input :=
    (writeInteger_sink word rfl).2.2
  refine Stateful.alike_iff.mpr ⟨answer_eq, sinkAfter_eq.symm, ?_⟩
  rw [leftInput, rightInput, agree.lines_eq]

end AgreeFor
end LineConsole

namespace Machine

open Stateful (Alike)

section Reads

variable {World : Type}
variable {machine : Machine World}

/-- One if the next instruction is a read, and zero otherwise. -/
def readsNow (machine : Machine World) : Nat :=
  match machine.next? with
  | some (_, .read _) => 1
  | _ => 0

/-- The number of reads that are executed in a number of steps. -/
def readsWithin [Console World] : Nat → Machine World → Nat
  | 0, _ => 0
  | steps + 1, machine => machine.readsNow + readsWithin steps (Stateful.next step machine)

theorem readsNow_of_read
    {address : Nat}
    {target : Register}
    (found : machine.next? = some (address, .read target)) :
    machine.readsNow = 1 := by
  rw [readsNow, found]

end Reads

variable {Target : Type}
variable {left right : Machine (LineConsole (List UInt8) Target)}

/-- Two machines that differ in nothing but the input that is still to be read. -/
def SameButInput (left right : Machine (LineConsole (List UInt8) Target)) : Prop :=
  ∃ input, right = { left with console := { left.console with input } }

theorem Matches.sameButInput
    {count : Nat}
    (matched : left.Matches (LineConsole.AgreeFor count) right) :
    left.SameButInput right := by
  obtain ⟨console, agree, rfl⟩ := matched
  refine ⟨console.input, ?_⟩
  simp only [← agree.sink_eq]

variable [TextOutput Target]

/-- A step does alike on inputs that agree for as many lines as it reads. -/
theorem step_alike_of_agreeFor
    {count : Nat}
    (matched : left.Matches (LineConsole.AgreeFor (left.readsNow + count)) right) :
    Alike (Matches (LineConsole.AgreeFor count)) (step left) (step right) := by
  obtain ⟨console, agree, rfl⟩ := matched
  apply step_alike
  · intro _
    exact agree.mono (Nat.le_add_left count _)
  · intro address target found
    rw [readsNow_of_read found] at agree
    exact agree.read
  · intro address source word _ _
    exact (agree.mono (Nat.le_add_left count _)).write word

/-- Steps answer alike on inputs that agree for as many lines as they read. -/
theorem steps_alike
    {steps : Nat}
    (matched : left.Matches (LineConsole.AgreeFor (readsWithin steps left)) right) :
    Stateful.answers step steps right = Stateful.answers step steps left ∧
    readsWithin steps right = readsWithin steps left ∧
    (Stateful.after step steps left).SameButInput (Stateful.after step steps right) := by
  -- The inputs agree for exactly the reads that are still to come, which is what a step leaves.
  induction steps generalizing left right with
  | zero => exact ⟨rfl, rfl, matched.sameButInput⟩
  | succ steps inductionHypothesis =>
      obtain ⟨answer_eq, matchedAfter⟩ :=
        Stateful.alike_iff.mp (step_alike_of_agreeFor matched)
      obtain ⟨answers_eq, reads_eq, same⟩ := inductionHypothesis matchedAfter
      have readsNow_eq : right.readsNow = left.readsNow := by
        obtain ⟨console, -, rfl⟩ := matched
        rfl
      refine ⟨?_, ?_, same⟩
      · rw [Stateful.answers, Stateful.answers, answer_eq, answers_eq]
      · rw [readsWithin, readsWithin, readsNow_eq, reads_eq]

/-- Runs end alike on inputs that agree for as many lines as they read. -/
theorem run_alike
    {bound : Nat}
    (matched : left.Matches (LineConsole.AgreeFor (readsWithin bound left)) right) :
    Option.Rel (Alike SameButInput) (run bound left) (run bound right) := by
  induction bound generalizing left right with
  | zero => exact .none
  | succ bound inductionHypothesis =>
      have alike := step_alike_of_agreeFor matched
      generalize rightStepped : step right = rightEnded at alike
      rcases step_cases left with ⟨after, stepped⟩ | ⟨-, stepped⟩ | ⟨trap, after, stepped⟩
      · rw [stepped] at alike
        cases alike with
        | ok matchedAfter =>
            simp only [Stateful.next, stepped] at matchedAfter
            simp only [run, stepped, rightStepped]
            exact inductionHypothesis matchedAfter
      · rw [stepped] at alike
        cases alike with
        | ok matchedAfter =>
            simp only [run, stepped, rightStepped]
            exact .some (.ok matchedAfter.sameButInput)
      · rw [stepped] at alike
        cases alike with
        | error matchedAfter =>
            simp only [run, stepped, rightStepped]
            exact .some (.error matchedAfter.sameButInput)

end Machine

/-- Whatever a console is called on to do, each read is answered by the next line, which is then
used up, each write is answered as it is without the reads, and neither affects the other. Two runs
on inputs that begin with the same lines differ in nothing but the input that is still to be read,
for as long as they have read no further than those lines. All this is so wherever the output
goes. -/
theorem input_is_read_line_by_line
    (Target : Type)
    [TextOutput Target] :
    (∀ (input : List UInt8) (sink : Target) (calls : List Console.Call),
      (inputLines input).flatten = input ∧
      (∀ place : Nat, calls[place]? = some .read →
        (Console.replies calls (LineConsole.mk input sink))[place]? =
          some (.read (lineAnswer (inputLines input)[(calls.take place).countP (·.isRead)]?))) ∧
      (∀ (place : Nat) (word : Word), calls[place]? = some (.write word) →
        ∀ other : List UInt8,
          (Console.replies calls (LineConsole.mk input sink))[place]? =
            (Console.replies (calls.filter (!·.isRead)) (LineConsole.mk other sink))[
              (calls.take place).countP (!·.isRead)]?) ∧
      ∀ other : List UInt8,
        Console.afterCalls calls (LineConsole.mk input sink) =
          { input := ((inputLines input).drop (calls.countP (·.isRead))).flatten
            sink :=
              (Console.afterCalls (calls.filter (!·.isRead)) (LineConsole.mk other sink)).sink }) ∧
    (∀ line report, lineAnswer line = .error report →
      report.kind = if line.isSome then .illegalInput else .inputPastEnd) ∧
    (∀ left right : Machine (LineConsole (List UInt8) Target), left.SameButInput right →
      ∀ count,
        (inputLines right.console.input).take count =
          (inputLines left.console.input).take count →
        ∀ steps, left.readsWithin steps ≤ count →
          Stateful.answers Machine.step steps right = Stateful.answers Machine.step steps left ∧
          right.readsWithin steps = left.readsWithin steps ∧
          Machine.SameButInput
            (Stateful.after Machine.step steps left) (Stateful.after Machine.step steps right) ∧
          Option.Rel (Stateful.Alike Machine.SameButInput) (left.run steps) (right.run steps)) := by
  refine ⟨?_, ?_, ?_⟩
  · intro input sink calls
    refine ⟨flatten_inputLines input, ?_, ?_, ?_⟩
    · intro place isRead
      exact LineConsole.getElem?_replies_of_read isRead
    · intro place word isWrite other
      exact LineConsole.getElem?_replies_of_write rfl isWrite
    · intro other
      have input_eq :=
        flatten_inputLines (Console.afterCalls calls (LineConsole.mk input sink)).input
      rw [LineConsole.inputLines_afterCalls] at input_eq
      have sink_eq :
          (Console.afterCalls calls (LineConsole.mk input sink)).sink =
            (Console.afterCalls (calls.filter (!·.isRead)) (LineConsole.mk other sink)).sink := by
        apply LineConsole.sink_afterCalls
        rfl
      rw [input_eq, ← sink_eq]
  · intro line report refused
    exact kind_of_lineAnswer refused
  · rintro left right ⟨input, rfl⟩ count lines_eq steps fewReads
    have agree : LineConsole.AgreeFor count left.console { left.console with input } :=
      ⟨rfl, lines_eq⟩
    have matched :
        left.Matches (LineConsole.AgreeFor (left.readsWithin steps))
          { left with console := { left.console with input } } :=
      ⟨_, agree.mono fewReads, rfl⟩
    obtain ⟨answers_eq, reads_eq, same⟩ := Machine.steps_alike matched
    exact ⟨answers_eq, reads_eq, same, Machine.run_alike matched⟩

/-- A machine that reads an integer, writes it, and reads another. -/
def rereader (input : List UInt8) : Machine ByteConsole where
  program := .ofList [.read ⟨0⟩, .write (.register ⟨0⟩), .read ⟨1⟩]
  console := { input, sink := {} }

/-- A console with three lines, of which the second is not a text. -/
def threeLines : ByteConsole where
  input := [55, 10, 255, 10, 57]
  sink := {}

/-- A second line that is not a text is used up by the second read. Two inputs that differ after
their first line cannot be told apart before the second read. -/
theorem second_line_is_not_text :
    inputLines threeLines.input = [[55, 10], [255, 10], [57]] ∧
    (Console.replies [.read, .write 5, .read] threeLines)[2]? =
      some (.read (.error
        { kind := .illegalInput, text := "stream did not contain valid UTF-8" })) ∧
    (Console.afterCalls [.read, .write 5, .read] threeLines).input = [57] ∧
    Machine.SameButInput
      (Stateful.after Machine.step 2 (rereader [55, 10, 56]))
      (Stateful.after Machine.step 2 (rereader [55, 10, 255])) := by
  obtain ⟨ofCalls, -, ofRuns⟩ := input_is_read_line_by_line Sink
  obtain ⟨-, ofReads, -, afterwards⟩ := ofCalls threeLines.input {} [.read, .write 5, .read]
  have lines_eq : inputLines threeLines.input = [[55, 10], [255, 10], [57]] := by decide
  have notText : decodeText? [255, 10] = none := by decide +kernel
  obtain ⟨-, -, same, -⟩ :=
    ofRuns (rereader [55, 10, 56]) (rereader [55, 10, 255]) ⟨[55, 10, 255], rfl⟩ 1 (by decide) 2
      (by decide +kernel)
  refine ⟨lines_eq, ?_, ?_, same⟩
  · refine (ofReads 2 rfl).trans ?_
    rw [lines_eq]
    simp [lineAnswer, notText, notTextMessage, Console.Call.isRead]
  · refine (congrArg LineConsole.input (afterwards [])).trans ?_
    rw [lines_eq]
    rfl

end RegisterMachine
