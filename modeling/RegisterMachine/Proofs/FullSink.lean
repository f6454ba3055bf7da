import RegisterMachine.Proofs.InputLines
import RegisterMachine.Proofs.Lockstep
import RegisterMachine.Proofs.Operating

/-!
# Sinks that fill up

Two machines that differ only in the room of their sinks step alike for as long
as all that is written fits. The step that writes more than there is room for
fails: as much is kept as there is room for, nothing else is changed, and the
machine has stopped for good. So the output on a limited sink is the beginning
of the output on an unlimited one, cut off at the limit, which may lie inside a
number.

The room of a sink is a number of characters and the limit is a number of bytes.
Every character that a machine writes is encoded as one byte.
-/

namespace RegisterMachine

/-! ## The bytes of the output -/

theorem utf8EncodeChar_of_lt
    {c : Char}
    (narrow : c.toNat < 128) :
    String.utf8EncodeChar c = [c.toNat.toUInt8] := by
  have isFirst : c.val.toNat ≤ 127 := Nat.le_of_lt_succ narrow
  rw [String.utf8EncodeChar]
  exact if_pos isFirst

/-- A text of which every character is encoded as one byte. -/
def IsNarrow (text : String) : Prop :=
  ∀ c ∈ text.toList, c.toNat < 128

theorem IsNarrow.encoded_eq
    {text : String}
    (narrow : IsNarrow text) :
    text.toByteArray.data.toList = text.toList.map fun c => c.toNat.toUInt8 := by
  rw [toList_data_toByteArray, List.map_eq_flatMap]
  apply List.flatMap_congr
  intro c isMember
  exact utf8EncodeChar_of_lt (narrow c isMember)

/-- The line that is written for a word. -/
def Word.line (word : Word) : String :=
  word.text ++ "\n"

theorem Word.line_isNarrow (word : Word) : IsNarrow word.line := by
  have ofDigit (c : Char) (isMember : c ∈ (Numeral.ofInt word.toInt).digits) : c.toNat < 128 := by
    have isDigit := Numeral.isDigit_of_mem_digits_ofInt isMember
    simp only [Char.isDigit, Bool.and_eq_true, decide_eq_true_eq, UInt32.le_iff_toNat_le] at isDigit
    exact Nat.lt_of_le_of_lt isDigit.2 (by decide)
  intro c isMember
  simp only [line, text, Decimal.ofInt, Numeral.chars, String.toList_append, String.toList_ofList,
    List.mem_append] at isMember
  rcases isMember with inNumeral | isFeed
  · split at inNumeral
    · rcases List.mem_cons.mp inNumeral with rfl | inDigits
      · decide
      · exact ofDigit c inDigits
    · exact ofDigit c inNumeral
  · rw [show "\n".toList = ['\n'] from rfl, List.mem_singleton] at isFeed
    rw [isFeed]
    decide

namespace Sink

variable {sink : Sink}
variable {text : String}
variable {limit : Nat}

/-- The bytes that have been written to a sink. -/
def bytes (sink : Sink) : List UInt8 :=
  sink.written.toByteArray.data.toList

/-- The sink with a text written after all the rest. -/
def wrote (text : String) (sink : Sink) : Sink :=
  { sink with written := sink.written ++ text }

/-- The sink with room for what a limit on all its bytes leaves. -/
def limitedTo (limit : Nat) (sink : Sink) : Sink :=
  { sink with room := some (limit - sink.bytes.length) }

theorem bytes_wrote (sink : Sink) (text : String) :
    (sink.wrote text).bytes = sink.bytes ++ text.toByteArray.data.toList := by
  simp [bytes, wrote]

theorem length_bytes_wrote (narrow : IsNarrow text) :
    (sink.wrote text).bytes.length = sink.bytes.length + text.length := by
  rw [bytes_wrote, narrow.encoded_eq, List.length_append, List.length_map, String.length_toList]

/-- A text that is cut off at the room for it leaves as many bytes as the limit allows. -/
theorem bytes_wrote_take
    (narrow : IsNarrow text)
    (fits : sink.bytes.length ≤ limit) :
    (sink.wrote (String.ofList (text.toList.take (limit - sink.bytes.length)))).bytes =
      (sink.wrote text).bytes.take limit := by
  have narrowPart :
      IsNarrow (String.ofList (text.toList.take (limit - sink.bytes.length))) := by
    intro c isMember
    rw [String.toList_ofList] at isMember
    exact narrow c (List.mem_of_mem_take isMember)
  rw [bytes_wrote, bytes_wrote, narrowPart.encoded_eq, narrow.encoded_eq, String.toList_ofList,
    List.take_append, List.take_of_length_le fits, List.map_take]

theorem append_of_unlimited
    (unlimited : sink.room = none)
    (text : String) :
    append text sink = .ok () (sink.wrote text) := by
  simp only [append, unlimited, wrote]

theorem append_limitedTo_of_fits
    (narrow : IsNarrow text)
    (fits : (sink.wrote text).bytes.length ≤ limit) :
    append text (sink.limitedTo limit) = .ok () ((sink.wrote text).limitedTo limit) := by
  rw [length_bytes_wrote narrow] at fits
  have short : text.length ≤ limit - sink.bytes.length := by omega
  simp only [append, limitedTo, if_pos short, length_bytes_wrote narrow, Nat.sub_add_eq]
  rfl

/-- A sink refuses a text that passes its limit, and keeps what there is room for. -/
theorem append_limitedTo_of_overflows
    (narrow : IsNarrow text)
    (fits : sink.bytes.length ≤ limit)
    (overflows : limit < (sink.wrote text).bytes.length) :
    ∃ cut,
      append text (sink.limitedTo limit) = .error sink.overflow cut ∧
      cut.bytes = (sink.wrote text).bytes.take limit := by
  rw [length_bytes_wrote narrow] at overflows
  have long : ¬ text.length ≤ limit - sink.bytes.length := by omega
  rw [← bytes_wrote_take narrow fits]
  simp only [append, limitedTo, if_neg long]
  exact ⟨_, rfl, rfl⟩

end Sink

/-! ## Reading and writing on a limited sink -/

section Lines

variable {sink after : Sink}
variable {word : Word}

/-- A line that is taken in is written, unless the sink then refuses to be flushed. -/
theorem writeLine_of_append
    (appended : Sink.append word.line sink = .ok () after) :
    writeLine word sink =
      match after.refusal with
      | none => .ok () after
      | some text => .error { kind := .outputError, text } after := by
  rw [Word.line] at appended
  simp only [writeLine, EStateM.adaptExcept, TextOutput.write, TextOutput.flush, Bind.bind,
    EStateM.bind, appended, Sink.flush]
  cases after.refusal <;> rfl

theorem writeLine_of_append_error
    {text : String}
    (refused : Sink.append word.line sink = .error text after) :
    writeLine word sink = .error { kind := .outputError, text } after := by
  rw [Word.line] at refused
  simp only [writeLine, EStateM.adaptExcept, TextOutput.write, Bind.bind, EStateM.bind, refused]

/-- An unlimited sink takes in the whole line, whether the flush succeeds or not. -/
theorem next_writeLine
    (unlimited : sink.room = none)
    (word : Word) :
    Stateful.next (writeLine word) sink = sink.wrote word.line := by
  rw [Stateful.next, writeLine_of_append (Sink.append_of_unlimited unlimited _)]
  cases (sink.wrote word.line).refusal <;> rfl

end Lines

namespace LineConsole

variable {Source : Type}
variable {console left right : LineConsole Source Sink}
variable {word : Word}
variable {limit : Nat}

/-- The console with its sink limited to a number of bytes. -/
def limitedTo (limit : Nat) (console : LineConsole Source Sink) : LineConsole Source Sink :=
  { console with sink := console.sink.limitedTo limit }

/-- A console with an unlimited sink, and the same console with a limit that is not passed. -/
structure LimitedTo
    (limit : Nat)
    (left right : LineConsole Source Sink) : Prop where
  unlimited : left.sink.room = none
  fits : left.sink.bytes.length ≤ limit
  right_eq : right = left.limitedTo limit

theorem sink_of_writeInteger
    (unlimited : console.sink.room = none)
    (word : Word) :
    (Stateful.next (writeInteger word) console).sink = console.sink.wrote word.line := by
  rw [← next_writeLine unlimited word]
  simp only [Stateful.next, writeInteger]
  cases writeLine word console.sink <;> rfl

theorem writeInteger_limitedTo_of_overflows
    (fits : console.sink.bytes.length ≤ limit)
    (overflows : limit < (console.sink.wrote word.line).bytes.length) :
    ∃ cut,
      writeInteger word (console.limitedTo limit) =
        .error { kind := .outputError, text := console.sink.overflow }
          { console with sink := cut } ∧
      cut.bytes = (console.sink.wrote word.line).bytes.take limit := by
  obtain ⟨cut, refused, bytes_eq⟩ :=
    Sink.append_limitedTo_of_overflows word.line_isNarrow fits overflows
  refine ⟨cut, ?_, bytes_eq⟩
  simp only [writeInteger, limitedTo, writeLine_of_append_error refused]

namespace LimitedTo

theorem read
    [LineInput Source]
    (limited : LimitedTo limit left right) :
    Stateful.Alike (LimitedTo limit) (readInteger left) (readInteger right) := by
  obtain ⟨unlimited, fits, rfl⟩ := limited
  simp only [readInteger, limitedTo]
  cases LineInput.readLine left.input with
  | ok line input =>
      simp only
      cases integerOfLine line with
      | ok word => exact .ok ⟨unlimited, fits, rfl⟩
      | error report => exact .error ⟨unlimited, fits, rfl⟩
  | error text input => exact .error ⟨unlimited, fits, rfl⟩

/-- A line that fits is written alike. -/
theorem write
    (limited : LimitedTo limit left right)
    (fitsAfter : (left.sink.wrote word.line).bytes.length ≤ limit) :
    Stateful.Alike (LimitedTo limit) (writeInteger word left) (writeInteger word right) := by
  obtain ⟨unlimited, -, rfl⟩ := limited
  have leftWritten := writeLine_of_append (Sink.append_of_unlimited unlimited word.line)
  have rightWritten :=
    writeLine_of_append (Sink.append_limitedTo_of_fits word.line_isNarrow fitsAfter)
  have refusal_eq :
      ((left.sink.wrote word.line).limitedTo limit).refusal = (left.sink.wrote word.line).refusal :=
    rfl
  rw [refusal_eq] at rightWritten
  simp only [writeInteger, limitedTo, leftWritten, rightWritten]
  cases (left.sink.wrote word.line).refusal with
  | none => exact .ok ⟨unlimited, fitsAfter, rfl⟩
  | some text => exact .error ⟨unlimited, fitsAfter, rfl⟩

end LimitedTo
end LineConsole

/-! ## What a step writes -/

/-- What an instruction writes: a write gives out the line of its word. -/
def Instruction.output (storage : Storage) : Instruction → String
  | .write source =>
      match storage.value source with
      | .ok word => word.line
      | .error _ => ""
  | _ => ""

theorem Instruction.output_isNarrow
    (storage : Storage)
    (instruction : Instruction) :
    IsNarrow (instruction.output storage) := by
  have emptyIsNarrow : IsNarrow "" := by simp [IsNarrow]
  unfold output
  split
  · split
    · rename_i word _
      exact word.line_isNarrow
    · exact emptyIsNarrow
  · exact emptyIsNarrow

/-- Only a write that has a word to write gives something out. -/
theorem Instruction.exists_word_of_output_ne
    {storage : Storage}
    {instruction : Instruction}
    (nonempty : instruction.output storage ≠ "") :
    ∃ source word,
      instruction = .write source ∧
      storage.value source = .ok word ∧
      instruction.output storage = word.line := by
  cases instruction with
  | write source =>
      cases evaluated : storage.value source with
      | ok word => exact ⟨source, word, rfl, evaluated, by simp only [output, evaluated]⟩
      | error fault => simp [output, evaluated] at nonempty
  | _ => exact absurd rfl nonempty

namespace Machine

variable {instruction : Instruction}
variable {address : Nat}

section AnyConsole

variable {World : Type}
variable {machine : Machine World}

theorem Exec.next_onConsole
    {α : Type}
    (act : EStateM Report World α)
    (machine : Machine World) :
    Stateful.next (Exec.onConsole act) machine =
      { machine with console := Stateful.next act machine.console } := by
  simp only [Stateful.next, Exec.onConsole]
  cases act machine.console <;> rfl

variable [Console World]

theorem Exec.instruction_write_of_value
    {source : Operand}
    {word : Word}
    (evaluated : machine.storage.value source = .ok word) :
    Exec.instruction (.write source) machine =
      Exec.onConsole (Console.write word) machine := by
  simp only [Exec.instruction, Exec.value, Exec.examine, Bind.bind, EStateM.bind, evaluated]

/-- Apart from stopping, a step does what the instruction does. -/
theorem next_step_of_next?_eq_some
    (found : machine.next? = some (address, instruction)) :
    (Stateful.next step machine).storage =
      (Stateful.next (Exec.instruction instruction) machine.advanced).storage ∧
    (Stateful.next step machine).console =
      (Stateful.next (Exec.instruction instruction) machine.advanced).console := by
  simp only [Stateful.next, step_of_next?_eq_some found]
  cases Exec.instruction instruction machine.advanced <;> exact ⟨rfl, rfl⟩

end AnyConsole

section Written

variable {World : Type}

/-- What the next instruction writes. -/
def writesNow (machine : Machine World) : String :=
  match machine.next? with
  | some (_, instruction) => instruction.output machine.storage
  | none => ""

theorem writesNow_isNarrow (machine : Machine World) : IsNarrow machine.writesNow := by
  unfold writesNow
  split
  · exact Instruction.output_isNarrow _ _
  · simp [IsNarrow]

end Written

variable {Source : Type} [LineInput Source]
variable {machine : Machine (LineConsole Source Sink)}

/-- Only a write changes the sink. -/
theorem Exec.instruction_keeps_sink
    (notWrite : ∀ source, instruction ≠ .write source) :
    Stateful.Keeps (fun machine => machine.console.sink)
      (Exec.instruction instruction : Exec (LineConsole Source Sink) Unit) := by
  apply instruction_keeps_view
  · exact fun machine storage => rfl
  · intro target _ machine
    rw [next_onConsole]
    exact LineConsole.readInteger_sink machine.console
  · intro source word isWrite
    exact absurd isWrite (notWrite source)
  · exact fun condition source address _ machine counter => rfl

/-- An instruction appends what it writes to an unlimited sink. -/
theorem Exec.sink_of_instruction
    (unlimited : machine.console.sink.room = none)
    (instruction : Instruction) :
    (Stateful.next (Exec.instruction instruction) machine).console.sink =
      machine.console.sink.wrote (instruction.output machine.storage) := by
  have unchanged : machine.console.sink.wrote "" = machine.console.sink := by simp [Sink.wrote]
  cases instruction with
  | write source =>
      cases evaluated : machine.storage.value source with
      | ok word =>
          have sink_eq := LineConsole.sink_of_writeInteger unlimited word
          rw [Stateful.next, instruction_write_of_value evaluated, ← Stateful.next, next_onConsole]
          simp only [Instruction.output, evaluated, LineConsole.write_eq_writeInteger, sink_eq]
      | error fault =>
          simp only [Stateful.next, Exec.instruction, Exec.value, Exec.examine, Bind.bind,
            EStateM.bind, evaluated, Instruction.output, unchanged]
  | _ => exact (instruction_keeps_sink (by simp) machine).trans unchanged.symm

/-- A step appends what its instruction writes to an unlimited sink. -/
theorem sink_of_step
    (unlimited : machine.console.sink.room = none) :
    (Stateful.next step machine).console.sink =
      machine.console.sink.wrote machine.writesNow := by
  cases found : machine.next? with
  | none => simp [Stateful.next, step_of_next?_eq_none found, writesNow, found, halt, Sink.wrote]
  | some entry =>
      obtain ⟨address, instruction⟩ := entry
      have unlimitedToo : machine.advanced.console.sink.room = none := unlimited
      rw [(next_step_of_next?_eq_some found).2, writesNow, found]
      exact Exec.sink_of_instruction unlimitedToo instruction

theorem length_bytes_of_step
    (unlimited : machine.console.sink.room = none) :
    (Stateful.next step machine).console.sink.bytes.length =
      machine.console.sink.bytes.length + machine.writesNow.length := by
  rw [sink_of_step unlimited, Sink.length_bytes_wrote machine.writesNow_isNarrow]

/-! ## Steps on a limited sink -/

open Stateful (Alike)

variable {limit steps : Nat}

/-- The machine with its sink limited to a number of bytes. -/
def limitedTo
    (limit : Nat)
    (machine : Machine (LineConsole Source Sink)) : Machine (LineConsole Source Sink) :=
  { machine with console := machine.console.limitedTo limit }

/-- A step whose output fits is done alike on a limited sink. -/
theorem step_alike_of_fits
    (unlimited : machine.console.sink.room = none)
    (fits : (Stateful.next step machine).console.sink.bytes.length ≤ limit) :
    Alike (Matches (LineConsole.LimitedTo limit)) (step machine)
      (step (machine.limitedTo limit)) := by
  have fitsBefore : machine.console.sink.bytes.length ≤ limit := by
    rw [length_bytes_of_step unlimited] at fits
    omega
  have limited : LineConsole.LimitedTo limit machine.console (machine.console.limitedTo limit) :=
    ⟨unlimited, fitsBefore, rfl⟩
  apply step_alike
  · exact fun _ => limited
  · exact fun _ _ _ => limited.read
  · intro address source word found evaluated
    apply limited.write
    rw [sink_of_step unlimited] at fits
    simpa only [writesNow, found, Instruction.output, evaluated] using fits

theorem room_after
    (unlimited : machine.console.sink.room = none)
    (steps : Nat) :
    (Stateful.after step steps machine).console.sink.room = none := by
  induction steps with
  | zero => exact unlimited
  | succ steps inductionHypothesis =>
      rw [Stateful.after_succ, sink_of_step inductionHypothesis]
      exact inductionHypothesis

/-- Nothing that was written to an unlimited sink is taken back. -/
theorem length_bytes_after_mono
    (unlimited : machine.console.sink.room = none) :
    Monotone fun steps => (Stateful.after step steps machine).console.sink.bytes.length := by
  apply monotone_nat_of_le_succ
  intro steps
  rw [Stateful.after_succ, length_bytes_of_step (room_after unlimited steps)]
  exact Nat.le_add_right _ _

/-- Steps whose output fits are done alike on a limited sink. -/
theorem steps_alike_of_fits
    (unlimited : machine.console.sink.room = none)
    (fits : (Stateful.after step steps machine).console.sink.bytes.length ≤ limit) :
    Stateful.answers step steps (machine.limitedTo limit) = Stateful.answers step steps machine ∧
    Stateful.after step steps (machine.limitedTo limit) =
      (Stateful.after step steps machine).limitedTo limit := by
  induction steps with
  | zero => exact ⟨rfl, rfl⟩
  | succ steps inductionHypothesis =>
      have fitsBefore := (length_bytes_after_mono unlimited (Nat.le_succ steps)).trans fits
      obtain ⟨answers_eq, after_eq⟩ := inductionHypothesis fitsBefore
      rw [Stateful.after_succ] at fits
      obtain ⟨answer_eq, console, limited, next_eq⟩ :=
        Stateful.alike_iff.mp (step_alike_of_fits (room_after unlimited steps) fits)
      constructor
      · rw [Stateful.answers_succ, Stateful.answers_succ, answers_eq, after_eq, answer_eq]
      · rw [Stateful.after_succ, Stateful.after_succ, after_eq, next_eq, limited.right_eq]
        rfl

/-! ## The step that fills the sink -/

/-- The output of a step passes the limit only at a write. On the limited sink the write fails, and
the line is cut off at the limit. -/
theorem exists_cut_of_overflows
    (unlimited : machine.console.sink.room = none)
    (fits : machine.console.sink.bytes.length ≤ limit)
    (overflows : limit < (Stateful.next step machine).console.sink.bytes.length) :
    ∃ address source trap cut,
      machine.next? = some (address, .write source) ∧
      step (machine.limitedTo limit) = .error trap cut ∧
      trap.report.kind = .outputError ∧
      trap.report.address = some address ∧
      cut.console.sink.bytes = (Stateful.next step machine).console.sink.bytes.take limit ∧
      cut.storage = (Stateful.next step machine).storage := by
  have writes : machine.writesNow ≠ "" := by
    intro isEmpty
    rw [length_bytes_of_step unlimited, isEmpty] at overflows
    exact absurd fits (Nat.not_le.mpr overflows)
  cases found : machine.next? with
  | none => simp [writesNow, found] at writes
  | some entry =>
      obtain ⟨address, instruction⟩ := entry
      have output_eq : machine.writesNow = instruction.output machine.storage := by
        rw [writesNow, found]
      rw [output_eq] at writes
      obtain ⟨source, word, rfl, evaluated, line_eq⟩ :=
        Instruction.exists_word_of_output_ne writes
      rw [sink_of_step unlimited, output_eq, line_eq] at overflows ⊢
      obtain ⟨sink, refused, bytes_eq⟩ :=
        LineConsole.writeInteger_limitedTo_of_overflows fits overflows
      have evaluatedToo : machine.advanced.storage.value source = .ok word := evaluated
      let trap : Trap :=
        ⟨address, .console { kind := .outputError, text := machine.console.sink.overflow }⟩
      have failed :
          step (machine.limitedTo limit) =
            .error trap
              (halt { machine.advanced with console := { machine.console with sink } }) :=
        step_eq_error_iff_fails.mpr ⟨.write source, _, found, .output evaluated refused, rfl⟩
      refine ⟨address, source, trap, _, rfl, failed, rfl, rfl, bytes_eq, ?_⟩
      rw [(next_step_of_next?_eq_some found).1, Stateful.next,
        Exec.instruction_write_of_value evaluatedToo, ← Stateful.next, Exec.next_onConsole]
      rfl

/-! ## Runs -/

/-- A machine on a limited sink does the same as on an unlimited one, step by step, for as long as
the output has no more bytes than the limit. The first step whose output has more is a write. It
fails at the address of the write, its output is cut off at the limit, and what is stored is the
same as without the limit. Nothing that the machine is called on to do changes it any more, and a
run ends there. -/
theorem limited_sink_cuts_output_off
    (machine : Machine (LineConsole Source Sink))
    (unlimited : machine.console.sink.room = none)
    (limit steps : Nat)
    (fits : (Stateful.after step steps machine).console.sink.bytes.length ≤ limit) :
    (∀ done ≤ steps,
      Stateful.answers step done (machine.limitedTo limit) = Stateful.answers step done machine ∧
      Stateful.after step done (machine.limitedTo limit) =
        (Stateful.after step done machine).limitedTo limit) ∧
    (limit < (Stateful.after step (steps + 1) machine).console.sink.bytes.length →
      ∃ address source trap cut,
        (Stateful.after step steps machine).next? = some (address, .write source) ∧
        step (Stateful.after step steps (machine.limitedTo limit)) = .error trap cut ∧
        trap.report.kind = .outputError ∧
        trap.report.address = some address ∧
        cut.console.sink.bytes =
          (Stateful.after step (steps + 1) machine).console.sink.bytes.take limit ∧
        cut.storage = (Stateful.after step (steps + 1) machine).storage ∧
        (∀ exchanges after, cut.Undergoes exchanges after → after = cut) ∧
        ∀ bound, steps < bound → run bound (machine.limitedTo limit) = some (.error trap cut)) := by
  constructor
  · intro done isDone
    exact steps_alike_of_fits unlimited ((length_bytes_after_mono unlimited isDone).trans fits)
  · intro overflows
    rw [Stateful.after_succ] at overflows ⊢
    obtain ⟨address, source, trap, cut, found, failed, kind_eq, address_eq, bytes_eq, storage_eq⟩ :=
      exists_cut_of_overflows (room_after unlimited steps) fits overflows
    rw [← (steps_alike_of_fits unlimited fits).2] at failed
    refine ⟨address, source, trap, cut, found, failed, kind_eq, address_eq, bytes_eq, storage_eq,
      ?_, ?_⟩
    · intro exchanges after undergone
      exact (undergone.of_stopped (frame_of_step_eq_error failed).2).1
    · intro bound isLarger
      obtain ⟨further, rfl⟩ := Nat.exists_eq_add_of_lt isLarger
      have isRunning : (Stateful.after step steps (machine.limitedTo limit)).running = true := by
        rw [(steps_alike_of_fits unlimited fits).2]
        exact (next?_eq_some_iff.mp found).1
      rw [Nat.add_assoc, run_add isRunning, run, failed]

/-- A machine that writes three numbers and changes a register after the first. -/
def writer : Machine ByteConsole where
  program := .ofList
    [.write (.literal 12),
      .copy (.literal 7) ⟨0⟩,
      .write (.literal 3456),
      .write (.register ⟨0⟩)]
  console := { input := [], sink := {} }

/-- A limit of five bytes lies inside the second number. -/
theorem writer_is_cut_off_inside_number :
    Stateful.after step 2 (writer.limitedTo 5) = (Stateful.after step 2 writer).limitedTo 5 ∧
    ∃ trap cut,
      step (Stateful.after step 2 (writer.limitedTo 5)) = .error trap cut ∧
      trap.report.kind = .outputError ∧
      trap.report.address = some 2 ∧
      cut.console.sink.bytes = [49, 50, 10, 51, 52] ∧
      run 4 (writer.limitedTo 5) = some (.error trap cut) := by
  have bytes_eq :
      (Stateful.after step 3 writer).console.sink.bytes = [49, 50, 10, 51, 52, 53, 54, 10] := by
    decide +kernel
  have fits : (Stateful.after step 2 writer).console.sink.bytes.length ≤ 5 := by decide +kernel
  obtain ⟨alike, cutsOff⟩ := limited_sink_cuts_output_off writer rfl 5 2 fits
  obtain ⟨address, source, trap, cut, found, failed, kind_eq, address_eq, cut_eq, -, -, ended⟩ :=
    cutsOff (by rw [bytes_eq]; decide)
  have next_eq : (Stateful.after step 2 writer).next? = some (2, .write (.literal 3456)) := by
    decide +kernel
  rw [next_eq] at found
  cases found
  refine ⟨(alike 2 (Nat.le_refl 2)).2, trap, cut, failed, kind_eq, address_eq, ?_, ?_⟩
  · rw [cut_eq, bytes_eq]
    rfl
  · exact ended 4 (by decide)

end Machine
end RegisterMachine
