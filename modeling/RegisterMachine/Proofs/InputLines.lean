import RegisterMachine.Proofs.Failing

/-!
# Lines of input

A console over bytes takes one line off its input for every read, whether the
line is an integer or not, and a write takes nothing. So the answer to a read
depends on one line alone, and which line that is depends on the number of reads
before. All this is the same wherever the output goes.
-/

namespace RegisterMachine

/-! ## Lines -/

/-- The lines of some bytes. A line goes up to a line feed, which belongs to it, or up to the end of
the bytes. -/
def inputLines : List UInt8 → List (List UInt8)
  | [] => []
  | byte :: bytes =>
      if byte = lineFeed then
        [byte] :: inputLines bytes
      else
        match inputLines bytes with
        | [] => [[byte]]
        | line :: lines => (byte :: line) :: lines

/-- The lines put together are the bytes. -/
@[simp] theorem flatten_inputLines (bytes : List UInt8) : (inputLines bytes).flatten = bytes := by
  fun_induction inputLines bytes with
  | case1 => rfl
  | case2 bytes inductionHypothesis => simp [inductionHypothesis]
  | case3 byte bytes _ noLines inductionHypothesis =>
      rw [noLines] at inductionHypothesis
      simp [← inductionHypothesis]
  | case4 byte bytes _ line lines lines_eq inductionHypothesis =>
      rw [lines_eq] at inductionHypothesis
      simp [← inductionHypothesis]

theorem inputLines_append_lineFeed
    {line : List UInt8}
    (unbroken : lineFeed ∉ line)
    (rest : List UInt8) :
    inputLines (line ++ lineFeed :: rest) = (line ++ [lineFeed]) :: inputLines rest := by
  induction line with
  | nil => simp [inputLines]
  | cons byte line inductionHypothesis =>
      rw [List.mem_cons, not_or] at unbroken
      rw [List.cons_append, inputLines, if_neg (Ne.symm unbroken.1),
        inductionHypothesis unbroken.2]
      rfl

/-- The first line goes up to the first line feed, and the lines after it are those of the bytes
that are left. -/
theorem inputLines_eq_cons
    {input : List UInt8}
    (nonempty : input ≠ []) :
    inputLines input =
      (input.takeWhile (· ≠ lineFeed) ++ (input.dropWhile (· ≠ lineFeed)).take 1) ::
        inputLines ((input.dropWhile (· ≠ lineFeed)).drop 1) := by
  induction input with
  | nil => exact absurd rfl nonempty
  | cons byte bytes inductionHypothesis =>
      by_cases isFeed : byte = lineFeed
      · simp [inputLines, isFeed]
      · rw [inputLines, if_neg isFeed, List.takeWhile_cons_of_pos (by simpa using isFeed),
          List.dropWhile_cons_of_pos (by simpa using isFeed)]
        cases bytes with
        | nil => rfl
        | cons next others => rw [inductionHypothesis (by simp), List.cons_append]

theorem firstLine_ne_nil
    {input : List UInt8}
    (nonempty : input ≠ []) :
    input.takeWhile (· ≠ lineFeed) ++ (input.dropWhile (· ≠ lineFeed)).take 1 ≠ [] := by
  intro isEmpty
  obtain ⟨noneTaken, noneDropped⟩ := List.append_eq_nil_iff.mp isEmpty
  have dropped : input.dropWhile (· ≠ lineFeed) = [] := by simpa using noneDropped
  have whole := List.takeWhile_append_dropWhile (p := (· ≠ lineFeed)) (l := input)
  rw [noneTaken, dropped] at whole
  exact nonempty whole.symm

/-! ## The integer on a line -/

/-- The bytes of a text are those of its characters, one after the other. -/
theorem toList_data_toByteArray (text : String) :
    text.toByteArray.data.toList = text.toList.flatMap String.utf8EncodeChar := by
  rw [← String.utf8Encode_toList, List.utf8Encode, List.data_toByteArray]

/-- Bytes are decoded as the text that they are the encoding of. -/
theorem decodeText?_eq_some_iff
    {bytes : List UInt8}
    {text : String} :
    decodeText? bytes = some text ↔ bytes = text.toList.flatMap String.utf8EncodeChar := by
  simp only [decodeText?, String.fromUTF8?]
  rw [← toList_data_toByteArray]
  split
  · rw [Option.some.injEq, ← String.toByteArray_inj, ByteArray.ext_iff]
    simp only [String.fromUTF8]
    constructor
    · intro same
      rw [← same]
    · intro same
      rw [same]
  · rename_i notValid
    simp only [reduceCtorEq, false_iff]
    rintro rfl
    exact notValid text.isValidUTF8

/-- What a read is answered with when a given line is next, or when there is none. -/
def lineAnswer : Option (List UInt8) → Except Report Word
  | none => .error { kind := .inputPastEnd }
  | some line =>
      match decodeText? line with
      | some text => parseInteger text
      | none => .error { kind := .illegalInput, text := notTextMessage }

theorem kind_of_lineAnswer
    {line : Option (List UInt8)}
    {report : Report}
    (refused : lineAnswer line = .error report) :
    report.kind = if line.isSome then .illegalInput else .inputPastEnd := by
  cases line with
  | none =>
      cases refused
      rfl
  | some line =>
      simp only [lineAnswer] at refused
      split at refused
      · exact (report_of_parseInteger refused).1
      · cases refused
        rfl

/-- A line that is not empty is read as the integer on it. -/
theorem integerOfLine_of_decodeText?
    {line : List UInt8}
    {text : String}
    (nonempty : line ≠ [])
    (decoded : decodeText? line = some text) :
    integerOfLine text = parseInteger text := by
  rw [integerOfLine, if_neg]
  rintro rfl
  exact nonempty (decodeText?_eq_some_iff.mp decoded)

/-! ## The console -/

namespace LineConsole

section Bytes

variable {Target : Type}

theorem readInteger_of_nil (sink : Target) :
    readInteger ({ input := [], sink } : LineConsole (List UInt8) Target) =
      .error { kind := .inputPastEnd } { input := [], sink } := by
  have decoded : decodeText? [] = some "" := decodeText?_eq_some_iff.mpr rfl
  simp [readInteger, LineInput.readLine, takeLine, decoded, integerOfLine]

/-- A read is answered by the next line and uses this line up. -/
theorem readInteger_line (console : LineConsole (List UInt8) Target) :
    Stateful.answer readInteger console = lineAnswer (inputLines console.input).head? ∧
    inputLines (Stateful.next readInteger console).input = (inputLines console.input).tail := by
  obtain ⟨input, sink⟩ := console
  cases input with
  | nil =>
      rw [Stateful.answer, Stateful.next, readInteger_of_nil]
      exact ⟨rfl, rfl⟩
  | cons byte bytes =>
      have lines_eq := inputLines_eq_cons (List.cons_ne_nil byte bytes)
      have nonempty := firstLine_ne_nil (List.cons_ne_nil byte bytes)
      simp only [lines_eq, List.head?_cons, List.tail_cons, lineAnswer, Stateful.answer,
        Stateful.next, readInteger, LineInput.readLine, takeLine]
      generalize (byte :: bytes).takeWhile _ ++ _ = line at nonempty ⊢
      cases decoded : decodeText? line with
      | none => exact ⟨rfl, rfl⟩
      | some text =>
          simp only [integerOfLine_of_decodeText? nonempty decoded]
          cases parseInteger text with
          | ok word => exact ⟨rfl, rfl⟩
          | error report => exact ⟨rfl, rfl⟩

end Bytes

/-- A read leaves the sink as it is. -/
theorem readInteger_sink
    {Source Target : Type}
    [LineInput Source]
    (console : LineConsole Source Target) :
    (Stateful.next readInteger console).sink = console.sink := by
  simp only [Stateful.next, readInteger]
  cases LineInput.readLine console.input with
  | ok line input =>
      simp only
      cases integerOfLine line <;> rfl
  | error text input => rfl

/-- A write goes by the sink alone and leaves the input as it is. -/
theorem writeInteger_sink
    {Source Target : Type}
    [TextOutput Target]
    {console other : LineConsole Source Target}
    (word : Word)
    (sink_eq : other.sink = console.sink) :
    Stateful.answer (writeInteger word) console = Stateful.answer (writeInteger word) other ∧
    (Stateful.next (writeInteger word) console).sink =
      (Stateful.next (writeInteger word) other).sink ∧
    (Stateful.next (writeInteger word) console).input = console.input := by
  simp only [Stateful.answer, Stateful.next, writeInteger, sink_eq]
  cases writeLine word console.sink with
  | ok value sink => exact ⟨rfl, rfl, rfl⟩
  | error report sink => exact ⟨rfl, rfl, rfl⟩

end LineConsole

/-! ## Calls on a console -/

namespace Console

/-- What a console can be called on to do. -/
inductive Call
  | read
  | write (word : Word)
  deriving DecidableEq

/-- Whether a call is a read. -/
def Call.isRead : Call → Bool
  | .read => true
  | .write _ => false

/-- What a call is answered with. -/
inductive Reply
  | read (result : Except Report Word)
  | written (result : Except Report Unit)

section Calls

variable {World : Type} [Console World]

/-- The answer of a console to a call. -/
def reply (console : World) : Call → Reply
  | .read => .read (Stateful.answer Console.read console)
  | .write word => .written (Stateful.answer (Console.write word) console)

/-- The console after a call. -/
def afterCall (console : World) : Call → World
  | .read => Stateful.next Console.read console
  | .write word => Stateful.next (Console.write word) console

/-- The answers of a console to some calls, whatever they are. -/
def replies : List Call → World → List Reply
  | [], _ => []
  | call :: calls, console => reply console call :: replies calls (afterCall console call)

/-- The console after some calls. -/
def afterCalls (calls : List Call) (console : World) : World :=
  calls.foldl afterCall console

end Calls
end Console

namespace LineConsole

open Console (Call reply afterCall replies afterCalls)

section Sinks

variable {Source Target : Type} [LineInput Source] [TextOutput Target]

variable {console other : LineConsole Source Target}

theorem sink_afterCall_write
    (word : Word)
    (sink_eq : other.sink = console.sink) :
    (afterCall other (.write word)).sink = (afterCall console (.write word)).sink :=
  (writeInteger_sink word sink_eq).2.1.symm

theorem sink_afterCall_read (console : LineConsole Source Target) :
    (afterCall console .read).sink = console.sink :=
  readInteger_sink console

/-- A write is answered as it is among the writes alone, whatever the input. -/
theorem getElem?_replies_of_write
    {calls : List Call}
    {place : Nat}
    {word : Word}
    (sink_eq : other.sink = console.sink)
    (isWrite : calls[place]? = some (.write word)) :
    (replies calls console)[place]? =
      (replies (calls.filter (!·.isRead)) other)[(calls.take place).countP (!·.isRead)]? := by
  induction calls generalizing console other place with
  | nil => cases isWrite
  | cons call calls inductionHypothesis =>
      cases call with
      | read =>
          rw [← sink_afterCall_read console] at sink_eq
          cases place with
          | zero => cases isWrite
          | succ place =>
              rw [replies, List.getElem?_cons_succ, inductionHypothesis sink_eq isWrite]
              rfl
      | write first =>
          rw [List.filter_cons_of_pos rfl, replies, replies]
          cases place with
          | zero => simp [reply, (writeInteger_sink first sink_eq).1]
          | succ place =>
              rw [List.getElem?_cons_succ,
                inductionHypothesis (sink_afterCall_write first sink_eq) isWrite,
                List.take_succ_cons, List.countP_cons_of_pos rfl, List.getElem?_cons_succ]

/-- The sink is left as the writes alone leave it, whatever the input. -/
theorem sink_afterCalls
    (sink_eq : other.sink = console.sink)
    (calls : List Call) :
    (afterCalls calls console).sink = (afterCalls (calls.filter (!·.isRead)) other).sink := by
  induction calls generalizing console other with
  | nil => exact sink_eq.symm
  | cons call calls inductionHypothesis =>
      cases call with
      | read => exact inductionHypothesis (sink_eq.trans (sink_afterCall_read console).symm)
      | write word => exact inductionHypothesis (sink_afterCall_write word sink_eq)

end Sinks

section Bytes

variable {Target : Type} [TextOutput Target]
variable {console : LineConsole (List UInt8) Target}

theorem inputLines_afterCall
    (console : LineConsole (List UInt8) Target)
    (call : Call) :
    inputLines (afterCall console call).input =
      (inputLines console.input).drop ([call].countP Call.isRead) := by
  cases call with
  | read => exact (readInteger_line console).2.trans List.drop_one.symm
  | write word =>
      rw [afterCall, write_eq_writeInteger, (writeInteger_sink word rfl).2.2]
      rfl

/-- As many lines are used up as there were reads. -/
theorem inputLines_afterCalls
    (calls : List Call)
    (console : LineConsole (List UInt8) Target) :
    inputLines (afterCalls calls console).input =
      (inputLines console.input).drop (calls.countP Call.isRead) := by
  induction calls generalizing console with
  | nil => rfl
  | cons call calls inductionHypothesis =>
      rw [afterCalls, List.foldl_cons, ← afterCalls, inductionHypothesis, inputLines_afterCall,
        List.drop_drop, ← List.countP_append, List.singleton_append]

/-- A read is answered by the line that comes after as many lines as there were reads before. -/
theorem getElem?_replies_of_read
    {calls : List Call}
    {place : Nat}
    (isRead : calls[place]? = some .read) :
    (replies calls console)[place]? =
      some (.read (lineAnswer (inputLines console.input)[
        (calls.take place).countP Call.isRead]?)) := by
  induction calls generalizing console place with
  | nil => cases isRead
  | cons call calls inductionHypothesis =>
      cases place with
      | zero =>
          cases isRead
          simp [replies, reply, (readInteger_line console).1, List.head?_eq_getElem?]
      | succ place =>
          rw [replies, List.getElem?_cons_succ, inductionHypothesis isRead, inputLines_afterCall,
            List.getElem?_drop, ← List.countP_append, List.singleton_append, List.take_succ_cons]

end Bytes
end LineConsole
end RegisterMachine
