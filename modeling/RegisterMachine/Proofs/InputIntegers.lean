import RegisterMachine.Proofs.FullSink
import RegisterMachine.Proofs.LexicalGrammar
import RegisterMachine.Proofs.Wrapping

/-!
# Integers on lines

A line is read as an integer exactly when it is a signed decimal number with
white space around it, and the number is a word. The grammar of these numbers is
stated without reference to the reader. A line that is written for a word is one
of them: the digits of the word, with a line feed as the only white space. So
what one console writes can be read on another, and nothing is left over.
-/

namespace RegisterMachine

/-! ## Trimming -/

namespace Text

variable {charClass : CharClass}
variable {cs before body after : List Char}

/-- A text is what is left of another one when the characters of a class are taken off both of its
ends. -/
def Trims (charClass : CharClass) (cs body : List Char) : Prop :=
  EndsRun charClass.contains body ∧
  EndsRun charClass.contains body.reverse ∧
  ∃ before after,
    cs = before ++ body ++ after ∧
    (∀ c ∈ before, charClass.contains c = true) ∧
    ∀ c ∈ after, charClass.contains c = true

theorem trim_append_singleton
    {c : Char}
    (isMember : charClass.contains c = true)
    (cs : List Char) :
    trim charClass (cs ++ [c]) = trim charClass cs := by
  simp only [trim, List.dropWhile_append, List.isEmpty_iff]
  split
  · rename_i allDropped
    simp [allDropped, isMember]
  · simp [isMember]

theorem trim_append_of_forall
    (inClass : ∀ c ∈ after, charClass.contains c = true)
    (cs : List Char) :
    trim charClass (cs ++ after) = trim charClass cs := by
  induction after generalizing cs with
  | nil => rw [List.append_nil]
  | cons c after inductionHypothesis =>
      obtain ⟨isMember, areMembers⟩ := List.forall_mem_cons.mp inClass
      rw [List.append_cons, inductionHypothesis areMembers, trim_append_singleton isMember]

theorem append_trim_of_forall
    (inClass : ∀ c ∈ before, charClass.contains c = true)
    (cs : List Char) :
    trim charClass (before ++ cs) = trim charClass cs := by
  rw [trim, List.dropWhile_append_of_pos inClass, ← trim]

theorem Trims.trim_eq
    (trims : Trims charClass cs body) :
    trim charClass cs = body := by
  obtain ⟨beginEnds, endEnds, before, after, rfl, beforeInClass, afterInClass⟩ := trims
  rw [trim_append_of_forall afterInClass, append_trim_of_forall beforeInClass, trim,
    beginEnds.dropWhile_eq_self, endEnds.dropWhile_eq_self, List.reverse_reverse]

theorem trims_trim
    (charClass : CharClass)
    (cs : List Char) :
    Trims charClass cs (trim charClass cs) := by
  obtain ⟨before, inner, rfl, beforeInClass, innerEnds⟩ := EndsRun.exists_run charClass.contains cs
  obtain ⟨after, body, reverse_eq, afterInClass, bodyEnds⟩ :=
    EndsRun.exists_run charClass.contains inner.reverse
  have inner_eq : inner = body.reverse ++ after.reverse := by
    rw [← List.reverse_append, ← reverse_eq, List.reverse_reverse]
  have trims : Trims charClass (before ++ inner) body.reverse := by
    refine ⟨?_, ?_, before, after.reverse, ?_, beforeInClass, ?_⟩
    · intro c isHead
      apply innerEnds c
      rw [inner_eq]
      exact List.mem_head?_append_of_mem_head? isHead
    · rwa [List.reverse_reverse]
    · rw [inner_eq, List.append_assoc]
    · exact fun c isMember => afterInClass c (List.mem_reverse.mp isMember)
  rwa [trims.trim_eq]

/-- A text without characters of a class is what is left when such characters stand around it. -/
theorem trims_append
    (beforeInClass : ∀ c ∈ before, charClass.contains c = true)
    (afterInClass : ∀ c ∈ after, charClass.contains c = true)
    (notInClass : ∀ c ∈ body, charClass.contains c = false) :
    Trims charClass (before ++ body ++ after) body := by
  refine ⟨?_, ?_, before, after, rfl, beforeInClass, afterInClass⟩
  · intro c isHead
    exact notInClass c (List.mem_of_mem_head? isHead)
  · intro c isHead
    exact notInClass c (List.mem_reverse.mp (List.mem_of_mem_head? isHead))

end Text

/-! ## Signed decimal numbers -/

/-- Decimal digits, of which there is at least one. -/
def AreDigits (digits : List Char) : Prop :=
  digits ≠ [] ∧ ∀ c ∈ digits, c.isDigit = true

/-- The signed decimal numbers with their values: digits with at most one sign in front. -/
inductive SignedDecimal : List Char → Int → Prop
  | unsigned {digits : List Char} :
      AreDigits digits →
      SignedDecimal digits (Nat.ofDigitChars 10 digits 0)
  | plus {digits : List Char} :
      AreDigits digits →
      SignedDecimal ('+' :: digits) (Nat.ofDigitChars 10 digits 0)
  | minus {digits : List Char} :
      AreDigits digits →
      SignedDecimal ('-' :: digits) (-(Nat.ofDigitChars 10 digits 0))

namespace Numeral

variable {cs : List Char}
variable {numeral : Numeral}

theorem ofDigits?_eq_some_iff
    {negative : Bool} :
    ofDigits? negative cs = some numeral ↔ AreDigits cs ∧ ⟨negative, cs⟩ = numeral := by
  simp [ofDigits?, AreDigits]

/-- A numeral is a signed decimal number without a plus sign. -/
theorem signedDecimal_chars
    (areDigits : AreDigits numeral.digits) :
    SignedDecimal numeral.chars numeral.value := by
  obtain ⟨negative, digits⟩ := numeral
  cases negative with
  | false => exact .unsigned areDigits
  | true => exact .minus areDigits

theorem areDigits_ofInt (n : Int) : AreDigits (ofInt n).digits := by
  refine ⟨?_, fun c isMember => isDigit_of_mem_digits_ofInt isMember⟩
  cases n <;> exact Nat.toDigits_ne_nil

/-- The numeral of a whole text is found exactly when the text is a signed decimal number. -/
theorem exists_whole?_iff
    {n : Int} :
    (∃ numeral, whole? cs = some numeral ∧ numeral.value = n) ↔ SignedDecimal cs n := by
  constructor
  · rintro ⟨numeral, found, rfl⟩
    cases cs with
    | nil => cases found
    | cons c cs =>
        simp only [whole?] at found
        split at found
        · rename_i isMinus
          obtain ⟨areDigits, rfl⟩ := ofDigits?_eq_some_iff.mp found
          rw [isMinus]
          exact .minus areDigits
        · split at found
          · rename_i isPlus
            obtain ⟨areDigits, rfl⟩ := ofDigits?_eq_some_iff.mp found
            rw [isPlus]
            exact .plus areDigits
          · obtain ⟨areDigits, rfl⟩ := ofDigits?_eq_some_iff.mp found
            exact .unsigned areDigits
  · intro isDecimal
    cases isDecimal with
    | @unsigned digits areDigits =>
        refine ⟨⟨false, cs⟩, ?_, rfl⟩
        obtain ⟨digit, digits, rfl⟩ := List.exists_cons_of_ne_nil areDigits.1
        have isDigit := areDigits.2 digit List.mem_cons_self
        have notMinus : digit ≠ '-' := by
          rintro rfl
          exact absurd isDigit (by decide)
        have notPlus : digit ≠ '+' := by
          rintro rfl
          exact absurd isDigit (by decide)
        rw [whole?, if_neg notMinus, if_neg notPlus]
        exact ofDigits?_eq_some_iff.mpr ⟨areDigits, rfl⟩
    | @plus digits areDigits =>
        exact ⟨⟨false, digits⟩, ofDigits?_eq_some_iff.mpr ⟨areDigits, rfl⟩, rfl⟩
    | @minus digits areDigits =>
        exact ⟨⟨true, digits⟩, ofDigits?_eq_some_iff.mpr ⟨areDigits, rfl⟩, rfl⟩

end Numeral

theorem Text.not_whiteSpace_of_isDigit
    {c : Char}
    (isDigit : c.isDigit = true) :
    whiteSpace.contains c = false := by
  have inRange : 0x30 ≤ c.toNat ∧ c.toNat ≤ 0x39 := by
    simpa [Char.isDigit, UInt32.le_iff_toNat_le] using isDigit
  simp only [CharClass.contains, whiteSpace, inRanges]
  grind

/-- There is no white space in a signed decimal number. -/
theorem SignedDecimal.not_whiteSpace
    {cs : List Char}
    {n : Int}
    (isDecimal : SignedDecimal cs n) :
    ∀ c ∈ cs, Text.whiteSpace.contains c = false := by
  have ofDigits {digits : List Char} (areDigits : AreDigits digits) :
      ∀ c ∈ digits, Text.whiteSpace.contains c = false :=
    fun c isMember => Text.not_whiteSpace_of_isDigit (areDigits.2 c isMember)
  cases isDecimal with
  | unsigned areDigits => exact ofDigits areDigits
  | plus areDigits => exact List.forall_mem_cons.mpr ⟨by decide, ofDigits areDigits⟩
  | minus areDigits => exact List.forall_mem_cons.mpr ⟨by decide, ofDigits areDigits⟩

/-! ## The integer on a line -/

theorem Word.ofInt?_eq_some_iff
    {n : Int}
    {word : Word} :
    ofInt? n = some word ↔ n = word.toInt := by
  constructor
  · intro isWord
    obtain ⟨inRange, word_eq⟩ := Option.ite_none_right_eq_some.mp isWord
    rw [← Option.some.inj word_eq, toInt_ofInt_of_inRange inRange]
  · rintro rfl
    have lower : -9223372036854775808 ≤ word.toInt := word.le_toInt
    have upper : word.toInt ≤ 9223372036854775807 := Int.le_of_lt_add_one word.toInt_lt
    rw [ofInt?, if_pos ⟨lower, upper⟩, Int64.ofInt_toInt]

/-- A line is an integer when its trimmed text is a signed decimal number whose value is a word. -/
theorem parseInteger_eq_ok_iff_signedDecimal
    {line : String}
    {word : Word} :
    parseInteger line = .ok word ↔
      SignedDecimal (Text.trim Text.whiteSpace line.toList) word.toInt := by
  simp only [parseInteger]
  generalize Text.trim Text.whiteSpace line.toList = trimmed
  have found_iff :
      ((Numeral.whole? trimmed).bind fun numeral => Word.ofInt? numeral.value) = some word ↔
        ∃ numeral, Numeral.whole? trimmed = some numeral ∧ numeral.value = word.toInt := by
    simp only [Option.bind_eq_some_iff, Word.ofInt?_eq_some_iff]
  rw [← Numeral.exists_whole?_iff, ← found_iff]
  cases (Numeral.whole? trimmed).bind fun numeral => Word.ofInt? numeral.value with
  | none => simp
  | some found => simp

theorem parseInteger_of_signedDecimal
    {line : String}
    {word : Word}
    {before body after : List Char}
    (line_eq : line.toList = before ++ body ++ after)
    (beforeBlank : ∀ c ∈ before, Text.whiteSpace.contains c = true)
    (afterBlank : ∀ c ∈ after, Text.whiteSpace.contains c = true)
    (isDecimal : SignedDecimal body word.toInt) :
    parseInteger line = .ok word := by
  have trims := Text.trims_append beforeBlank afterBlank isDecimal.not_whiteSpace
  rw [parseInteger_eq_ok_iff_signedDecimal, line_eq, trims.trim_eq]
  exact isDecimal

/-! ## Lines that are written -/

namespace Word

theorem signedDecimal_text (word : Word) : SignedDecimal word.text.toList word.toInt := by
  have isDecimal := Numeral.signedDecimal_chars (Numeral.areDigits_ofInt word.toInt)
  rw [Numeral.value_ofInt] at isDecimal
  rwa [text, Decimal.ofInt, String.toList_ofList]

/-- The bytes of the line that is written for a word. -/
def encodedLine (word : Word) : List UInt8 :=
  word.line.toByteArray.data.toList

/-- The bytes that are written for a word are a line: there is one line feed, and it is the last of
them. -/
theorem exists_encodedLine_eq (word : Word) :
    ∃ init, word.encodedLine = init ++ [lineFeed] ∧ lineFeed ∉ init := by
  refine ⟨word.text.toList.map fun c => c.toNat.toUInt8, ?_, ?_⟩
  · rw [encodedLine, word.line_isNarrow.encoded_eq, line, String.toList_append, List.map_append]
    rfl
  · intro isMember
    obtain ⟨c, inText, byte_eq⟩ := List.mem_map.mp isMember
    have inLine : c ∈ word.line.toList := by
      rw [line, String.toList_append]
      exact List.mem_append_left _ inText
    have narrow := word.line_isNarrow c inLine
    have isFeed : c.toNat = 10 := by
      have number_eq : c.toNat % 256 = 10 := congrArg UInt8.toNat byte_eq
      omega
    have notBlank := word.signedDecimal_text.not_whiteSpace c inText
    simp [Text.CharClass.contains, Text.whiteSpace, Text.inRanges, isFeed] at notBlank

/-- The line that is written for a word is read as the word. -/
theorem lineAnswer_encodedLine (word : Word) :
    lineAnswer (some word.encodedLine) = .ok word := by
  have decoded : decodeText? word.encodedLine = some word.line := by
    rw [decodeText?_eq_some_iff, encodedLine, toList_data_toByteArray]
  have line_eq : word.line.toList = [] ++ word.text.toList ++ ['\n'] := by
    rw [line, String.toList_append]
    rfl
  have feedIsBlank : ∀ c ∈ ['\n'], Text.whiteSpace.contains c = true := by
    rw [List.forall_mem_singleton]
    decide
  rw [lineAnswer, decoded]
  exact parseInteger_of_signedDecimal line_eq (by simp) feedIsBlank word.signedDecimal_text

/-- The lines that are written for some words are the lines that are read. -/
theorem inputLines_encodedLines (words : List Word) :
    inputLines (words.flatMap encodedLine) = words.map encodedLine := by
  induction words with
  | nil => rfl
  | cons word words inductionHypothesis =>
      obtain ⟨init, line_eq, unbroken⟩ := word.exists_encodedLine_eq
      rw [List.flatMap_cons, List.map_cons, line_eq, List.append_assoc, List.singleton_append,
        inputLines_append_lineFeed unbroken, inductionHypothesis]

end Word

namespace LineConsole

open Console (afterCall afterCalls replies reply)

/-- Writing words on an accepting sink succeeds and appends their lines. -/
theorem replies_writes
    {Source : Type}
    [LineInput Source]
    {console : LineConsole Source Sink}
    (accepts : console.sink.Accepts)
    (words : List Word) :
    replies (words.map .write) console = words.map (fun _ => .written (.ok ())) ∧
    (afterCalls (words.map .write) console).sink.bytes =
      console.sink.bytes ++ words.flatMap Word.encodedLine := by
  induction words generalizing console with
  | nil => exact ⟨rfl, (List.append_nil _).symm⟩
  | cons word words inductionHypothesis =>
      have written := writeInteger_of_accepts accepts word
      have after_eq :
          afterCall console (.write word) =
            { console with sink := console.sink.wrote word.line } := by
        rw [afterCall, Stateful.next, write_eq_writeInteger, written]
        rfl
      have stillAccepts : (afterCall console (.write word)).sink.Accepts := by
        rw [after_eq]
        exact accepts
      obtain ⟨replies_eq, bytes_eq⟩ := inductionHypothesis stillAccepts
      constructor
      · rw [List.map_cons, List.map_cons, replies, replies_eq, reply, Stateful.answer,
          write_eq_writeInteger, written]
      · rw [List.map_cons, afterCalls, List.foldl_cons, ← afterCalls, bytes_eq, after_eq,
          Sink.bytes_wrote, List.flatMap_cons, ← List.append_assoc]
        rfl

section Reads

variable {Target : Type} [TextOutput Target]
variable {console : LineConsole (List UInt8) Target}

theorem replies_reads_past_end
    (noLines : inputLines console.input = [])
    (extra : Nat) :
    replies (List.replicate extra .read) console =
      List.replicate extra (.read (.error { kind := .inputPastEnd })) := by
  induction extra generalizing console with
  | zero => rfl
  | succ extra inductionHypothesis =>
      obtain ⟨answer_eq, lines_eq⟩ := readInteger_line console
      rw [noLines] at answer_eq lines_eq
      rw [List.replicate_succ, List.replicate_succ, replies, reply, afterCall, read_eq_readInteger,
        answer_eq, inductionHypothesis lines_eq]
      rfl

/-- The lines that were written for some words are read as these words, and there is no more input
after them. -/
theorem replies_reads
    {words : List Word}
    (lines_eq : inputLines console.input = words.map Word.encodedLine)
    (extra : Nat) :
    replies (List.replicate (words.length + extra) .read) console =
      words.map (fun word => .read (.ok word)) ++
        List.replicate extra (.read (.error { kind := .inputPastEnd })) := by
  induction words generalizing console with
  | nil =>
      rw [List.length_nil, Nat.zero_add]
      exact replies_reads_past_end lines_eq extra
  | cons word words inductionHypothesis =>
      obtain ⟨answer_eq, tail_eq⟩ := readInteger_line console
      rw [lines_eq, List.map_cons, List.head?_cons, word.lineAnswer_encodedLine] at answer_eq
      rw [lines_eq, List.map_cons, List.tail_cons] at tail_eq
      rw [List.length_cons, Nat.succ_add, List.replicate_succ, replies, reply, afterCall,
        read_eq_readInteger, answer_eq, inductionHypothesis tail_eq, List.map_cons,
        List.cons_append]

end Reads
end LineConsole

/-- What is written for some words on an accepting sink is read on another console as exactly these
words, and then the input is used up. A line is read as an integer exactly when a signed decimal
number is left of it without the white space at its ends, and any other line is refused as illegal
input. -/
theorem output_is_faithful_input
    (Source Target : Type)
    [LineInput Source]
    [TextOutput Target] :
    (∀ (console : LineConsole Source Sink) (words : List Word), console.sink.Accepts →
      Console.replies (words.map .write) console = words.map (fun _ => .written (.ok ())) ∧
      ∃ produced : List UInt8,
        (Console.afterCalls (words.map .write) console).sink.bytes =
          console.sink.bytes ++ produced ∧
        ∀ (sink : Target) (extra : Nat),
          Console.replies
              (List.replicate (words.length + extra) .read) (LineConsole.mk produced sink) =
            words.map (fun word => .read (.ok word)) ++
              List.replicate extra (.read (.error { kind := .inputPastEnd }))) ∧
    ∀ line : String, ∃ body,
      Text.Trims Text.whiteSpace line.toList body ∧
      (∀ word, parseInteger line = .ok word ↔ SignedDecimal body word.toInt) ∧
      ∀ report, parseInteger line = .error report → report.kind = .illegalInput := by
  constructor
  · intro console words accepts
    obtain ⟨replies_eq, bytes_eq⟩ := LineConsole.replies_writes accepts words
    refine ⟨replies_eq, words.flatMap Word.encodedLine, bytes_eq, ?_⟩
    intro sink extra
    exact LineConsole.replies_reads (Word.inputLines_encodedLines words) extra
  · intro line
    refine ⟨Text.trim Text.whiteSpace line.toList, Text.trims_trim _ _, ?_, ?_⟩
    · intro word
      exact parseInteger_eq_ok_iff_signedDecimal
    · intro report refused
      exact (report_of_parseInteger refused).1

/-- The least and the greatest word and zero are read back as they were written. -/
theorem limits_are_read_back :
    ∃ produced : List UInt8,
      (Console.afterCalls
        [.write (-9223372036854775808), .write 0, .write 9223372036854775807]
        ({ input := [], sink := {} } : ByteConsole)).sink.bytes = produced ∧
      Console.replies [.read, .read, .read, .read] (LineConsole.mk produced ({} : Sink)) =
        [.read (.ok (-9223372036854775808)), .read (.ok 0), .read (.ok 9223372036854775807),
          .read (.error { kind := .inputPastEnd })] := by
  obtain ⟨-, produced, bytes_eq, readBack⟩ :=
    (output_is_faithful_input (List UInt8) Sink).1 { input := [], sink := {} }
      [-9223372036854775808, 0, 9223372036854775807] ⟨rfl, rfl⟩
  exact ⟨produced, bytes_eq, readBack {} 1⟩

end RegisterMachine
