import RegisterMachine.Proofs.Cursor
import RegisterMachine.Proofs.Failing
import RegisterMachine.Proofs.Operating

/-!
# Places in reports

A report on a source text says where in the text the mistake is, and a report on
a running program never does. The empty span at the beginning of a text stands
for no place, so it must never be the place of a mistake. A place is empty only
where an instruction breaks off at the end of the text. A token of the
instruction comes before the end then, so the text is not empty, from wherever
in it the instruction was read.
-/

namespace RegisterMachine

/-- A report without an address and with a span shows the span after its title. -/
theorem Report.message_of_span
    {report : Report}
    (noAddress : report.address = none)
    (somewhere : report.span ≠ .nowhere) :
    report.message =
      report.kind.title ++ " IN " ++ report.span.text ++
        (if report.text = "" then "" else "; " ++ report.text) := by
  have place_eq : report.place = " " ++ report.span.text := by
    rw [place, noAddress, if_neg somewhere]
    exact String.empty_append
  have place_ne : report.place ≠ "" := by
    rw [place_eq]
    simp
  rw [message, if_neg place_ne, place_eq]
  simp only [String.append_assoc]
  rfl

/-- The report of an error shows a place in a source text. The place is empty only for what breaks
off at the end of the text. -/
structure AssemblyError.ShowsPlaceIn
    (source : String)
    (error : AssemblyError) : Prop where
  concernsSource : error.report.kind.concernsSource = true
  address_eq : error.report.address = none
  ordered : error.report.span.start ≤ error.report.span.stop
  inside : error.report.span.stop ≤ source.length
  breaksOff : error.report.span.start = error.report.span.stop →
    ∃ expected, error = .unexpected expected none ⟨source.length, source.length⟩
  somewhere : error.report.span ≠ .nowhere
  message_eq : error.report.message =
    error.report.kind.title ++ " IN " ++ error.report.span.text ++
      (if error.report.text = "" then "" else "; " ++ error.report.text)

namespace AssemblyError

variable {source : String}
variable {error : AssemblyError}

theorem address_report (error : AssemblyError) : error.report.address = none := by
  rcases error with (_ | _) | _ <;> rfl

theorem ShowsPlaceIn.of_span
    (ordered : error.report.span.start ≤ error.report.span.stop)
    (inside : error.report.span.stop ≤ source.length)
    (breaksOff : error.report.span.start = error.report.span.stop →
      ∃ expected, error = .unexpected expected none ⟨source.length, source.length⟩)
    (somewhere : error.report.span ≠ .nowhere) :
    error.ShowsPlaceIn source where
  concernsSource := error.concernsSource
  address_eq := error.address_report
  ordered := ordered
  inside := inside
  breaksOff := breaksOff
  somewhere := somewhere
  message_eq := Report.message_of_span error.address_report somewhere

theorem ShowsPlaceIn.of_nonempty
    (nonempty : error.report.span.start < error.report.span.stop)
    (inside : error.report.span.stop ≤ source.length) :
    error.ShowsPlaceIn source := by
  refine .of_span (Nat.le_of_lt nonempty) inside ?_ ?_
  · intro empty
    exact absurd empty (Nat.ne_of_lt nonempty)
  · intro isNowhere
    rw [isNowhere] at nonempty
    exact Nat.lt_irrefl _ nonempty

theorem ShowsPlaceIn.of_end
    (positive : 0 < source.length)
    (expected : Expectation) :
    ShowsPlaceIn source (.unexpected expected none ⟨source.length, source.length⟩) := by
  refine .of_span (Nat.le_refl _) (Nat.le_refl _) ?_ ?_
  · intro
    exact ⟨expected, rfl⟩
  · intro isNowhere
    exact Nat.ne_of_gt positive (congrArg Span.start isNowhere)

end AssemblyError

/-! ## What can be wrong in a stream -/

namespace Scanner

/-- What can be found wrong with a stream, from wherever it is read: its lexical error, or what is
refused somewhere. -/
inductive Stream.Faults (stream : Stream) : AssemblyError → Prop
  | lexical {error : LexicalError} :
      stream.error = some error →
      Faults stream (.lexical error)
  | refused
      {index count : Nat}
      {expected : Expectation}
      {found : Option Token}
      {span : Span} :
      stream.Refuses index count expected found span →
      Faults stream (.unexpected expected found span)

theorem Stream.Serves.faults
    {stream : Stream}
    {cursor after : Cursor}
    {request : Request}
    {error : AssemblyError}
    (serves : stream.Serves cursor request (.failure error) after) :
    stream.Faults error := by
  cases serves with
  | nextError entry_eq => exact .lexical (entry_eq_error_iff.mp entry_eq).2
  | peekError entry_eq => exact .lexical (entry_eq_error_iff.mp entry_eq).2
  | programError isError => exact .lexical isError
  | programRefused refuses => exact .refused refuses

/-- What fails in a dialogue is something wrong with the stream. -/
theorem StandsAt.faults_of_converse
    {stream : Stream}
    {cursor : Cursor}
    {scanner : Scanner}
    (stands : StandsAt stream cursor scanner)
    (requests : List Request) :
    ∀ reply ∈ scanner.converse requests, ∀ error, reply.1 = .failure error →
      stream.Faults error := by
  induction requests generalizing scanner cursor with
  | nil => simp [converse]
  | cons request requests inductionHypothesis =>
      obtain ⟨cursorAfter, serves, standsAfter⟩ := stands.answersAt request
      rw [converse_cons, List.forall_mem_cons]
      refine ⟨?_, inductionHypothesis standsAfter⟩
      intro error failed
      rw [show (scanner.serve request).1 = .failure error from failed] at serves
      exact serves.faults

/-- Nothing breaks off before the first token. -/
theorem Stream.Refuses.size_pos_of_end
    {stream : Stream}
    {index count : Nat}
    {expected : Expectation}
    {span : Span}
    (refuses : stream.Refuses index count expected none span) :
    0 < stream.tokens.size := by
  -- With no tokens before it, the end of the text would end an empty program.
  have count_ne : count ≠ 0 := by
    rintro rfl
    exact refuses.not_complete rfl ⟨⟨#[]⟩, rfl⟩
  have inside := refuses.inside
  omega

section Source

variable {source : String}

theorem span_of_stream_entry
    {index : Nat}
    {token : Token}
    {span : Span}
    (entry_eq : (ofSource source).stream.tokens[index]? = some (token, span)) :
    span.start < span.stop ∧ span.stop ≤ source.length := by
  rw [← Array.getElem?_toList] at entry_eq
  obtain ⟨before, later, stream_eq⟩ :=
    List.append_of_mem (List.mem_of_getElem? entry_eq)
  obtain ⟨-, nonempty, inside, -⟩ := (HasRead.ofSource source).slices_of_entry stream_eq
  exact ⟨nonempty, inside⟩

theorem length_pos_of_stream
    (hasToken : 0 < (ofSource source).stream.tokens.size) :
    0 < source.length := by
  obtain ⟨nonempty, inside⟩ := span_of_stream_entry (Array.getElem?_eq_getElem hasToken)
  omega

theorem span_of_stream_error
    {error : LexicalError}
    (isError : (ofSource source).stream.error = some error) :
    error.report.span.start < error.report.span.stop ∧
      error.report.span.stop ≤ source.length := by
  obtain ⟨last, handedOut, -, ending⟩ := (ofSource source).exists_last_of_stream
  rw [isError] at ending
  obtain ⟨upTo, rest, split, -, describes⟩ := HasRead.exists_lex_of_error handedOut ending
  obtain ⟨-, nonempty, inside, -⟩ := describes.standsAtSpan split
  exact ⟨nonempty, inside⟩

theorem span_of_stream_end
    (noError : (ofSource source).stream.error = none) :
    (ofSource source).stream.last.span = ⟨source.length, source.length⟩ := by
  obtain ⟨last, handedOut, -, ending⟩ := (ofSource source).exists_last_of_stream
  rw [noError] at ending
  obtain ⟨more, hasRead⟩ := (HasRead.ofSource source).exists_handsOut handedOut
  exact hasRead.span_of_end ending

/-- What is wrong with the stream of a source text has a place in the text. -/
theorem Stream.Faults.showsPlaceIn
    {error : AssemblyError}
    (faults : (ofSource source).stream.Faults error) :
    error.ShowsPlaceIn source := by
  cases faults with
  | lexical isError =>
      obtain ⟨nonempty, inside⟩ := span_of_stream_error isError
      exact .of_nonempty nonempty inside
  | @refused index count expected found span refuses =>
      cases found with
      | some token =>
          obtain ⟨nonempty, inside⟩ :=
            span_of_stream_entry (entry_eq_token_iff.mp refuses.entry_eq)
          exact .of_nonempty nonempty inside
      | none =>
          obtain ⟨-, noError, rfl⟩ := entry_eq_end_iff.mp refuses.entry_eq
          rw [span_of_stream_end noError]
          exact .of_end (length_pos_of_stream refuses.size_pos_of_end) expected

theorem faults_of_lex
    {error : LexicalError}
    (failed : lex source = .error error) :
    (ofSource source).stream.Faults (.lexical error) := by
  obtain ⟨tokens, last, handedOut, answer⟩ := lex_eq_error_iff.mp failed
  exact .lexical (handedOut.stream_of_error answer).2

theorem faults_of_assemble
    {error : AssemblyError}
    (failed : assemble source = .error error) :
    (ofSource source).stream.Faults error := by
  obtain ⟨after, fails⟩ := exists_fails_of_assemble failed
  obtain ⟨cursor, serves, -⟩ := (StandsAt.beginning (ofSource source)).answersAt_of_fails fails
  exact serves.faults

end Source

end Scanner

/-! ## Running programs -/

/-- A report that says nothing about a source text. -/
structure Report.OutsideSource (report : Report) : Prop where
  concernsSource_eq : report.kind.concernsSource = false
  span_eq : report.span = .nowhere

section LineConsole

variable {Source Target : Type} [LineInput Source] [TextOutput Target]

/-- Whatever makes an instruction fail, the source text is not at fault. -/
theorem Instruction.Fails.concernsSource_eq
    {instruction : Instruction}
    {storage : Storage}
    {fault : Fault}
    {console after : LineConsole Source Target}
    (fails : instruction.Fails storage console fault after) :
    fault.report.kind.concernsSource = false := by
  cases fails with
  | missing _ isMissing =>
      rw [kind_of_missing? isMissing]
      rfl
  | missingTarget _ isMissing =>
      rw [kind_of_missing? isMissing]
      rfl
  | input refused =>
      rw [Fault.report]
      rcases (LineConsole.report_of_readInteger refused).1 with kind_eq | kind_eq
      · rw [kind_eq]
        rfl
      · rw [kind_eq]
        rfl
  | output _ refused =>
      rw [Fault.report, (LineConsole.report_of_writeInteger refused).1]
      rfl

namespace Machine

variable {machine after : Machine (LineConsole Source Target)}
variable {report : Report}

theorem outsideSource_of_step
    {trap : Trap}
    (failed : step machine = .error trap after) :
    trap.report.OutsideSource := by
  obtain ⟨instruction, console, -, fails, -⟩ := step_eq_error_iff_fails.mp failed
  exact ⟨fails.concernsSource_eq, fails.hasNoPlace.span_eq⟩

theorem Responds.outsideSource
    {call : Call}
    {answer : Answer}
    (responds : machine.Responds call answer after)
    (isError : answer.report? = some report) :
    report.OutsideSource := by
  by_cases interrupted : call = .interrupt
  · cases interrupted
    cases responds
    cases isError
    exact ⟨rfl, rfl⟩
  · obtain ⟨trap, rfl, rfl⟩ := responds.exists_trap interrupted isError
    obtain ⟨last, -, failed⟩ := responds.exists_step_eq_error
    exact outsideSource_of_step failed

theorem Undergoes.outsideSource
    {exchanges : List (Call × Answer)}
    (undergone : machine.Undergoes exchanges after) :
    ∀ exchange ∈ exchanges, ∀ report, exchange.2.report? = some report →
      report.OutsideSource := by
  induction undergone with
  | nil => simp
  | cons responds _ inductionHypothesis =>
      rw [List.forall_mem_cons]
      exact ⟨fun _ isError => responds.outsideSource isError, inductionHypothesis⟩

end Machine

end LineConsole

/-- Every mistake in a source text is reported with a place in it, whichever of the requests to a
scanner finds it and whatever was requested before. The place is empty only where the text breaks
off, and never the one that stands for no place. No report on a program that runs on a console of
lines is about a source text or has a place in one, whatever the lines come from and go to. -/
theorem mistakes_have_places (source : String) :
    (∀ requests, ∀ reply ∈ (Scanner.ofSource source).converse requests,
      ∀ error, reply.1 = .failure error → error.ShowsPlaceIn source) ∧
    (∀ error, lex source = .error error →
      (AssemblyError.lexical error).ShowsPlaceIn source) ∧
    (∀ error, assemble source = .error error → error.ShowsPlaceIn source) ∧
    (∀ (Source Target : Type) [LineInput Source] [TextOutput Target]
        (machine after : Machine (LineConsole Source Target))
        (exchanges : List (Machine.Call × Machine.Answer)),
      machine.Undergoes exchanges after →
        ∀ exchange ∈ exchanges, ∀ report, exchange.2.report? = some report →
          report.OutsideSource) := by
  refine ⟨?_, ?_, ?_, ?_⟩
  · intro requests reply isReply error failed
    have stands := Scanner.StandsAt.beginning (Scanner.ofSource source)
    exact (stands.faults_of_converse requests reply isReply error failed).showsPlaceIn
  · intro error failed
    exact (Scanner.faults_of_lex failed).showsPlaceIn
  · intro error failed
    exact (Scanner.faults_of_assemble failed).showsPlaceIn
  · intro Source Target _ _ machine after exchanges undergone
    exact undergone.outsideSource

/-- A text breaks off after a register that was refused, and the messages show both places. A
program fails for want of input, and the message shows its address. -/
theorem places_after_refused_register :
    (Scanner.ofSource "r1 CP 1,").converse [.program, .program, .program] =
      [(.failure (.unexpected .instruction (some (.register ⟨1⟩)) ⟨0, 2⟩), ⟨0, 2⟩),
        (.failure (.unexpected (.slot .register) none ⟨8, 8⟩), ⟨8, 8⟩),
        (.program ⟨#[]⟩, ⟨8, 8⟩)] ∧
    AssemblyError.ShowsPlaceIn "r1 CP 1,"
      (.unexpected .instruction (some (.register ⟨1⟩)) ⟨0, 2⟩) ∧
    (AssemblyError.unexpected .instruction (some (.register ⟨1⟩)) ⟨0, 2⟩).report.message =
      "SYNTAX ERROR IN (0..2); EXPECTED INSTRUCTION, FOUND r1" ∧
    AssemblyError.ShowsPlaceIn "r1 CP 1," (.unexpected (.slot .register) none ⟨8, 8⟩) ∧
    (AssemblyError.unexpected (.slot .register) none ⟨8, 8⟩).report.message =
      "SYNTAX ERROR IN (8..8); EXPECTED REGISTER, FOUND END OF INPUT" ∧
    ∃ (machine after : Machine ByteConsole) (trap : Trap),
      machine.Undergoes [(.step, .trapped trap)] after ∧
      trap.report.OutsideSource ∧
      trap.report.message = "INPUT PAST END IN 0" := by
  obtain ⟨places, -, -, outside⟩ := mistakes_have_places "r1 CP 1,"
  have replies_eq :
      (Scanner.ofSource "r1 CP 1,").converse [.program, .program, .program] =
        [(.failure (.unexpected .instruction (some (.register ⟨1⟩)) ⟨0, 2⟩), ⟨0, 2⟩),
          (.failure (.unexpected (.slot .register) none ⟨8, 8⟩), ⟨8, 8⟩),
          (.program ⟨#[]⟩, ⟨8, 8⟩)] := by
    decide +kernel
  let machine : Machine ByteConsole :=
    { program := .ofList [.read ⟨0⟩], console := { input := [], sink := {} } }
  let trap : Trap := ⟨0, .console { kind := .inputPastEnd }⟩
  have undergone :
      machine.Undergoes [(.step, .trapped trap)]
        { machine with counter := 1, running := false } :=
    .cons (.step rfl) .nil
  have shown := places [.program, .program, .program]
  rw [replies_eq, List.forall_mem_cons, List.forall_mem_cons] at shown
  obtain ⟨refused, brokenOff, -⟩ := shown
  have refusedShown := refused _ rfl
  have brokenOffShown := brokenOff _ rfl
  refine ⟨replies_eq, refusedShown, refusedShown.message_eq.trans ?_, brokenOffShown,
    brokenOffShown.message_eq.trans ?_, machine, _, trap, undergone, ?_, ?_⟩
  · decide +kernel
  · decide +kernel
  · exact outside _ _ _ _ _ undergone _ (List.mem_singleton_self _) _ rfl
  · decide +kernel

end RegisterMachine
