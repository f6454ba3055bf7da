import RegisterMachine.Proofs.Sessions

/-!
# Tracing

A traced command works instruction by instruction and shows each one before it
is executed. What it should show is said without it: the instructions that a
machine dispatches up to its end, each with the program counter that pointed to
it, the one that fails included. A traced command shows these and nothing else,
and apart from that it ends as the command without tracing does.
-/

namespace RegisterMachine

namespace Machine

variable {World : Type} [Console World]

/-- A machine dispatches some instructions, one after the other, and its run ends with a result.
Each instruction stands beside the program counter that pointed to it. -/
inductive Dispatches :
    Machine World → List (Word × Instruction) → EStateM.Result Trap (Machine World) Unit → Prop
  | stops {machine : Machine World}
      (noInstruction :
        machine.running = false ∨
        machine.counter.toInt < 0 ∨ machine.program.length ≤ machine.counter.toInt) :
      Dispatches machine [] (.ok () machine.halt)
  | executes {machine after : Machine World}
      {address : Nat}
      {instruction : Instruction}
      {entries : List (Word × Instruction)}
      {result : EStateM.Result Trap (Machine World) Unit}
      (isRunning : machine.running = true)
      (pointed : machine.counter.toInt = address)
      (found : machine.program.get? address = some instruction)
      (executed : Exec.instruction instruction machine.advanced = .ok () after)
      (rest : Dispatches after entries result) :
      Dispatches machine ((machine.counter, instruction) :: entries) result
  | fails {machine last : Machine World}
      {address : Nat}
      {instruction : Instruction}
      {fault : Fault}
      (isRunning : machine.running = true)
      (pointed : machine.counter.toInt = address)
      (found : machine.program.get? address = some instruction)
      (failed : Exec.instruction instruction machine.advanced = .error fault last) :
      Dispatches machine [(machine.counter, instruction)] (.error ⟨address, fault⟩ last.halt)

variable {machine : Machine World}
variable {entries : List (Word × Instruction)}
variable {result : EStateM.Result Trap (Machine World) Unit}

/-- A machine that dispatches instructions to an end has a run that ends so. -/
theorem Dispatches.run_eq (dispatched : Dispatches machine entries result) :
    Machine.run (entries.length + 1) machine = some result := by
  induction dispatched with
  | stops noInstruction =>
      rw [Machine.run, step_of_next?_eq_none (next?_eq_none_iff.mpr noInstruction)]
  | executes isRunning pointed found executed rest inductionHypothesis =>
      have next_eq := next?_eq_some_iff.mpr ⟨isRunning, pointed, found⟩
      rw [Machine.run, step_eq_true_iff.mpr ⟨_, _, next_eq, executed⟩]
      exact inductionHypothesis
  | fails isRunning pointed found failed =>
      have next_eq := next?_eq_some_iff.mpr ⟨isRunning, pointed, found⟩
      rw [Machine.run, step_of_next?_eq_some next_eq, failed]

/-- A machine whose run ends dispatches instructions up to that end. -/
theorem exists_dispatches_of_run
    {bound : Nat}
    (ended : run bound machine = some result) :
    ∃ entries, Dispatches machine entries result := by
  induction bound generalizing machine with
  | zero => cases ended
  | succ bound inductionHypothesis =>
      rcases step_cases machine with ⟨after, stepped⟩ | ⟨nothing, stepped⟩ | ⟨trap, after, stepped⟩
      · rw [run, stepped] at ended
        obtain ⟨address, instruction, next_eq, executed⟩ := step_eq_true_iff.mp stepped
        obtain ⟨isRunning, pointed, found⟩ := next?_eq_some_iff.mp next_eq
        obtain ⟨entries, rest⟩ := inductionHypothesis ended
        exact ⟨_, .executes isRunning pointed found executed rest⟩
      · rw [run, stepped] at ended
        cases ended
        exact ⟨[], .stops (next?_eq_none_iff.mp nothing)⟩
      · rw [run, stepped] at ended
        obtain ⟨instruction, last, next_eq, failed, rfl⟩ := step_eq_error_iff.mp stepped
        obtain ⟨isRunning, pointed, found⟩ := next?_eq_some_iff.mp next_eq
        cases ended
        exact ⟨_, .fails isRunning pointed found failed⟩

/-- A machine with nothing to execute dispatches nothing. -/
theorem Dispatches.of_next?_eq_none
    (dispatched : Dispatches machine entries result)
    (noInstruction : machine.next? = none) :
    entries = [] ∧ result = .ok () machine.halt := by
  cases dispatched with
  | stops _ => exact ⟨rfl, rfl⟩
  | executes isRunning pointed found executed rest =>
      rw [next?_eq_some_iff.mpr ⟨isRunning, pointed, found⟩] at noInstruction
      cases noInstruction
  | fails isRunning pointed found failed =>
      rw [next?_eq_some_iff.mpr ⟨isRunning, pointed, found⟩] at noInstruction
      cases noInstruction

end Machine

namespace Command

/-! ## Traced sessions -/

variable {toolkit : Toolkit}

/-- The trace lines of some instructions. Each line has the program counter in brackets and the
instruction, between the escape sequences for faint type and for plain type. -/
def traceText : List (Word × Instruction) → String
  | [] => ""
  | (counter, instruction) :: entries =>
      "\x1b[2m" ++ ("[" ++ counter.text ++ "] " ++ instruction.text) ++ "\x1b[0m" ++ "\n" ++
        traceText entries

namespace Session

variable {machine after : Machine ByteConsole}
variable {errors : String}
variable {entries : List (Word × Instruction)}
variable {result : EStateM.Result Trap (Machine ByteConsole) Unit}

/-- A session that traces. -/
def traced (machine : Machine ByteConsole) (errors : String) : Session where
  trace := true
  machine := machine
  errors := errors

theorem traceLine_of_next?_eq_none
    (noInstruction : machine.next? = none) :
    traceLine toolkit machine = "" := by
  simp only [traceLine, noInstruction]

theorem traceLine_of_next?_eq_some
    {address : Nat}
    {instruction : Instruction}
    (dimmed_eq : ∀ text, toolkit.dimmed text = "\x1b[2m" ++ text ++ "\x1b[0m")
    (found : machine.next? = some (address, instruction)) :
    traceLine toolkit machine = traceText [(machine.counter, instruction)] := by
  simp only [traceLine, found, dimmed_eq, traceText, String.append_empty]

theorem complete_traced_of_running
    (executed : Machine.execute 1 machine = .ok .running after)
    (bound : Nat) :
    Progress.complete toolkit (bound + 1) (.working (traced machine errors)) =
      Progress.complete toolkit bound
        (.working (traced after (errors ++ traceLine toolkit machine))) := by
  have advanced : (traced machine errors).advance toolkit = _ := advance_of_running executed
  rw [Progress.complete, advanced]
  rfl

theorem complete_traced_of_answerOfRun
    (executed : Machine.execute 1 machine = Machine.answerOfRun result)
    (bound : Nat) :
    Progress.complete toolkit (bound + 1) (.working (traced machine errors)) =
      some ((Outcome.ofRun toolkit result).precededBy (errors ++ traceLine toolkit machine)) := by
  have advanced : (traced machine errors).advance toolkit = _ := advance_of_answerOfRun executed
  rw [Progress.complete, advanced, Progress.complete_over]
  rfl

/-- A session that traces shows the instructions that its machine dispatches. -/
theorem complete_traced_of_dispatches
    (dimmed_eq : ∀ text, toolkit.dimmed text = "\x1b[2m" ++ text ++ "\x1b[0m")
    (dispatched : Machine.Dispatches machine entries result)
    (errors : String) :
    Progress.complete toolkit (entries.length + 1) (.working (traced machine errors)) =
      some ((Outcome.ofRun toolkit result).precededBy (errors ++ traceText entries)) := by
  induction dispatched generalizing errors with
  | @stops machine noInstruction =>
      have next_eq := Machine.next?_eq_none_iff.mpr noInstruction
      have one : Machine.execute 1 machine = Machine.answerOfRun (.ok () machine.halt) :=
        Machine.execute_of_next?_eq_none next_eq 1
      rw [complete_traced_of_answerOfRun one, traceLine_of_next?_eq_none next_eq]
      rfl
  | @executes machine after address instruction entries result isRunning pointed found executed
      rest inductionHypothesis =>
      have next_eq := Machine.next?_eq_some_iff.mpr ⟨isRunning, pointed, found⟩
      have stepped := Machine.step_eq_true_iff.mpr ⟨_, _, next_eq, executed⟩
      -- A batch of the last instruction of all already answers that the machine has stopped.
      cases following : after.next? with
      | none =>
          obtain ⟨rfl, rfl⟩ := rest.of_next?_eq_none following
          have one : Machine.execute 1 machine = Machine.answerOfRun (.ok () after.halt) := by
            simp [Machine.execute, stepped, following, Machine.answerOfRun]
          rw [complete_traced_of_answerOfRun one, traceLine_of_next?_eq_some dimmed_eq next_eq]
      | some entry =>
          have one : Machine.execute 1 machine = .ok .running after := by
            simp [Machine.execute, stepped, following]
          rw [List.length_cons, complete_traced_of_running one, inductionHypothesis,
            traceLine_of_next?_eq_some dimmed_eq next_eq, String.append_assoc]
          simp only [traceText, String.append_assoc, String.append_empty]
  | @fails machine last address instruction fault isRunning pointed found failed =>
      have next_eq := Machine.next?_eq_some_iff.mpr ⟨isRunning, pointed, found⟩
      have one :
          Machine.execute 1 machine = Machine.answerOfRun (.error ⟨address, fault⟩ last.halt) := by
        simp [Machine.execute, Machine.step_of_next?_eq_some next_eq, failed, Machine.answerOfRun]
      rw [complete_traced_of_answerOfRun one, traceLine_of_next?_eq_some dimmed_eq next_eq]

end Session

/-! ## Traced commands -/

/-- What a command does with the program at a path: the instructions that it dispatches, and the
outcome when it does not trace. Nothing is dispatched unless the source can be loaded and assembled
as a whole. -/
inductive Performs
    (toolkit : Toolkit)
    (load : String → Except LoadFault String)
    (console : ByteConsole)
    (path : String) : List (Word × Instruction) → Outcome → Prop
  | notLoaded {fault : LoadFault}
      (notLoaded : load path = .error fault) :
      Performs toolkit load console path []
        ⟨1, console.sink.written, shown toolkit (fault.report path)⟩
  | notAssembled {source : String}
      {error : AssemblyError}
      (loaded : load path = .ok source)
      (notAssembled : assemble source = .error error) :
      Performs toolkit load console path []
        ⟨1, console.sink.written, shownWithExcerpt toolkit path source error.report⟩
  | ran {source : String}
      {program : Program}
      {entries : List (Word × Instruction)}
      {result : EStateM.Result Trap (Machine ByteConsole) Unit}
      (loaded : load path = .ok source)
      (assembled : assemble source = .ok program)
      (dispatched : Machine.Dispatches { program, console } entries result) :
      Performs toolkit load console path entries (.ofRun toolkit result)

section Traced

variable {arguments : List String}
variable {load : String → Except LoadFault String}
variable {console : ByteConsole}
variable {path : String}
variable {trace : Bool}
variable {entries : List (Word × Instruction)}
variable {plain ended : Outcome}

/-- The lines of a command that may or may not trace. -/
def linesShown (trace : Bool) (entries : List (Word × Instruction)) : String :=
  if trace then traceText entries else ""

/-- A command that performs something ends, with or without tracing. -/
theorem Performs.ends
    (dimmed_eq : ∀ text, toolkit.dimmed text = "\x1b[2m" ++ text ++ "\x1b[0m")
    (performed : Performs toolkit load console path entries plain)
    (requested : toolkit.readArguments arguments = .ok (.run { path, trace, list := false })) :
    Ends toolkit arguments load console (plain.precededBy (linesShown trace entries)) := by
  have silent : linesShown trace [] = "" := by cases trace <;> rfl
  cases performed with
  | notLoaded notLoaded =>
      rw [ends_iff_of_load_error requested notLoaded, silent, Outcome.precededBy_empty]
  | notAssembled loaded notAssembled =>
      rw [ends_iff_of_assemble_error requested loaded notAssembled, silent,
        Outcome.precededBy_empty]
  | ran loaded assembled dispatched =>
      rw [ends_iff_of_assemble requested loaded assembled]
      cases trace with
      | true =>
          have completed := Session.complete_traced_of_dispatches dimmed_eq dispatched ""
          rw [String.empty_append] at completed
          exact ⟨_, completed⟩
      | false => exact Session.exists_complete_of_run rfl dispatched.run_eq

/-- A command that ends has performed something. -/
theorem Ends.exists_performs
    (ends : Ends toolkit arguments load console ended)
    (requested : toolkit.readArguments arguments = .ok (.run { path, trace, list := false })) :
    ∃ entries plain, Performs toolkit load console path entries plain := by
  cases loaded : load path with
  | error fault => exact ⟨_, _, .notLoaded loaded⟩
  | ok source =>
      cases assembled : assemble source with
      | error error => exact ⟨_, _, .notAssembled loaded assembled⟩
      | ok program =>
          obtain ⟨bound, completed⟩ := (ends_iff_of_assemble requested loaded assembled).mp ends
          obtain ⟨steps, result, run_eq⟩ := Session.exists_run_of_complete completed
          obtain ⟨entries, dispatched⟩ := Machine.exists_dispatches_of_run run_eq
          exact ⟨_, _, .ran loaded assembled dispatched⟩

end Traced

/-- Tracing only observes. A traced command ends exactly when the command without tracing does,
with the same status and the same output, and before the errors it has one line for each instruction
that is dispatched. -/
theorem tracing_only_observes
    (toolkit : Toolkit)
    (readsSwitches : toolkit.ReadsSwitches)
    (dimmed_eq : ∀ text, toolkit.dimmed text = "\x1b[2m" ++ text ++ "\x1b[0m")
    (load : String → Except LoadFault String)
    (console : ByteConsole)
    {path : String}
    (ordinary : IsOrdinary path) :
    (∀ plain, Ends toolkit [path] load console plain →
      ∃ entries,
        Performs toolkit load console path entries plain ∧
        ∀ traced,
          Ends toolkit ["-t", path] load console traced ↔
            traced = { plain with errors := traceText entries ++ plain.errors }) ∧
    ∀ traced, Ends toolkit ["-t", path] load console traced →
      ∃ plain, Ends toolkit [path] load console plain := by
  have requested := readsSwitches.of_path ordinary
  have requestedTrace := readsSwitches.of_trace_path ordinary
  constructor
  · intro plain plainEnds
    obtain ⟨entries, expected, performed⟩ := plainEnds.exists_performs requested
    have expectedEnds := performed.ends dimmed_eq requested
    rw [linesShown, if_neg Bool.false_ne_true, Outcome.precededBy_empty] at expectedEnds
    obtain rfl := plainEnds.unique expectedEnds
    have tracedEnds := performed.ends dimmed_eq requestedTrace
    refine ⟨entries, performed, fun traced => ?_⟩
    constructor
    · intro ends
      exact ends.unique tracedEnds
    · rintro rfl
      exact tracedEnds
  · intro traced tracedEnds
    obtain ⟨entries, plain, performed⟩ := tracedEnds.exists_performs requestedTrace
    exact ⟨_, performed.ends dimmed_eq requested⟩

/-- A source of five instructions. It writes two and one in a loop, and then fails if there is
nothing to read. -/
def countdownSource : String :=
  "CP 2,r0\nWRITE r0\nSUB r0,1,r0\nJUMP pos,r0,1\nREAD r1\n"

/-- What a user who traces the countdown sees on the error stream before the report. -/
def countdownLines : String :=
  "\x1b[2m[0] CP 2,r0\x1b[0m\n" ++
  "\x1b[2m[1] WRITE r0\x1b[0m\n" ++
  "\x1b[2m[2] SUB r0,1,r0\x1b[0m\n" ++
  "\x1b[2m[3] JUMP pos,r0,1\x1b[0m\n" ++
  "\x1b[2m[1] WRITE r0\x1b[0m\n" ++
  "\x1b[2m[2] SUB r0,1,r0\x1b[0m\n" ++
  "\x1b[2m[3] JUMP pos,r0,1\x1b[0m\n" ++
  "\x1b[2m[4] READ r1\x1b[0m\n"

/-- The trace of the countdown goes through the loop twice and ends with the instruction that
fails. -/
theorem countdown_traced :
    let load : String → Except LoadFault String := fun _ => .ok countdownSource
    let console : ByteConsole := { input := [], sink := {} }
    let plain : Outcome := ⟨1, "2\n1\n", "\x1b[1mINPUT PAST END IN 4\x1b[0m\n"⟩
    Toolkit.standard.ReadsSwitches ∧
    (∀ text, Toolkit.standard.dimmed text = "\x1b[2m" ++ text ++ "\x1b[0m") ∧
    IsOrdinary "countdown" ∧
    Ends .standard ["countdown"] load console plain ∧
    ∃ entries,
      Performs .standard load console "countdown" entries plain ∧
      Ends .standard ["-t", "countdown"] load console
        { plain with errors := countdownLines ++ plain.errors } ∧
      traceText entries = countdownLines := by
  intro load console plain
  have dimmed_eq : ∀ text, Toolkit.standard.dimmed text = "\x1b[2m" ++ text ++ "\x1b[0m" :=
    fun _ => rfl
  have ordinary : IsOrdinary "countdown" := ⟨by decide, by decide⟩
  have plainEnds : Ends .standard ["countdown"] load console plain := ⟨1, by decide +kernel⟩
  have tracedEnds :
      Ends .standard ["-t", "countdown"] load console
        { plain with errors := countdownLines ++ plain.errors } :=
    ⟨8, by decide +kernel⟩
  obtain ⟨entries, performed, ends_iff⟩ :=
    (tracing_only_observes .standard Toolkit.standard_readsSwitches dimmed_eq load console
      ordinary).1 plain plainEnds
  refine ⟨Toolkit.standard_readsSwitches, dimmed_eq, ordinary, plainEnds, entries, performed,
    tracedEnds, ?_⟩
  have errors_eq := congrArg Outcome.errors ((ends_iff _).mp tracedEnds)
  exact ((String.append_left_inj plain.errors).mp errors_eq).symm

end Command
end RegisterMachine
