import RegisterMachine.Command.Session
import RegisterMachine.Proofs.Batching

/-!
# How commands end

A command ends with an outcome when it is over within some number of batches,
and then it ends with no other. A command that runs a program works in batches
of one size, so it ends when the run of the machine does, and only then.
Without tracing, its outcome is that of the run: the text that the run writes,
and a report if the run fails.

A command is carried out with a toolkit. What is asked of a toolkit is that it
knows the switches and takes another argument for a path. The toolkit of the
program does.
-/

namespace RegisterMachine
namespace Command

/-! ## Requests -/

/-- An argument that is neither a request for help nor has the form of an option. -/
def IsOrdinary (argument : String) : Prop :=
  argument ≠ "help" ∧ argument.toList.head? ≠ some '-'

section Requests

variable {path : String}

theorem Draft.read_of_isOrdinary
    (ordinary : IsOrdinary path)
    (draft : Draft) :
    draft.read path = draft.positional path := by
  obtain ⟨noHelp, noDash⟩ := ordinary
  have noLongHelp : path ≠ "--help" := by
    rintro rfl
    exact noDash (by decide)
  have noSeparator : path ≠ "--" := by
    rintro rfl
    exact noDash (by decide)
  simp [Draft.read, noHelp, noDash, noLongHelp, noSeparator]

/-- Whether an argument asks for a run to be traced. -/
def asksTrace (argument : String) : Bool :=
  argument = "-t" ∨ argument = "--trace"

/-- Whether an argument asks for a program to be listed. -/
def asksList (argument : String) : Bool :=
  argument = "-l" ∨ argument = "--list"

/-- An argument that sets a switch. -/
def IsSwitch (argument : String) : Prop :=
  asksTrace argument = true ∨ asksList argument = true

theorem Draft.read_of_isSwitch
    {argument : String}
    (isSwitch : IsSwitch argument)
    {draft : Draft}
    (noHelp : draft.help = false)
    (allowed : draft.optionsAllowed = true) :
    draft.read argument =
      .ok
        { draft with
          trace := draft.trace || asksTrace argument
          list := draft.list || asksList argument } := by
  simp only [IsSwitch, asksTrace, asksList, decide_eq_true_eq] at isSwitch
  rcases isSwitch with (rfl | rfl) | (rfl | rfl) <;>
    simp [read, switch, noHelp, allowed, asksTrace, asksList]

/-- Switches are read in any order, and each can be given more than once. -/
theorem Draft.foldlM_read_of_isSwitch
    {switches : List String}
    (areSwitches : ∀ argument ∈ switches, IsSwitch argument)
    {draft : Draft}
    (noHelp : draft.help = false)
    (allowed : draft.optionsAllowed = true) :
    switches.foldlM read draft =
      .ok
        { draft with
          trace := draft.trace || switches.any asksTrace
          list := draft.list || switches.any asksList } := by
  induction switches generalizing draft with
  | nil => simp [pure, Except.pure]
  | cons argument switches inductionHypothesis =>
      obtain ⟨isSwitch, areSwitches⟩ := List.forall_mem_cons.mp areSwitches
      rw [List.foldlM_cons, read_of_isSwitch isSwitch noHelp allowed]
      simp only [bind, Except.bind]
      rw [inductionHypothesis areSwitches]
      · simp [Bool.or_assoc]
      · exact noHelp
      · exact allowed

/-- An ordinary argument among switches asks for the program at a path to be run or listed. -/
theorem Request.ofArguments_switches
    (ordinary : IsOrdinary path)
    {before after : List String}
    (beforeSwitches : ∀ argument ∈ before, IsSwitch argument)
    (afterSwitches : ∀ argument ∈ after, IsSwitch argument) :
    ofArguments (before ++ path :: after) =
      .ok
        (.run
          { path
            trace := (before ++ after).any asksTrace
            list := (before ++ after).any asksList }) := by
  rw [ofArguments, List.foldlM_append, Draft.foldlM_read_of_isSwitch beforeSwitches rfl rfl]
  simp only [bind, Except.bind, List.foldlM_cons, Draft.read_of_isOrdinary ordinary,
    Draft.positional]
  rw [Draft.foldlM_read_of_isSwitch afterSwitches rfl rfl]
  simp [Draft.request]

namespace Toolkit

/-- A toolkit that takes an ordinary argument among switches for the path of a program, which is to
be run or listed as the switches say. -/
def ReadsSwitches (toolkit : Toolkit) : Prop :=
  ∀ path before after,
    IsOrdinary path →
    (∀ argument ∈ before, IsSwitch argument) →
    (∀ argument ∈ after, IsSwitch argument) →
    toolkit.readArguments (before ++ path :: after) =
      .ok
        (.run
          { path
            trace := (before ++ after).any asksTrace
            list := (before ++ after).any asksList })

/-- The toolkit of the program knows the switches. -/
theorem standard_readsSwitches : standard.ReadsSwitches := by
  intro path before after ordinary beforeSwitches afterSwitches
  simp only [standard, Request.ofArguments_switches ordinary beforeSwitches afterSwitches]
  rfl

variable {toolkit : Toolkit}

/-- An ordinary argument asks for the program at a path to be run. -/
theorem ReadsSwitches.of_path
    (readsSwitches : toolkit.ReadsSwitches)
    (ordinary : IsOrdinary path) :
    toolkit.readArguments [path] = .ok (.run { path, trace := false, list := false }) :=
  readsSwitches path [] [] ordinary (List.forall_mem_nil _) (List.forall_mem_nil _)

/-- The switch before an ordinary argument asks for the run to be traced. -/
theorem ReadsSwitches.of_trace_path
    (readsSwitches : toolkit.ReadsSwitches)
    (ordinary : IsOrdinary path) :
    toolkit.readArguments ["-t", path] = .ok (.run { path, trace := true, list := false }) := by
  have isSwitch : ∀ argument ∈ ["-t"], IsSwitch argument := by
    simp [IsSwitch, asksTrace]
  exact readsSwitches path ["-t"] [] ordinary isSwitch (List.forall_mem_nil _)

end Toolkit

end Requests

/-! ## Outcomes -/

variable {toolkit : Toolkit}

namespace Progress

variable {progress : Progress}
variable {ended : Outcome}

@[simp] theorem complete_over
    (bound : Nat)
    (ended : Outcome) :
    complete toolkit bound (.over ended) = some ended := by
  cases bound <;> rfl

/-- More batches do not change the outcome of a command that is over. -/
theorem complete_add
    {bound : Nat}
    (completed : progress.complete toolkit bound = some ended)
    (more : Nat) :
    progress.complete toolkit (bound + more) = some ended := by
  fun_induction Progress.complete toolkit bound progress with
  | case1 bound outcome =>
      rw [complete_over]
      exact completed
  | case2 session => cases completed
  | case3 bound session inductionHypothesis =>
      rw [Nat.succ_add]
      exact inductionHypothesis completed

end Progress

/-- A command with some arguments ends, and leaves an outcome behind. -/
def Ends
    (toolkit : Toolkit)
    (arguments : List String)
    (load : String → Except LoadFault String)
    (console : ByteConsole)
    (ended : Outcome) : Prop :=
  ∃ bound, outcome toolkit bound arguments load console = some ended

/-- The outcome of a command that has run a program. -/
def Outcome.ofRun
    (toolkit : Toolkit) : EStateM.Result Trap (Machine ByteConsole) Unit → Outcome
  | .ok () machine => ⟨0, machine.console.sink.written, ""⟩
  | .error trap machine => ⟨1, machine.console.sink.written, shown toolkit trap.report⟩

/-- An outcome with a text before all that it has on the error stream. -/
def Outcome.precededBy (text : String) (ended : Outcome) : Outcome :=
  { ended with errors := text ++ ended.errors }

@[simp] theorem Outcome.precededBy_empty (ended : Outcome) : ended.precededBy "" = ended := by
  simp only [precededBy, String.empty_append]

section Endings

variable {arguments : List String}
variable {load : String → Except LoadFault String}
variable {console : ByteConsole}
variable {path source : String}
variable {trace list : Bool}
variable {ended other : Outcome}

/-- A command ends with one outcome only. -/
theorem Ends.unique
    (ends : Ends toolkit arguments load console ended)
    (endsToo : Ends toolkit arguments load console other) :
    ended = other := by
  obtain ⟨bound, completed⟩ := ends
  obtain ⟨otherBound, otherCompleted⟩ := endsToo
  have reached := Progress.complete_add completed otherBound
  rw [Nat.add_comm, Progress.complete_add otherCompleted bound] at reached
  exact (Option.some.inj reached).symm

/-- Whatever is to be done with it, a program that cannot be loaded is not run. -/
theorem ends_iff_of_load_error
    {fault : LoadFault}
    (requested : toolkit.readArguments arguments = .ok (.run { path, trace, list }))
    (notLoaded : load path = .error fault) :
    Ends toolkit arguments load console ended ↔
      ended = ⟨1, console.sink.written, shown toolkit (fault.report path)⟩ := by
  simp only [Ends, outcome, start, requested, notLoaded, Progress.complete_over, Option.some.injEq,
    exists_const, eq_comm]

/-- Whatever is to be done with it, a program that cannot be assembled is not run. -/
theorem ends_iff_of_assemble_error
    {error : AssemblyError}
    (requested : toolkit.readArguments arguments = .ok (.run { path, trace, list }))
    (loaded : load path = .ok source)
    (notAssembled : assemble source = .error error) :
    Ends toolkit arguments load console ended ↔
      ended = ⟨1, console.sink.written, shownWithExcerpt toolkit path source error.report⟩ := by
  simp only [Ends, outcome, start, requested, loaded, notAssembled, Progress.complete_over,
    Option.some.injEq, exists_const, eq_comm]

/-- A program that can be assembled is listed without being run. -/
theorem ends_iff_of_list
    {program : Program}
    (requested : toolkit.readArguments arguments = .ok (.run { path, trace, list := true }))
    (loaded : load path = .ok source)
    (assembled : assemble source = .ok program) :
    Ends toolkit arguments load console ended ↔
      ended = printed toolkit console.sink program.listing := by
  simp only [Ends, outcome, start, requested, loaded, assembled, if_true, Progress.complete_over,
    Option.some.injEq, exists_const, eq_comm]

/-- A program that can be assembled is run by a session. -/
theorem ends_iff_of_assemble
    {program : Program}
    (requested : toolkit.readArguments arguments = .ok (.run { path, trace, list := false }))
    (loaded : load path = .ok source)
    (assembled : assemble source = .ok program) :
    Ends toolkit arguments load console ended ↔
      ∃ bound,
        Progress.complete toolkit bound (.working { trace, machine := { program, console } }) =
          some ended := by
  simp only [Ends, outcome, start, requested, loaded, assembled]
  rfl

end Endings

/-! ## Sessions -/

namespace Session

variable {session : Session}
variable {ended : Outcome}
variable {after : Machine ByteConsole}
variable {result : EStateM.Result Trap (Machine ByteConsole) Unit}

/-- The number of instructions in a batch. -/
def cycles (session : Session) : Nat :=
  if session.trace then 1 else batchSize

theorem cycles_pos (session : Session) : 0 < session.cycles := by
  unfold cycles
  split <;> decide

/-- What is on the error stream when a batch begins to be executed. -/
def errorsBefore (toolkit : Toolkit) (session : Session) : String :=
  session.errors ++ if session.trace then traceLine toolkit session.machine else ""

theorem advance_of_running
    (executed : Machine.execute session.cycles session.machine = .ok .running after) :
    session.advance toolkit =
      .working { session with machine := after, errors := session.errorsBefore toolkit } := by
  simp only [cycles] at executed
  simp only [advance, executed, errorsBefore]

/-- A session is over with the first batch that ends as a run does. -/
theorem advance_of_answerOfRun
    (executed : Machine.execute session.cycles session.machine = Machine.answerOfRun result) :
    session.advance toolkit =
      .over ((Outcome.ofRun toolkit result).precededBy (session.errorsBefore toolkit)) := by
  simp only [cycles] at executed
  cases result with
  | ok value last =>
      simp only [advance, executed, Machine.answerOfRun, Outcome.ofRun, Outcome.precededBy,
        errorsBefore, String.append_empty]
  | error trap last =>
      simp only [advance, executed, Machine.answerOfRun, Outcome.ofRun, Outcome.precededBy,
        errorsBefore]

/-- A session that ends has executed batches to the end. -/
theorem exists_executeBatches_of_complete
    {bound : Nat}
    (completed : Progress.complete toolkit bound (.working session) = some ended) :
    ∃ answer,
      Machine.executeBatches (List.replicate bound session.cycles) session.machine =
        some answer := by
  induction bound generalizing session with
  | zero => cases completed
  | succ bound inductionHypothesis =>
      rw [List.replicate_succ]
      rcases Machine.execute_cases session.cycles session.machine with
        ⟨after, executed⟩ | ⟨result, executed⟩
      · rw [Progress.complete, advance_of_running executed] at completed
        rw [Machine.executeBatches_cons_of_running executed]
        exact inductionHypothesis completed
      · exact ⟨_, Machine.executeBatches_cons_of_answerOfRun executed⟩

/-- A session ends only if the run of its machine does. -/
theorem exists_run_of_complete
    {bound : Nat}
    (completed : Progress.complete toolkit bound (.working session) = some ended) :
    ∃ steps result, Machine.run steps session.machine = some result := by
  obtain ⟨answer, batchesEnded⟩ := exists_executeBatches_of_complete completed
  obtain ⟨steps, result, run_eq, -⟩ := Machine.exists_run_of_executeBatches batchesEnded
  exact ⟨steps, result, run_eq⟩

/-- Batches that end as a run does end a session that does not trace. -/
theorem complete_of_executeBatches
    (untraced : session.trace = false)
    {bound : Nat}
    (batchesEnded :
      Machine.executeBatches (List.replicate bound session.cycles) session.machine =
        some (Machine.answerOfRun result)) :
    Progress.complete toolkit bound (.working session) =
      some ((Outcome.ofRun toolkit result).precededBy session.errors) := by
  have silent : session.errorsBefore toolkit = session.errors := by
    simp [errorsBefore, untraced]
  induction bound generalizing session with
  | zero => cases batchesEnded
  | succ bound inductionHypothesis =>
      rw [List.replicate_succ] at batchesEnded
      rw [Progress.complete]
      rcases Machine.execute_cases session.cycles session.machine with
        ⟨after, executed⟩ | ⟨last, executed⟩
      · rw [Machine.executeBatches_cons_of_running executed] at batchesEnded
        rw [advance_of_running executed, silent]
        exact inductionHypothesis untraced batchesEnded (by simp [errorsBefore, untraced])
      · rw [Machine.executeBatches_cons_of_answerOfRun executed, Option.some.injEq,
          Machine.answerOfRun_inj] at batchesEnded
        rw [advance_of_answerOfRun executed, silent, batchesEnded, Progress.complete_over]

/-- A session that does not trace ends as the run of its machine does. -/
theorem exists_complete_of_run
    (untraced : session.trace = false)
    {steps : Nat}
    (run_eq : Machine.run steps session.machine = some result) :
    ∃ bound,
      Progress.complete toolkit bound (.working session) =
        some ((Outcome.ofRun toolkit result).precededBy session.errors) := by
  obtain ⟨count, batchesEnded⟩ :=
    Machine.exists_executeBatches_of_run run_eq fun _ => session.cycles_pos
  rw [List.map_const', List.length_range] at batchesEnded
  exact ⟨count, complete_of_executeBatches untraced batchesEnded⟩

end Session

end Command
end RegisterMachine
