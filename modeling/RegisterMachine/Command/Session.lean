import RegisterMachine.Assembly.Reader
import RegisterMachine.Command.Excerpt
import RegisterMachine.Command.Folder
import RegisterMachine.Command.Toolkit
import RegisterMachine.Machine.ByteConsole
import RegisterMachine.Machine.Execution

/-!
# Command sessions

A command that runs a program is a session: it executes batches of instructions
until the machine stops. With tracing, a batch is one instruction, which is
shown first. All other commands are over as soon as they have begun. What a
command leaves behind is an exit status and the text on both output streams.
-/

namespace RegisterMachine
namespace Command

/-- What a command leaves behind. -/
structure Outcome where
  status : Nat
  output : String
  errors : String
  deriving DecidableEq

/-- A command that is running a program. -/
structure Session where
  /-- Whether each instruction is shown before it is executed. -/
  trace : Bool
  machine : Machine ByteConsole
  /-- What has been written to the error stream. -/
  errors : String := ""
  deriving DecidableEq

/-- How far a command has come. -/
inductive Progress
  | over (outcome : Outcome)
  | working (session : Session)
  deriving DecidableEq

variable (toolkit : Toolkit)

/-- A report as the user sees it. -/
def shown (report : Report) : String :=
  toolkit.bold report.message ++ "\n"

/-- A report on a source text, with an excerpt when the text is at fault. -/
def shownWithExcerpt (path source : String) (report : Report) : String :=
  shown toolkit report ++
    if report.kind.concernsSource then Excerpt.text toolkit.bold path source report.span else ""

/-- The outcome of a command that only prints a text. -/
def printed (sink : Sink) (text : String) : Outcome :=
  match Sink.append text sink with
  | .ok () sink => ⟨0, sink.written, ""⟩
  | .error text sink => ⟨1, sink.written, shown toolkit { kind := .outputError, text }⟩

namespace Session

/-- How many instructions are executed between two looks at the world outside. -/
def batchSize : Nat := 5000

/-- The line that shows the next instruction, if there is one. -/
def traceLine (machine : Machine ByteConsole) : String :=
  match machine.next? with
  | some (_, instruction) =>
      toolkit.dimmed ("[" ++ machine.counter.text ++ "] " ++ instruction.text) ++ "\n"
  | none => ""

/-- Execute a batch of instructions. -/
def advance (session : Session) : Progress :=
  let cycles := if session.trace then 1 else batchSize
  let errors :=
    session.errors ++ if session.trace then traceLine toolkit session.machine else ""
  match Machine.execute cycles session.machine with
  | .ok .running machine => .working { session with machine, errors }
  | .ok .stopped machine => .over ⟨0, machine.console.sink.written, errors⟩
  | .error trap machine =>
      .over ⟨1, machine.console.sink.written, errors ++ shown toolkit trap.report⟩

end Session

/-- Begin to carry out what some arguments ask for. -/
def start
    (arguments : List String)
    (load : String → Except LoadFault String)
    (console : ByteConsole) : Progress :=
  match toolkit.readArguments arguments with
  | .error text => .over ⟨1, console.sink.written, text⟩
  | .ok .help => .over (printed toolkit console.sink toolkit.usage)
  | .ok (.run options) =>
      match load options.path with
      | .error fault =>
          .over ⟨1, console.sink.written, shown toolkit (fault.report options.path)⟩
      | .ok source =>
          match assemble source with
          | .error error =>
              .over ⟨1, console.sink.written,
                shownWithExcerpt toolkit options.path source error.report⟩
          | .ok program =>
              if options.list then .over (printed toolkit console.sink program.listing)
              else .working { trace := options.trace, machine := { program, console } }

/-- The outcome of a command that is over within a bound on the number of batches. -/
def Progress.complete : Nat → Progress → Option Outcome
  | _, .over outcome => some outcome
  | 0, .working _ => none
  | bound + 1, .working session => complete bound (session.advance toolkit)

/-- The outcome of a command, if it is over within a bound on the number of batches. -/
def outcome
    (bound : Nat)
    (arguments : List String)
    (load : String → Except LoadFault String)
    (console : ByteConsole) : Option Outcome :=
  (start toolkit arguments load console).complete toolkit bound

end Command
end RegisterMachine
