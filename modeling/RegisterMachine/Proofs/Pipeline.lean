import RegisterMachine.Proofs.Assembling
import RegisterMachine.Proofs.Sessions

/-!
# The command as a pipeline

A command loads a text, assembles it and runs the program, and adds nothing of
its own but the reports. A text that cannot be assembled is reported with an
excerpt before anything is executed, so neither the input nor the instructions
before the error play a part. A program that can be assembled is listed, or it
is run in batches, which cannot be seen in the outcome.
-/

namespace RegisterMachine

namespace Command

section Pipeline

variable {toolkit : Toolkit}
variable {arguments : List String}
variable {load : String → Except LoadFault String}
variable {console : ByteConsole}
variable {path source : String}
variable {program : Program}
variable {ended : Outcome}

/-- The report of an assembly error comes with an excerpt. -/
theorem shownWithExcerpt_of_assembly
    (path source : String)
    (error : AssemblyError) :
    shownWithExcerpt toolkit path source error.report =
      shown toolkit error.report ++
        Excerpt.text toolkit.bold path source error.report.span := by
  rw [shownWithExcerpt, if_pos error.concernsSource]

/-- A command that runs a program without tracing ends as the run of the program does. -/
theorem ends_iff_of_run
    {bound : Nat}
    {result : EStateM.Result Trap (Machine ByteConsole) Unit}
    (requested :
      toolkit.readArguments arguments = .ok (.run { path, trace := false, list := false }))
    (loaded : load path = .ok source)
    (assembled : assemble source = .ok program)
    (run_eq : Machine.run bound { program, console } = some result) :
    Ends toolkit arguments load console ended ↔ ended = .ofRun toolkit result := by
  have ends : Ends toolkit arguments load console (.ofRun toolkit result) := by
    rw [ends_iff_of_assemble requested loaded assembled,
      ← (Outcome.ofRun toolkit result).precededBy_empty]
    exact Session.exists_complete_of_run rfl run_eq
  constructor
  · intro otherEnds
    exact otherEnds.unique ends
  · rintro rfl
    exact ends

/-- A command that runs a program without tracing ends exactly when the run of the program does. -/
theorem exists_ends_iff_exists_run
    (requested :
      toolkit.readArguments arguments = .ok (.run { path, trace := false, list := false }))
    (loaded : load path = .ok source)
    (assembled : assemble source = .ok program) :
    (∃ ended, Ends toolkit arguments load console ended) ↔
      ∃ bound result, Machine.run bound { program, console } = some result := by
  constructor
  · rintro ⟨ended, ends⟩
    obtain ⟨bound, completed⟩ := (ends_iff_of_assemble requested loaded assembled).mp ends
    exact Session.exists_run_of_complete completed
  · rintro ⟨bound, result, run_eq⟩
    exact ⟨_, (ends_iff_of_run requested loaded assembled run_eq).mpr rfl⟩

/-- A console on which nothing has been written and whose sink takes in everything. -/
def freshConsole (input : List UInt8) : ByteConsole where
  input := input
  sink := {}

/-- On a fresh console, a text is printed as it is. -/
theorem printed_of_fresh (input : List UInt8) (text : String) :
    printed toolkit (freshConsole input).sink text = ⟨0, text, ""⟩ := by
  simp [printed, freshConsole, Sink.append]

end Pipeline

/-- A command whose argument is a path, and not an option or a request for help, is the pipeline of
loading, assembling and running, and nothing more. A text with an error is reported with an excerpt,
whatever the switches and the input. Otherwise the command ends when the run does, with what the run
has written and a report if it has failed, or it lists the program if that is asked for. -/
theorem command_is_pipeline
    (toolkit : Toolkit)
    (readsSwitches : toolkit.ReadsSwitches)
    (bold_eq : ∀ text, toolkit.bold text = "\x1b[1m" ++ text ++ "\x1b[0m")
    (load : String → Except LoadFault String)
    {path source : String}
    (ordinary : IsOrdinary path)
    (loaded : load path = .ok source) :
    (∀ error, assemble source = .error error →
      ∀ before after,
        (∀ argument ∈ before, IsSwitch argument) → (∀ argument ∈ after, IsSwitch argument) →
        ∀ input ended,
          Ends toolkit (before ++ path :: after) load (freshConsole input) ended ↔
            ended =
              ⟨1, "",
                "\x1b[1m" ++ error.report.message ++ "\x1b[0m" ++ "\n" ++
                  Excerpt.text toolkit.bold path source error.report.span⟩) ∧
    (∀ program, assemble source = .ok program →
      ∀ input,
        (∀ bound machine,
          Machine.run bound { program, console := freshConsole input } = some (.ok () machine) →
          ∀ ended,
            Ends toolkit [path] load (freshConsole input) ended ↔
              ended = ⟨0, machine.console.sink.written, ""⟩) ∧
        (∀ bound trap machine,
          Machine.run bound { program, console := freshConsole input } =
            some (.error trap machine) →
          ∀ ended,
            Ends toolkit [path] load (freshConsole input) ended ↔
              ended =
                ⟨1, machine.console.sink.written,
                  "\x1b[1m" ++ trap.report.message ++ "\x1b[0m" ++ "\n"⟩) ∧
        ((∃ ended, Ends toolkit [path] load (freshConsole input) ended) ↔
          ∃ bound result,
            Machine.run bound { program, console := freshConsole input } = some result)) ∧
    (∀ program, assemble source = .ok program →
      ∀ before after,
        (∀ argument ∈ before, IsSwitch argument) → (∀ argument ∈ after, IsSwitch argument) →
        (∃ argument ∈ before ++ after, asksList argument = true) →
        ∀ input ended,
          Ends toolkit (before ++ path :: after) load (freshConsole input) ended ↔
            ended = ⟨0, program.listing, ""⟩) ∧
    ((∀ program : Program, lex source ≠ .ok program.tokens) →
      ∃ errors, ∀ input ended,
        Ends toolkit [path] load (freshConsole input) ended ↔ ended = ⟨1, "", errors⟩) := by
  have requested := readsSwitches.of_path ordinary
  have shown_eq (report : Report) :
      shown toolkit report = "\x1b[1m" ++ report.message ++ "\x1b[0m" ++ "\n" := by
    rw [shown, bold_eq]
  refine ⟨?_, ?_, ?_, ?_⟩
  · intro error notAssembled before after beforeSwitches afterSwitches input ended
    have asked := readsSwitches path before after ordinary beforeSwitches afterSwitches
    rw [ends_iff_of_assemble_error asked loaded notAssembled, shownWithExcerpt_of_assembly,
      shown_eq]
    rfl
  · intro program assembled input
    refine ⟨?_, ?_, exists_ends_iff_exists_run requested loaded assembled⟩
    · intro bound machine run_eq ended
      exact ends_iff_of_run requested loaded assembled run_eq
    · intro bound trap machine run_eq ended
      rw [ends_iff_of_run requested loaded assembled run_eq, Outcome.ofRun, shown_eq]
  · intro program assembled before after beforeSwitches afterSwitches listed input ended
    have asked := readsSwitches path before after ordinary beforeSwitches afterSwitches
    rw [List.any_eq_true.mpr listed] at asked
    rw [ends_iff_of_list asked loaded assembled, printed_of_fresh]
  · intro notRows
    cases assembled : assemble source with
    | ok program => exact absurd (assemble_eq_ok_iff_lex.mp assembled) (notRows program)
    | error error =>
        refine ⟨shownWithExcerpt toolkit path source error.report, ?_⟩
        intro input ended
        exact ends_iff_of_assemble_error requested loaded assembled

/-- The files of a small folder: a text that goes wrong in code that is never reached, and an echo
of one integer that then reads another. -/
def smallFiles : String → Except LoadFault String
  | "late" => .ok "WRITE 1\nJUMP zero,0,-1\nCP 1 r2\n"
  | "echo" => .ok "READ r0\nWRITE r0\nREAD r0\n"
  | _ => .error .notFound

/-- The text that goes wrong late writes nothing and is reported with an excerpt, whatever the
input. The echo writes its integer before it fails, and it is listed without being run. -/
theorem small_files_ended :
    Toolkit.standard.ReadsSwitches ∧
    (∀ text, Toolkit.standard.bold text = "\x1b[1m" ++ text ++ "\x1b[0m") ∧
    IsOrdinary "late" ∧
    IsOrdinary "echo" ∧
    (∀ input ended,
      Ends .standard ["late"] smallFiles (freshConsole input) ended ↔
        ended =
          ⟨1, "",
            "\x1b[1mSYNTAX ERROR IN (28..30); EXPECTED COMMA, FOUND r2\x1b[0m\n" ++
              " --> late:3:6\n" ++
              "  |\n" ++
              "  3 | CP 1 r2\n" ++
              "  |      \x1b[1m^^\x1b[0m\n"⟩) ∧
    Ends .standard ["echo"] smallFiles (freshConsole [55, 10])
      ⟨1, "7\n", "\x1b[1mINPUT PAST END IN 2\x1b[0m\n"⟩ ∧
    Ends .standard ["-t", "echo", "--list"] smallFiles (freshConsole [55, 10])
      ⟨0, "   0 READ r0\n   1 WRITE r0\n   2 READ r0\n", ""⟩ := by
  have readsSwitches := Toolkit.standard_readsSwitches
  have bold_eq : ∀ text, Toolkit.standard.bold text = "\x1b[1m" ++ text ++ "\x1b[0m" :=
    fun _ => rfl
  have lateOrdinary : IsOrdinary "late" := ⟨by decide, by decide⟩
  have echoOrdinary : IsOrdinary "echo" := ⟨by decide, by decide⟩
  obtain ⟨lateFails, -, -, -⟩ :=
    command_is_pipeline .standard readsSwitches bold_eq smallFiles lateOrdinary rfl
  obtain ⟨-, echoRuns, echoLists, -⟩ :=
    command_is_pipeline .standard readsSwitches bold_eq smallFiles echoOrdinary rfl
  have notAssembled :
      assemble "WRITE 1\nJUMP zero,0,-1\nCP 1 r2\n" =
        .error (.unexpected (.slot .comma) (some (.register ⟨2⟩)) ⟨28, 30⟩) := by
    decide +kernel
  have assembled :
      assemble "READ r0\nWRITE r0\nREAD r0\n" =
        .ok (.ofList [.read ⟨0⟩, .write (.register ⟨0⟩), .read ⟨0⟩]) := by
    decide +kernel
  let last : Machine ByteConsole :=
    { program := .ofList [.read ⟨0⟩, .write (.register ⟨0⟩), .read ⟨0⟩]
      storage := { registers := ⟨#v[7, 0, 0, 0, 0, 0, 0, 0, 0, 0, 0, 0, 0, 0, 0, 0]⟩ }
      counter := 3
      running := false
      console := { input := [], sink := { written := "7\n" } } }
  have failed :
      Machine.run 3
        { program := .ofList [.read ⟨0⟩, .write (.register ⟨0⟩), .read ⟨0⟩]
          console := freshConsole [55, 10] } =
        some (.error ⟨2, .console { kind := .inputPastEnd }⟩ last) := by
    decide +kernel
  obtain ⟨-, echoFails, -⟩ := echoRuns _ assembled [55, 10]
  refine ⟨readsSwitches, bold_eq, lateOrdinary, echoOrdinary, ?_, ?_, ?_⟩
  · intro input ended
    refine (lateFails _ notAssembled [] [] (by simp) (by simp) input ended).trans ?_
    refine Iff.of_eq (congrArg (fun errors => ended = ⟨1, "", errors⟩) ?_)
    decide +kernel
  · exact (echoFails 3 _ last failed _).mpr (by decide +kernel)
  · refine (echoLists _ assembled ["-t"] ["--list"] ?_ ?_ ?_ [55, 10] _).mpr (by decide +kernel)
    · simp [IsSwitch, asksTrace]
    · simp [IsSwitch, asksList]
    · exact ⟨"--list", by decide, by decide⟩

end Command
end RegisterMachine
