import RegisterMachine.Command.Session

/-!
# The command line

The outer layer of the command: it reads the source file and the standard input,
passes on what a session writes, and exits with the session's status.
-/

namespace RegisterMachine
namespace Command

/-- The load fault that stands for an error of the operating system. -/
def LoadFault.ofError : IO.Error → LoadFault
  | .noFileOrDirectory .. => .notFound
  | .inappropriateType _ 21 _ => .isFolder
  | .inappropriateType .. => .notFolder
  | .invalidArgument .. => .nameTooLong
  | .permissionDenied .. => .other "Permission denied (os error 13)"
  | error => .other (toString error)

/-- Load the source text that some arguments ask for. -/
def loadRequested (arguments : List String) : IO (Except LoadFault String) :=
  match Toolkit.standard.readArguments arguments with
  | .ok (.run options) => do
      try
        let bytes ← IO.FS.readBinFile options.path
        match decodeText? bytes.toList with
        | some source => return .ok source
        | none => return .error .notText
      catch error => return .error (.ofError error)
  | _ => return .error .notFound

/-- Pass on what a session has written so far, and forget it. -/
def Session.passOn (session : Session) : IO Session := do
  let console := session.machine.console
  IO.print console.sink.written
  (← IO.getStdout).flush
  IO.eprint session.errors
  let sink := { console.sink with written := "" }
  return { session with
    machine := { session.machine with console := { console with sink } }
    errors := "" }

/-- Carry a command on to its end, and give its status. -/
partial def Progress.carryOut : Progress → IO UInt32
  | .over outcome => do
      IO.print outcome.output
      IO.eprint outcome.errors
      return outcome.status.toUInt32
  | .working session => do
      let session ← session.passOn
      (session.advance .standard).carryOut

/-- Give a session the standard input to read from. -/
def Progress.withInput (input : IO (List UInt8)) : Progress → IO Progress
  | .over outcome => return .over outcome
  | .working session => do
      let console := { session.machine.console with input := ← input }
      return .working { session with machine := { session.machine with console } }

end Command
end RegisterMachine

open RegisterMachine in
/-- Carry out what the arguments ask for. -/
def main (arguments : List String) : IO UInt32 := do
  let loaded ← Command.loadRequested arguments
  let begun := Command.start .standard arguments (fun _ => loaded) { input := [], sink := {} }
  let ready ← begun.withInput do
    let stdin ← IO.getStdin
    return (← stdin.readBinToEnd).toList
  ready.carryOut
