import RegisterMachine.Machine.Console

/-!
# Consoles on a terminal

A user at a terminal types integers into a line editor and reads them on the
output. The editor is known only by what it answers: a line, a signal, or that
the user has ended the input. A line that is an integer is remembered, so that
the user can call it up again, and an interrupt breaks off the reading.
-/

namespace RegisterMachine
namespace Command

/-- What a line editor answers when it is asked for a line. -/
inductive Edited
  | line (text : String)
  | interrupt
  | otherSignal
  | ended
  deriving DecidableEq

/-- The states of a line editor. -/
class LineEditor (Editor : Type) where
  /-- Let the user edit a line. -/
  readLine : EStateM String Editor Edited
  /-- Remember a line. -/
  remember : String → Editor → Editor

/-- A console that reads from a line editor and writes lines to its sink. -/
structure TermConsole (Editor Target : Type) where
  editor : Editor
  sink : Target
  deriving DecidableEq

namespace TermConsole

variable {Editor Target : Type}

/-- Read the integer on the next line that the user enters. -/
def readInteger [LineEditor Editor] : EStateM Report (TermConsole Editor Target) Word :=
  fun console =>
    match LineEditor.readLine console.editor with
    | .ok (.line text) editor =>
        match parseInteger text with
        | .ok word => .ok word { console with editor := LineEditor.remember text editor }
        | .error report => .error report { console with editor }
    | .ok .interrupt editor => .error { kind := .interrupted } { console with editor }
    | .ok .otherSignal editor => .error { kind := .inputPastEnd } { console with editor }
    | .ok .ended editor => .error { kind := .inputPastEnd } { console with editor }
    | .error text editor => .error { kind := .illegalInput, text } { console with editor }

/-- Write an integer to the sink. -/
def writeInteger [TextOutput Target] (word : Word) :
    EStateM Report (TermConsole Editor Target) Unit :=
  fun console =>
    match writeLine word console.sink with
    | .ok () sink => .ok () { console with sink }
    | .error report sink => .error report { console with sink }

instance [LineEditor Editor] [TextOutput Target] : Console (TermConsole Editor Target) where
  read := readInteger
  write := writeInteger

end TermConsole
end Command
end RegisterMachine
