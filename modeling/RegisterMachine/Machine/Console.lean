import RegisterMachine.Report
import RegisterMachine.Text.Quoted
import RegisterMachine.Text.WhiteSpace
import RegisterMachine.Word

/-!
# Consoles

A machine reads integers from a console and writes integers to it. Nothing else
is known of a console: both change its state, and both can fail with a report.

A line console reads an integer from each line of its input, and writes each
integer on a line of its own. A line that is read is used up, whatever it holds.
Where the lines come from and where the output goes is left open. Both are known
by what can be done with them, and they can fail, with a text that says why.
-/

namespace RegisterMachine

/-- The states of a console. -/
class Console (World : Type) where
  /-- Read an integer. -/
  read : EStateM Report World Word
  /-- Write an integer. -/
  write : Word → EStateM Report World Unit

/-- Where lines of text come from. -/
class LineInput (Source : Type) where
  /-- Take off the next line, with the line feed at its end. It is empty if there is no more. -/
  readLine : EStateM String Source String

/-- Where text goes. -/
class TextOutput (Target : Type) where
  /-- Write a text. -/
  write : String → EStateM String Target Unit
  /-- Make sure that what was written arrives. -/
  flush : EStateM String Target Unit

/-- The integer on a line, with white space around it left aside. -/
def parseInteger (line : String) : Except Report Word :=
  let trimmed := Text.trim Text.whiteSpace line.toList
  match (Numeral.whole? trimmed).bind fun numeral => Word.ofInt? numeral.value with
  | some word => .ok word
  | none =>
      .error
        { kind := .illegalInput
          text := "EXPECTED INTEGER, FOUND " ++ Text.quotedText (String.ofList trimmed) }

/-- The integer on a line of input. There is no line left when it is empty. -/
def integerOfLine (line : String) : Except Report Word :=
  if line = "" then .error { kind := .inputPastEnd } else parseInteger line

section Output

variable {Target : Type} [TextOutput Target]

/-- Write an integer on a line of its own. -/
def writeLine (word : Word) : EStateM Report Target Unit :=
  EStateM.adaptExcept (fun text => { kind := .outputError, text }) do
    TextOutput.write (word.text ++ "\n")
    TextOutput.flush

end Output

/-- A console that reads lines from its input and writes lines to its sink. -/
structure LineConsole (Source Target : Type) where
  input : Source
  sink : Target
  deriving DecidableEq

namespace LineConsole

variable {Source Target : Type}

/-- Read the integer on the next line. -/
def readInteger [LineInput Source] : EStateM Report (LineConsole Source Target) Word :=
  fun console =>
    match LineInput.readLine console.input with
    | .ok line input =>
        match integerOfLine line with
        | .ok word => .ok word { console with input }
        | .error report => .error report { console with input }
    | .error text input => .error { kind := .illegalInput, text } { console with input }

/-- Write an integer to the sink. -/
def writeInteger [TextOutput Target] (word : Word) :
    EStateM Report (LineConsole Source Target) Unit :=
  fun console =>
    match writeLine word console.sink with
    | .ok () sink => .ok () { console with sink }
    | .error report sink => .error report { console with sink }

instance [LineInput Source] [TextOutput Target] : Console (LineConsole Source Target) where
  read := readInteger
  write := writeInteger

end LineConsole
end RegisterMachine
