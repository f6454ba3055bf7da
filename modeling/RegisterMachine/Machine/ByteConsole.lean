import RegisterMachine.Machine.Console

/-!
# Consoles over bytes

The input of a program that is not used by hand is a row of bytes. A line ends
with a line feed or with the last of the bytes, and it must be the encoding of a
text. The output goes to a sink, which may have room for only so many characters
and may refuse to be flushed. What it has taken in stays written.
-/

namespace RegisterMachine

/-! ## Input -/

/-- The byte that ends a line. -/
def lineFeed : UInt8 := 10

/-- The text that some bytes encode. -/
def decodeText? (bytes : List UInt8) : Option String :=
  String.fromUTF8? ⟨bytes.toArray⟩

/-- The wording for bytes that are not the encoding of a text. -/
def notTextMessage : String :=
  "stream did not contain valid UTF-8"

/-- Take a line off some bytes. It is used up also when it is not a text. -/
def takeLine : EStateM String (List UInt8) String := fun bytes =>
  let line := bytes.takeWhile (· ≠ lineFeed)
  let others := bytes.dropWhile (· ≠ lineFeed)
  match decodeText? (line ++ others.take 1) with
  | some text => .ok text (others.drop 1)
  | none => .error notTextMessage (others.drop 1)

instance : LineInput (List UInt8) where
  readLine := takeLine

/-! ## Output -/

/-- Where output is kept. -/
structure Sink where
  /-- What has been written. -/
  written : String := ""
  /-- How many characters there is room for, if there is a limit. -/
  room : Option Nat := none
  /-- Why a write fails that does not fit. -/
  overflow : String := "failed to write whole buffer"
  /-- Why a flush fails, if it does. -/
  refusal : Option String := none
  deriving DecidableEq

namespace Sink

/-- A sink that takes in nothing because its device is full. -/
def deviceFull : Sink where
  room := some 0
  overflow := "No space left on device (os error 28)"

/-- Take in the characters of a text that there is room for. -/
def append (text : String) : EStateM String Sink Unit := fun sink =>
  match sink.room with
  | none => .ok () { sink with written := sink.written ++ text }
  | some room =>
      if text.length ≤ room then
        .ok () { sink with written := sink.written ++ text, room := some (room - text.length) }
      else
        .error sink.overflow
          { sink with
            written := sink.written ++ String.ofList (text.toList.take room)
            room := some 0 }

/-- Make sure that what was written arrives. -/
def flush : EStateM String Sink Unit := fun sink =>
  match sink.refusal with
  | none => .ok () sink
  | some text => .error text sink

end Sink

instance : TextOutput Sink where
  write := Sink.append
  flush := Sink.flush

/-- A console that reads from bytes and writes to a sink. -/
abbrev ByteConsole : Type :=
  LineConsole (List UInt8) Sink

end RegisterMachine
