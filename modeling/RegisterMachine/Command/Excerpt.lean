import RegisterMachine.Report

/-!
# Source excerpts

Under the report of a source error the user sees where it is: the path, the line
and the column, then the line itself with carets under the text at fault. Lines
and columns are counted from one, and columns in characters. A line feed at the
very end of the text begins no further line, so an error at the end may have no
line to show.
-/

namespace RegisterMachine
namespace Command

/-- A line and a column, both counted from one. -/
structure Position where
  line : Nat
  column : Nat
  deriving DecidableEq

namespace Position

/-- The position after a character. -/
def after (position : Position) (c : Char) : Position :=
  if c = '\n' then ⟨position.line + 1, 1⟩ else ⟨position.line, position.column + 1⟩

/-- The position of a character, by the number of characters before it. -/
def ofOffset (source : List Char) (offset : Nat) : Position :=
  (source.take offset).foldl after ⟨1, 1⟩

end Position

namespace Excerpt

/-- The line of a text with a given number of lines before it. -/
def line? : Nat → List Char → Option (List Char)
  | _, [] => none
  | 0, c :: cs => some ((c :: cs).takeWhile (· ≠ '\n'))
  | before + 1, c :: cs => line? before (((c :: cs).dropWhile (· ≠ '\n')).drop 1)

/-- A line without the carriage returns at its end. -/
def withoutReturns (line : List Char) : List Char :=
  (line.reverse.dropWhile (· = '\r')).reverse

/-- The width to which line numbers are filled up with blanks. -/
def numberWidth : Nat := 3

variable (bold : String → String)

/-- The lines that show the text at fault. The carets are set in bold type. -/
def marked (position : Position) (width : Nat) (line : List Char) : String :=
  "  |\n" ++
  String.ofList ((Nat.toDigits 10 position.line).leftpad numberWidth ' ') ++ " | " ++
    String.ofList (withoutReturns line) ++ "\n" ++
  "  | " ++ String.ofList (List.replicate (position.column - 1) ' ') ++
    bold (String.ofList (List.replicate width '^')) ++ "\n"

/-- The excerpt for a span of the source text in a file. -/
def text (path source : String) (span : Span) : String :=
  let position := Position.ofOffset source.toList span.start
  " --> " ++ path ++ ":" ++ Decimal.ofNat position.line ++ ":" ++
    Decimal.ofNat position.column ++ "\n" ++
  match line? (position.line - 1) source.toList with
  | some line => marked bold position (max 1 span.length) line
  | none => ""

end Excerpt
end Command
end RegisterMachine
