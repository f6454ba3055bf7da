import RegisterMachine.Decimal

/-!
# Reports

Whatever goes wrong is shown to the user as a report: a kind, the address of the
instruction that was executing, the span of source text at fault, and a text of
its own. Each part but the kind may be missing. The module fixes the wording of
a report and nothing else; the causes are described where they arise.
-/

namespace RegisterMachine

/-- A stretch of text, as the offsets of its first character and of the one after its last. -/
structure Span where
  start : Nat
  stop : Nat
  deriving DecidableEq

namespace Span

/-- The span that stands for no place in the text. -/
def nowhere : Span := ⟨0, 0⟩

/-- The span of a given number of characters from an offset on. -/
def ofLength (start length : Nat) : Span := ⟨start, start + length⟩

/-- The number of characters in a span. -/
def length (span : Span) : Nat := span.stop - span.start

/-- A span as it is shown in a report. -/
def text (span : Span) : String :=
  "(" ++ Decimal.ofNat span.start ++ ".." ++ Decimal.ofNat span.stop ++ ")"

end Span

namespace Report

/-- The kinds of report. -/
inductive Kind
  | illegalCharacter
  | overflow
  | syntaxError
  | internalError
  | inputPastEnd
  | illegalInput
  | outputError
  | interrupted
  | fileNotFound
  | fileError
  deriving DecidableEq

namespace Kind

/-- The heading of a report. -/
def title : Kind → String
  | .illegalCharacter => "ILLEGAL CHARACTER"
  | .overflow => "OVERFLOW"
  | .syntaxError => "SYNTAX ERROR"
  | .internalError => "INTERNAL ERROR"
  | .inputPastEnd => "INPUT PAST END"
  | .illegalInput => "ILLEGAL INPUT"
  | .outputError => "OUTPUT ERROR"
  | .interrupted => "BREAK"
  | .fileNotFound => "FILE NOT FOUND"
  | .fileError => "FILE ERROR"

/-- Whether a report of this kind is about the source text of a program. -/
def concernsSource : Kind → Bool
  | .illegalCharacter | .overflow | .syntaxError => true
  | _ => false

end Kind
end Report

/-- What the user is told when something goes wrong. -/
structure Report where
  kind : Report.Kind
  /-- The address of the instruction that was executing. -/
  address : Option Nat := none
  /-- The source text at fault. -/
  span : Span := .nowhere
  /-- What there is to say beyond the kind. -/
  text : String := ""
  deriving DecidableEq

namespace Report

/-- Add the address of the executing instruction, unless the report has one already. -/
def inAddress (report : Report) (address : Nat) : Report :=
  { report with address := report.address <|> some address }

/-- Where the trouble is: the address and the span, each after a blank. -/
def place (report : Report) : String :=
  (match report.address with
    | some address => " " ++ Decimal.ofNat address
    | none => "") ++
  (if report.span = .nowhere then "" else " " ++ report.span.text)

/-- The report in one line: the title, the place after the word `IN`, and the text. -/
def message (report : Report) : String :=
  report.kind.title ++
  (if report.place = "" then "" else " IN" ++ report.place) ++
  (if report.text = "" then "" else "; " ++ report.text)

/-- The message in a form for developers. -/
def debugText (report : Report) : String :=
  "Error \x7b " ++ report.message ++ " \x7d"

end Report
end RegisterMachine
