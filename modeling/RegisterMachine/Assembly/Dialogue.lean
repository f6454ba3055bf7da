import RegisterMachine.Assembly.Reader

/-!
# Dialogues with a scanner

One scanner can be asked for a token, for a look at the next token, and for a
program, again and again and in any order, also after the end of the text and
after an error. A request that meets a lexical error leaves the scanner in front
of the text at fault, past the trivia before it, unless it was only to look.
-/

namespace RegisterMachine
namespace Scanner

/-- What a scanner can be asked for. -/
inductive Request
  | next
  | peek
  | program
  deriving DecidableEq

/-- What a scanner answers. -/
inductive Answer
  | token (found : Option Token)
  | program (program : Program)
  | failure (error : AssemblyError)
  deriving DecidableEq

/-- The scanner past the trivia in front of it. -/
def pastTrivia (scanner : Scanner) : Scanner :=
  let (start, rest) := Lexeme.skipTrivia false scanner.position scanner.rest
  { scanner with rest, position := start }

/-- The answer to a request, and the scanner after it. -/
def serve (scanner : Scanner) : Request → Answer × Scanner
  | .next =>
      match scanner.next with
      | .ok (found, after) => (.token found, after)
      | .error error => (.failure (.lexical error), scanner.pastTrivia)
  | .peek =>
      match scanner.peek with
      | .ok found => (.token found, scanner)
      | .error error => (.failure (.lexical error), scanner)
  | .program =>
      match Reader.program scanner with
      | .ok program after => (.program program, after)
      | .error (.lexical error) after => (.failure (.lexical error), after.pastTrivia)
      | .error (.unexpected expected found span) after =>
          (.failure (.unexpected expected found span), after)

/-- The answers to some requests, each with the span of the scanner after it. -/
def converse (scanner : Scanner) : List Request → List (Answer × Span)
  | [] => []
  | request :: requests =>
      let (answer, after) := scanner.serve request
      (answer, after.span) :: after.converse requests

theorem converse_cons
    (scanner : Scanner)
    (request : Request)
    (requests : List Request) :
    scanner.converse (request :: requests) =
      ((scanner.serve request).1, (scanner.serve request).2.span) ::
        (scanner.serve request).2.converse requests := rfl

end Scanner
end RegisterMachine
