import RegisterMachine.Assembly.Lexeme

/-!
# Scanners

A scanner walks through a source text and hands out its tokens one by one. It
remembers the span of the token that it handed out last. At the end of the text
it hands out nothing, as often as it is asked. A lexical error leaves the
scanner where it is, so that the next request meets the same error.
-/

namespace RegisterMachine

/-- A place in a source text. -/
structure Scanner where
  /-- The text that is still to be read. -/
  rest : List Char
  /-- How many characters have been read. -/
  position : Nat := 0
  /-- The span of the last token handed out, or of the end of the text. -/
  span : Span := .nowhere
  deriving DecidableEq

namespace Scanner

/-- The scanner at the beginning of a source text. -/
def ofSource (source : String) : Scanner where
  rest := source.toList

/-- The next token, or none at the end of the text, and the scanner after it. -/
def next (scanner : Scanner) : Except LexicalError (Option Token × Scanner) :=
  match Lexeme.skipTrivia false scanner.position scanner.rest with
  | (start, []) => .ok (none, ⟨[], start, ⟨start, start⟩⟩)
  | (start, c :: cs) =>
      match Lexeme.leading start c cs with
      | .ok lexeme =>
          .ok (some lexeme.token,
            { rest := (c :: cs).drop lexeme.length
              position := start + lexeme.length
              span := .ofLength start lexeme.length })
      | .error error => .error error

/-- The next token, with the scanner left where it is. -/
def peek (scanner : Scanner) : Except LexicalError (Option Token) :=
  scanner.next.map Prod.fst

/-- Handing out a token shortens the text that is still to be read. -/
theorem length_rest_lt_of_next
    {scanner after : Scanner}
    {token : Token}
    (handedOut : scanner.next = .ok (some token, after)) :
    after.rest.length < scanner.rest.length := by
  have suffix := Lexeme.skipTrivia_suffix false scanner.position scanner.rest
  simp only [next] at handedOut
  split at handedOut
  · cases handedOut
  · rename_i start c cs skipped
    rw [skipped] at suffix
    split at handedOut
    · rename_i lexeme found
      cases handedOut
      have positive := Lexeme.length_pos_of_leading found
      have shorter := suffix.length_le
      simp only [List.length_drop, List.length_cons] at shorter ⊢
      omega
    · cases handedOut

/-- Asking for a token never lengthens the text that is still to be read. -/
theorem length_rest_le_of_next
    {scanner after : Scanner}
    {found : Option Token}
    (handedOut : scanner.next = .ok (found, after)) :
    after.rest.length ≤ scanner.rest.length := by
  cases found with
  | some token => exact Nat.le_of_lt (length_rest_lt_of_next handedOut)
  | none =>
      simp only [next] at handedOut
      split at handedOut
      · cases handedOut
        exact Nat.zero_le _
      · split at handedOut <;> cases handedOut

/-- All that a scanner hands out when it is asked again and again. -/
structure Stream where
  /-- The tokens with their spans. -/
  tokens : Array (Token × Span)
  /-- The scanner after the last token, or at the end of the text when that is reached. -/
  last : Scanner
  /-- The error that comes after the tokens, if the end of the text is not reached. -/
  error : Option LexicalError
  deriving DecidableEq

/-- What a scanner hands out, after what was handed out before. -/
def streamAfter (done : Array (Token × Span)) (scanner : Scanner) : Stream :=
  match handedOut : scanner.next with
  | .ok (some token, after) =>
      have := length_rest_lt_of_next handedOut
      streamAfter (done.push (token, after.span)) after
  | .ok (none, after) => ⟨done, after, none⟩
  | .error error => ⟨done, scanner, some error⟩
termination_by scanner.rest.length

/-- What a scanner hands out from where it stands. -/
def stream (scanner : Scanner) : Stream :=
  scanner.streamAfter #[]

end Scanner

/-- The tokens of a source text. -/
def lex (source : String) : Except LexicalError (List Token) :=
  let stream := (Scanner.ofSource source).stream
  match stream.error with
  | none => .ok (stream.tokens.toList.map Prod.fst)
  | some error => .error error

end RegisterMachine
