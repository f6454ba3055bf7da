import RegisterMachine.Assembly.Token
import RegisterMachine.Report
import RegisterMachine.Text.Alphanumeric
import RegisterMachine.Text.Quoted

/-!
# Lexemes

What stands at the head of a source text. Blanks and comments are trivia; they
separate lexemes and mean nothing. A lexeme is a reserved word, a number or a
comma. A reserved word must be a whole word: the letter, digit or underscore
that follows it would make it another one. A number ends where its digits end,
whatever follows.
-/

namespace RegisterMachine

/-- Why no token can be read at a place in the source text. -/
inductive LexicalError
  | illegalCharacter (position : Nat) (c : Char)
  | literalOutOfRange (position : Nat) (lexeme : List Char)
  deriving DecidableEq

namespace LexicalError

/-- The source text at fault. -/
def span : LexicalError → Span
  | .illegalCharacter position _ => .ofLength position 1
  | .literalOutOfRange position lexeme => .ofLength position lexeme.length

/-- The report of a lexical error. -/
def report : LexicalError → Report
  | error@(.illegalCharacter position c) =>
      { kind := .illegalCharacter
        span := error.span
        text := Text.quotedChar c ++ " AT POSITION " ++ Decimal.ofNat position }
  | error@(.literalOutOfRange _ lexeme) =>
      { kind := .overflow
        span := error.span
        text := "INTEGER " ++ String.ofList lexeme ++ " OUT OF RANGE" }

end LexicalError

namespace Lexeme

/-- Whether a character is a blank of the language. -/
def isBlank (c : Char) : Bool :=
  c = ' ' || c = '\t' || c = '\n' || c = '\r'

/-- Whether a character can be part of a word. -/
def isWordChar (c : Char) : Bool :=
  Text.alphanumeric.contains c || c = '_'

/-- The text after the trivia at its head, with the position where that text begins. A comment
reaches up to the next line feed, which is a blank itself. -/
def skipTrivia (inComment : Bool) (position : Nat) : List Char → Nat × List Char
  | [] => (position, [])
  | c :: cs =>
      if c = '\n' then skipTrivia false (position + 1) cs
      else if inComment then skipTrivia true (position + 1) cs
      else if isBlank c then skipTrivia false (position + 1) cs
      else if c = '#' then skipTrivia true (position + 1) cs
      else (position, c :: cs)

/-- Skipping trivia moves the position by the number of characters skipped. -/
theorem skipTrivia_position
    (inComment : Bool)
    (position : Nat)
    (cs : List Char) :
    (skipTrivia inComment position cs).1 + (skipTrivia inComment position cs).2.length =
      position + cs.length := by
  fun_induction skipTrivia inComment position cs <;> grind

/-- The rest after trivia is a suffix of the text. -/
theorem skipTrivia_suffix
    (inComment : Bool)
    (position : Nat)
    (cs : List Char) :
    (skipTrivia inComment position cs).2 <:+ cs := by
  fun_induction skipTrivia inComment position cs <;> grind

end Lexeme

/-- A token together with the number of characters that spell it in the source text. -/
structure Lexeme where
  token : Token
  length : Nat
  deriving DecidableEq

namespace Lexeme

/-- The lexeme at the head of a text that begins with no trivia. -/
def leading (position : Nat) (c : Char) (cs : List Char) : Except LexicalError Lexeme :=
  let word := (c :: cs).takeWhile isWordChar
  match Token.ofReserved? word with
  | some token => .ok ⟨token, word.length⟩
  | none =>
      match Numeral.leading? (c :: cs) with
      | some numeral =>
          match Word.ofInt? numeral.value with
          | some value => .ok ⟨.number value, numeral.chars.length⟩
          | none => .error (.literalOutOfRange position numeral.chars)
      | none =>
          if c = ',' then .ok ⟨.comma, 1⟩ else .error (.illegalCharacter position c)

/-- A lexeme has at least one character. -/
theorem length_pos_of_leading
    {position : Nat}
    {c : Char}
    {cs : List Char}
    {lexeme : Lexeme}
    (found : leading position c cs = .ok lexeme) :
    0 < lexeme.length := by
  simp only [leading] at found
  split at found
  · rename_i token isReserved
    cases found
    apply List.length_pos_iff.mpr
    intro emptyWord
    simp [emptyWord] at isReserved
  · split at found
    · rename_i numeral isNumeral
      split at found
      · cases found
        exact List.length_pos_iff.mpr (Numeral.chars_ne_nil_of_leading? isNumeral)
      · cases found
    · split at found
      · cases found
        exact Nat.one_pos
      · cases found

end Lexeme
end RegisterMachine
