import RegisterMachine.Proofs.InputIntegers
import RegisterMachine.Proofs.Lexing

/-!
# Integers in a source text and on a line

A source text and a line of input spell an integer in nearly the same way. Only
the reader of lines takes a plus sign and every kind of white space, and only
the scanner takes comments. On a text without any of these the two agree: both
find one integer exactly when the text is the numeral of a word with blanks
around it.
-/

namespace RegisterMachine

/-- A text is the numeral of a word with blanks around it. -/
def NumeralAmongBlanks (cs : List Char) (word : Word) : Prop :=
  ∃ before numeral after,
    cs = before ++ Numeral.chars numeral ++ after ∧
    (∀ c ∈ before, Lexeme.isBlank c = true) ∧
    (∀ c ∈ after, Lexeme.isBlank c = true) ∧
    AreDigits numeral.digits ∧
    numeral.value = word.toInt

/-! ## Blanks -/

theorem Lexeme.whiteSpace_of_isBlank
    {c : Char}
    (blank : isBlank c = true) :
    Text.whiteSpace.contains c = true := by
  rcases isBlank_iff.mp blank with rfl | rfl | rfl | rfl <;> decide

/-- What is blank ends a run of digits. -/
theorem EndsRun.isDigit_of_blanks
    {blanks : List Char}
    (areBlanks : ∀ c ∈ blanks, Lexeme.isBlank c = true) :
    EndsRun Char.isDigit blanks := by
  intro c isHead
  rcases Lexeme.isBlank_iff.mp (areBlanks c (List.mem_of_mem_head? isHead)) with
    rfl | rfl | rfl | rfl <;> decide

namespace Cutting

variable {cs rest : List Char}
variable {pieces : List Piece}

/-- Trivia in a text without comments is made of blanks. -/
theorem exists_blanks
    (cutting : Cutting cs pieces rest)
    (trivia : Piece.tokens pieces = [])
    (noComment : '#' ∉ cs) :
    ∃ blanks, cs = blanks ++ rest ∧ ∀ c ∈ blanks, Lexeme.isBlank c = true := by
  induction cutting with
  | nil => exact ⟨[], rfl, by simp⟩
  | @cons piece pieces middle rest precedes _ inductionHypothesis =>
      rw [List.mem_append, not_or] at noComment
      obtain ⟨text, token?⟩ := piece
      cases token? with
      | some token => cases trivia
      | none =>
          obtain ⟨blanks, rfl, areBlanks⟩ := inductionHypothesis trivia noComment.2
          cases precedes with
          | @blank c _ isBlank =>
              refine ⟨c :: blanks, rfl, ?_⟩
              exact List.forall_mem_cons.mpr ⟨Lexeme.isBlank_iff.mpr isBlank, areBlanks⟩
          | comment => exact absurd List.mem_cons_self noComment.1

end Cutting

/-! ## The scanner -/

/-- A text whose only token is a number is a numeral among blanks. -/
theorem numeralAmongBlanks_of_lex
    {source : String}
    {word : Word}
    (noComment : '#' ∉ source.toList)
    (lexed : lex source = .ok [.number word]) :
    NumeralAmongBlanks source.toList word := by
  obtain ⟨last, final, handedOut, ended⟩ := lex_eq_ok_iff.mp lexed
  obtain ⟨_, first, nothingElse⟩ := Scanner.HandsOut.cons_iff.mp handedOut
  rw [Scanner.HandsOut.nil_iff.mp nothingElse] at first
  obtain ⟨trivia, text, cutting, isTrivia, precedes, -⟩ := Scanner.exists_cutting_of_next first
  obtain ⟨laterTrivia, laterCutting, laterIsTrivia⟩ := Scanner.exists_cutting_of_end ended
  obtain ⟨before, source_eq, beforeBlank⟩ := cutting.exists_blanks isTrivia noComment
  have source_eq : source.toList = before ++ (text ++ last.rest) := source_eq
  have laterNoComment : '#' ∉ last.rest := by
    intro isMember
    apply noComment
    rw [source_eq]
    exact List.mem_append_right _ (List.mem_append_right _ isMember)
  obtain ⟨blanks, rest_eq, afterBlank⟩ := laterCutting.exists_blanks laterIsTrivia laterNoComment
  rw [List.append_nil] at rest_eq
  rw [rest_eq, ← List.append_assoc] at source_eq
  cases precedes with
  | reserved isReserved _ => cases isReserved
  | @number numeral _ nonempty areDigits _ lower upper =>
      refine
        ⟨before, numeral, blanks, source_eq, beforeBlank, afterBlank, ⟨nonempty, areDigits⟩, ?_⟩
      exact (Word.toInt_ofInt_of_inRange ⟨lower, upper⟩).symm

/-- The only token of a numeral among blanks is its number. -/
theorem NumeralAmongBlanks.lex_eq
    {source : String}
    {word : Word}
    (isNumeral : NumeralAmongBlanks source.toList word) :
    lex source = .ok [.number word] := by
  obtain ⟨before, numeral, after, source_eq, beforeBlank, afterBlank, areDigits, value_eq⟩ :=
    isNumeral
  have lower : -9223372036854775808 ≤ numeral.value := value_eq ▸ word.le_toInt
  have upper : numeral.value ≤ 9223372036854775807 :=
    value_eq ▸ Int.le_of_lt_add_one word.toInt_lt
  have precedes : Piece.Precedes ⟨numeral.chars, some (.number word)⟩ after := by
    have isNumber := Piece.Precedes.number areDigits.1 areDigits.2
      (EndsRun.isDigit_of_blanks afterBlank) lower upper
    rwa [value_eq, Int64.ofInt_toInt] at isNumber
  obtain ⟨trivia, cutting, isTrivia⟩ :=
    Cutting.exists_of_blanks beforeBlank (numeral.chars ++ after)
  obtain ⟨laterTrivia, laterCutting, laterIsTrivia⟩ := Cutting.exists_of_blanks afterBlank []
  rw [List.append_nil] at laterCutting
  have whole :
      Cutting source.toList
        (trivia ++ ⟨numeral.chars, some (.number word)⟩ :: laterTrivia) [] := by
    rw [source_eq, List.append_assoc]
    exact cutting.append (.cons precedes laterCutting)
  rw [lex_of_cutting whole, Piece.tokens_append, isTrivia, Piece.tokens_cons_lexeme, laterIsTrivia,
    List.nil_append]

/-! ## The reader of lines -/

/-- A line that is an integer is a numeral among blanks, unless it has a plus sign or white space
that is not blank. -/
theorem numeralAmongBlanks_of_parseInteger
    {line : String}
    {word : Word}
    (noPlus : '+' ∉ line.toList)
    (spacesBlank : ∀ c ∈ line.toList, Text.whiteSpace.contains c = true → Lexeme.isBlank c = true)
    (isInteger : parseInteger line = .ok word) :
    NumeralAmongBlanks line.toList word := by
  have isDecimal := parseInteger_eq_ok_iff_signedDecimal.mp isInteger
  obtain ⟨-, -, before, after, line_eq, beforeSpace, afterSpace⟩ :=
    Text.trims_trim Text.whiteSpace line.toList
  generalize Text.trim Text.whiteSpace line.toList = body at isDecimal line_eq
  have beforeBlank : ∀ c ∈ before, Lexeme.isBlank c = true := by
    intro c isMember
    refine spacesBlank c ?_ (beforeSpace c isMember)
    rw [line_eq]
    exact List.mem_append_left _ (List.mem_append_left _ isMember)
  have afterBlank : ∀ c ∈ after, Lexeme.isBlank c = true := by
    intro c isMember
    refine spacesBlank c ?_ (afterSpace c isMember)
    rw [line_eq]
    exact List.mem_append_right _ isMember
  have isNumeral :
      ∃ numeral, body = Numeral.chars numeral ∧ AreDigits numeral.digits ∧
        numeral.value = word.toInt := by
    generalize word.toInt = n at isDecimal ⊢
    cases isDecimal with
    | unsigned areDigits => exact ⟨⟨false, _⟩, rfl, areDigits, rfl⟩
    | minus areDigits => exact ⟨⟨true, _⟩, rfl, areDigits, rfl⟩
    | plus _ =>
        exfalso
        apply noPlus
        rw [line_eq]
        exact List.mem_append_left _ (List.mem_append_right _ List.mem_cons_self)
  obtain ⟨numeral, rfl, areDigits, value_eq⟩ := isNumeral
  exact ⟨before, numeral, after, line_eq, beforeBlank, afterBlank, areDigits, value_eq⟩

/-- A numeral among blanks is an integer. -/
theorem NumeralAmongBlanks.parseInteger_eq
    {line : String}
    {word : Word}
    (isNumeral : NumeralAmongBlanks line.toList word) :
    parseInteger line = .ok word := by
  obtain ⟨before, numeral, after, line_eq, beforeBlank, afterBlank, areDigits, value_eq⟩ :=
    isNumeral
  have isDecimal := Numeral.signedDecimal_chars areDigits
  rw [value_eq] at isDecimal
  apply parseInteger_of_signedDecimal line_eq _ _ isDecimal
  · exact fun c isMember => Lexeme.whiteSpace_of_isBlank (beforeBlank c isMember)
  · exact fun c isMember => Lexeme.whiteSpace_of_isBlank (afterBlank c isMember)

/-- On a text without plus signs, comments and white space that is not blank, the scanner finds one
number and nothing else exactly when the reader of lines finds this number. -/
theorem lex_number_iff_parseInteger
    (text : String)
    (noPlus : '+' ∉ text.toList)
    (noComment : '#' ∉ text.toList)
    (spacesBlank :
      ∀ c ∈ text.toList, Text.whiteSpace.contains c = true →
        c = ' ' ∨ c = '\t' ∨ c = '\n' ∨ c = '\r')
    (word : Word) :
    lex text = .ok [.number word] ↔ parseInteger text = .ok word := by
  constructor
  · intro lexed
    exact (numeralAmongBlanks_of_lex noComment lexed).parseInteger_eq
  · intro isInteger
    apply (numeralAmongBlanks_of_parseInteger noPlus _ isInteger).lex_eq
    intro c isMember isSpace
    exact Lexeme.isBlank_iff.mpr (spacesBlank c isMember isSpace)

/-- Both read the least word with zeros in front and blanks around it. -/
theorem least_word_among_blanks :
    parseInteger "\r\n -009223372036854775808\t" = .ok (-9223372036854775808) ∧
      lex "\r\n -009223372036854775808\t" = .ok [.number (-9223372036854775808)] := by
  have isInteger : parseInteger "\r\n -009223372036854775808\t" = .ok (-9223372036854775808) := by
    decide +kernel
  refine ⟨isInteger, (lex_number_iff_parseInteger _ ?_ ?_ ?_ _).mpr isInteger⟩
  · decide
  · decide
  · rw [← List.forall_iff_forall_mem]
    decide

end RegisterMachine
