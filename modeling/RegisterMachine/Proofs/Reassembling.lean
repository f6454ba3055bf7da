import Mathlib.Data.List.Chain
import RegisterMachine.Proofs.Assembling
import RegisterMachine.Proofs.Lexing

/-!
# Assembling the text of a program

The text of a program assembles to the program again, unless the program names a
register that the machine does not have. Such a register is written like any
other, but no reserved word is spelled so, and the text is faulted at the first
one. A program that was assembled from a text names no such register.
-/

namespace RegisterMachine

/-! ## Where tokens are written -/

namespace Token

/-- Whether a token is a register that the machine does not have. -/
def isStray : Token → Bool
  | .register place => decide (Register.count ≤ place.number)
  | _ => false

/-- The characters of some tokens that are written one right after the other. -/
def written (tokens : List Token) : List Char :=
  tokens.flatMap fun token => token.spelling.toList

/-- Tokens that are written one right after the other, with the offset of each. -/
def placed (start : Nat) : List Token → List (Nat × Token)
  | [] => []
  | token :: tokens => (start, token) :: placed (start + token.spelling.length) tokens

@[simp] theorem written_nil : written [] = [] := rfl

@[simp] theorem written_cons
    (token : Token)
    (tokens : List Token) :
    written (token :: tokens) = token.spelling.toList ++ written tokens := rfl

@[simp] theorem written_append
    (before after : List Token) :
    written (before ++ after) = written before ++ written after :=
  List.flatMap_append

@[simp] theorem map_snd_placed
    (start : Nat)
    (tokens : List Token) :
    (placed start tokens).map Prod.snd = tokens := by
  induction tokens generalizing start with
  | nil => rfl
  | cons token tokens inductionHypothesis => simp [placed, inductionHypothesis]

/-- Whatever is stray among tokens is found among them with their offsets. -/
theorem noStray_of_find?_eq_none
    {entries : List (Nat × Token)}
    (notFound : entries.find? (fun entry => entry.2.isStray) = none) :
    ∀ token ∈ entries.map Prod.snd, token.isStray = false := by
  intro token isMember
  obtain ⟨entry, isEntry, rfl⟩ := List.mem_map.mp isMember
  have notStray := List.find?_eq_none.mp notFound entry isEntry
  simpa using notStray

/-- The first token that is stray comes after tokens that are not. -/
theorem exists_split_of_find?
    {start offset : Nat}
    {token : Token}
    {tokens : List Token}
    (found : (placed start tokens).find? (fun entry => entry.2.isStray) = some (offset, token)) :
    ∃ before after,
      tokens = before ++ token :: after ∧
      offset = start + (written before).length ∧
      token.isStray = true ∧
      ∀ other ∈ before, other.isStray = false := by
  induction tokens generalizing start with
  | nil => cases found
  | cons first tokens inductionHypothesis =>
      rcases List.find?_cons_eq_some.mp found with ⟨isStray, entry_eq⟩ | ⟨notStray, foundLater⟩
      · cases entry_eq
        exact ⟨[], tokens, rfl, rfl, isStray, by simp⟩
      · obtain ⟨before, after, rfl, rfl, isStray, noneBefore⟩ := inductionHypothesis foundLater
        refine ⟨first :: before, after, rfl, ?_, isStray, ?_⟩
        · rw [written_cons, List.length_append, String.length_toList, Nat.add_assoc]
        · simpa using ⟨by simpa using notStray, noneBefore⟩

end Token

namespace Instruction

/-- The tokens of an instruction with the offset of each, when the instruction is written from an
offset on. -/
def placedTokens
    (start : Nat)
    (instruction : Instruction) : List (Nat × Token) :=
  (start, .mnemonic instruction.mnemonic) ::
    Token.placed (start + instruction.mnemonic.spelling.length + 1) instruction.operandTokens

@[simp] theorem map_snd_placedTokens
    (start : Nat)
    (instruction : Instruction) :
    (instruction.placedTokens start).map Prod.snd = instruction.tokens := by
  simp [placedTokens, tokens]

/-- The characters of some instructions that are written one on each line. -/
def written (instructions : List Instruction) : List Char :=
  instructions.flatMap fun instruction => instruction.text.toList ++ ['\n']

theorem written_cons
    (instruction : Instruction)
    (instructions : List Instruction) :
    written (instruction :: instructions) =
      instruction.text.toList ++ '\n' :: written instructions := by
  simp [written]

theorem toList_text (instruction : Instruction) :
    instruction.text.toList =
      instruction.mnemonic.spelling.toList ++ ' ' :: Token.written instruction.operandTokens := by
  rw [text, String.toList_append, String.toList_append, String.toList_join, List.flatMap_map,
    List.append_assoc]
  rfl

end Instruction

namespace Program

/-- The tokens of some instructions with the offset of each, when the instructions are written one
on each line from an offset on. -/
def placedAfter (start : Nat) : List Instruction → List (Nat × Token)
  | [] => []
  | instruction :: instructions =>
      instruction.placedTokens start ++
        placedAfter (start + instruction.text.length + 1) instructions

/-- The tokens of a program with the offset of each in the text of the program. -/
def placedTokens (program : Program) : List (Nat × Token) :=
  placedAfter 0 program.instructions.toList

@[simp] theorem map_snd_placedAfter
    (start : Nat)
    (instructions : List Instruction) :
    (placedAfter start instructions).map Prod.snd =
      instructions.flatMap Instruction.tokens := by
  induction instructions generalizing start with
  | nil => rfl
  | cons instruction instructions inductionHypothesis =>
      simp [placedAfter, inductionHypothesis]

theorem map_snd_placedTokens (program : Program) :
    program.placedTokens.map Prod.snd = program.tokens :=
  map_snd_placedAfter 0 program.instructions.toList

theorem toList_text (program : Program) :
    program.text.toList = Instruction.written program.instructions.toList := by
  rw [text, String.toList_join, List.flatMap_map, Instruction.written]
  simp

end Program

/-! ## Written tokens are lexemes -/

namespace Token

/-- The piece of source text that a token is written as. -/
def piece (token : Token) : Piece :=
  ⟨token.spelling.toList, some token⟩

/-- Two tokens that can be written one right after the other. -/
def Apart (left right : Token) : Prop :=
  left = .comma ∨ right = .comma

@[simp] theorem tokens_map_piece (tokens : List Token) :
    Piece.tokens (tokens.map piece) = tokens := by
  induction tokens with
  | nil => rfl
  | cons token tokens inductionHypothesis =>
      rw [List.map_cons, piece, Piece.tokens_cons_lexeme, inductionHypothesis]

theorem flatMap_text_map_piece (tokens : List Token) :
    (tokens.map piece).flatMap Piece.text = written tokens :=
  List.flatMap_map piece Piece.text tokens

variable {token : Token}
variable {tokens : List Token}
variable {rest : List Char}

/-- Every word is written as a number of the language. -/
theorem precedes_piece_number
    (word : Word)
    (ends : EndsRun Char.isDigit rest) :
    (piece (.number word)).Precedes rest := by
  have digits_ne_nil : (Numeral.ofInt word.toInt).digits ≠ [] := by
    cases word.toInt <;> exact Nat.toDigits_ne_nil
  have areDigits : ∀ c ∈ (Numeral.ofInt word.toInt).digits, c.isDigit = true :=
    fun c isMember => Numeral.isDigit_of_mem_digits_ofInt isMember
  have value_eq : (Numeral.ofInt word.toInt).value = word.toInt := Numeral.value_ofInt _
  have lower : -9223372036854775808 ≤ (Numeral.ofInt word.toInt).value := by
    rw [value_eq]
    exact word.le_toInt
  have upper : (Numeral.ofInt word.toInt).value ≤ 9223372036854775807 := by
    rw [value_eq]
    exact Int.le_of_lt_add_one word.toInt_lt
  have precedes := Piece.Precedes.number digits_ne_nil areDigits ends lower upper
  rw [value_eq, Int64.ofInt_toInt] at precedes
  simpa [piece, spelling, Word.text, Decimal.ofInt] using precedes

/-- A token that is not stray is written as a lexeme that denotes it. -/
theorem precedes_piece
    (notStray : token.isStray = false)
    (ends : token = .comma ∨ EndsRun Lexeme.isWordChar rest) :
    token.piece.Precedes rest := by
  rcases ends with rfl | ends
  · exact .comma
  · cases token with
    | mnemonic name => exact .reserved (.mnemonic name) ends
    | register place =>
        have inRange : place.number < 16 := by simpa [isStray] using notStray
        rw [piece, spelling, Register.toList_spelling]
        exact .reserved (.register place.number inRange) ends
    | number word =>
        exact precedes_piece_number word (ends.mono fun c => Lexeme.isWordChar_of_isDigit)
    | condition test => exact .reserved (.condition test) ends
    | comma => exact .comma

/-- What is written after a token ends it, unless it is a comma. -/
theorem comma_or_endsRun_written
    {inClass : Char → Bool}
    (commaEnds : inClass ',' = false)
    (separated : (token :: tokens).IsChain Apart)
    (ends : ∀ last ∈ (token :: tokens).getLast?, last = .comma ∨ EndsRun inClass rest) :
    token = .comma ∨ EndsRun inClass (written tokens ++ rest) := by
  cases tokens with
  | nil => exact ends token rfl
  | cons next tokens =>
      rcases (List.isChain_cons_cons.mp separated).1 with isComma | rfl
      · exact .inl isComma
      · exact .inr (EndsRun.cons_iff.mpr commaEnds)

/-- Tokens that can be written one right after the other are cut where they were put together. -/
theorem cutting_written
    (separated : tokens.IsChain Apart)
    (noStray : ∀ token ∈ tokens, token.isStray = false)
    (ends : ∀ last ∈ tokens.getLast?, last = .comma ∨ EndsRun Lexeme.isWordChar rest) :
    Cutting (written tokens ++ rest) (tokens.map piece) rest := by
  induction tokens with
  | nil => exact .nil
  | cons token tokens inductionHypothesis =>
      rw [written_cons, List.append_assoc, List.map_cons]
      refine Cutting.cons_iff.mpr ⟨written tokens ++ rest, rfl, ?_, ?_⟩
      · exact precedes_piece (noStray token List.mem_cons_self)
          (comma_or_endsRun_written (by decide) separated ends)
      · apply inductionHypothesis separated.of_cons
        · intro other isMember
          exact noStray other (List.mem_cons_of_mem token isMember)
        · intro last isLast
          apply ends
          rw [List.getLast?_cons, Option.mem_def.mp isLast]
          rfl

end Token

namespace Instruction

/-- Operands are written with commas between them. -/
theorem separated_operandTokens (instruction : Instruction) :
    instruction.operandTokens.IsChain Token.Apart := by
  cases instruction <;>
    simp [operandTokens, mnemonic, contents, Contents.tokens, Token.Apart, Slot.token]

/-- A mnemonic and the blank after it are cut off. -/
theorem cutting_mnemonic
    (name : Mnemonic)
    (rest : List Char) :
    Cutting (name.spelling.toList ++ ' ' :: rest)
      [(Token.mnemonic name).piece, ⟨[' '], none⟩] rest := by
  refine Cutting.cons_iff.mpr ⟨' ' :: rest, rfl, ?_, ?_⟩
  · exact Token.precedes_piece rfl (.inr (EndsRun.cons_iff.mpr (by decide)))
  · exact Cutting.cons_iff.mpr ⟨rest, rfl, .blank (.inl rfl), .nil⟩

/-- A line with an instruction that names no stray register is cut into the lexemes of its
tokens. -/
theorem exists_cutting_line
    {instruction : Instruction}
    (noStray : ∀ token ∈ instruction.tokens, token.isStray = false)
    (rest : List Char) :
    ∃ pieces,
      Cutting (instruction.text.toList ++ '\n' :: rest) pieces rest ∧
      Piece.tokens pieces = instruction.tokens := by
  have lineFeed : Cutting ('\n' :: rest) [⟨['\n'], none⟩] rest :=
    Cutting.cons_iff.mpr ⟨rest, rfl, .blank (by simp), .nil⟩
  have operands : Cutting (Token.written instruction.operandTokens ++ '\n' :: rest)
      (instruction.operandTokens.map Token.piece) ('\n' :: rest) :=
    Token.cutting_written instruction.separated_operandTokens
      (fun token isMember => noStray token (List.mem_cons_of_mem _ isMember))
      fun _ _ => .inr (EndsRun.cons_iff.mpr (by decide))
  have line := (cutting_mnemonic instruction.mnemonic _).append (operands.append lineFeed)
  rw [toList_text, List.append_assoc, List.cons_append]
  exact ⟨_, line, by simp [tokens, Token.piece]⟩

end Instruction

/-! ## Stray registers -/

/-- A reserved word that looks like a register is one of the machine. -/
theorem ReservedWord.number_lt
    {number : Nat}
    {token : Token}
    (isReserved : ReservedWord ('r' :: Nat.toDigits 10 number) token) :
    number < 16 := by
  have all : ∀ entry ∈ Token.reservedWords, entry.1.head? = some 'r' →
      ∃ known ∈ List.range 16, entry.1 = 'r' :: Nat.toDigits 10 known := by
    decide
  obtain ⟨known, inRange, word_eq⟩ := all _ (Token.mem_reservedWords_iff.mpr isReserved) rfl
  rw [Decimal.toDigits_injective (List.cons.inj word_eq).2]
  exact List.mem_range.mp inRange

/-- A scanner that stands at a register that the machine does not have meets an illegal
character. -/
theorem Scanner.next_of_stray
    {place : Register}
    {rest : List Char}
    (position : Nat)
    (span : Span)
    (stray : Register.count ≤ place.number)
    (ends : EndsRun Lexeme.isWordChar rest) :
    next ⟨place.spelling.toList ++ rest, position, span⟩ =
      .error (.illegalCharacter position 'r') := by
  have inWord : ∀ c ∈ 'r' :: Nat.toDigits 10 place.number, Lexeme.isWordChar c = true := by
    intro c isMember
    rcases List.mem_cons.mp isMember with rfl | isDigit
    · decide
    · exact Lexeme.isWordChar_of_isDigit (Decimal.isDigit_of_mem_toDigits isDigit)
  have notReserved : Token.ofReserved? ('r' :: Nat.toDigits 10 place.number) = none := by
    cases found : Token.ofReserved? ('r' :: Nat.toDigits 10 place.number) with
    | none => rfl
    | some token =>
        have inRange := (Token.ofReserved?_eq_some_iff.mp found).number_lt
        exact absurd stray (Nat.not_le.mpr inRange)
  have word := ends.takeWhile_append inWord
  have notNumeral : Numeral.leading? ('r' :: (Nat.toDigits 10 place.number ++ rest)) = none := by
    simp [Numeral.leading?, Numeral.ofLeadingDigits?]
  rw [Register.toList_spelling]
  simp only [List.cons_append] at word ⊢
  simp [next, Lexeme.skipTrivia, Lexeme.isBlank, Lexeme.leading, word, notReserved, notNumeral]

/-- A text is cut into pieces up to a register that the machine does not have. -/
def StrayAfter
    (cs : List Char)
    (pieces : List Piece)
    (place : Register) : Prop :=
  Register.count ≤ place.number ∧
    ∃ rest, Cutting cs pieces (place.spelling.toList ++ rest) ∧ EndsRun Lexeme.isWordChar rest

/-- What is cut off in front of a text moves its stray register back. -/
theorem StrayAfter.prepend
    {cs middle : List Char}
    {before pieces : List Piece}
    {place : Register}
    (cutting : Cutting cs before middle)
    (stray : StrayAfter middle pieces place) :
    StrayAfter cs (before ++ pieces) place := by
  obtain ⟨outOfRange, rest, later, ends⟩ := stray
  exact ⟨outOfRange, rest, cutting.append later, ends⟩

/-- The first stray register among tokens that can be written one right after the other comes after
the lexemes of the tokens before it. -/
theorem Token.strayAfter_written
    {before after : List Token}
    {place : Register}
    {rest : List Char}
    (separated : (before ++ .register place :: after).IsChain Apart)
    (noneBefore : ∀ other ∈ before, other.isStray = false)
    (isStray : (Token.register place).isStray = true)
    (restEnds : EndsRun Lexeme.isWordChar rest) :
    StrayAfter (written (before ++ .register place :: after) ++ rest) (before.map piece) place := by
  obtain ⟨beforeSeparated, afterSeparated, joint⟩ := List.isChain_append.mp separated
  -- The register is no comma, so there is a comma in front of it or nothing at all.
  have lastBefore : ∀ last ∈ before.getLast?, last = .comma ∨
      EndsRun Lexeme.isWordChar (place.spelling.toList ++ (written after ++ rest)) := by
    intro last isLast
    rcases joint last isLast (.register place) rfl with isComma | isComma
    · exact .inl isComma
    · cases isComma
  have ends : EndsRun Lexeme.isWordChar (written after ++ rest) := by
    rcases comma_or_endsRun_written (by decide) afterSeparated (fun _ _ => .inr restEnds) with
      isComma | ends
    · cases isComma
    · exact ends
  refine ⟨of_decide_eq_true isStray, written after ++ rest, ?_, ends⟩
  have cutting := cutting_written beforeSeparated noneBefore lastBefore
  simpa [spelling] using cutting

namespace Instruction

/-- The first stray register of an instruction, if it has one, comes after lexemes of the
language. -/
theorem exists_strayAfter_line
    {instruction : Instruction}
    {start offset : Nat}
    {token : Token}
    (rest : List Char)
    (found : (instruction.placedTokens start).find? (fun entry => entry.2.isStray) =
      some (offset, token)) :
    ∃ pieces place more,
      token = .register place ∧
      StrayAfter (instruction.text.toList ++ '\n' :: rest) pieces place ∧
      offset = start + (pieces.flatMap Piece.text).length ∧
      Piece.tokens pieces ++ more = instruction.tokens := by
  rw [placedTokens, List.find?_cons_of_neg (by simp [Token.isStray])] at found
  obtain ⟨before, after, operands_eq, rfl, isStray, noneBefore⟩ :=
    Token.exists_split_of_find? found
  cases token with
  | register place =>
      have separated := instruction.separated_operandTokens
      rw [operands_eq] at separated
      have lineFeedEnds : EndsRun Lexeme.isWordChar ('\n' :: rest) :=
        EndsRun.cons_iff.mpr (by decide)
      have stray := (Token.strayAfter_written separated noneBefore isStray lineFeedEnds).prepend
        (cutting_mnemonic instruction.mnemonic _)
      rw [toList_text, operands_eq, List.append_assoc, List.cons_append]
      refine ⟨_, place, .register place :: after, rfl, stray, ?_, ?_⟩
      · have length_eq := String.length_toList (s := instruction.mnemonic.spelling)
        simp only [List.flatMap_append, List.length_append, Token.flatMap_text_map_piece]
        simp [Token.piece, Token.spelling]
        omega
      · simp [tokens, operands_eq, Token.piece]
  | _ => cases isStray

end Instruction

namespace Program

/-- Instructions that name no stray register are cut into the lexemes of their tokens. -/
theorem exists_cutting_written
    {instructions : List Instruction}
    (noStray : ∀ token ∈ instructions.flatMap Instruction.tokens, token.isStray = false) :
    ∃ pieces,
      Cutting (Instruction.written instructions) pieces [] ∧
      Piece.tokens pieces = instructions.flatMap Instruction.tokens := by
  induction instructions with
  | nil => exact ⟨[], .nil, rfl⟩
  | cons instruction instructions inductionHypothesis =>
      rw [List.flatMap_cons, List.forall_mem_append] at noStray
      obtain ⟨pieces, cutting, tokens_eq⟩ := inductionHypothesis noStray.2
      obtain ⟨linePieces, lineCutting, lineTokens_eq⟩ :=
        Instruction.exists_cutting_line noStray.1 (Instruction.written instructions)
      refine ⟨linePieces ++ pieces, ?_, ?_⟩
      · rw [Instruction.written_cons]
        exact lineCutting.append cutting
      · rw [Piece.tokens_append, lineTokens_eq, tokens_eq, List.flatMap_cons]

/-- The first stray register of some instructions, if they have one, comes after lexemes of the
language. -/
theorem exists_strayAfter_written
    {instructions : List Instruction}
    {start offset : Nat}
    {token : Token}
    (found : (placedAfter start instructions).find? (fun entry => entry.2.isStray) =
      some (offset, token)) :
    ∃ pieces place more,
      token = .register place ∧
      StrayAfter (Instruction.written instructions) pieces place ∧
      offset = start + (pieces.flatMap Piece.text).length ∧
      Piece.tokens pieces ++ more = instructions.flatMap Instruction.tokens := by
  induction instructions generalizing start with
  | nil => cases found
  | cons instruction instructions inductionHypothesis =>
      rw [placedAfter, List.find?_append] at found
      rw [Instruction.written_cons, List.flatMap_cons]
      cases inLine : (instruction.placedTokens start).find? (fun entry => entry.2.isStray) with
      | some entry =>
          rw [inLine] at found
          cases found
          obtain ⟨pieces, place, more, token_eq, stray, offset_eq, tokens_eq⟩ :=
            Instruction.exists_strayAfter_line (Instruction.written instructions) inLine
          refine ⟨pieces, place, more ++ instructions.flatMap Instruction.tokens, token_eq, stray,
            offset_eq, ?_⟩
          rw [← List.append_assoc, tokens_eq]
      | none =>
          rw [inLine, Option.none_or] at found
          obtain ⟨pieces, place, more, token_eq, stray, rfl, tokens_eq⟩ :=
            inductionHypothesis found
          have noStray := Token.noStray_of_find?_eq_none inLine
          rw [Instruction.map_snd_placedTokens] at noStray
          obtain ⟨linePieces, lineCutting, lineTokens_eq⟩ :=
            Instruction.exists_cutting_line noStray (Instruction.written instructions)
          have lengths := congrArg List.length lineCutting.text_eq
          refine ⟨linePieces ++ pieces, place, more, token_eq, stray.prepend lineCutting, ?_, ?_⟩
          · simp only [List.flatMap_append, List.length_append, List.length_cons,
              String.length_toList] at lengths ⊢
            omega
          · rw [Piece.tokens_append, List.append_assoc, tokens_eq, lineTokens_eq]

/-- The text of a program that names no stray register assembles to the program. -/
theorem assemble_text_of_noStray
    {program : Program}
    (noStray : ∀ token ∈ program.tokens, token.isStray = false) :
    assemble program.text = .ok program := by
  obtain ⟨pieces, cutting, tokens_eq⟩ := exists_cutting_written noStray
  rw [← toList_text] at cutting
  rw [assemble_eq_ok_iff_lex, lex_of_cutting cutting, tokens_eq, tokens]

/-- The text of a program that names a stray register is faulted at the first one. -/
theorem assemble_text_of_stray
    {program : Program}
    {start : Nat}
    {token : Token}
    (found : program.placedTokens.find? (fun entry => entry.2.isStray) = some (start, token)) :
    ∃ place,
      token = .register place ∧
      place.spelling.toList <+: program.text.toList.drop start ∧
      assemble program.text = .error (.lexical (.illegalCharacter start 'r')) := by
  obtain ⟨pieces, place, more, token_eq, ⟨outOfRange, rest, cutting, ends⟩, start_eq, tokens_eq⟩ :=
    exists_strayAfter_written found
  rw [← toList_text] at cutting
  rw [Nat.zero_add] at start_eq
  refine ⟨place, token_eq, ⟨rest, ?_⟩, ?_⟩
  · rw [cutting.text_eq, start_eq, List.drop_left]
  · have scannerCutting : Cutting (Scanner.ofSource program.text).rest pieces
        (place.spelling.toList ++ rest) := cutting
    obtain ⟨last, handedOut, answer⟩ :=
      Scanner.exists_handsOut_of_cutting .nowhere scannerCutting
    have viable : Viable (Piece.tokens pieces) :=
      viable_iff.mpr ⟨more, program.instructions.toList, tokens_eq⟩
    rw [Scanner.next_of_stray _ _ outOfRange ends] at answer
    rw [assemble_of_lexical_error handedOut viable answer, start_eq]
    simp [Scanner.ofSource]

end Program

/-- Registers that a text names without error are registers of the machine. -/
theorem Cutting.isStray_eq_false
    {cs rest : List Char}
    {pieces : List Piece}
    (cutting : Cutting cs pieces rest) :
    ∀ token ∈ Piece.tokens pieces, token.isStray = false := by
  induction cutting with
  | nil => simp
  | cons precedes _ inductionHypothesis =>
      cases precedes with
      | blank _ => simpa using inductionHypothesis
      | comment _ _ => simpa using inductionHypothesis
      | reserved isReserved _ =>
          rw [Piece.tokens_cons_lexeme, List.forall_mem_cons]
          refine ⟨?_, inductionHypothesis⟩
          cases isReserved with
          | mnemonic name => rfl
          | register number inRange =>
              exact decide_eq_false (Nat.not_le.mpr inRange)
          | condition test => rfl
      | number _ _ _ _ _ =>
          rw [Piece.tokens_cons_lexeme, List.forall_mem_cons]
          exact ⟨rfl, inductionHypothesis⟩
      | comma =>
          rw [Piece.tokens_cons_lexeme, List.forall_mem_cons]
          exact ⟨rfl, inductionHypothesis⟩

/-- The text of a program assembles to the program when every register that it names is one of the
machine, as it is when the program was itself assembled. Otherwise the text is faulted at the first
register that is not. -/
theorem assemble_text (program : Program) :
    program.placedTokens.map Prod.snd = program.flatten ∧
    ((∀ place, .register place ∈ program.flatten → place.number < Register.count) →
      assemble program.text = .ok program) ∧
    (∀ stray, .register stray ∈ program.flatten → Register.count ≤ stray.number →
      ∃ start place error,
        program.placedTokens.find? (fun entry => entry.2.isStray) =
          some (start, .register place) ∧
        place.spelling.toList <+: program.text.toList.drop start ∧
        assemble program.text = .error error ∧
        error.report.kind = .illegalCharacter ∧
        error.report.span = ⟨start, start + 1⟩) ∧
    (∀ source, assemble source = .ok program → assemble program.text = .ok program) := by
  rw [Program.flatten_eq_tokens]
  refine ⟨program.map_snd_placedTokens, ?_, ?_, ?_⟩
  · intro inRange
    apply Program.assemble_text_of_noStray
    intro token isMember
    cases token with
    | register place => exact decide_eq_false (Nat.not_le.mpr (inRange place isMember))
    | _ => rfl
  · intro stray isNamed outOfRange
    cases search : program.placedTokens.find? (fun entry => entry.2.isStray) with
    | none =>
        have noStray := Token.noStray_of_find?_eq_none search
        rw [Program.map_snd_placedTokens] at noStray
        exact absurd outOfRange (of_decide_eq_false (noStray _ isNamed))
    | some entry =>
        obtain ⟨start, token⟩ := entry
        obtain ⟨place, rfl, spelled, failed⟩ := Program.assemble_text_of_stray search
        exact ⟨start, place, _, rfl, spelled, failed, rfl, rfl⟩
  · intro source assembled
    obtain ⟨pieces, cutting, tokens_eq⟩ :=
      exists_cutting_of_lex (assemble_eq_ok_iff_lex.mp assembled)
    apply Program.assemble_text_of_noStray
    rw [← tokens_eq]
    exact cutting.isStray_eq_false

/-- A text is read again up to the last register of the machine and no further. -/
theorem assemble_text_up_to_last_register :
    assemble (Program.ofList [.read ⟨15⟩]).text = .ok (.ofList [.read ⟨15⟩]) ∧
      ∃ error,
        assemble (Program.ofList [.read ⟨15⟩, .copy (.literal (-1)) ⟨16⟩]).text =
          .error error ∧
        error.report.span = ⟨15, 16⟩ := by
  obtain ⟨-, reassembled, -, -⟩ := assemble_text (.ofList [.read ⟨15⟩])
  obtain ⟨-, -, faulted, -⟩ := assemble_text (.ofList [.read ⟨15⟩, .copy (.literal (-1)) ⟨16⟩])
  obtain ⟨start, place, error, found, -, failed, -, span_eq⟩ :=
    faulted ⟨16⟩ (by decide) (by decide)
  have first : (Program.ofList [.read ⟨15⟩, .copy (.literal (-1)) ⟨16⟩]).placedTokens.find?
      (fun entry => entry.2.isStray) = some (15, .register ⟨16⟩) := by
    decide +kernel
  cases first.symm.trans found
  refine ⟨reassembled ?_, error, failed, span_eq⟩
  intro place isNamed
  have isListed : .register place ∈ [Token.mnemonic .read, .register ⟨15⟩] := isNamed
  have place_eq : place = ⟨15⟩ := by simpa using isListed
  rw [place_eq]
  decide

end RegisterMachine
