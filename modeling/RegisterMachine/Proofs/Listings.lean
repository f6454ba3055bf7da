import RegisterMachine.Proofs.Reassembling
import RegisterMachine.Proofs.SourceLines

/-!
# Listings

A listing has one line for each instruction, with the address in front, and no
two programs have the same listing. The addresses can be cut off without
knowing the program, since an address is a run of digits with blanks before it
and one blank after it. What is left is the source text of the program, which
assembles to the program when it names only registers of the machine.

The source text of any program determines it, also when it names registers that
cannot be assembled. A token is known from its spelling, and the spelling of a
token ends before a comma, a blank and a line feed, of which one comes after
every token but a comma.
-/

namespace RegisterMachine

/-! ## Spellings -/

namespace Token

variable {token other : Token}
variable {rest otherRest : List Char}

/-- A token that is not stray is found where its spelling stands alone. -/
theorem lex_spelling
    (notStray : token.isStray = false) :
    lex token.spelling = .ok [token] := by
  have lexed := lex_of_lexeme (precedes_piece notStray (.inr .nil))
  rwa [String.ofList_toList] at lexed

theorem lex_spelling_of_stray
    {place : Register}
    (stray : Register.count ≤ place.number) :
    lex place.spelling = .error (.illegalCharacter 0 'r') := by
  have answer := Scanner.next_of_stray 0 .nowhere stray .nil
  rw [List.append_nil] at answer
  exact lex_of_error .nil answer

theorem exists_of_isStray
    (stray : token.isStray = true) :
    ∃ place, token = .register place ∧ Register.count ≤ place.number := by
  cases token with
  | register place => exact ⟨place, rfl, of_decide_eq_true stray⟩
  | _ => cases stray

theorem isStray_eq_false_of_inRange
    {tokens : List Token}
    (inRange : ∀ place, .register place ∈ tokens → place.number < Register.count) :
    ∀ token ∈ tokens, token.isStray = false := by
  intro token isMember
  cases isStray : token.isStray with
  | false => rfl
  | true =>
      obtain ⟨place, rfl, outOfRange⟩ := exists_of_isStray isStray
      exact absurd (inRange place isMember) (Nat.not_lt.mpr outOfRange)

/-- A token is known from its spelling. -/
theorem spelling_injective : Function.Injective spelling := by
  intro left right same
  cases leftStray : left.isStray <;> cases rightStray : right.isStray
  · have lexed := lex_spelling leftStray
    rw [same, lex_spelling rightStray] at lexed
    cases lexed
    rfl
  · obtain ⟨place, rfl, outOfRange⟩ := exists_of_isStray rightStray
    have lexed := lex_spelling leftStray
    rw [same, spelling, lex_spelling_of_stray outOfRange] at lexed
    cases lexed
  · obtain ⟨place, rfl, outOfRange⟩ := exists_of_isStray leftStray
    have lexed := lex_spelling rightStray
    rw [← same, spelling, lex_spelling_of_stray outOfRange] at lexed
    cases lexed
  · -- The scanner tells no two of these apart, but their digits do.
    obtain ⟨leftPlace, rfl, -⟩ := exists_of_isStray leftStray
    obtain ⟨rightPlace, rfl, -⟩ := exists_of_isStray rightStray
    have chars_eq := congrArg String.toList same
    rw [spelling, spelling, Register.toList_spelling, Register.toList_spelling] at chars_eq
    have number_eq := Decimal.toDigits_injective (List.cons.inj chars_eq).2
    exact congrArg (fun number => Token.register ⟨number⟩) number_eq

/-- No token is spelled with nothing. -/
theorem toList_spelling_ne_nil (token : Token) : token.spelling.toList ≠ [] := by
  intro isEmpty
  have noTokens : lex token.spelling = .ok [] := by
    rw [String.toList_eq_nil_iff.mp isEmpty]
    decide +kernel
  cases isStray : token.isStray with
  | false => cases (lex_spelling isStray).symm.trans noTokens
  | true =>
      obtain ⟨place, rfl, outOfRange⟩ := exists_of_isStray isStray
      cases (lex_spelling_of_stray outOfRange).symm.trans noTokens

/-- The characters that tokens other than the comma are spelled with. -/
def isSpellingChar (c : Char) : Bool :=
  Lexeme.isWordChar c || c = '-'

theorem isSpellingChar_of_isWordChar
    {c : Char}
    (inWord : Lexeme.isWordChar c = true) :
    isSpellingChar c = true := by
  rw [isSpellingChar, inWord, Bool.true_or]

theorem isSpellingChar_of_mem_number
    (word : Word)
    {c : Char}
    (isMember : c ∈ word.text.toList) :
    isSpellingChar c = true := by
  rw [Word.text, Decimal.ofInt, String.toList_ofList] at isMember
  rcases Numeral.isDigit_or_minus_of_mem_chars
    (fun _ => Numeral.isDigit_of_mem_digits_ofInt) isMember with isDigit | rfl
  · exact isSpellingChar_of_isWordChar (Lexeme.isWordChar_of_isDigit isDigit)
  · decide

theorem isSpellingChar_of_mem
    (notComma : token ≠ .comma) :
    ∀ c ∈ token.spelling.toList, isSpellingChar c = true := by
  intro c isMember
  cases token with
  | mnemonic name =>
      exact isSpellingChar_of_isWordChar ((ReservedWord.mnemonic name).isWordChar c isMember)
  | register place =>
      rw [spelling, Register.toList_spelling] at isMember
      rcases List.mem_cons.mp isMember with rfl | inDigits
      · decide
      · exact isSpellingChar_of_isWordChar
          (Lexeme.isWordChar_of_isDigit (Decimal.isDigit_of_mem_toDigits inDigits))
  | number word => exact isSpellingChar_of_mem_number word isMember
  | condition test =>
      exact isSpellingChar_of_isWordChar ((ReservedWord.condition test).isWordChar c isMember)
  | comma => exact absurd rfl notComma

theorem lineFeed_not_mem_spelling (token : Token) : '\n' ∉ token.spelling.toList := by
  intro isMember
  by_cases isComma : token = .comma
  · rw [isComma] at isMember
    exact absurd isMember (by decide)
  · exact absurd (isSpellingChar_of_mem isComma _ isMember) (by decide)

/-- A comma is not taken for the beginning of another token. -/
theorem append_ne_comma
    (notComma : token ≠ .comma) :
    token.spelling.toList ++ rest ≠ Token.comma.spelling.toList ++ otherRest := by
  intro same
  obtain ⟨c, cs, spelled⟩ := List.exists_cons_of_ne_nil token.toList_spelling_ne_nil
  have isSpelled := isSpellingChar_of_mem notComma c (spelled ▸ List.mem_cons_self)
  rw [spelled] at same
  cases same
  exact absurd isSpelled (by decide)

/-- A token is known from its spelling and ends where no such spelling goes on. -/
theorem spelling_append_inj
    (ends : token = .comma ∨ EndsRun isSpellingChar rest)
    (otherEnds : other = .comma ∨ EndsRun isSpellingChar otherRest)
    (same : token.spelling.toList ++ rest = other.spelling.toList ++ otherRest) :
    token = other ∧ rest = otherRest := by
  by_cases isComma : token = .comma <;> by_cases otherComma : other = .comma
  · subst isComma otherComma
    exact ⟨rfl, List.append_cancel_left same⟩
  · subst isComma
    exact absurd same.symm (append_ne_comma otherComma)
  · subst otherComma
    exact absurd same (append_ne_comma isComma)
  · have restEnds := ends.resolve_left isComma
    have otherRestEnds := otherEnds.resolve_left otherComma
    obtain ⟨chars_eq, rest_eq⟩ :=
      restEnds.append_inj otherRestEnds (isSpellingChar_of_mem isComma)
        (isSpellingChar_of_mem otherComma) same
    exact ⟨spelling_injective (String.toList_injective chars_eq), rest_eq⟩

/-- Tokens that can be written one right after the other are known from what is written. -/
theorem eq_of_written_eq
    {tokens others : List Token}
    (separated : tokens.IsChain Apart)
    (othersSeparated : others.IsChain Apart)
    (same : written tokens = written others) :
    tokens = others := by
  have ends
      {first : Token}
      {later : List Token}
      (separated : (first :: later).IsChain Apart) :
      first = .comma ∨ EndsRun isSpellingChar (written later) := by
    have endsBefore : first = .comma ∨ EndsRun isSpellingChar (written later ++ []) :=
      comma_or_endsRun_written (by decide) separated fun _ _ => .inr .nil
    rwa [List.append_nil] at endsBefore
  induction tokens generalizing others with
  | nil =>
      cases others with
      | nil => rfl
      | cons other others =>
          have nothing := List.append_eq_nil_iff.mp same.symm
          exact absurd nothing.1 other.toList_spelling_ne_nil
  | cons token tokens inductionHypothesis =>
      cases others with
      | nil =>
          have nothing := List.append_eq_nil_iff.mp same
          exact absurd nothing.1 token.toList_spelling_ne_nil
      | cons other others =>
          obtain ⟨rfl, later_eq⟩ := spelling_append_inj (ends separated) (ends othersSeparated) same
          rw [inductionHypothesis separated.of_cons othersSeparated.of_cons later_eq]

end Token

namespace Instruction

/-- An instruction is known from its written form. -/
theorem text_injective : Function.Injective text := by
  intro left right same
  have chars_eq := congrArg String.toList same
  rw [toList_text, toList_text] at chars_eq
  have blankEnds (rest : List Char) : EndsRun Token.isSpellingChar (' ' :: rest) :=
    EndsRun.cons_iff.mpr (by decide)
  obtain ⟨name_eq, rest_eq⟩ :=
    @Token.spelling_append_inj (.mnemonic left.mnemonic) (.mnemonic right.mnemonic) _ _
      (.inr (blankEnds _)) (.inr (blankEnds _)) chars_eq
  have operands_eq :=
    Token.eq_of_written_eq left.separated_operandTokens right.separated_operandTokens
      (List.cons.inj rest_eq).2
  apply tokens_injective
  rw [tokens, tokens, name_eq, operands_eq]

/-- An instruction is written on one line. -/
theorem lineFeed_not_mem_text (instruction : Instruction) : '\n' ∉ instruction.text.toList := by
  rw [toList_text, List.mem_append, List.mem_cons]
  rintro (inMnemonic | isBlank | inOperands)
  · exact (Token.mnemonic instruction.mnemonic).lineFeed_not_mem_spelling inMnemonic
  · exact absurd isBlank (by decide)
  · obtain ⟨token, -, inToken⟩ := List.mem_flatMap.mp inOperands
    exact token.lineFeed_not_mem_spelling inToken

end Instruction

/-! ## Lines -/

/-- A line of a listing without the address: the blanks, the digits and one blank are taken off. -/
def withoutAddress (line : List Char) : List Char :=
  ((line.dropWhile (· = ' ')).dropWhile Char.isDigit).drop 1

/-- A listing without the addresses in front of its lines. -/
def withoutAddresses (listing : String) : String :=
  String.ofList (withFeeds ((listing.toList.splitOn '\n').dropLast.map withoutAddress))

namespace Program

/-- The instructions of a program as they are written, one on each line. -/
def textLines (program : Program) : List (List Char) :=
  program.instructions.toList.map fun instruction => instruction.text.toList

/-- The line of an instruction in a listing, without the line feed. -/
def listingRow (address : Nat) (instruction : Instruction) : List Char :=
  (Nat.toDigits 10 address).leftpad addressWidth ' ' ++ ' ' :: instruction.text.toList

/-- The lines of a listing, without the line feeds. -/
def listingRows (program : Program) : List (List Char) :=
  program.instructions.toList.zipIdx.map fun (instruction, address) =>
    listingRow address instruction

theorem text_eq_withFeeds (program : Program) :
    program.text = String.ofList (withFeeds program.textLines) := by
  apply String.toList_injective
  rw [toList_text, Instruction.written, String.toList_ofList, withFeeds, textLines,
    List.flatMap_map]

theorem toList_listing (program : Program) :
    program.listing.toList = withFeeds program.listingRows := by
  have line_eq (address : Nat) (instruction : Instruction) :
      (listingLine address instruction).toList = listingRow address instruction ++ ['\n'] := by
    simp [listingLine, listingRow]
  rw [listing, List.mapIdx_eq_zipIdx_map, String.toList_join, List.flatMap_map, withFeeds,
    listingRows, List.flatMap_map]
  simp only [line_eq]

/-- The written form of its instructions determines a program. -/
theorem textLines_injective : Function.Injective textLines := by
  rintro ⟨⟨left⟩⟩ ⟨⟨right⟩⟩ same
  have line_injective :
      Function.Injective fun instruction : Instruction => instruction.text.toList :=
    fun _ _ same => Instruction.text_injective (String.toList_injective same)
  have instructions_eq : left = right := line_injective.list_map same
  rw [instructions_eq]

/-- An address takes up its width, and more only when it has more digits. -/
theorem leftpad_address (address : Nat) :
    ∃ blanks,
      (Nat.toDigits 10 address).leftpad addressWidth ' ' =
        List.replicate blanks ' ' ++ Nat.toDigits 10 address ∧
      (address < 10000 → blanks + (Nat.toDigits 10 address).length = addressWidth) ∧
      (10000 ≤ address → blanks = 0 ∧ addressWidth < (Nat.toDigits 10 address).length) := by
  have short_iff : (Nat.toDigits 10 address).length ≤ addressWidth ↔ address < 10 ^ addressWidth :=
    Nat.length_toDigits_le_iff (by decide) (by decide)
  rw [show 10 ^ addressWidth = 10000 from rfl] at short_iff
  refine ⟨addressWidth - (Nat.toDigits 10 address).length, rfl, ?_, ?_⟩
  · intro isShort
    exact Nat.sub_add_cancel (short_iff.mpr isShort)
  · intro isLong
    have tooLong := Nat.lt_of_not_le (mt short_iff.mp (Nat.not_lt.mpr isLong))
    exact ⟨Nat.sub_eq_zero_of_le (Nat.le_of_lt tooLong), tooLong⟩

/-- Only the instruction is left of a line without its address. -/
theorem withoutAddress_listingRow
    (address : Nat)
    (instruction : Instruction) :
    withoutAddress (listingRow address instruction) = instruction.text.toList := by
  obtain ⟨blanks, padded_eq, -⟩ := leftpad_address address
  have digitsEnd (rest : List Char) : EndsRun (· = ' ') (Nat.toDigits 10 address ++ rest) := by
    obtain ⟨digit, digits, digits_eq, isDigit⟩ := Decimal.exists_toDigits_eq_cons address
    rw [digits_eq, List.cons_append, EndsRun.cons_iff, decide_eq_false_iff_not]
    rintro rfl
    exact absurd isDigit (by decide)
  have blankEnds (rest : List Char) : EndsRun Char.isDigit (' ' :: rest) :=
    EndsRun.cons_iff.mpr (by decide)
  rw [withoutAddress, listingRow, padded_eq, List.append_assoc,
    (digitsEnd _).dropWhile_append (by simp),
    (blankEnds _).dropWhile_append fun _ => Decimal.isDigit_of_mem_toDigits, List.drop_succ_cons,
    List.drop_zero]

theorem lineFeed_not_mem_listingRow
    (address : Nat)
    (instruction : Instruction) :
    '\n' ∉ listingRow address instruction := by
  have notInDigits : '\n' ∉ Nat.toDigits 10 address := Decimal.not_mem_toDigits (by decide) address
  simp [listingRow, notInDigits, instruction.lineFeed_not_mem_text]

/-- Splitting a listing at its line feeds gives its lines, and nothing comes after the last. -/
theorem splitOn_listing (program : Program) :
    program.listing.toList.splitOn '\n' = program.listingRows ++ [[]] := by
  have unbroken : ∀ row ∈ program.listingRows, '\n' ∉ row := by
    intro row isMember
    obtain ⟨⟨instruction, address⟩, -, rfl⟩ := List.mem_map.mp isMember
    exact lineFeed_not_mem_listingRow address instruction
  have split := splitOn_withFeeds_append unbroken []
  rwa [List.append_nil, ← toList_listing] at split

theorem getElem?_listingRows
    {program : Program}
    {address : Nat}
    {instruction : Instruction}
    (found : program.get? address = some instruction) :
    program.listingRows[address]? = some (listingRow address instruction) := by
  rw [get?, ← Array.getElem?_toList] at found
  rw [listingRows, List.getElem?_map, List.getElem?_zipIdx, found, Nat.zero_add]
  rfl

theorem map_withoutAddress_listingRows (program : Program) :
    program.listingRows.map withoutAddress = program.textLines := by
  have cut_eq :
      (withoutAddress ∘ fun (instruction, address) => listingRow address instruction) =
        (fun instruction : Instruction => instruction.text.toList) ∘ Prod.fst := by
    funext ⟨instruction, address⟩
    exact withoutAddress_listingRow address instruction
  rw [listingRows, List.map_map, cut_eq, ← List.map_map, List.zipIdx_map_fst, textLines]

/-- A listing without its addresses is the source text. -/
theorem withoutAddresses_listing (program : Program) :
    withoutAddresses program.listing = program.text := by
  rw [withoutAddresses, splitOn_listing, List.dropLast_concat, map_withoutAddress_listingRows,
    text_eq_withFeeds]

/-- No two programs have the same listing. -/
theorem listing_injective : Function.Injective listing := by
  intro left right same
  have rows_eq : left.listingRows ++ [[]] = right.listingRows ++ [[]] := by
    rw [← splitOn_listing, ← splitOn_listing, same]
  apply textLines_injective
  rw [← map_withoutAddress_listingRows, ← map_withoutAddress_listingRows,
    List.append_cancel_right rows_eq]

end Program

/-- A listing has one line for each instruction, which is the address, filled up with blanks to
four characters if it has fewer, a blank, and the instruction. No other program has the same
listing. Without the addresses it assembles to the program, if the program names only registers of
the machine. -/
theorem listing_is_uniquely_decodable (program : Program) :
    (∃ lines : List (List Char),
      program.listing.toList.splitOn '\n' = lines ++ [[]] ∧
      lines.length = program.length ∧
      ∀ address instruction, program.get? address = some instruction →
        ∃ blanks,
          lines[address]? =
            some (List.replicate blanks ' ' ++ Nat.toDigits 10 address ++
              ' ' :: instruction.text.toList) ∧
          (address < 10000 → blanks + (Nat.toDigits 10 address).length = 4) ∧
          (10000 ≤ address → blanks = 0 ∧ 4 < (Nat.toDigits 10 address).length)) ∧
    (∀ other : Program, other.listing = program.listing → other = program) ∧
    ((∀ place, .register place ∈ program.flatten → place.number < Register.count) →
      assemble (withoutAddresses program.listing) = .ok program) := by
  refine ⟨⟨program.listingRows, program.splitOn_listing, ?_, ?_⟩, ?_, ?_⟩
  · simp [Program.listingRows, Program.length]
  · intro address instruction found
    obtain ⟨blanks, padded_eq, isShort, isLong⟩ := Program.leftpad_address address
    refine ⟨blanks, ?_, isShort, isLong⟩
    rw [Program.getElem?_listingRows found, Program.listingRow, padded_eq]
  · intro other same
    exact Program.listing_injective same
  · intro inRange
    rw [Program.withoutAddresses_listing]
    apply Program.assemble_text_of_noStray
    rw [← Program.flatten_eq_tokens]
    exact Token.isStray_eq_false_of_inRange inRange

/-- A program that counts a register down and repeats while the register is negative. -/
def descent : Program :=
  .ofList [.arith .sub (.register ⟨15⟩) (.literal 1) ⟨15⟩,
    .jump .negative (.register ⟨15⟩) (.literal (-3))]

/-- The second line of a listing begins with three blanks, and what is left without the addresses
is assembled again. -/
theorem listing_of_descent :
    descent.listing = "   0 SUB r15,1,r15\n   1 JUMP neg,r15,-3\n" ∧
    (descent.listing.toList.splitOn '\n')[1]? = some "   1 JUMP neg,r15,-3".toList ∧
    assemble (withoutAddresses descent.listing) = .ok descent := by
  obtain ⟨⟨lines, split_eq, length_eq, inLines⟩, -, assembled⟩ :=
    listing_is_uniquely_decodable descent
  obtain ⟨blanks, line_eq, isShort, -⟩ := inLines 1 _ rfl
  have blanks_eq : blanks = 3 := by
    have width_eq := isShort (by decide)
    rw [show (Nat.toDigits 10 1).length = 1 from rfl] at width_eq
    omega
  refine ⟨by decide +kernel, ?_, assembled ?_⟩
  · rw [split_eq, List.getElem?_append_left (by rw [length_eq]; decide), line_eq, blanks_eq]
    decide +kernel
  · intro place isNamed
    have isListed : .register place ∈
        [Token.mnemonic (.arith .sub), .register ⟨15⟩, .comma, .number 1, .comma, .register ⟨15⟩,
          .mnemonic .jump, .condition .negative, .comma, .register ⟨15⟩, .comma, .number (-3)] :=
      isNamed
    have place_eq : place = ⟨15⟩ := by simpa using isListed
    rw [place_eq]
    decide

end RegisterMachine
