import RegisterMachine.Assembly.Lexeme

/-!
# The lexical grammar

A source text is cut into pieces. A piece is trivia, which means nothing, or a
lexeme, which denotes a token. Whether a piece may stand somewhere depends on
the character that follows it: a reserved word must not be followed by a word
character, the digits of a number must not be followed by a digit, and a comment
goes on to the end of its line.

The grammar is stated without reference to the scanner. The module then compares
its lexemes with those that `Lexeme.leading` finds at the head of a text.
-/

namespace RegisterMachine

/-- A text that does not begin with a character of a class, so that a run of the class ends
before it. -/
def EndsRun
    (inClass : Char → Bool)
    (rest : List Char) : Prop :=
  ∀ c ∈ rest.head?, inClass c = false

namespace EndsRun

variable {inClass : Char → Bool}

theorem nil : EndsRun inClass [] := by
  simp [EndsRun]

theorem cons_iff
    {c : Char}
    {cs : List Char} :
    EndsRun inClass (c :: cs) ↔ inClass c = false := by
  simp [EndsRun]

/-- A smaller class has ended where a larger one has. -/
theorem mono
    {smaller larger : Char → Bool}
    {rest : List Char}
    (included : ∀ c, smaller c = true → larger c = true)
    (ends : EndsRun larger rest) :
    EndsRun smaller rest := by
  intro c isHead
  cases inSmaller : smaller c with
  | false => rfl
  | true =>
      have notLarger := ends c isHead
      rw [included c inSmaller] at notLarger
      cases notLarger

/-- What is left after a run does not begin with a character of the class. -/
theorem dropWhile (cs : List Char) :
    EndsRun inClass (cs.dropWhile inClass) := by
  intro c isHead
  have notInClass := List.head?_dropWhile_not inClass cs
  rw [Option.mem_def.mp isHead] at notInClass
  exact notInClass

/-- The run at the head of a text is found by looking for its end. -/
theorem takeWhile_append
    {run rest : List Char}
    (ends : EndsRun inClass rest)
    (inRun : ∀ c ∈ run, inClass c = true) :
    (run ++ rest).takeWhile inClass = run := by
  rw [List.takeWhile_append_of_pos inRun]
  cases rest with
  | nil => simp
  | cons c cs => simp [cons_iff.mp ends]

theorem dropWhile_eq_self
    {cs : List Char}
    (ends : EndsRun inClass cs) :
    cs.dropWhile inClass = cs := by
  cases cs with
  | nil => rfl
  | cons c cs => simp [cons_iff.mp ends]

theorem dropWhile_append
    {run rest : List Char}
    (ends : EndsRun inClass rest)
    (inRun : ∀ c ∈ run, inClass c = true) :
    (run ++ rest).dropWhile inClass = rest := by
  rw [List.dropWhile_append_of_pos inRun, ends.dropWhile_eq_self]

/-- Where a run ends is known from the whole text. -/
theorem append_inj
    {left right leftRest rightRest : List Char}
    (leftEnds : EndsRun inClass leftRest)
    (rightEnds : EndsRun inClass rightRest)
    (inLeft : ∀ c ∈ left, inClass c = true)
    (inRight : ∀ c ∈ right, inClass c = true)
    (same : left ++ leftRest = right ++ rightRest) :
    left = right ∧ leftRest = rightRest := by
  have run_eq : left = right := by
    rw [← leftEnds.takeWhile_append inLeft, same, rightEnds.takeWhile_append inRight]
  subst run_eq
  exact ⟨rfl, List.append_cancel_left same⟩

/-- Every text is a run followed by a text that ends it. -/
theorem exists_run
    (inClass : Char → Bool)
    (cs : List Char) :
    ∃ run rest, cs = run ++ rest ∧ (∀ c ∈ run, inClass c = true) ∧ EndsRun inClass rest := by
  refine ⟨cs.takeWhile inClass, cs.dropWhile inClass, ?_, ?_, dropWhile cs⟩
  · exact List.takeWhile_append_dropWhile.symm
  · exact List.all_eq_true.mp List.all_takeWhile

end EndsRun

/-- The reserved words with the tokens they denote. -/
inductive ReservedWord : List Char → Token → Prop
  | mnemonic (name : Mnemonic) :
      ReservedWord name.spelling.toList (.mnemonic name)
  | register (number : Nat) :
      number < 16 → ReservedWord ('r' :: Nat.toDigits 10 number) (.register ⟨number⟩)
  | condition (test : Condition) :
      ReservedWord test.spelling.toList (.condition test)

/-- A stretch of source text, with the token that it denotes unless it is trivia. -/
structure Piece where
  text : List Char
  token? : Option Token
  deriving DecidableEq

namespace Piece

/-- The pieces of the language, each with the texts that it can stand before. -/
inductive Precedes : Piece → List Char → Prop
  | blank {c : Char} {rest : List Char} :
      c = ' ' ∨ c = '\t' ∨ c = '\n' ∨ c = '\r' →
      Precedes ⟨[c], none⟩ rest
  | comment {body rest : List Char} :
      '\n' ∉ body →
      EndsRun (· ≠ '\n') rest →
      Precedes ⟨'#' :: body, none⟩ rest
  | reserved {word rest : List Char} {token : Token} :
      ReservedWord word token →
      EndsRun Lexeme.isWordChar rest →
      Precedes ⟨word, some token⟩ rest
  | number {numeral : Numeral} {rest : List Char} :
      numeral.digits ≠ [] →
      (∀ c ∈ numeral.digits, c.isDigit = true) →
      EndsRun Char.isDigit rest →
      -9223372036854775808 ≤ numeral.value →
      numeral.value ≤ 9223372036854775807 →
      Precedes ⟨numeral.chars, some (.number (Int64.ofInt numeral.value))⟩ rest
  | comma {rest : List Char} :
      Precedes ⟨[','], some .comma⟩ rest

/-- The tokens that some pieces denote, in order. -/
def tokens (pieces : List Piece) : List Token :=
  pieces.filterMap token?

end Piece

/-- A text is cut into pieces up to a rest. -/
inductive Cutting : List Char → List Piece → List Char → Prop
  | nil {rest : List Char} : Cutting rest [] rest
  | cons {piece : Piece} {pieces : List Piece} {middle rest : List Char} :
      piece.Precedes middle →
      Cutting middle pieces rest →
      Cutting (piece.text ++ middle) (piece :: pieces) rest

/-! ## Reserved words -/

theorem Register.toList_spelling (place : Register) :
    place.spelling.toList = 'r' :: Nat.toDigits 10 place.number := by
  simp [spelling, Decimal.ofNat]

namespace Token

theorem mem_reservedWords_iff
    {word : List Char}
    {token : Token} :
    (word, token) ∈ reservedWords ↔ ReservedWord word token := by
  constructor
  · intro isMember
    obtain ⟨listed, isListed, entry_eq⟩ := List.mem_map.mp isMember
    cases entry_eq
    simp only [reserved, List.mem_append, List.mem_map] at isListed
    rcases isListed with (⟨name, -, rfl⟩ | ⟨place, isRegister, rfl⟩) | ⟨test, -, rfl⟩
    · exact .mnemonic name
    · obtain ⟨number, inRange, rfl⟩ := List.mem_map.mp isRegister
      rw [spelling, Register.toList_spelling]
      exact .register number (List.mem_range.mp inRange)
    · exact .condition test
  · intro isReserved
    cases isReserved with
    | mnemonic name =>
        exact List.mem_map.mpr ⟨.mnemonic name, by simp [reserved, Mnemonic.mem_all], rfl⟩
    | register number inRange =>
        have all : ∀ number < 16,
            ('r' :: Nat.toDigits 10 number, Token.register ⟨number⟩) ∈ reservedWords := by
          decide
        exact all number inRange
    | condition test => cases test <;> decide

/-- Looking a word up finds exactly the reserved words. -/
theorem ofReserved?_eq_some_iff
    {word : List Char}
    {token : Token} :
    ofReserved? word = some token ↔ ReservedWord word token := by
  rw [← mem_reservedWords_iff]
  constructor
  · intro found
    obtain ⟨before, after, listed, -⟩ := List.lookup_eq_some_iff.mp found
    rw [listed]
    exact List.mem_append_right before List.mem_cons_self
  · intro isMember
    -- No word is listed twice, so the first entry of a word is its only one.
    have all : ∀ entry ∈ reservedWords, reservedWords.lookup entry.1 = some entry.2 := by
      decide
    exact all _ isMember

end Token

namespace ReservedWord

variable {word : List Char}
variable {token : Token}

/-- A reserved word is made of word characters. -/
theorem isWordChar
    (isReserved : ReservedWord word token) :
    ∀ c ∈ word, Lexeme.isWordChar c = true := by
  have all : ∀ entry ∈ Token.reservedWords, entry.1.all Lexeme.isWordChar = true := by
    decide
  exact List.all_eq_true.mp (all _ (Token.mem_reservedWords_iff.mpr isReserved))

/-- A reserved word begins with a letter, which is neither a digit nor the beginning of trivia. -/
theorem exists_head
    (isReserved : ReservedWord word token) :
    ∃ c cs, word = c :: cs ∧
      c.isDigit = false ∧ Lexeme.isBlank c = false ∧ c ≠ '#' := by
  have all : ∀ entry ∈ Token.reservedWords,
      entry.1.head?.any (fun c => !c.isDigit && !Lexeme.isBlank c && c != '#') = true := by
    decide
  have headFacts := all _ (Token.mem_reservedWords_iff.mpr isReserved)
  cases word with
  | nil => cases headFacts
  | cons c cs => exact ⟨c, cs, rfl, by simpa [and_assoc] using headFacts⟩

end ReservedWord

/-! ## Numerals -/

namespace Decimal

theorem isDigit_of_mem_toDigits
    {number : Nat}
    {c : Char}
    (isMember : c ∈ Nat.toDigits 10 number) :
    c.isDigit = true :=
  Nat.isDigit_of_mem_toDigits (by decide) (by decide) isMember

theorem exists_toDigits_eq_cons (number : Nat) :
    ∃ digit digits, Nat.toDigits 10 number = digit :: digits ∧ digit.isDigit = true := by
  obtain ⟨digit, digits, digits_eq⟩ :=
    List.exists_cons_of_ne_nil (Nat.toDigits_ne_nil (b := 10) (n := number))
  exact ⟨digit, digits, digits_eq, isDigit_of_mem_toDigits (digits_eq ▸ List.mem_cons_self)⟩

theorem not_mem_toDigits
    {c : Char}
    (notDigit : c.isDigit = false)
    (number : Nat) :
    c ∉ Nat.toDigits 10 number := by
  intro isMember
  rw [isDigit_of_mem_toDigits isMember] at notDigit
  cases notDigit

theorem toDigits_injective : Function.Injective (Nat.toDigits 10) := by
  intro left right same
  have number_eq := congrArg (fun digits => Nat.ofDigitChars 10 digits 0) same
  simpa only [Nat.ofDigitChars_ten_toDigits] using number_eq

/-- A number is known from its digits, which end before anything that is not a digit. -/
theorem toDigits_append_inj
    {left right : Nat}
    {leftRest rightRest : List Char}
    (leftEnds : EndsRun Char.isDigit leftRest)
    (rightEnds : EndsRun Char.isDigit rightRest)
    (same : Nat.toDigits 10 left ++ leftRest = Nat.toDigits 10 right ++ rightRest) :
    left = right ∧ leftRest = rightRest := by
  obtain ⟨digits_eq, rest_eq⟩ :=
    leftEnds.append_inj rightEnds (fun _ => isDigit_of_mem_toDigits)
      (fun _ => isDigit_of_mem_toDigits) same
  exact ⟨toDigits_injective digits_eq, rest_eq⟩

end Decimal

namespace Numeral

theorem isDigit_or_minus_of_mem_chars
    {numeral : Numeral}
    {c : Char}
    (areDigits : ∀ c ∈ numeral.digits, c.isDigit = true)
    (isMember : c ∈ numeral.chars) :
    c.isDigit = true ∨ c = '-' := by
  rw [chars] at isMember
  split at isMember
  · rcases List.mem_cons.mp isMember with isMinus | inDigits
    · exact .inr isMinus
    · exact .inl (areDigits c inDigits)
  · exact .inl (areDigits c isMember)

theorem ofLeadingDigits?_eq_some_iff
    {negative : Bool}
    {cs : List Char}
    {numeral : Numeral} :
    ofLeadingDigits? negative cs = some numeral ↔
      numeral.negative = negative ∧
      numeral.digits ≠ [] ∧
      (∀ c ∈ numeral.digits, c.isDigit = true) ∧
      ∃ rest, cs = numeral.digits ++ rest ∧ EndsRun Char.isDigit rest := by
  obtain ⟨run, rest, rfl, areDigits, ends⟩ := EndsRun.exists_run Char.isDigit cs
  rw [ofLeadingDigits?, ends.takeWhile_append areDigits]
  constructor
  · intro found
    cases run with
    | nil => cases found
    | cons digit digits =>
        cases found
        exact ⟨rfl, by simp, areDigits, rest, rfl, ends⟩
  · rintro ⟨rfl, nonempty, areDigits', rest', same, ends'⟩
    have digits_eq : run = numeral.digits := by
      rw [← ends.takeWhile_append areDigits, same, ends'.takeWhile_append areDigits']
    rw [digits_eq]
    obtain ⟨negative, digits⟩ := numeral
    cases digits with
    | nil => exact absurd rfl nonempty
    | cons digit digits => rfl

/-- The numeral at the head of a text takes in all the digits there are. -/
theorem leading?_eq_some_iff
    {cs : List Char}
    {numeral : Numeral} :
    leading? cs = some numeral ↔
      numeral.digits ≠ [] ∧
      (∀ c ∈ numeral.digits, c.isDigit = true) ∧
      ∃ rest, cs = numeral.chars ++ rest ∧ EndsRun Char.isDigit rest := by
  obtain ⟨negative, digits⟩ := numeral
  cases cs with
  | nil =>
      cases negative with
      | true => simp [leading?, chars]
      | false =>
          simp only [leading?, chars]
          constructor
          · simp
          · rintro ⟨nonempty, -, rest, same, -⟩
            exact absurd (List.append_eq_nil_iff.mp same.symm).1 nonempty
  | cons c cs =>
      by_cases minus : c = '-'
      · simp only [leading?, minus, if_true, ofLeadingDigits?_eq_some_iff, chars]
        cases negative with
        | true => simp
        | false =>
            constructor
            · simp
            · rintro ⟨nonempty, areDigits, rest, same, -⟩
              cases digits with
              | nil => exact absurd rfl nonempty
              | cons digit digits =>
                  cases same
                  exact absurd (areDigits '-' List.mem_cons_self) (by decide)
      · simp only [leading?, minus, if_false, ofLeadingDigits?_eq_some_iff, chars]
        cases negative with
        | false => simp
        | true => simp [minus]

end Numeral

/-! ## The lexeme at the head of a text -/

theorem Text.inRanges_cons_of_mem
    {point first last : Nat}
    {later : List (Nat × Nat)}
    (lower : first ≤ point)
    (upper : point ≤ last) :
    Text.inRanges point ((first, last) :: later) = true := by
  simp [Text.inRanges, lower, upper]

namespace Lexeme

variable {position : Nat}
variable {c : Char}
variable {cs : List Char}

theorem isBlank_iff :
    isBlank c = true ↔ c = ' ' ∨ c = '\t' ∨ c = '\n' ∨ c = '\r' := by
  simp [isBlank, or_assoc]

theorem isWordChar_of_isDigit
    (isDigit : c.isDigit = true) :
    isWordChar c = true := by
  have inRange : 0x30 ≤ c.toNat ∧ c.toNat ≤ 0x39 := by
    simpa [Char.isDigit, UInt32.le_iff_toNat_le] using isDigit
  have isAlphanumeric : Text.alphanumeric.contains c = true :=
    Text.inRanges_cons_of_mem inRange.1 inRange.2
  simp [isWordChar, isAlphanumeric]

theorem isBlank_of_isWordChar
    (inWord : isWordChar c = true) :
    isBlank c = false := by
  cases blank : isBlank c with
  | false => rfl
  | true =>
      rcases isBlank_iff.mp blank with rfl | rfl | rfl | rfl <;> exact absurd inWord (by decide)

/-- No reserved word begins with a digit, and none is empty. -/
theorem ofReserved?_eq_none
    (notLetter : c.isDigit = true ∨ isWordChar c = false) :
    Token.ofReserved? ((c :: cs).takeWhile isWordChar) = none := by
  cases found : Token.ofReserved? ((c :: cs).takeWhile isWordChar) with
  | none => rfl
  | some token =>
      obtain ⟨first, others, word_eq, notDigit, -⟩ :=
        (Token.ofReserved?_eq_some_iff.mp found).exists_head
      rcases notLetter with isDigit | notWordChar
      · have wordChar := isWordChar_of_isDigit isDigit
        rw [List.takeWhile_cons_of_pos wordChar] at word_eq
        cases word_eq
        rw [isDigit] at notDigit
        cases notDigit
      · rw [List.takeWhile_cons_of_neg (by simp [notWordChar])] at word_eq
        cases word_eq

/-- A lexeme of the grammar is found. -/
theorem leading_of_precedes
    (position : Nat)
    {text rest : List Char}
    {token : Token}
    (split : c :: cs = text ++ rest)
    (precedes : Piece.Precedes ⟨text, some token⟩ rest) :
    leading position c cs = .ok ⟨token, text.length⟩ := by
  simp only [leading, split]
  cases precedes with
  | reserved isReserved ends =>
      rw [ends.takeWhile_append isReserved.isWordChar,
        Token.ofReserved?_eq_some_iff.mpr isReserved]
  | @number numeral _ nonempty areDigits ends lower upper =>
      have isNumeral : Numeral.leading? (numeral.chars ++ rest) = some numeral :=
        Numeral.leading?_eq_some_iff.mpr ⟨nonempty, areDigits, rest, rfl, ends⟩
      have notReserved :
          Token.ofReserved? ((numeral.chars ++ rest).takeWhile isWordChar) = none := by
        rw [← split]
        apply ofReserved?_eq_none
        obtain ⟨negative, digits⟩ := numeral
        obtain ⟨digit, digits, rfl⟩ := List.exists_cons_of_ne_nil nonempty
        cases negative with
        | true =>
            cases split
            exact .inr (by decide)
        | false =>
            cases split
            exact .inl (areDigits _ List.mem_cons_self)
      have isWord : Word.ofInt? numeral.value = some (Int64.ofInt numeral.value) :=
        if_pos ⟨lower, upper⟩
      simp only [notReserved, isNumeral, isWord]
  | comma =>
      cases split
      have notReserved : Token.ofReserved? ((',' :: rest).takeWhile isWordChar) = none :=
        ofReserved?_eq_none (.inr (by decide))
      have notNumeral : Numeral.leading? (',' :: rest) = none := by
        simp [Numeral.leading?, Numeral.ofLeadingDigits?]
      simp [notReserved, notNumeral]

/-- What is found is a lexeme of the grammar. -/
theorem exists_precedes_of_leading
    {lexeme : Lexeme}
    (found : leading position c cs = .ok lexeme) :
    ∃ text rest, c :: cs = text ++ rest ∧ text.length = lexeme.length ∧
      Piece.Precedes ⟨text, some lexeme.token⟩ rest := by
  simp only [leading] at found
  split at found
  · rename_i token isReserved
    cases found
    obtain ⟨word, rest, split, inWord, ends⟩ := EndsRun.exists_run isWordChar (c :: cs)
    rw [split, ends.takeWhile_append inWord] at isReserved ⊢
    exact ⟨word, rest, rfl, rfl, .reserved (Token.ofReserved?_eq_some_iff.mp isReserved) ends⟩
  · split at found
    · rename_i numeral isNumeral
      obtain ⟨nonempty, areDigits, rest, split, ends⟩ :=
        Numeral.leading?_eq_some_iff.mp isNumeral
      split at found
      · rename_i value isWord
        cases found
        obtain ⟨⟨lower, upper⟩, value_eq⟩ := Option.ite_none_right_eq_some.mp isWord
        cases value_eq
        exact ⟨numeral.chars, rest, split, rfl, .number nonempty areDigits ends lower upper⟩
      · cases found
    · split at found
      · rename_i isComma
        cases found
        subst isComma
        exact ⟨[','], cs, rfl, rfl, .comma⟩
      · cases found

end Lexeme

end RegisterMachine
