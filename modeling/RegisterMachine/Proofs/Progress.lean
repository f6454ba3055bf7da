import RegisterMachine.Proofs.Cursor
import RegisterMachine.Proofs.Joining

/-!
# Progress through a text

A scanner passes over trivia in skips, each a run of blanks or one comment, and
then takes one lexeme. A skip takes at least one character, and so does a
lexeme. A place in a text is known by the characters and by the bytes before it;
bytes are counted on the way, and since every lexeme is written in characters of
one byte, the count of its characters serves for both. So every place that a
scanner comes to is the boundary of a character.

Each loop is stated with a bound on its rounds. The rounds that are needed are
bounded by what is left to be read: the search for a token by the characters, the
reading of all tokens by the characters too, and the reading of instructions by
the tokens.
-/

namespace RegisterMachine

/-! ## Skips -/

namespace Lexeme

variable {cs trivia : List Char}

/-- The trivia that is passed over in one skip at the head of a text: a run of blanks, or a comment
up to the line feed that ends it. -/
def skip? : List Char → Option (List Char)
  | [] => none
  | c :: cs =>
      if isBlank c then some ((c :: cs).takeWhile isBlank)
      else if c = '#' then some ((c :: cs).takeWhile (· ≠ '\n'))
      else none

/-- A skip takes something off the text, and what it takes is trivia. -/
theorem exists_cutting_of_skip?
    (skipped : skip? cs = some trivia) :
    trivia ≠ [] ∧
    ∃ pieces rest,
      cs = trivia ++ rest ∧ Cutting cs pieces rest ∧ Piece.tokens pieces = [] := by
  cases cs with
  | nil => cases skipped
  | cons c cs =>
      simp only [skip?] at skipped
      split at skipped
      · rename_i isBlank
        obtain ⟨blanks, rest, split, areBlanks, ends⟩ := EndsRun.exists_run Lexeme.isBlank (c :: cs)
        rw [split, ends.takeWhile_append areBlanks] at skipped
        cases skipped
        obtain ⟨pieces, cutting, isTrivia⟩ := Cutting.exists_of_blanks areBlanks rest
        refine ⟨?_, pieces, rest, split, split ▸ cutting, isTrivia⟩
        rintro rfl
        rw [List.nil_append] at split
        rw [← split, EndsRun.cons_iff, isBlank] at ends
        cases ends
      · split at skipped
        · rename_i isSign
          obtain ⟨body, rest, rfl, inLine, ends⟩ := EndsRun.exists_run (· ≠ '\n') cs
          have oneLine : '\n' ∉ body := by
            intro isMember
            exact absurd (inLine _ isMember) (by decide)
          have inLineToo : ∀ d ∈ c :: body, decide (d ≠ '\n') = true :=
            List.forall_mem_cons.mpr ⟨by rw [isSign]; decide, inLine⟩
          rw [← List.cons_append, ends.takeWhile_append inLineToo] at skipped
          cases skipped
          subst isSign
          exact ⟨List.cons_ne_nil _ _, [⟨'#' :: body, none⟩], rest, rfl,
            .cons (.comment oneLine ends) .nil, rfl⟩
        · cases skipped

theorem prefix_of_skip?
    (skipped : skip? cs = some trivia) :
    trivia ≠ [] ∧ trivia <+: cs := by
  obtain ⟨nonempty, -, rest, split, -⟩ := exists_cutting_of_skip? skipped
  exact ⟨nonempty, rest, split.symm⟩

/-- All the trivia at the head of a text is passed over skip by skip. -/
theorem skipTrivia_of_skip?
    (position : Nat)
    (skipped : skip? cs = some trivia) :
    skipTrivia false position cs =
      skipTrivia false (position + trivia.length) (cs.drop trivia.length) := by
  obtain ⟨-, pieces, rest, split, cutting, isTrivia⟩ := exists_cutting_of_skip? skipped
  have text_eq : trivia = pieces.flatMap Piece.text :=
    List.append_cancel_right (split.symm.trans cutting.text_eq)
  rw [skipTrivia_of_cutting position cutting isTrivia, ← text_eq, split, List.drop_left]

theorem skipTrivia_of_skip?_eq_none
    (position : Nat)
    (noTrivia : skip? cs = none) :
    skipTrivia false position cs = (position, cs) := by
  cases cs with
  | nil => rfl
  | cons c cs =>
      simp only [skip?] at noTrivia
      split at noTrivia
      · cases noTrivia
      · rename_i notBlank
        split at noTrivia
        · cases noTrivia
        · rename_i notSign
          exact skipTrivia_cons_of_not_trivia position (by simpa using notBlank) notSign

end Lexeme

/-! ## Bytes -/

/-- Characters that are encoded as one byte each are as many as their bytes. -/
theorem utf8ByteSize_eq_length
    {cs : List Char}
    (narrow : ∀ c ∈ cs, c.val ≤ 127) :
    (String.ofList cs).utf8ByteSize = cs.length := by
  induction cs with
  | nil => rfl
  | cons c cs inductionHypothesis =>
      obtain ⟨isNarrow, othersNarrow⟩ := List.forall_mem_cons.mp narrow
      rw [String.ofList_cons, String.utf8ByteSize_append, String.utf8ByteSize_singleton,
        Char.utf8Size_eq_one_iff.mpr isNarrow, inductionHypothesis othersNarrow, List.length_cons,
        Nat.add_comm]

theorem ReservedWord.isNarrow
    {word : List Char}
    {token : Token}
    (isReserved : ReservedWord word token) :
    ∀ c ∈ word, c.val ≤ 127 := by
  have all : ∀ entry ∈ Token.reservedWords, entry.1.all (fun c => decide (c.val ≤ 127)) = true := by
    decide
  intro c isMember
  have areNarrow := List.all_eq_true.mp (all _ (Token.mem_reservedWords_iff.mpr isReserved))
  exact of_decide_eq_true (areNarrow c isMember)

/-- A lexeme has as many bytes as characters. -/
theorem Piece.Precedes.utf8ByteSize_lexeme
    {text rest : List Char}
    {token : Token}
    (precedes : Piece.Precedes ⟨text, some token⟩ rest) :
    (String.ofList text).utf8ByteSize = text.length := by
  apply utf8ByteSize_eq_length
  cases precedes with
  | reserved isReserved _ => exact isReserved.isNarrow
  | number _ areDigits =>
      intro c isMember
      rcases Numeral.isDigit_or_minus_of_mem_chars areDigits isMember with isDigit | rfl
      · simp only [Char.isDigit, Bool.and_eq_true, decide_eq_true_eq] at isDigit
        exact UInt32.le_trans isDigit.2 (by decide)
      · decide
  | comma =>
      intro c isMember
      rw [List.mem_singleton.mp isMember]
      decide

/-! ## The places that a scanner comes to -/

namespace Scanner

variable {source : String}
variable {beginning trivia : List Char}
variable {scanner after last : Scanner}
variable {bytes more : Nat}
variable {found : Option Token}
variable {token : Token}
variable {tokens : List Token}

/-- The scanner past the trivia of one skip. -/
def past (trivia : List Char) (scanner : Scanner) : Scanner :=
  { scanner with
    rest := scanner.rest.drop trivia.length
    position := scanner.position + trivia.length }

theorem rest_eq_append_past
    (skipped : Lexeme.skip? scanner.rest = some trivia) :
    scanner.rest = trivia ++ (scanner.past trivia).rest := by
  obtain ⟨-, rest, split⟩ := Lexeme.prefix_of_skip? skipped
  rw [past, ← split, List.drop_left]

/-- A skip leaves less text to be read. -/
theorem length_rest_past_lt
    (skipped : Lexeme.skip? scanner.rest = some trivia) :
    (scanner.past trivia).rest.length < scanner.rest.length := by
  have positive := List.length_pos_iff.mpr (Lexeme.prefix_of_skip? skipped).1
  have lengths := congrArg List.length (rest_eq_append_past skipped)
  rw [List.length_append] at lengths
  omega

/-- The places that a scanner of a source text comes to, with the bytes that it has counted up to
there: those of the trivia in each skip, and one for each character of a token. -/
inductive ComesTo (source : String) : Scanner → Nat → Prop
  | start : ComesTo source (.ofSource source) 0
  | skip {scanner : Scanner} {bytes : Nat} {trivia : List Char} :
      ComesTo source scanner bytes →
      Lexeme.skip? scanner.rest = some trivia →
      ComesTo source (scanner.past trivia) (bytes + (String.ofList trivia).utf8ByteSize)
  | token {scanner after : Scanner} {bytes : Nat} {token : Token} :
      ComesTo source scanner bytes →
      Lexeme.skip? scanner.rest = none →
      scanner.next = .ok (some token, after) →
      ComesTo source after (bytes + after.span.length)
  | ending {scanner after : Scanner} {bytes : Nat} :
      ComesTo source scanner bytes →
      Lexeme.skip? scanner.rest = none →
      scanner.next = .ok (none, after) →
      ComesTo source after bytes

/-- A scanner that stands behind the beginning of a source text, with the characters and the bytes
of the beginning counted. -/
structure StandsBehind
    (source : String)
    (beginning : List Char)
    (scanner : Scanner)
    (bytes : Nat) : Prop where
  split : source.toList = beginning ++ scanner.rest
  position_eq : scanner.position = beginning.length
  bytes_eq : bytes = (String.ofList beginning).utf8ByteSize

namespace StandsBehind

/-- A scanner that takes some text off the rest stands behind that text. -/
theorem append
    {text : List Char}
    (behind : StandsBehind source beginning scanner bytes)
    (rest_eq : scanner.rest = text ++ after.rest)
    (position_eq : after.position = scanner.position + text.length)
    (bytes_eq : more = (String.ofList text).utf8ByteSize) :
    StandsBehind source (beginning ++ text) after (bytes + more) where
  split := by rw [behind.split, rest_eq, List.append_assoc]
  position_eq := by rw [position_eq, behind.position_eq, List.length_append]
  bytes_eq := by
    rw [behind.bytes_eq, bytes_eq, String.ofList_append, String.utf8ByteSize_append]

theorem position_le
    (behind : StandsBehind source beginning scanner bytes) :
    scanner.position ≤ source.length := by
  rw [behind.position_eq, ← String.length_toList, behind.split, List.length_append]
  exact Nat.le_add_right _ _

theorem rest_eq
    (behind : StandsBehind source beginning scanner bytes) :
    scanner.rest = source.toList.drop scanner.position := by
  rw [behind.position_eq, behind.split, List.drop_left]

theorem bytes_eq_take
    (behind : StandsBehind source beginning scanner bytes) :
    bytes = (String.ofList (source.toList.take scanner.position)).utf8ByteSize := by
  rw [behind.position_eq, behind.split, List.take_left, behind.bytes_eq]

/-- The bytes that have been counted end at the boundary of a character. -/
theorem isValid
    (behind : StandsBehind source beginning scanner bytes) :
    (⟨bytes⟩ : String.Pos.Raw).IsValid source := by
  apply String.Pos.Raw.isValid_iff_exists_append.mpr
  refine ⟨String.ofList beginning, String.ofList scanner.rest, ?_, ?_⟩
  · rw [← String.ofList_append, ← behind.split, String.ofList_toList]
  · rw [behind.bytes_eq]
    rfl

end StandsBehind

/-- The answer of a scanner that has no trivia in front of it. -/
def answerHere (scanner : Scanner) : Except LexicalError (Option Token × Scanner) :=
  match scanner.rest with
  | [] => .ok (none, { scanner with span := ⟨scanner.position, scanner.position⟩ })
  | c :: cs =>
      (Lexeme.leading scanner.position c cs).map fun lexeme =>
        (some lexeme.token,
          { rest := (c :: cs).drop lexeme.length
            position := scanner.position + lexeme.length
            span := .ofLength scanner.position lexeme.length })

theorem next_eq_answerHere
    (noTrivia : Lexeme.skip? scanner.rest = none) :
    scanner.next = scanner.answerHere := by
  have skipped := Lexeme.skipTrivia_of_skip?_eq_none scanner.position noTrivia
  obtain ⟨rest, position, span⟩ := scanner
  cases rest with
  | nil => exact next_of_skipTrivia_nil skipped
  | cons c cs => exact next_of_skipTrivia_cons skipped

/-- Where no trivia stands in front of a scanner, a token that it hands out begins at once. -/
theorem exists_lexeme_of_next
    (noTrivia : Lexeme.skip? scanner.rest = none)
    (answer : scanner.next = .ok (some token, after)) :
    ∃ text,
      scanner.rest = text ++ after.rest ∧
      Piece.Precedes ⟨text, some token⟩ after.rest ∧
      after.position = scanner.position + text.length ∧
      after.span.length = text.length := by
  rw [next_eq_answerHere noTrivia, answerHere] at answer
  split at answer
  · cases answer
  · rename_i c cs rest_eq
    cases leads : Lexeme.leading scanner.position c cs with
    | error error =>
        rw [leads] at answer
        cases answer
    | ok lexeme =>
        rw [leads] at answer
        cases answer
        obtain ⟨text, rest, split, length_eq, precedes⟩ := Lexeme.exists_precedes_of_leading leads
        rw [rest_eq, split, ← length_eq, List.drop_left]
        exact ⟨text, rfl, precedes, rfl, by simp [Span.length, Span.ofLength]⟩

/-- Where no trivia stands in front of a scanner that meets the end, it is there already. -/
theorem eq_of_next_eq_end
    (noTrivia : Lexeme.skip? scanner.rest = none)
    (answer : scanner.next = .ok (none, after)) :
    after = { scanner with span := ⟨scanner.position, scanner.position⟩ } := by
  rw [next_eq_answerHere noTrivia, answerHere] at answer
  split at answer
  · cases answer
    rfl
  · rename_i c cs _
    cases leads : Lexeme.leading scanner.position c cs <;> rw [leads] at answer <;> cases answer

namespace ComesTo

/-- The bytes that have been counted are those of the text that has been read. -/
theorem exists_standsBehind
    (comesTo : ComesTo source scanner bytes) :
    ∃ beginning, StandsBehind source beginning scanner bytes := by
  induction comesTo with
  | start => exact ⟨[], rfl, rfl, rfl⟩
  | @skip scanner bytes trivia _ skipped inductionHypothesis =>
      obtain ⟨beginning, behind⟩ := inductionHypothesis
      exact ⟨_, behind.append (rest_eq_append_past skipped) rfl rfl⟩
  | token _ noTrivia answer inductionHypothesis =>
      -- A token is counted by its characters, which are as many as its bytes.
      obtain ⟨beginning, behind⟩ := inductionHypothesis
      obtain ⟨text, rest_eq, precedes, position_eq, length_eq⟩ :=
        exists_lexeme_of_next noTrivia answer
      refine ⟨_, behind.append rest_eq position_eq ?_⟩
      rw [length_eq, precedes.utf8ByteSize_lexeme]
  | ending _ noTrivia answer inductionHypothesis =>
      obtain ⟨beginning, behind⟩ := inductionHypothesis
      rw [eq_of_next_eq_end noTrivia answer]
      exact ⟨beginning, behind.split, behind.position_eq, behind.bytes_eq⟩

end ComesTo

/-! ## The search for a token -/

/-- A skip has no influence on the next answer. -/
theorem next_past
    (skipped : Lexeme.skip? scanner.rest = some trivia) :
    (scanner.past trivia).next = scanner.next := by
  simp only [next, past, Lexeme.skipTrivia_of_skip? scanner.position skipped]

theorem pastTrivia_past
    (skipped : Lexeme.skip? scanner.rest = some trivia) :
    (scanner.past trivia).pastTrivia = scanner.pastTrivia := by
  simp only [pastTrivia, past, Lexeme.skipTrivia_of_skip? scanner.position skipped]

theorem pastTrivia_of_skip?_eq_none
    (noTrivia : Lexeme.skip? scanner.rest = none) :
    scanner.pastTrivia = scanner := by
  simp only [pastTrivia, Lexeme.skipTrivia_of_skip?_eq_none scanner.position noTrivia]

/-- The search for the next token, one skip in a round. It is given up when the rounds do not
suffice. -/
def nextWithin : Nat → Scanner → Option (Except LexicalError (Option Token × Scanner))
  | 0, _ => none
  | rounds + 1, scanner =>
      match Lexeme.skip? scanner.rest with
      | some trivia => nextWithin rounds (scanner.past trivia)
      | none => some scanner.answerHere

/-- The search ends within one round more than there are characters. -/
theorem nextWithin_eq
    {rounds : Nat}
    (enough : scanner.rest.length < rounds) :
    nextWithin rounds scanner = some scanner.next := by
  -- A round that skips leaves fewer characters, so the rounds that are left still exceed them.
  induction rounds generalizing scanner with
  | zero => exact absurd enough (Nat.not_lt_zero _)
  | succ rounds inductionHypothesis =>
      cases skipped : Lexeme.skip? scanner.rest with
      | none => simp only [nextWithin, skipped, next_eq_answerHere skipped]
      | some trivia =>
          have shorter := length_rest_past_lt skipped
          simp only [nextWithin, skipped, ← next_past skipped]
          exact inductionHypothesis (by omega)

/-- Past the trivia there is nothing to skip. -/
theorem skip?_pastTrivia (scanner : Scanner) :
    Lexeme.skip? scanner.pastTrivia.rest = none := by
  cases skipped : Lexeme.skipTrivia false scanner.position scanner.rest with
  | mk start rest =>
      simp only [pastTrivia, skipped]
      cases rest with
      | nil => rfl
      | cons c cs =>
          obtain ⟨notBlank, notSign⟩ := Lexeme.head_of_skipTrivia skipped
          simp [Lexeme.skip?, notBlank, notSign]

/-- A token takes at least one character behind the trivia. -/
theorem position_lt_of_next
    (answer : scanner.next = .ok (some token, after)) :
    scanner.position ≤ scanner.pastTrivia.position ∧
      scanner.pastTrivia.position < after.position := by
  constructor
  · have suffix := Lexeme.skipTrivia_suffix false scanner.position scanner.rest
    have counted := Lexeme.skipTrivia_position false scanner.position scanner.rest
    have shorter := suffix.length_le
    simp only [pastTrivia]
    omega
  · obtain ⟨text, rest_eq, precedes, position_eq, -⟩ :=
      exists_lexeme_of_next scanner.skip?_pastTrivia (scanner.next_pastTrivia.trans answer)
    obtain ⟨c, cs, rfl, -⟩ := precedes.exists_head_of_lexeme
    rw [position_eq, List.length_cons]
    omega

namespace ComesTo

/-- A scanner comes to the place past the trivia in front of it. -/
theorem exists_pastTrivia
    (comesTo : ComesTo source scanner bytes) :
    ∃ more, ComesTo source scanner.pastTrivia more := by
  induction length_eq : scanner.rest.length using Nat.strongRecOn generalizing scanner bytes with
  | ind length inductionHypothesis =>
      cases skipped : Lexeme.skip? scanner.rest with
      | none => exact ⟨bytes, (pastTrivia_of_skip?_eq_none skipped).symm ▸ comesTo⟩
      | some trivia =>
          have shorter := length_rest_past_lt skipped
          rw [length_eq] at shorter
          rw [← pastTrivia_past skipped]
          exact inductionHypothesis _ shorter (comesTo.skip skipped) rfl

/-- A scanner that is asked for a token comes to the place after it. -/
theorem exists_next
    (comesTo : ComesTo source scanner bytes)
    (answer : scanner.next = .ok (found, after)) :
    ∃ more, ComesTo source after more := by
  obtain ⟨more, comesPast⟩ := comesTo.exists_pastTrivia
  rw [← next_pastTrivia] at answer
  cases found with
  | none => exact ⟨_, comesPast.ending scanner.skip?_pastTrivia answer⟩
  | some token => exact ⟨_, comesPast.token scanner.skip?_pastTrivia answer⟩

theorem exists_handsOut
    (comesTo : ComesTo source scanner bytes)
    (handedOut : HandsOut scanner tokens last) :
    ∃ more, ComesTo source last more := by
  induction handedOut generalizing bytes with
  | nil => exact ⟨bytes, comesTo⟩
  | cons first _ inductionHypothesis =>
      obtain ⟨more, comesToFirst⟩ := comesTo.exists_next first
      exact inductionHypothesis comesToFirst

/-- Reading that fails leaves the scanner at a place that it comes to. -/
theorem exists_fails
    {error : AssemblyError}
    (comesTo : ComesTo source scanner bytes)
    (fails : Reader.Fails scanner error after) :
    ∃ more, ComesTo source after more := by
  obtain ⟨tokens, expected, middle, -, handedOut, stops⟩ := fails
  obtain ⟨more, comesToMiddle⟩ := comesTo.exists_handsOut handedOut
  cases stops with
  | lexical _ => exact ⟨more, comesToMiddle⟩
  | unexpected answer => exact comesToMiddle.exists_next answer

/-- Whatever a scanner is asked for, it is left at a place that it comes to. -/
theorem exists_serve
    (comesTo : ComesTo source scanner bytes)
    (request : Request) :
    ∃ more, ComesTo source (scanner.serve request).2 more := by
  cases request with
  | next =>
      simp only [serve]
      split
      · rename_i answer
        exact comesTo.exists_next answer
      · exact comesTo.exists_pastTrivia
  | peek =>
      simp only [serve]
      split <;> exact ⟨bytes, comesTo⟩
  | program =>
      simp only [serve]
      split
      · rename_i wasRead
        obtain ⟨instructions, last, -, handedOut, answer⟩ :=
          Reader.exists_handsOut_of_programAfter wasRead
        obtain ⟨more, comesToLast⟩ := comesTo.exists_handsOut handedOut
        exact comesToLast.exists_next answer
      · -- After a lexical error the scanner has passed over the trivia before the fault as well.
        rename_i failed
        obtain ⟨more, comesToFault⟩ := comesTo.exists_fails (Reader.fails_of_programAfter failed)
        exact comesToFault.exists_pastTrivia
      · rename_i failed
        exact comesTo.exists_fails (Reader.fails_of_programAfter failed)

end ComesTo

/-! ## The reading of all tokens -/

/-- Each token that is handed out takes a character off the text. -/
theorem HandsOut.length_add_le
    (handedOut : HandsOut scanner tokens last) :
    tokens.length + last.rest.length ≤ scanner.rest.length := by
  induction handedOut with
  | nil => simp
  | cons first _ inductionHypothesis =>
      have shorter := length_rest_lt_of_next first
      rw [List.length_cons]
      omega

/-- A stream has at most one token for each character that is still to be read. -/
theorem size_stream_le (scanner : Scanner) :
    scanner.stream.tokens.size ≤ scanner.rest.length := by
  obtain ⟨last, handedOut, -⟩ := scanner.exists_last_of_stream
  have bounded := handedOut.length_add_le
  rw [List.length_map, Array.length_toList] at bounded
  omega

/-- The reading of tokens up to the end of the text, one token in a round, with no more skips
before a token than there are rounds left. -/
def tokensWithin : Nat → List Token → Scanner → Option (Except LexicalError (List Token))
  | 0, _, _ => none
  | rounds + 1, done, scanner =>
      match nextWithin (rounds + 1) scanner with
      | none => none
      | some (.ok (some token, after)) => tokensWithin rounds (done ++ [token]) after
      | some (.ok (none, _)) => some (.ok done)
      | some (.error error) => some (.error error)

section Tokens

variable {done : List Token}
variable {rounds : Nat}

theorem tokensWithin_of_end
    (enough : scanner.rest.length < rounds)
    (answer : scanner.next = .ok (none, after)) :
    tokensWithin rounds done scanner = some (.ok done) := by
  cases rounds with
  | zero => exact absurd enough (Nat.not_lt_zero _)
  | succ rounds => simp only [tokensWithin, nextWithin_eq enough, answer]

theorem tokensWithin_of_error
    {error : LexicalError}
    (enough : scanner.rest.length < rounds)
    (answer : scanner.next = .error error) :
    tokensWithin rounds done scanner = some (.error error) := by
  cases rounds with
  | zero => exact absurd enough (Nat.not_lt_zero _)
  | succ rounds => simp only [tokensWithin, nextWithin_eq enough, answer]

/-- Tokens that are handed out are read one by one, and the rounds that are left suffice for the
rest. -/
theorem HandsOut.exists_tokensWithin
    (handedOut : HandsOut scanner tokens last)
    (enough : scanner.rest.length < rounds) :
    ∃ left, last.rest.length < left ∧
      tokensWithin rounds done scanner = tokensWithin left (done ++ tokens) last := by
  induction handedOut generalizing done rounds with
  | nil => exact ⟨rounds, enough, by rw [List.append_nil]⟩
  | @cons scanner middle last token tokens first _ inductionHypothesis =>
      cases rounds with
      | zero => exact absurd enough (Nat.not_lt_zero _)
      | succ rounds =>
          have shorter := length_rest_lt_of_next first
          have enoughLeft : middle.rest.length < rounds := by omega
          obtain ⟨left, enoughLast, read⟩ := @inductionHypothesis (done ++ [token]) _ enoughLeft
          refine ⟨left, enoughLast, ?_⟩
          simp only [tokensWithin, nextWithin_eq enough, first]
          rw [read, List.append_assoc, List.singleton_append]

/-- All tokens are read within one round more than there are characters. -/
theorem tokensWithin_eq_lex
    (enough : source.length < rounds) :
    tokensWithin rounds [] (.ofSource source) = some (lex source) := by
  have enoughHere : (ofSource source).rest.length < rounds := by
    rwa [ofSource, String.length_toList]
  obtain ⟨tokens, last, handedOut, exhausted⟩ := (ofSource source).exists_handsOut_exhausted
  obtain ⟨left, enoughLast, read⟩ := @HandsOut.exists_tokensWithin _ _ _ [] _ handedOut enoughHere
  rw [read, List.nil_append]
  rcases exhausted.end_or_error with ⟨after, answer⟩ | ⟨error, answer⟩
  · rw [tokensWithin_of_end enoughLast answer, lex_of_end handedOut answer]
  · rw [tokensWithin_of_error enoughLast answer, lex_of_error handedOut answer]

end Tokens

/-- Tokens that are handed out are taken off the stream. -/
theorem HandsOut.size_stream
    (handedOut : HandsOut scanner tokens last) :
    scanner.stream.tokens.size = tokens.length + last.stream.tokens.size := by
  obtain ⟨entries, rfl, stream_eq, -⟩ := handedOut.exists_entries
  simpa using congrArg List.length stream_eq

end Scanner

/-! ## The reading of instructions -/

namespace Instruction

theorem length_tokens_pos (instruction : Instruction) : 0 < instruction.tokens.length :=
  Nat.succ_pos _

/-- Instructions are not more than their tokens. -/
theorem length_le_length_flatMap_tokens (instructions : List Instruction) :
    instructions.length ≤ (instructions.flatMap tokens).length := by
  induction instructions with
  | nil => exact Nat.le_refl 0
  | cons instruction instructions inductionHypothesis =>
      have positive := instruction.length_tokens_pos
      rw [List.flatMap_cons, List.length_append, List.length_cons]
      omega

end Instruction

namespace Reader

variable {scanner after : Scanner}
variable {program : Program}

/-- The reading of a program, one instruction in a round. -/
def programWithin :
    Nat → Array Instruction → Scanner → Option (EStateM.Result AssemblyError Scanner Program)
  | 0, _, _ => none
  | rounds + 1, done, scanner =>
      match instruction? scanner with
      | .ok (some instruction) after => programWithin rounds (done.push instruction) after
      | .ok none after => some (.ok ⟨done⟩ after)
      | .error error after => some (.error error after)

/-- A program is read within one round more than there are tokens. -/
theorem programWithin_eq
    {rounds : Nat}
    {done : Array Instruction}
    (enough : scanner.stream.tokens.size < rounds) :
    programWithin rounds done scanner = some (programAfter done scanner) := by
  induction rounds generalizing done scanner with
  | zero => exact absurd enough (Nat.not_lt_zero _)
  | succ rounds inductionHypothesis =>
      rw [programWithin]
      split
      · rename_i instruction after wasRead
        have size_eq := (instruction?_eq_some_iff.mp wasRead).size_stream
        have positive := instruction.length_tokens_pos
        rw [programAfter_of_instruction wasRead]
        exact inductionHypothesis (by omega)
      · rename_i wasRead
        rw [programAfter_of_end wasRead]
      · rename_i notRead
        rw [programAfter_of_error notRead]

/-- Each instruction of a program that is read takes a token off the stream. -/
theorem length_le_size_stream
    (wasRead : Reader.program scanner = .ok program after) :
    program.length ≤ scanner.stream.tokens.size := by
  obtain ⟨instructions, last, rfl, handedOut, -⟩ := exists_handsOut_of_programAfter wasRead
  have fewer := Instruction.length_le_length_flatMap_tokens instructions
  have size_eq := handedOut.size_stream
  simp only [Program.length, Array.empty_append, List.size_toArray]
  omega

end Reader

/-! ## Progress -/

/-- What holds at a place in a source text where a scanner has counted some bytes. -/
structure Scanner.Progresses
    (source : String)
    (scanner : Scanner)
    (bytes : Nat) : Prop where
  /-- The place does not lie past the end of the text. -/
  position_le : scanner.position ≤ source.length
  /-- What is still to be read is the text from the place on. -/
  rest_eq : scanner.rest = source.toList.drop scanner.position
  /-- The bytes that have been counted are those of the text before the place. -/
  bytes_eq : bytes = (String.ofList (source.toList.take scanner.position)).utf8ByteSize
  /-- The bytes that have been counted end at the boundary of a character. -/
  isValid : (⟨bytes⟩ : String.Pos.Raw).IsValid source
  /-- A skip takes at least one character, and none that is not there. -/
  skips {trivia : List Char} :
    Lexeme.skip? scanner.rest = some trivia → trivia ≠ [] ∧ trivia <+: scanner.rest
  /-- A token takes at least one character behind the trivia. -/
  takes {token : Token} {after : Scanner} :
    scanner.next = .ok (some token, after) →
    scanner.position ≤ scanner.pastTrivia.position ∧
      scanner.pastTrivia.position < after.position
  /-- Whatever is asked for, the scanner is left at a place in the text. -/
  comesTo (request : Request) : ∃ more, ComesTo source (scanner.serve request).2 more
  /-- The search for a token ends. -/
  next_ends {rounds : Nat} :
    scanner.rest.length < rounds → nextWithin rounds scanner = some scanner.next
  /-- The reading of a program ends. -/
  program_ends {rounds : Nat} :
    scanner.stream.tokens.size < rounds →
    Reader.programWithin rounds #[] scanner = some (Reader.program scanner)
  /-- There is at most one token for a character. -/
  tokens_le : scanner.stream.tokens.size ≤ scanner.rest.length
  /-- There is at most one instruction for a token. -/
  instructions_le {program : Program} {after : Scanner} :
    Reader.program scanner = .ok program after →
    program.length ≤ scanner.stream.tokens.size

/-- Reading comes to an end in every text. At every place that a scanner comes to, what it does next
takes some of the text that is left, so its loops end, and so do those that read all the tokens and
the program of a text. -/
theorem reading_makes_progress (source : String) :
    (∀ scanner bytes,
      Scanner.ComesTo source scanner bytes → scanner.Progresses source bytes) ∧
    (∀ rounds,
      source.length < rounds →
      Scanner.tokensWithin rounds [] (.ofSource source) = some (lex source)) ∧
    (∀ tokens, lex source = .ok tokens → tokens.length ≤ source.length) ∧
    ∀ program,
      assemble source = .ok program →
      ∃ tokens, lex source = .ok tokens ∧ program.length ≤ tokens.length := by
  refine ⟨?_, ?_, ?_, ?_⟩
  · intro scanner bytes comesTo
    obtain ⟨beginning, behind⟩ := comesTo.exists_standsBehind
    exact
      { position_le := behind.position_le
        rest_eq := behind.rest_eq
        bytes_eq := behind.bytes_eq_take
        isValid := behind.isValid
        skips := Lexeme.prefix_of_skip?
        takes := Scanner.position_lt_of_next
        comesTo := comesTo.exists_serve
        next_ends := Scanner.nextWithin_eq
        program_ends := Reader.programWithin_eq
        tokens_le := scanner.size_stream_le
        instructions_le := Reader.length_le_size_stream }
  · intro rounds enough
    exact Scanner.tokensWithin_eq_lex enough
  · intro tokens lexed
    obtain ⟨last, after, handedOut, -⟩ := lex_eq_ok_iff.mp lexed
    have bounded := handedOut.length_add_le
    rw [Scanner.ofSource, String.length_toList] at bounded
    omega
  · intro program assembled
    refine ⟨_, assemble_eq_ok_iff_lex.mp assembled, ?_⟩
    exact Instruction.length_le_length_flatMap_tokens program.instructions.toList

/-- A text with a comment whose last character takes two bytes. -/
def noted : String :=
  "# é\nREAD r2"

/-- The scanner that has skipped the comment. -/
def behindNote : Scanner where
  rest := "\nREAD r2".toList
  position := 3

/-- Four bytes have been counted for the three characters of the comment, so the scanner does not
stand inside the last of them. From there it reads to the end of the text. -/
theorem noted_is_read_to_its_end :
    Scanner.ComesTo noted behindNote 4 ∧
    (⟨4⟩ : String.Pos.Raw).IsValid noted ∧
    ¬(⟨3⟩ : String.Pos.Raw).IsValid noted ∧
    (∃ after,
      behindNote.next = .ok (some (.mnemonic .read), after) ∧
      behindNote.position < behindNote.pastTrivia.position ∧
      behindNote.pastTrivia.position < after.position) ∧
    Scanner.nextWithin 9 behindNote = some behindNote.next ∧
    Reader.programWithin 3 #[] behindNote = some (Reader.program behindNote) ∧
    Scanner.tokensWithin 12 [] (.ofSource noted) = some (lex noted) ∧
    lex noted = .ok [.mnemonic .read, .register ⟨2⟩] ∧
    [Token.mnemonic .read, .register ⟨2⟩].length ≤ noted.length ∧
    assemble noted = .ok (.ofList [.read ⟨2⟩]) ∧
    (Program.ofList [.read ⟨2⟩]).length ≤ 2 := by
  have skipped : Lexeme.skip? (Scanner.ofSource noted).rest = some "# é".toList := by decide +kernel
  have comesTo : Scanner.ComesTo noted behindNote 4 := .skip .start skipped
  have lexed : lex noted = .ok [.mnemonic .read, .register ⟨2⟩] := by decide +kernel
  have assembled : assemble noted = .ok (.ofList [.read ⟨2⟩]) := by decide +kernel
  obtain ⟨places, tokensEnd, tokens_le, instructions_le⟩ := reading_makes_progress noted
  have progresses := places behindNote 4 comesTo
  obtain ⟨tokens, alsoLexed, length_le⟩ := instructions_le _ assembled
  cases lexed.symm.trans alsoLexed
  have answer :
      behindNote.next = .ok (some (.mnemonic .read), ⟨" r2".toList, 8, ⟨4, 8⟩⟩) := by
    decide +kernel
  exact ⟨comesTo, progresses.isValid, by decide,
    ⟨_, answer, by decide, (progresses.takes answer).2⟩,
    progresses.next_ends (by decide), progresses.program_ends (by decide +kernel),
    tokensEnd 12 (by decide), lexed, tokens_le _ lexed, assembled, length_le⟩

end RegisterMachine
