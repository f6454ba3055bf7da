import RegisterMachine.Proofs.Streams

/-!
# Spans and the text they stand for

The spans of the tokens of a text follow each other without overlap, and the
text in a span has just its token. The gaps between them hold only trivia. Up to
a lexical error the text has the tokens handed out before it, and the error
names the character at which no piece of the language begins, or the literal
that no word can hold.

All this rests on one fact: whether a piece may stand somewhere depends on no
more than the next character, so it may also stand at the end of a text.
-/

namespace RegisterMachine

/-! ## Beginnings of a text -/

/-- A run that ends before a text ends before any text with the same first character, and at the
end. -/
theorem EndsRun.of_head?
    {inClass : Char → Bool}
    {rest other : List Char}
    (ends : EndsRun inClass rest)
    (sameHead : ∀ c ∈ other.head?, c ∈ rest.head?) :
    EndsRun inClass other := by
  intro c isHead
  exact ends c (sameHead c isHead)

/-- Only the next character has an influence on whether a piece may stand somewhere. -/
theorem Piece.Precedes.of_head?
    {piece : Piece}
    {rest other : List Char}
    (precedes : piece.Precedes rest)
    (sameHead : ∀ c ∈ other.head?, c ∈ rest.head?) :
    piece.Precedes other := by
  cases precedes with
  | blank isBlank => exact .blank isBlank
  | comment oneLine ends => exact .comment oneLine (ends.of_head? sameHead)
  | reserved isReserved ends => exact .reserved isReserved (ends.of_head? sameHead)
  | number nonempty areDigits ends lower upper =>
      exact .number nonempty areDigits (ends.of_head? sameHead) lower upper
  | comma => exact .comma

/-- What has been cut off begins as the whole text does. -/
theorem Cutting.mem_head?
    {cs rest : List Char}
    {pieces : List Piece}
    (cutting : Cutting cs pieces rest) :
    ∀ c ∈ (pieces.flatMap Piece.text).head?, c ∈ cs.head? := by
  intro c isHead
  rw [cutting.text_eq, List.head?_append, Option.mem_def.mp isHead]
  rfl

/-- The part of a text that has been cut is a text with the same cutting. -/
theorem Cutting.of_beginning
    {cs rest : List Char}
    {pieces : List Piece}
    (cutting : Cutting cs pieces rest) :
    Cutting (pieces.flatMap Piece.text) pieces [] := by
  induction cutting with
  | nil => exact .nil
  | @cons piece pieces middle rest precedes later inductionHypothesis =>
      rw [List.flatMap_cons]
      exact .cons (precedes.of_head? later.mem_head?) inductionHypothesis

/-- The part of a text that has been cut has the tokens of the pieces. -/
theorem lex_of_beginning
    {cs rest : List Char}
    {pieces : List Piece}
    (cutting : Cutting cs pieces rest) :
    lex (String.ofList (pieces.flatMap Piece.text)) = .ok (Piece.tokens pieces) := by
  apply lex_of_cutting
  rw [String.toList_ofList]
  exact cutting.of_beginning

/-- A lexeme has its token when it stands alone. -/
theorem lex_of_lexeme
    {text rest : List Char}
    {token : Token}
    (precedes : Piece.Precedes ⟨text, some token⟩ rest) :
    lex (String.ofList text) = .ok [token] := by
  have alone := lex_of_beginning (Cutting.cons precedes .nil)
  rwa [List.flatMap_singleton] at alone

/-! ## Lexical errors -/

/-- No piece of the language begins a text. -/
def NoPieceAt (cs : List Char) : Prop :=
  ∀ (piece : Piece) (rest : List Char), cs = piece.text ++ rest → ¬piece.Precedes rest

/-- A text that begins with digits, perhaps after a minus sign, whose value no word can have. -/
def BeginsOutOfRange (literal cs : List Char) : Prop :=
  ∃ (numeral : Numeral) (rest : List Char),
    literal = numeral.chars ∧
    numeral.digits ≠ [] ∧
    (∀ c ∈ numeral.digits, c.isDigit = true) ∧
    cs = literal ++ rest ∧
    EndsRun Char.isDigit rest ∧
    ¬(-9223372036854775808 ≤ numeral.value ∧ numeral.value ≤ 9223372036854775807)

/-- What a lexical error says about the text at whose head it is met. -/
inductive LexicalError.Describes
    (position : Nat)
    (cs : List Char) : LexicalError → Prop
  | illegalCharacter {c : Char} {rest : List Char} :
      cs = c :: rest →
      NoPieceAt cs →
      Describes position cs (.illegalCharacter position c)
  | literalOutOfRange {literal : List Char} :
      BeginsOutOfRange literal cs →
      Describes position cs (.literalOutOfRange position literal)

namespace Lexeme

/-- Trivia is passed over up to a character that does not begin any. -/
theorem head_of_skipTrivia
    {inComment : Bool}
    {position start : Nat}
    {cs rest : List Char}
    {c : Char}
    (skipped : skipTrivia inComment position cs = (start, c :: rest)) :
    isBlank c = false ∧ c ≠ '#' := by
  fun_induction skipTrivia inComment position cs <;> grind

/-- What is passed over is trivia, and its characters are counted. -/
theorem exists_trivia_of_skipTrivia
    {position start : Nat}
    {cs rest : List Char}
    (skipped : skipTrivia false position cs = (start, rest)) :
    ∃ trivia,
      Cutting cs trivia rest ∧
      Piece.tokens trivia = [] ∧
      start = position + (trivia.flatMap Piece.text).length := by
  obtain ⟨trivia, cutting, isTrivia⟩ := exists_cutting_of_skipTrivia position cs
  have counted := skipTrivia_position false position cs
  rw [skipped] at cutting counted
  have lengths := congrArg List.length cutting.text_eq
  rw [List.length_append] at lengths
  refine ⟨trivia, cutting, isTrivia, ?_⟩
  simp only at counted lengths
  omega

/-- What is said about a text with no lexeme at its head. -/
theorem describes_of_leading
    {position : Nat}
    {c : Char}
    {cs : List Char}
    {error : LexicalError}
    (notTrivia : isBlank c = false ∧ c ≠ '#')
    (failed : leading position c cs = .error error) :
    error.Describes position (c :: cs) := by
  have noPiece : NoPieceAt (c :: cs) := by
    rintro ⟨text, token?⟩ rest split precedes
    cases token? with
    | none =>
        obtain ⟨first, others, rfl, begins⟩ := precedes.exists_head_of_trivia
        cases split
        rcases begins with isBlank | isSign
        · rw [isBlank] at notTrivia
          cases notTrivia.1
        · exact notTrivia.2 isSign
    | some token => cases (leading_of_precedes position split precedes).symm.trans failed
  simp only [leading] at failed
  split at failed
  · cases failed
  · split at failed
    · rename_i numeral isNumeral
      split at failed
      · cases failed
      · rename_i notWord
        cases failed
        obtain ⟨nonempty, areDigits, rest, split, ends⟩ :=
          Numeral.leading?_eq_some_iff.mp isNumeral
        refine .literalOutOfRange ⟨numeral, rest, rfl, nonempty, areDigits, split, ends, ?_⟩
        simpa [Word.ofInt?] using notWord
    · split at failed
      · cases failed
      · cases failed
        exact .illegalCharacter rfl noPiece

end Lexeme

/-! ## Where a scanner stands -/

/-- The text in a span of a source text. -/
def Span.slice (span : Span) (source : String) : String :=
  String.ofList ((source.toList.drop span.start).take span.length)

/-- Text that is known to stand somewhere is found there. -/
theorem Span.slice_eq
    {source : String}
    {before text after : List Char}
    (split : source.toList = before ++ text ++ after) :
    (Span.ofLength before.length text.length).slice source = String.ofList text := by
  simp [slice, ofLength, length, split]

/-- Text that is known to stand somewhere ends before the end of the source text. -/
theorem Span.stop_le_length
    {source : String}
    {before text after : List Char}
    (split : source.toList = before ++ text ++ after) :
    (Span.ofLength before.length text.length).stop ≤ source.length := by
  rw [← String.length_toList, split, List.length_append, List.length_append]
  exact Nat.le_add_right _ _

namespace Scanner

variable {source : String}
variable {beginning : List Char}
variable {scanner after last : Scanner}
variable {token : Token}
variable {tokens : List Token}
variable {error : LexicalError}

/-- Before a lexical error comes only trivia. -/
theorem exists_cutting_of_error
    (answer : scanner.next = .error error) :
    ∃ trivia rest,
      Cutting scanner.rest trivia rest ∧
      Piece.tokens trivia = [] ∧
      error.Describes (scanner.position + (trivia.flatMap Piece.text).length) rest := by
  simp only [next] at answer
  split at answer
  · cases answer
  · rename_i start c cs skipped
    split at answer
    · cases answer
    · rename_i failed
      cases answer
      obtain ⟨trivia, cutting, isTrivia, rfl⟩ := Lexeme.exists_trivia_of_skipTrivia skipped
      exact ⟨trivia, c :: cs, cutting, isTrivia,
        Lexeme.describes_of_leading (Lexeme.head_of_skipTrivia skipped) failed⟩

/-- A scanner that has read the beginning of a source text and stands at the rest of it. Its span
ends where it stands. -/
structure HasRead
    (source : String)
    (beginning : List Char)
    (scanner : Scanner) : Prop where
  split : source.toList = beginning ++ scanner.rest
  position_eq : scanner.position = beginning.length
  stop_eq : scanner.span.stop = beginning.length

namespace HasRead

theorem ofSource (source : String) : HasRead source [] (Scanner.ofSource source) where
  split := rfl
  position_eq := rfl
  stop_eq := rfl

/-- After the text that was read before comes a gap and then the token that is handed out. -/
theorem exists_token
    (hasRead : HasRead source beginning scanner)
    (answer : scanner.next = .ok (some token, after)) :
    ∃ gap text,
      HasRead source (beginning ++ gap ++ text) after ∧
      after.span = .ofLength (beginning ++ gap).length text.length ∧
      text ≠ [] ∧
      lex (String.ofList gap) = .ok [] ∧
      lex (String.ofList text) = .ok [token] := by
  obtain ⟨trivia, text, cutting, isTrivia, precedes, span_eq, position_eq⟩ :=
    exists_cutting_of_next answer
  rw [hasRead.position_eq, ← List.length_append] at span_eq
  have stop_eq : after.span.stop = (beginning ++ trivia.flatMap Piece.text ++ text).length := by
    simp only [span_eq, Span.ofLength, List.length_append]
  refine ⟨trivia.flatMap Piece.text, text, ⟨?_, position_eq.trans stop_eq, stop_eq⟩, span_eq,
    precedes.text_ne_nil, ?_, lex_of_lexeme precedes⟩
  · rw [hasRead.split, cutting.text_eq, List.append_assoc, List.append_assoc]
  · rw [lex_of_beginning cutting, isTrivia]

/-- A scanner that hands out tokens reads on. -/
theorem exists_handsOut
    (hasRead : HasRead source beginning scanner)
    (handedOut : HandsOut scanner tokens last) :
    ∃ more, HasRead source (beginning ++ more) last := by
  induction handedOut generalizing beginning with
  | nil => exact ⟨[], by rwa [List.append_nil]⟩
  | cons first _ inductionHypothesis =>
      obtain ⟨gap, text, hasReadToken, -⟩ := hasRead.exists_token first
      obtain ⟨more, hasReadMore⟩ := inductionHypothesis hasReadToken
      refine ⟨gap ++ text ++ more, ?_⟩
      rwa [← List.append_assoc, ← List.append_assoc]

/-- Only a gap comes before the end of the text. -/
theorem lex_slice_of_end
    (hasRead : HasRead source beginning scanner)
    (answer : scanner.next = .ok (none, after)) :
    lex (Span.slice ⟨scanner.span.stop, source.length⟩ source) = .ok [] := by
  obtain ⟨trivia, cutting, isTrivia⟩ := exists_cutting_of_end answer
  have split : source.toList = beginning ++ trivia.flatMap Piece.text ++ [] := by
    rw [hasRead.split, cutting.text_eq, List.append_assoc]
  have span_eq :
      (⟨scanner.span.stop, source.length⟩ : Span) =
        .ofLength beginning.length (trivia.flatMap Piece.text).length := by
    rw [hasRead.stop_eq, ← String.length_toList, split, List.append_nil, List.length_append]
    rfl
  rw [span_eq, Span.slice_eq split, lex_of_beginning cutting, isTrivia]

/-- The end of the text has an empty span behind the last character. -/
theorem span_of_end
    (hasRead : HasRead source beginning scanner)
    (answer : scanner.next = .ok (none, after)) :
    after.span = ⟨source.length, source.length⟩ := by
  have position_eq := Lexeme.skipTrivia_position false scanner.position scanner.rest
  have length_eq := congrArg List.length hasRead.split
  rw [String.length_toList, List.length_append, ← hasRead.position_eq] at length_eq
  simp only [next] at answer
  split at answer
  · rename_i start skipped
    cases answer
    rw [skipped] at position_eq
    have start_eq : start = source.length := by
      simp only [List.length_nil] at position_eq
      omega
    rw [start_eq]
  · split at answer <;> cases answer

/-- Each token of a stream stands at its span, and only a gap comes between it and the token
before. -/
theorem slices_of_entry
    (hasRead : HasRead source beginning scanner)
    {before later : List (Token × Span)}
    {span : Span}
    (stream_eq : scanner.stream.tokens.toList = before ++ (token, span) :: later) :
    (spanAfter scanner.span before).stop ≤ span.start ∧
    span.start < span.stop ∧
    span.stop ≤ source.length ∧
    lex (span.slice source) = .ok [token] ∧
    lex (Span.slice ⟨(spanAfter scanner.span before).stop, span.start⟩ source) = .ok [] := by
  induction before generalizing scanner beginning with
  | nil =>
      obtain ⟨after, answer, rfl, -⟩ := exists_next_of_stream stream_eq
      obtain ⟨gap, text, hasReadToken, span_eq, nonempty, gapLexed, lexed⟩ :=
        hasRead.exists_token answer
      have split := hasReadToken.split
      have gap_eq :
          (⟨scanner.span.stop, after.span.start⟩ : Span) =
            .ofLength beginning.length gap.length := by
        rw [span_eq, hasRead.stop_eq, List.length_append]
        rfl
      have gapSplit : source.toList = beginning ++ gap ++ (text ++ after.rest) := by
        rw [split, List.append_assoc (beginning ++ gap)]
      rw [spanAfter_nil, gap_eq, Span.slice_eq gapSplit, span_eq, Span.slice_eq split]
      refine ⟨?_, ?_, Span.stop_le_length split, lexed, gapLexed⟩
      · rw [hasRead.stop_eq, List.length_append]
        exact Nat.le_add_right _ _
      · exact Nat.lt_add_of_pos_right (List.length_pos_iff.mpr nonempty)
  | cons entry before inductionHypothesis =>
      obtain ⟨first, firstSpan⟩ := entry
      obtain ⟨after, answer, rfl, later_eq⟩ := exists_next_of_stream stream_eq
      obtain ⟨gap, text, hasReadToken, -⟩ := hasRead.exists_token answer
      rw [spanAfter_cons]
      exact inductionHypothesis hasReadToken later_eq

/-- Up to a lexical error the text has the tokens that were handed out before it. -/
theorem exists_lex_of_error
    (handedOut : (Scanner.ofSource source).HandsOut tokens last)
    (answer : last.next = .error error) :
    ∃ upTo rest,
      source.toList = upTo ++ rest ∧
      lex (String.ofList upTo) = .ok tokens ∧
      error.Describes upTo.length rest := by
  obtain ⟨beginning, hasRead⟩ := (HasRead.ofSource source).exists_handsOut handedOut
  obtain ⟨pieces, cutting, rfl⟩ := handedOut.exists_cutting
  obtain ⟨trivia, rest, triviaCutting, isTrivia, describes⟩ := exists_cutting_of_error answer
  have wholeCutting : Cutting source.toList (pieces ++ trivia) rest := cutting.append triviaCutting
  have beginning_eq : beginning = pieces.flatMap Piece.text :=
    List.append_cancel_right (hasRead.split.symm.trans cutting.text_eq)
  have lexed := lex_of_beginning wholeCutting
  rw [Piece.tokens_append, isTrivia, List.append_nil] at lexed
  refine ⟨_, rest, wholeCutting.text_eq, lexed, ?_⟩
  rwa [hasRead.position_eq, List.nil_append, beginning_eq, ← List.length_append,
    ← List.flatMap_append] at describes

end HasRead

end Scanner

namespace LexicalError

variable {source : String}
variable {upTo rest : List Char}
variable {error : LexicalError}

/-- What a lexical error is about stands at its span: a character at which no piece begins, or a
literal that no word can hold. -/
def StandsAtSpan (source : String) (error : LexicalError) : Prop :=
  match error with
  | .illegalCharacter _ c =>
      error.report.kind = .illegalCharacter ∧
      error.report.span.stop = error.report.span.start + 1 ∧
      error.report.span.slice source = String.ofList [c] ∧
      NoPieceAt (source.toList.drop error.report.span.start)
  | .literalOutOfRange _ literal =>
      error.report.kind = .overflow ∧
      error.report.span.slice source = String.ofList literal ∧
      BeginsOutOfRange literal (source.toList.drop error.report.span.start)

theorem Describes.standsAtSpan
    (describes : error.Describes upTo.length rest)
    (split : source.toList = upTo ++ rest) :
    error.report.span.start = upTo.length ∧
      error.report.span.start < error.report.span.stop ∧
      error.report.span.stop ≤ source.length ∧
      error.StandsAtSpan source := by
  have drop_eq : source.toList.drop upTo.length = rest := by
    rw [split, List.drop_left]
  cases describes with
  | @illegalCharacter c later rest_eq noPiece =>
      have culpritSplit : source.toList = upTo ++ [c] ++ later := by
        rw [split, rest_eq, List.append_assoc, List.singleton_append]
      exact ⟨rfl, Nat.lt_succ_self _, Span.stop_le_length culpritSplit, rfl, rfl,
        Span.slice_eq culpritSplit, drop_eq.symm ▸ noPiece⟩
  | @literalOutOfRange literal begins =>
      obtain ⟨numeral, later, rfl, nonempty, areDigits, rest_eq, ends, -⟩ := id begins
      have culpritSplit : source.toList = upTo ++ numeral.chars ++ later := by
        rw [split, rest_eq, List.append_assoc]
      have isNumeral : Numeral.leading? rest = some numeral :=
        Numeral.leading?_eq_some_iff.mpr ⟨nonempty, areDigits, later, rest_eq, ends⟩
      have positive : 0 < numeral.chars.length :=
        List.length_pos_iff.mpr (Numeral.chars_ne_nil_of_leading? isNumeral)
      exact ⟨rfl, Nat.lt_add_of_pos_right positive, Span.stop_le_length culpritSplit, rfl,
        Span.slice_eq culpritSplit, drop_eq.symm ▸ begins⟩

end LexicalError

/-- The tokens of a text tile it: each stands alone at its span, spans follow each other without
overlap, and only trivia is left out between them and, where the end of the text is reached, after
them. Where a lexical error is met, the text before it has the tokens handed out so far, and what
the error is about stands at its span. -/
theorem spans_tile_source (source : String) :
    (∀ before token span later,
      (Scanner.ofSource source).stream.tokens.toList = before ++ (token, span) :: later →
        (Scanner.spanAfter .nowhere before).stop ≤ span.start ∧
        span.start < span.stop ∧
        span.stop ≤ source.length ∧
        lex (span.slice source) = .ok [token] ∧
        lex (Span.slice ⟨(Scanner.spanAfter .nowhere before).stop, span.start⟩ source) =
          .ok []) ∧
    ((Scanner.ofSource source).stream.error = none →
      lex (Span.slice
        ⟨(Scanner.spanAfter .nowhere (Scanner.ofSource source).stream.tokens.toList).stop,
          source.length⟩ source) = .ok []) ∧
    (∀ error,
      (Scanner.ofSource source).stream.error = some error →
        lex (Span.slice ⟨0, error.report.span.start⟩ source) =
          .ok ((Scanner.ofSource source).stream.tokens.toList.map Prod.fst) ∧
        error.report.span.start < error.report.span.stop ∧
        error.report.span.stop ≤ source.length ∧
        error.StandsAtSpan source) := by
  have hasRead := Scanner.HasRead.ofSource source
  obtain ⟨last, handedOut, span_eq, ending⟩ := (Scanner.ofSource source).exists_last_of_stream
  refine ⟨?_, ?_, ?_⟩
  · intro before token span later stream_eq
    exact hasRead.slices_of_entry stream_eq
  · intro noError
    rw [noError] at ending
    obtain ⟨more, hasReadAll⟩ := hasRead.exists_handsOut handedOut
    have lexed := hasReadAll.lex_slice_of_end ending
    rwa [span_eq] at lexed
  · intro error isError
    rw [isError] at ending
    obtain ⟨upTo, rest, split, lexed, describes⟩ :=
      Scanner.HasRead.exists_lex_of_error handedOut ending
    obtain ⟨start_eq, nonempty, inside, stands⟩ := describes.standsAtSpan split
    have upToSplit : source.toList = [] ++ upTo ++ rest := split
    have slice_eq := Span.slice_eq upToSplit
    rw [List.length_nil, Span.ofLength, Nat.zero_add] at slice_eq
    rw [start_eq] at nonempty ⊢
    rw [slice_eq]
    exact ⟨lexed, nonempty, inside, stands⟩

/-- The literal after a comment with an accent in it and after two tokens is out of range. -/
theorem spans_before_literal_out_of_range :
    (Scanner.ofSource "# é\nr2,-9223372036854775809r1").stream.tokens.toList =
      [] ++ (.register ⟨2⟩, ⟨4, 6⟩) :: [(.comma, ⟨6, 7⟩)] ∧
    lex (Span.slice ⟨0, 4⟩ "# é\nr2,-9223372036854775809r1") = .ok [] ∧
    (Scanner.ofSource "# é\nr2,-9223372036854775809r1").stream.error =
      some (.literalOutOfRange 7 "-9223372036854775809".toList) ∧
    lex (Span.slice ⟨0, 7⟩ "# é\nr2,-9223372036854775809r1") =
      .ok [.register ⟨2⟩, .comma] := by
  obtain ⟨tiles, -, upToError⟩ := spans_tile_source "# é\nr2,-9223372036854775809r1"
  have stream_eq :
      (Scanner.ofSource "# é\nr2,-9223372036854775809r1").stream.tokens.toList =
        [] ++ (.register ⟨2⟩, ⟨4, 6⟩) :: [(.comma, ⟨6, 7⟩)] := by
    decide +kernel
  have error_eq :
      (Scanner.ofSource "# é\nr2,-9223372036854775809r1").stream.error =
        some (.literalOutOfRange 7 "-9223372036854775809".toList) := by
    decide +kernel
  obtain ⟨-, -, -, -, gapLexed⟩ := tiles _ _ _ _ stream_eq
  obtain ⟨lexed, -⟩ := upToError _ error_eq
  rw [stream_eq] at lexed
  exact ⟨stream_eq, gapLexed, error_eq, lexed⟩

end RegisterMachine
