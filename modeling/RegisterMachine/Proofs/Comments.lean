import RegisterMachine.Proofs.Joining

/-!
# Removing comments

A text without its comments has the same tokens, and it assembles to the same
program or fails for the same reason. Only places change: everything moves to
the left by the number of characters that are removed before it.

A comment is trivia, and where it is removed, the end of its line or of the text
takes its place. The sign of a comment ends every lexeme, and so does a line
feed, so the lexemes before and after a comment are not affected. A text that is
cut into pieces is therefore cut into the same pieces without its comments.
-/

namespace RegisterMachine

/-- A text without its comments. A comment reaches from its sign up to the next line feed, which
stays, or up to the end of the text. -/
def uncommented : List Char → List Char
  | [] => []
  | c :: cs => if c = '#' then uncommented (cs.dropWhile (· ≠ '\n')) else c :: uncommented cs
termination_by cs => cs.length
decreasing_by
  · exact Nat.lt_succ_of_le (List.dropWhile_suffix _).length_le
  · exact Nat.lt_succ_self _

/-- A source text without its comments. -/
def withoutComments (source : String) : String :=
  String.ofList (uncommented source.toList)

/-- How many of the characters before an offset are removed with the comments. -/
def removedBefore (source : String) (offset : Nat) : Nat :=
  offset - (uncommented (source.toList.take offset)).length

/-! ## Texts without comments -/

@[simp] theorem uncommented_nil : uncommented [] = [] := by
  rw [uncommented]

theorem uncommented_cons_of_ne
    {c : Char}
    (notSign : c ≠ '#')
    (cs : List Char) :
    uncommented (c :: cs) = c :: uncommented cs := by
  rw [uncommented, if_neg notSign]

theorem uncommented_append
    {plain : List Char}
    (noSign : '#' ∉ plain)
    (rest : List Char) :
    uncommented (plain ++ rest) = plain ++ uncommented rest := by
  induction plain with
  | nil => rfl
  | cons c plain inductionHypothesis =>
      rw [List.mem_cons, not_or] at noSign
      rw [List.cons_append, uncommented_cons_of_ne (Ne.symm noSign.1),
        inductionHypothesis noSign.2, List.cons_append]

/-- A comment is removed, and what comes after it stays. -/
theorem uncommented_comment
    {body rest : List Char}
    (oneLine : '\n' ∉ body)
    (ends : EndsRun (· ≠ '\n') rest) :
    uncommented ('#' :: body ++ rest) = uncommented rest := by
  have inLine : ∀ c ∈ body, decide (c ≠ '\n') = true := by
    intro c isMember
    exact decide_eq_true fun isLineFeed => oneLine (isLineFeed ▸ isMember)
  rw [List.cons_append, uncommented, if_pos rfl, ends.dropWhile_append inLine]

/-- After the sign of a comment, nothing is left or a line feed comes next. -/
theorem head?_uncommented_of_sign
    {cs : List Char}
    {c : Char}
    (isHead : c ∈ (uncommented ('#' :: cs)).head?) :
    c = '\n' := by
  rw [uncommented, if_pos rfl] at isHead
  have ends : EndsRun (· ≠ '\n') (cs.dropWhile (· ≠ '\n')) := .dropWhile cs
  generalize cs.dropWhile (· ≠ '\n') = rest at isHead ends
  cases rest with
  | nil =>
      rw [uncommented_nil] at isHead
      cases isHead
  | cons d rest =>
      have isLineFeed : d = '\n' := by simpa using EndsRun.cons_iff.mp ends
      rw [isLineFeed, uncommented_cons_of_ne (by decide)] at isHead
      exact (Option.mem_some.mp isHead).symm

/-- What ends at a line feed and before a comment ends there also without the comment. -/
theorem EndsRun.uncommented
    {inClass : Char → Bool}
    {rest : List Char}
    (lineFeedEnds : inClass '\n' = false)
    (ends : EndsRun inClass rest) :
    EndsRun inClass (uncommented rest) := by
  intro c isHead
  cases rest with
  | nil =>
      rw [uncommented_nil] at isHead
      cases isHead
  | cons d rest =>
      by_cases isSign : d = '#'
      · rw [isSign] at isHead
        rw [head?_uncommented_of_sign isHead, lineFeedEnds]
      · rw [uncommented_cons_of_ne isSign] at isHead
        exact ends c isHead

theorem length_uncommented_le (cs : List Char) : (uncommented cs).length ≤ cs.length := by
  fun_induction uncommented cs with
  | case1 => exact Nat.le_refl _
  | case2 cs inductionHypothesis =>
      have dropped := (List.dropWhile_suffix (l := cs) (· ≠ '\n')).length_le
      exact Nat.le_succ_of_le (Nat.le_trans inductionHypothesis dropped)
  | case3 c cs _ inductionHypothesis => exact Nat.succ_le_succ inductionHypothesis

/-- A run of characters that a line feed and the sign of a comment end is the same without
comments. -/
theorem takeWhile_uncommented
    {inClass : Char → Bool}
    (lineFeedEnds : inClass '\n' = false)
    (signEnds : inClass '#' = false)
    (cs : List Char) :
    (uncommented cs).takeWhile inClass = cs.takeWhile inClass := by
  obtain ⟨run, rest, rfl, inRun, ends⟩ := EndsRun.exists_run inClass cs
  have noSign : '#' ∉ run := by
    intro isMember
    rw [inRun '#' isMember] at signEnds
    cases signEnds
  rw [uncommented_append noSign, (ends.uncommented lineFeedEnds).takeWhile_append inRun,
    ends.takeWhile_append inRun]

/-! ## Cuttings -/

/-- No lexeme has the sign of a comment in it. -/
theorem Piece.Precedes.sign_not_mem
    {text rest : List Char}
    {token : Token}
    (precedes : Piece.Precedes ⟨text, some token⟩ rest) :
    '#' ∉ text := by
  intro isMember
  cases precedes with
  | reserved isReserved _ => exact absurd (isReserved.isWordChar '#' isMember) (by decide)
  | number _ areDigits _ _ _ =>
      rcases Numeral.isDigit_or_minus_of_mem_chars areDigits isMember with isDigit | isMinus
      · exact absurd isDigit (by decide)
      · exact absurd isMinus (by decide)
  | comma => exact absurd isMember (by decide)

/-- A lexeme may stand where it stands also without the comments after it. -/
theorem Piece.Precedes.uncommented
    {text rest : List Char}
    {token : Token}
    (precedes : Piece.Precedes ⟨text, some token⟩ rest) :
    Piece.Precedes ⟨text, some token⟩ (uncommented rest) := by
  cases precedes with
  | reserved isReserved ends => exact .reserved isReserved (ends.uncommented (by decide))
  | number nonempty areDigits ends lower upper =>
      exact .number nonempty areDigits (ends.uncommented (by decide)) lower upper
  | comma => exact .comma

/-- Without comments a text is cut into the same lexemes, and what is cut off is what was cut off
without its comments. -/
theorem Cutting.exists_uncommented
    {cs rest : List Char}
    {pieces : List Piece}
    (cutting : Cutting cs pieces rest) :
    ∃ kept,
      Cutting (uncommented cs) kept (uncommented rest) ∧
      Piece.tokens kept = Piece.tokens pieces ∧
      kept.flatMap Piece.text = uncommented (pieces.flatMap Piece.text) := by
  induction cutting with
  | nil => exact ⟨[], .nil, rfl, by simp⟩
  | @cons piece pieces middle rest precedes later inductionHypothesis =>
      obtain ⟨kept, keptCutting, tokens_eq, text_eq⟩ := inductionHypothesis
      have keep
          (noSign : '#' ∉ piece.text)
          (keptPrecedes : piece.Precedes (uncommented middle)) :
          ∃ kept,
            Cutting (uncommented (piece.text ++ middle)) kept (uncommented rest) ∧
            Piece.tokens kept = Piece.tokens (piece :: pieces) ∧
            kept.flatMap Piece.text = uncommented ((piece :: pieces).flatMap Piece.text) := by
        refine ⟨piece :: kept, ?_, ?_, ?_⟩
        · rw [uncommented_append noSign]
          exact .cons keptPrecedes keptCutting
        · rw [Piece.tokens, List.filterMap_cons, ← Piece.tokens, tokens_eq]
          rfl
        · rw [List.flatMap_cons, List.flatMap_cons, uncommented_append noSign, text_eq]
      obtain ⟨text, token?⟩ := piece
      cases token? with
      | some token => exact keep precedes.sign_not_mem precedes.uncommented
      | none =>
          cases precedes with
          | blank isBlank =>
              refine keep ?_ (.blank isBlank)
              rw [List.mem_singleton]
              rintro rfl
              exact absurd isBlank (by decide)
          | comment oneLine ends =>
              refine ⟨kept, ?_, tokens_eq, ?_⟩
              · rw [uncommented_comment oneLine ends]
                exact keptCutting
              · rw [List.flatMap_cons,
                  uncommented_comment oneLine (ends.of_head? later.mem_head?), text_eq]

/-! ## What is found at the head of a text -/

/-- A numeral is the same without the comments after it. -/
theorem Numeral.leading?_uncommented
    (c : Char)
    (cs : List Char) :
    leading? (c :: uncommented cs) = leading? (c :: cs) := by
  have digits_eq : (uncommented cs).takeWhile Char.isDigit = cs.takeWhile Char.isDigit :=
    takeWhile_uncommented (by decide) (by decide) cs
  simp only [leading?, ofLeadingDigits?, List.takeWhile_cons, digits_eq]

/-- A lexeme, or what is wrong in its place, is the same without the comments after it. -/
theorem Lexeme.leading_uncommented
    (position : Nat)
    (c : Char)
    (cs : List Char) :
    leading position c (uncommented cs) = leading position c cs := by
  have word_eq : (uncommented cs).takeWhile isWordChar = cs.takeWhile isWordChar :=
    takeWhile_uncommented (by decide) (by decide) cs
  simp only [leading, List.takeWhile_cons, word_eq, Numeral.leading?_uncommented]

/-! ## Answers -/

theorem LexicalError.report_span (error : LexicalError) : error.report.span = error.span := by
  cases error <;> rfl

namespace Scanner

/-- The next answer of a scanner, with the span of the token or of the end of the text. -/
def reply (scanner : Scanner) : Except LexicalError (Option Token × Span) :=
  scanner.next.map fun (found, after) => (found, after.span)

/-- Where the text begins that an answer is about. -/
def replyStart : Except LexicalError (Option Token × Span) → Nat
  | .ok (_, span) => span.start
  | .error error => error.span.start

/-- An answer with a number of characters put in front of the text. -/
def replyShifted (offset : Nat) :
    Except LexicalError (Option Token × Span) → Except LexicalError (Option Token × Span)
  | .ok (found, span) => .ok (found, span.shifted offset)
  | .error error => .error (error.shifted offset)

theorem reply_shifted
    (offset : Nat)
    (scanner : Scanner) :
    (scanner.shifted offset).reply = replyShifted offset scanner.reply := by
  rw [reply, next_shifted, reply]
  rcases scanner.next with error | ⟨found, after⟩ <;> rfl

section Moved

variable {scanner kept : Scanner}
variable {offset : Nat}

/-- What is handed out is also handed out where the answer is the same further to the left. -/
theorem exists_next_of_replyShifted
    {found : Option Token}
    {after : Scanner}
    (reply_eq : scanner.reply = replyShifted offset kept.reply)
    (answer : scanner.next = .ok (found, after)) :
    ∃ keptAfter,
      kept.next = .ok (found, keptAfter) ∧ keptAfter.span.shifted offset = after.span := by
  rw [reply, answer, reply] at reply_eq
  rcases keptAnswer : kept.next with error | ⟨keptFound, keptAfter⟩
  · rw [keptAnswer] at reply_eq
    cases reply_eq
  · rw [keptAnswer] at reply_eq
    obtain ⟨rfl, span_eq⟩ := Prod.mk.inj (Except.ok.inj reply_eq)
    exact ⟨keptAfter, rfl, span_eq.symm⟩

theorem exists_error_of_replyShifted
    {error : LexicalError}
    (reply_eq : scanner.reply = replyShifted offset kept.reply)
    (answer : scanner.next = .error error) :
    ∃ keptError, kept.next = .error keptError ∧ keptError.shifted offset = error := by
  rw [reply, answer, reply] at reply_eq
  rcases keptAnswer : kept.next with keptError | ⟨keptFound, keptAfter⟩
  · rw [keptAnswer] at reply_eq
    exact ⟨keptError, rfl, (Except.error.inj reply_eq).symm⟩
  · rw [keptAnswer] at reply_eq
    cases reply_eq

end Moved

theorem reply_cons
    {c : Char}
    (notBlank : Lexeme.isBlank c = false)
    (notSign : c ≠ '#')
    (cs : List Char)
    (position : Nat)
    (span : Span) :
    reply ⟨c :: cs, position, span⟩ =
      (Lexeme.leading position c cs).map fun lexeme =>
        (some lexeme.token, .ofLength position lexeme.length) := by
  have skipped : Lexeme.skipTrivia false position (c :: cs) = (position, c :: cs) :=
    Lexeme.skipTrivia_cons_of_not_trivia position notBlank notSign
  rw [reply, next_of_skipTrivia_cons skipped]
  cases Lexeme.leading position c cs <;> rfl

/-- Where no trivia comes first, the answer does not depend on comments further on, and it is
about the text there. -/
theorem reply_uncommented
    {rest : List Char}
    (notTrivia : ∀ c ∈ rest.head?, Lexeme.isBlank c = false ∧ c ≠ '#')
    (position : Nat)
    (span : Span) :
    reply ⟨uncommented rest, position, span⟩ = reply ⟨rest, position, span⟩ ∧
      replyStart (reply ⟨rest, position, span⟩) = position := by
  cases rest with
  | nil =>
      rw [uncommented_nil]
      exact ⟨rfl, rfl⟩
  | cons c cs =>
      obtain ⟨notBlank, notSign⟩ := notTrivia c rfl
      rw [uncommented_cons_of_ne notSign, reply_cons notBlank notSign, reply_cons notBlank notSign,
        Lexeme.leading_uncommented]
      refine ⟨rfl, ?_⟩
      cases found : Lexeme.leading position c cs with
      | ok lexeme => rfl
      | error error =>
          cases Lexeme.describes_of_leading ⟨notBlank, notSign⟩ found <;> rfl

/-- A scanner that has handed out some tokens answers as one that stands behind the pieces that
denote them and behind the trivia after them. -/
theorem HandsOut.exists_cutting_to_reply
    {source : String}
    {tokens : List Token}
    {last : Scanner}
    (handedOut : (ofSource source).HandsOut tokens last) :
    ∃ pieces rest,
      Cutting source.toList pieces rest ∧
      Piece.tokens pieces = tokens ∧
      (∀ c ∈ rest.head?, Lexeme.isBlank c = false ∧ c ≠ '#') ∧
      ∀ span, last.reply = reply ⟨rest, (pieces.flatMap Piece.text).length, span⟩ := by
  obtain ⟨pieces, cutting, tokens_eq⟩ := handedOut.exists_cutting
  obtain ⟨beginning, hasRead⟩ := (HasRead.ofSource source).exists_handsOut handedOut
  rcases skipped : Lexeme.skipTrivia false last.position last.rest with ⟨start, rest⟩
  obtain ⟨trivia, triviaCutting, isTrivia, -⟩ := Lexeme.exists_trivia_of_skipTrivia skipped
  refine ⟨pieces ++ trivia, rest, cutting.append triviaCutting, ?_, ?_, ?_⟩
  · rw [Piece.tokens_append, isTrivia, List.append_nil, tokens_eq]
  · intro c isHead
    obtain ⟨cs, rfl⟩ := List.head?_eq_some_iff.mp isHead
    exact Lexeme.head_of_skipTrivia skipped
  · intro span
    have beginning_eq : beginning = pieces.flatMap Piece.text :=
      List.append_cancel_right (hasRead.split.symm.trans cutting.text_eq)
    rw [reply, next_of_trivia span triviaCutting isTrivia, hasRead.position_eq, List.nil_append,
      beginning_eq, List.flatMap_append, List.length_append, reply]

/-- After the same tokens, the scanner of a text without its comments gives the same answer,
except that it is about a place further to the left. -/
theorem HandsOut.exists_withoutComments
    {source : String}
    {tokens : List Token}
    {last : Scanner}
    (handedOut : (ofSource source).HandsOut tokens last) :
    ∃ kept,
      (ofSource (withoutComments source)).HandsOut tokens kept ∧
      last.reply = replyShifted (removedBefore source (replyStart last.reply)) kept.reply := by
  obtain ⟨pieces, rest, cutting, rfl, notTrivia, reply_eq⟩ := handedOut.exists_cutting_to_reply
  obtain ⟨keptPieces, keptCutting, tokens_eq, text_eq⟩ := cutting.exists_uncommented
  have keptSource : Cutting (ofSource (withoutComments source)).rest keptPieces
      (uncommented rest) := by
    rwa [ofSource, withoutComments, String.toList_ofList]
  obtain ⟨kept, keptHanded, keptAnswer⟩ := exists_handsOut_of_cutting .nowhere keptSource
  rw [tokens_eq] at keptHanded
  refine ⟨kept, keptHanded, ?_⟩
  -- Both scanners answer from the same lexeme on, with different numbers of characters before it.
  let before := pieces.flatMap Piece.text
  let offset := before.length - (uncommented before).length
  have offset_eq : (uncommented before).length + offset = before.length :=
    Nat.add_sub_cancel' (length_uncommented_le before)
  have start_eq : replyStart last.reply = before.length := by
    rw [reply_eq .nowhere]
    exact (reply_uncommented notTrivia before.length .nowhere).2
  have removed_eq : removedBefore source before.length = offset := by
    rw [removedBefore, cutting.text_eq, List.take_left]
  have kept_eq : kept.reply = reply ⟨rest, (uncommented before).length, .nowhere⟩ := by
    rw [← (reply_uncommented notTrivia _ _).1, reply, keptAnswer, text_eq]
    simp only [ofSource, Nat.zero_add, reply, before]
  calc
    last.reply = reply ⟨rest, before.length, Span.nowhere.shifted offset⟩ := reply_eq _
    _ = reply (Scanner.shifted offset ⟨rest, (uncommented before).length, .nowhere⟩) := by
      rw [Scanner.shifted, offset_eq]
    _ = replyShifted (removedBefore source (replyStart last.reply)) kept.reply := by
      rw [reply_shifted, kept_eq, start_eq, removed_eq]

end Scanner

namespace Reader

variable {scanner after : Scanner}
variable {expected : Expectation}
variable {error : AssemblyError}

/-- The report on what stops reading is about the next answer of the scanner. -/
theorem Stops.replyStart_eq (stops : Stops scanner expected error after) :
    Scanner.replyStart scanner.reply = error.report.span.start := by
  cases stops with
  | lexical answer =>
      rw [Scanner.reply, answer, AssemblyError.report, LexicalError.report_span]
      rfl
  | unexpected answer refused atEnd =>
      rw [Scanner.reply, answer]
      rfl

/-- Reading stops for the same reason at a scanner that gives the same answer about a place
further to the left. -/
theorem Stops.exists_of_replyShifted
    {kept : Scanner}
    {offset : Nat}
    (stops : Stops scanner expected error after)
    (reply_eq : scanner.reply = Scanner.replyShifted offset kept.reply) :
    ∃ keptError keptAfter,
      Stops kept expected keptError keptAfter ∧ keptError.shifted offset = error := by
  cases stops with
  | lexical answer =>
      obtain ⟨met, keptAnswer, rfl⟩ := Scanner.exists_error_of_replyShifted reply_eq answer
      exact ⟨_, _, .lexical keptAnswer, rfl⟩
  | unexpected answer refused atEnd =>
      obtain ⟨keptAfter, keptAnswer, span_eq⟩ :=
        Scanner.exists_next_of_replyShifted reply_eq answer
      refine ⟨_, _, .unexpected keptAnswer refused atEnd, ?_⟩
      rw [AssemblyError.shifted, span_eq]

end Reader

/-! ## Failures and the tokens before them -/

/-- The scanner of a text hands out some tokens, and then it meets an error. -/
def ScanningFails
    (source : String)
    (tokens : List Token)
    (error : LexicalError) : Prop :=
  lex source = .error error ∧
    ∃ last, (Scanner.ofSource source).HandsOut tokens last ∧ last.next = .error error

/-- A text is assembled up to some tokens, and what comes next is not what is expected there. -/
def AssemblyFails
    (source : String)
    (tokens : List Token)
    (error : AssemblyError) : Prop :=
  assemble source = .error error ∧
    ∃ expected middle after,
      Expecting tokens expected ∧
      (Scanner.ofSource source).HandsOut tokens middle ∧
      Reader.Stops middle expected error after

section WithoutComments

variable {source : String}

theorem lex_withoutComments_of_ok
    {tokens : List Token}
    (lexed : lex source = .ok tokens) :
    lex (withoutComments source) = .ok tokens := by
  obtain ⟨last, after, handedOut, answer⟩ := lex_eq_ok_iff.mp lexed
  obtain ⟨kept, keptHanded, reply_eq⟩ := handedOut.exists_withoutComments
  obtain ⟨keptAfter, keptAnswer, -⟩ := Scanner.exists_next_of_replyShifted reply_eq answer
  exact lex_of_end keptHanded keptAnswer

theorem exists_scanningFails_withoutComments
    {error : LexicalError}
    (failed : lex source = .error error) :
    ∃ tokens kept,
      ScanningFails source tokens error ∧
      ScanningFails (withoutComments source) tokens kept ∧
      kept.shifted (removedBefore source error.span.start) = error := by
  obtain ⟨tokens, last, handedOut, answer⟩ := lex_eq_error_iff.mp failed
  obtain ⟨keptLast, keptHanded, reply_eq⟩ := handedOut.exists_withoutComments
  obtain ⟨kept, keptAnswer, shifted_eq⟩ := Scanner.exists_error_of_replyShifted reply_eq answer
  have start_eq : Scanner.replyStart last.reply = error.span.start := by
    rw [Scanner.reply, answer]
    rfl
  rw [start_eq] at shifted_eq
  exact ⟨tokens, kept, ⟨failed, last, handedOut, answer⟩,
    ⟨lex_of_error keptHanded keptAnswer, keptLast, keptHanded, keptAnswer⟩, shifted_eq⟩

theorem lex_withoutComments_eq_ok_iff {tokens : List Token} :
    lex source = .ok tokens ↔ lex (withoutComments source) = .ok tokens := by
  refine ⟨lex_withoutComments_of_ok, fun keptLexed => ?_⟩
  cases lexed : lex source with
  | ok others => exact (lex_withoutComments_of_ok lexed).symm.trans keptLexed
  | error error =>
      obtain ⟨_, kept, -, ⟨keptFailed, -⟩, -⟩ := exists_scanningFails_withoutComments lexed
      cases keptFailed.symm.trans keptLexed

theorem exists_assemblyFails_withoutComments
    {error : AssemblyError}
    (failed : assemble source = .error error) :
    ∃ tokens kept,
      AssemblyFails source tokens error ∧
      AssemblyFails (withoutComments source) tokens kept ∧
      kept.shifted (removedBefore source error.report.span.start) = error := by
  obtain ⟨after, tokens, expected, middle, expecting, handedOut, stops⟩ :=
    exists_fails_of_assemble failed
  obtain ⟨keptMiddle, keptHanded, reply_eq⟩ := handedOut.exists_withoutComments
  rw [stops.replyStart_eq] at reply_eq
  obtain ⟨kept, keptAfter, keptStops, shifted_eq⟩ := stops.exists_of_replyShifted reply_eq
  have keptFailed : assemble (withoutComments source) = .error kept :=
    assemble_eq_error_iff_fails.mpr
      ⟨keptAfter, tokens, expected, keptMiddle, expecting, keptHanded, keptStops⟩
  exact ⟨tokens, kept, ⟨failed, expected, middle, after, expecting, handedOut, stops⟩,
    ⟨keptFailed, expected, keptMiddle, keptAfter, expecting, keptHanded, keptStops⟩, shifted_eq⟩

end WithoutComments

/-- Comments matter only for places. Without them a text has the same tokens and assembles to the
same program. Where it fails, it fails after the same tokens and for the same reason, and the
report is moved to the left by the characters that are removed before the mistake. -/
theorem comments_move_places_only (source : String) :
    (∀ tokens, lex source = .ok tokens ↔ lex (withoutComments source) = .ok tokens) ∧
    (∀ program,
      assemble source = .ok program ↔ assemble (withoutComments source) = .ok program) ∧
    (∀ error, lex source = .error error →
      ∃ tokens kept,
        ScanningFails source tokens error ∧
        ScanningFails (withoutComments source) tokens kept ∧
        kept.report.MovedBy (removedBefore source error.report.span.start) error.report) ∧
    (∀ error, assemble source = .error error →
      ∃ tokens kept,
        AssemblyFails source tokens error ∧
        AssemblyFails (withoutComments source) tokens kept ∧
        kept.report.MovedBy (removedBefore source error.report.span.start) error.report) := by
  refine ⟨?_, ?_, ?_, ?_⟩
  · intro tokens
    exact lex_withoutComments_eq_ok_iff
  · intro program
    rw [assemble_eq_ok_iff_lex, assemble_eq_ok_iff_lex, lex_withoutComments_eq_ok_iff]
  · intro error failed
    obtain ⟨tokens, kept, fails, keptFails, shifted_eq⟩ :=
      exists_scanningFails_withoutComments failed
    refine ⟨tokens, kept, fails, keptFails, ?_⟩
    have moved := kept.report_movedBy (removedBefore source error.span.start)
    rwa [shifted_eq, ← error.report_span] at moved
  · intro error failed
    obtain ⟨tokens, kept, fails, keptFails, shifted_eq⟩ :=
      exists_assemblyFails_withoutComments failed
    refine ⟨tokens, kept, fails, keptFails, ?_⟩
    have moved := kept.report_movedBy (removedBefore source error.report.span.start)
    rwa [shifted_eq] at moved

/-- A comma in a comment does not stand for the one that is missing, and the comment is counted in
characters. -/
theorem copy_with_comma_in_comment :
    withoutComments "CP 1 # é, r2\nr2" = "CP 1 \nr2" ∧
    lex "CP 1 \nr2" = .ok [.mnemonic .copy, .number 1, .register ⟨2⟩] ∧
    ∃ tokens kept,
      AssemblyFails "CP 1 # é, r2\nr2" tokens
        (.unexpected (.slot .comma) (some (.register ⟨2⟩)) ⟨13, 15⟩) ∧
      AssemblyFails "CP 1 \nr2" tokens kept ∧
      kept.report.MovedBy 7
        (AssemblyError.unexpected (.slot .comma) (some (.register ⟨2⟩)) ⟨13, 15⟩).report := by
  obtain ⟨lexed_iff, -, -, assemblyFails⟩ := comments_move_places_only "CP 1 # é, r2\nr2"
  have removed : withoutComments "CP 1 # é, r2\nr2" = "CP 1 \nr2" := by
    decide +kernel
  have lexed : lex "CP 1 # é, r2\nr2" = .ok [.mnemonic .copy, .number 1, .register ⟨2⟩] := by
    decide +kernel
  have offset_eq : removedBefore "CP 1 # é, r2\nr2" 13 = 7 := by
    decide +kernel
  obtain ⟨tokens, kept, fails, keptFails, moved⟩ :=
    assemblyFails (.unexpected (.slot .comma) (some (.register ⟨2⟩)) ⟨13, 15⟩) (by decide +kernel)
  rw [removed] at keptFails
  change Report.MovedBy (removedBefore _ 13) _ _ at moved
  rw [offset_eq] at moved
  exact ⟨removed, removed ▸ (lexed_iff _).mp lexed, tokens, kept, fails, keptFails, moved⟩

end RegisterMachine
