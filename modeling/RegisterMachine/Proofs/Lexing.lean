import RegisterMachine.Proofs.HandingOut

/-!
# The scanner and the lexical grammar

What a scanner hands out is what the pieces of its text denote. A scanner passes
over the trivia in front of it and takes one lexeme at a time, so a cutting of a
text, if it has one, is followed piece by piece; and every token that is handed
out extends a cutting by some trivia and one lexeme. The tokens of a text are
therefore those of its only cutting, and a text without one has no tokens.
-/

namespace RegisterMachine
namespace Scanner

variable {scanner after last : Scanner}
variable {pieces : List Piece}
variable {token : Token}
variable {tokens : List Token}

/-- The span of the last token has no influence on the next one, and neither has trivia. -/
theorem next_of_trivia
    {rest : List Char}
    (span : Span)
    (cutting : Cutting scanner.rest pieces rest)
    (trivia : Piece.tokens pieces = []) :
    scanner.next =
      next ⟨rest, scanner.position + (pieces.flatMap Piece.text).length, span⟩ := by
  simp only [next, Lexeme.skipTrivia_of_cutting scanner.position cutting trivia]

/-- A scanner that stands at a lexeme hands out its token. -/
theorem next_of_lexeme
    {text rest : List Char}
    (position : Nat)
    (span : Span)
    (precedes : Piece.Precedes ⟨text, some token⟩ rest) :
    next ⟨text ++ rest, position, span⟩ =
      .ok (some token, ⟨rest, position + text.length, .ofLength position text.length⟩) := by
  have skipped := Lexeme.skipTrivia_of_lexeme position precedes
  obtain ⟨c, cs, rfl, -⟩ := precedes.exists_head_of_lexeme
  have found := Lexeme.leading_of_precedes position (List.cons_append).symm precedes
  rw [List.cons_append] at skipped ⊢
  simp only [next, skipped, found]
  rw [← List.cons_append, List.drop_left]

theorem next_nil
    (position : Nat)
    (span : Span) :
    next ⟨[], position, span⟩ = .ok (none, ⟨[], position, ⟨position, position⟩⟩) := rfl

/-- Scanners with the same next answer hand out the same tokens. -/
theorem HandsOut.of_next_eq
    {other : Scanner}
    (same : scanner.next = other.next)
    (handedOut : HandsOut other tokens last) :
    ∃ last', HandsOut scanner tokens last' ∧ last'.next = last.next := by
  cases handedOut with
  | nil => exact ⟨scanner, .nil, same⟩
  | cons first others => exact ⟨last, .cons (same.trans first) others, rfl⟩

/-- The tokens of a cutting are handed out, and the scanner then goes on as one that stands at
the rest of the text. -/
theorem exists_handsOut_of_cutting
    {rest : List Char}
    (span : Span)
    (cutting : Cutting scanner.rest pieces rest) :
    ∃ last, scanner.HandsOut (Piece.tokens pieces) last ∧
      last.next = next ⟨rest, scanner.position + (pieces.flatMap Piece.text).length, span⟩ := by
  induction pieces generalizing scanner with
  | nil => exact ⟨scanner, .nil, next_of_trivia span cutting rfl⟩
  | cons piece pieces inductionHypothesis =>
      obtain ⟨middle, split, precedes, later⟩ := Cutting.cons_iff.mp cutting
      obtain ⟨text, token?⟩ := piece
      have position_eq :
          scanner.position + ((⟨text, token?⟩ :: pieces : List Piece).flatMap Piece.text).length =
            scanner.position + text.length + (pieces.flatMap Piece.text).length := by
        rw [List.flatMap_cons, List.length_append, Nat.add_assoc]
      rw [position_eq]
      cases token? with
      | none =>
          let moved : Scanner := ⟨middle, scanner.position + text.length, span⟩
          have movedCutting : Cutting moved.rest pieces rest := later
          obtain ⟨last, handedOut, answer⟩ := inductionHypothesis movedCutting
          have first : Cutting scanner.rest [⟨text, none⟩] middle := by
            rw [split]
            exact .cons precedes .nil
          have same := next_of_trivia span first rfl
          simp only [List.flatMap_cons, List.flatMap_nil, List.append_nil] at same
          obtain ⟨last', handedOut', same'⟩ := handedOut.of_next_eq same
          exact ⟨last', handedOut', same'.trans answer⟩
      | some token =>
          let moved : Scanner :=
            ⟨middle, scanner.position + text.length, .ofLength scanner.position text.length⟩
          have movedCutting : Cutting moved.rest pieces rest := later
          obtain ⟨last, handedOut, answer⟩ := inductionHypothesis movedCutting
          have first := next_of_lexeme scanner.position scanner.span precedes
          refine ⟨last, .cons ?_ handedOut, answer⟩
          rw [← first, ← split]

/-- Before a token that is handed out comes trivia, and then its lexeme. -/
theorem exists_cutting_of_next
    (answer : scanner.next = .ok (some token, after)) :
    ∃ trivia text,
      Cutting scanner.rest trivia (text ++ after.rest) ∧
      Piece.tokens trivia = [] ∧
      Piece.Precedes ⟨text, some token⟩ after.rest ∧
      after.span =
        .ofLength (scanner.position + (trivia.flatMap Piece.text).length) text.length ∧
      after.position = after.span.stop := by
  obtain ⟨trivia, cutting, isTrivia⟩ :=
    Lexeme.exists_cutting_of_skipTrivia scanner.position scanner.rest
  have skipped := Lexeme.skipTrivia_position false scanner.position scanner.rest
  simp only [next] at answer
  split at answer
  · cases answer
  · rename_i start c cs skipped_eq
    rw [skipped_eq] at cutting skipped
    have lengths := congrArg List.length cutting.text_eq
    rw [List.length_append] at lengths
    have start_eq : start = scanner.position + (trivia.flatMap Piece.text).length := by
      simp only at skipped lengths
      omega
    split at answer
    · rename_i lexeme found
      cases answer
      obtain ⟨text, rest, split, length_eq, precedes⟩ :=
        Lexeme.exists_precedes_of_leading found
      rw [split] at cutting ⊢
      rw [← length_eq, List.drop_left]
      exact ⟨trivia, text, cutting, isTrivia, precedes, by rw [start_eq], rfl⟩
    · cases answer

/-- Only trivia comes before the end of the text. -/
theorem exists_cutting_of_end
    (answer : scanner.next = .ok (none, after)) :
    ∃ trivia, Cutting scanner.rest trivia [] ∧ Piece.tokens trivia = [] := by
  obtain ⟨trivia, cutting, isTrivia⟩ :=
    Lexeme.exists_cutting_of_skipTrivia scanner.position scanner.rest
  simp only [next] at answer
  split at answer
  · rename_i start skipped_eq
    rw [skipped_eq] at cutting
    exact ⟨trivia, cutting, isTrivia⟩
  · split at answer <;> cases answer

/-- Tokens that are handed out are denoted by a cutting of the text up to where the scanner
stands. -/
theorem HandsOut.exists_cutting
    (handedOut : HandsOut scanner tokens after) :
    ∃ pieces, Cutting scanner.rest pieces after.rest ∧ Piece.tokens pieces = tokens := by
  induction handedOut with
  | nil => exact ⟨[], .nil, rfl⟩
  | @cons scanner middle after token tokens first _ inductionHypothesis =>
      obtain ⟨pieces, later, tokens_eq⟩ := inductionHypothesis
      obtain ⟨trivia, text, cutting, isTrivia, precedes, -⟩ := exists_cutting_of_next first
      refine ⟨trivia ++ ⟨text, some token⟩ :: pieces, cutting.append (.cons precedes later), ?_⟩
      rw [Piece.tokens_append, isTrivia, Piece.tokens_cons_lexeme, tokens_eq, List.nil_append]

end Scanner

/-- The tokens of a cutting are the tokens of the text. -/
theorem lex_of_cutting
    {source : String}
    {pieces : List Piece}
    (cutting : Cutting source.toList pieces []) :
    lex source = .ok (Piece.tokens pieces) := by
  have sourceCutting : Cutting (Scanner.ofSource source).rest pieces [] := cutting
  obtain ⟨last, handedOut, answer⟩ :=
    Scanner.exists_handsOut_of_cutting .nowhere sourceCutting
  rw [Scanner.next_nil] at answer
  exact lex_of_end handedOut answer

/-- A text that has tokens has a cutting that denotes them. -/
theorem exists_cutting_of_lex
    {source : String}
    {tokens : List Token}
    (lexed : lex source = .ok tokens) :
    ∃ pieces, Cutting source.toList pieces [] ∧ Piece.tokens pieces = tokens := by
  obtain ⟨last, after, handedOut, answer⟩ := lex_eq_ok_iff.mp lexed
  obtain ⟨pieces, cutting, tokens_eq⟩ := handedOut.exists_cutting
  obtain ⟨trivia, triviaCutting, isTrivia⟩ := Scanner.exists_cutting_of_end answer
  refine ⟨pieces ++ trivia, cutting.append triviaCutting, ?_⟩
  rw [Piece.tokens_append, isTrivia, List.append_nil, tokens_eq]

/-- A text has tokens exactly when it has a cutting, which then denotes them, and there is never
more than one. -/
theorem lex_eq_ok_iff_exists_cutting
    (source : String)
    (tokens : List Token) :
    (lex source = .ok tokens ↔
      ∃ pieces, Cutting source.toList pieces [] ∧ Piece.tokens pieces = tokens) ∧
    ∀ pieces others,
      Cutting source.toList pieces [] → Cutting source.toList others [] → pieces = others := by
  refine ⟨⟨exists_cutting_of_lex, ?_⟩, ?_⟩
  · rintro ⟨pieces, cutting, rfl⟩
    exact lex_of_cutting cutting
  · intro pieces others cutting otherCutting
    exact cutting.unique otherCutting

/-- A number needs no boundary after it. -/
theorem lex_number_then_register :
    lex "5r1" = .ok [.number 5, .register ⟨1⟩] ∧
      ∀ pieces, Cutting "5r1".toList pieces [] →
        pieces = [⟨['5'], some (.number 5)⟩, ⟨['r', '1'], some (.register ⟨1⟩)⟩] := by
  have number : Piece.Precedes ⟨['5'], some (.number 5)⟩ ['r', '1'] :=
    @Piece.Precedes.number ⟨false, ['5']⟩ _ (by decide) (List.forall_mem_singleton.mpr rfl)
      (EndsRun.cons_iff.mpr (by decide)) (by decide) (by decide)
  have register : Piece.Precedes ⟨['r', '1'], some (.register ⟨1⟩)⟩ [] :=
    .reserved (.register 1 (by decide)) .nil
  have cutting : Cutting "5r1".toList
      [⟨['5'], some (.number 5)⟩, ⟨['r', '1'], some (.register ⟨1⟩)⟩] [] :=
    .cons number (.cons register .nil)
  obtain ⟨lexed_iff, unique⟩ :=
    lex_eq_ok_iff_exists_cutting "5r1" [.number 5, .register ⟨1⟩]
  exact ⟨lexed_iff.mpr ⟨_, cutting, rfl⟩, fun pieces other => unique _ _ other cutting⟩

end RegisterMachine
