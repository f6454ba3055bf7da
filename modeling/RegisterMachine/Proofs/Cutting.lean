import RegisterMachine.Proofs.LexicalGrammar

/-!
# Cutting a text into pieces

At most one piece of the lexical grammar stands at the head of a text, so a text
has at most one cutting. Trivia and lexemes differ in their first character, and
`Lexeme.skipTrivia` passes over exactly the trivia at the head of a text.
-/

namespace RegisterMachine

namespace Piece.Precedes

variable {text rest : List Char}

/-- Trivia begins with a blank or with the sign of a comment. -/
theorem exists_head_of_trivia
    (precedes : Precedes ⟨text, none⟩ rest) :
    ∃ c cs, text = c :: cs ∧ (Lexeme.isBlank c = true ∨ c = '#') := by
  cases precedes with
  | @blank c _ isBlank => exact ⟨c, [], rfl, .inl (Lexeme.isBlank_iff.mpr isBlank)⟩
  | @comment body _ _ _ => exact ⟨'#', body, rfl, .inr rfl⟩

/-- A lexeme begins with neither. -/
theorem exists_head_of_lexeme
    {token : Token}
    (precedes : Precedes ⟨text, some token⟩ rest) :
    ∃ c cs, text = c :: cs ∧ Lexeme.isBlank c = false ∧ c ≠ '#' := by
  cases precedes with
  | reserved isReserved _ =>
      obtain ⟨c, cs, word_eq, -, notBlank, notSign⟩ := isReserved.exists_head
      exact ⟨c, cs, word_eq, notBlank, notSign⟩
  | @number numeral _ nonempty areDigits _ _ _ =>
      obtain ⟨negative, digits⟩ := numeral
      obtain ⟨digit, digits, rfl⟩ := List.exists_cons_of_ne_nil nonempty
      cases negative with
      | true => exact ⟨'-', digit :: digits, rfl, by decide, by decide⟩
      | false =>
          have isDigit := areDigits digit List.mem_cons_self
          refine ⟨digit, digits, rfl, ?_, ?_⟩
          · exact Lexeme.isBlank_of_isWordChar (Lexeme.isWordChar_of_isDigit isDigit)
          · rintro rfl
            exact absurd isDigit (by decide)
  | comma => exact ⟨',', [], rfl, by decide, by decide⟩

/-- No piece is empty. -/
theorem text_ne_nil
    {piece : Piece}
    (precedes : piece.Precedes rest) :
    piece.text ≠ [] := by
  obtain ⟨text, token?⟩ := piece
  cases token? with
  | none =>
      obtain ⟨c, cs, rfl, -⟩ := precedes.exists_head_of_trivia
      exact List.cons_ne_nil c cs
  | some token =>
      obtain ⟨c, cs, rfl, -⟩ := precedes.exists_head_of_lexeme
      exact List.cons_ne_nil c cs

/-- Two pieces of trivia at the head of one text are the same. -/
theorem text_eq_of_trivia
    {left right leftRest rightRest : List Char}
    (leftPrecedes : Precedes ⟨left, none⟩ leftRest)
    (rightPrecedes : Precedes ⟨right, none⟩ rightRest)
    (same : left ++ leftRest = right ++ rightRest) :
    left = right := by
  cases leftPrecedes with
  | blank leftBlank =>
      cases rightPrecedes with
      | blank => exact congrArg (fun c => [c]) (List.cons.inj same).1
      | comment =>
          rw [(List.cons.inj same).1] at leftBlank
          exact absurd leftBlank (by decide)
  | @comment leftBody _ leftLine leftEnds =>
      cases rightPrecedes with
      | blank rightBlank =>
          rw [← (List.cons.inj same).1] at rightBlank
          exact absurd rightBlank (by decide)
      | @comment rightBody _ rightLine rightEnds =>
          -- Both bodies are the run of characters up to the end of the line.
          have inLine {body : List Char} (oneLine : '\n' ∉ body) :
              ∀ c ∈ body, decide (c ≠ '\n') = true := by
            intro c isMember
            exact decide_eq_true (fun isLineFeed => oneLine (isLineFeed ▸ isMember))
          obtain ⟨body_eq, -⟩ :=
            leftEnds.append_inj rightEnds (inLine leftLine) (inLine rightLine)
              (List.cons.inj same).2
          rw [body_eq]

/-- Two lexemes at the head of one text are the same and denote the same token. -/
theorem eq_of_lexeme
    {left right leftRest rightRest : List Char}
    {leftToken rightToken : Token}
    (leftPrecedes : Precedes ⟨left, some leftToken⟩ leftRest)
    (rightPrecedes : Precedes ⟨right, some rightToken⟩ rightRest)
    (same : left ++ leftRest = right ++ rightRest) :
    left = right ∧ leftToken = rightToken := by
  obtain ⟨c, cs, left_eq, -⟩ := leftPrecedes.exists_head_of_lexeme
  have split : c :: (cs ++ leftRest) = left ++ leftRest := by rw [left_eq, List.cons_append]
  have leftFound := Lexeme.leading_of_precedes 0 split leftPrecedes
  have rightFound := Lexeme.leading_of_precedes 0 (split.trans same) rightPrecedes
  have lexeme_eq := Except.ok.inj (leftFound.symm.trans rightFound)
  injection lexeme_eq with token_eq length_eq
  exact ⟨(List.append_inj same length_eq).1, token_eq⟩

/-- The first character tells trivia from lexemes. -/
theorem append_ne_of_trivia_of_lexeme
    {trivia lexeme triviaRest lexemeRest : List Char}
    {token : Token}
    (isTrivia : Precedes ⟨trivia, none⟩ triviaRest)
    (isLexeme : Precedes ⟨lexeme, some token⟩ lexemeRest) :
    trivia ++ triviaRest ≠ lexeme ++ lexemeRest := by
  obtain ⟨c, cs, rfl, blankOrSign⟩ := isTrivia.exists_head_of_trivia
  obtain ⟨d, ds, rfl, notBlank, notSign⟩ := isLexeme.exists_head_of_lexeme
  intro same
  cases (List.cons.inj same).1
  rcases blankOrSign with isBlank | isSign
  · rw [isBlank] at notBlank
    cases notBlank
  · exact notSign isSign

/-- At most one piece stands at the head of a text. -/
theorem unique
    {left right : Piece}
    {leftRest rightRest : List Char}
    (leftPrecedes : left.Precedes leftRest)
    (rightPrecedes : right.Precedes rightRest)
    (same : left.text ++ leftRest = right.text ++ rightRest) :
    left = right := by
  obtain ⟨leftText, leftToken?⟩ := left
  obtain ⟨rightText, rightToken?⟩ := right
  cases leftToken? with
  | none =>
      cases rightToken? with
      | none => rw [text_eq_of_trivia leftPrecedes rightPrecedes same]
      | some rightToken =>
          exact absurd same (append_ne_of_trivia_of_lexeme leftPrecedes rightPrecedes)
  | some leftToken =>
      cases rightToken? with
      | none =>
          exact absurd same.symm (append_ne_of_trivia_of_lexeme rightPrecedes leftPrecedes)
      | some rightToken =>
          obtain ⟨rfl, rfl⟩ := eq_of_lexeme leftPrecedes rightPrecedes same
          rfl

end Piece.Precedes

namespace Piece

@[simp] theorem tokens_nil : tokens [] = [] := rfl

@[simp] theorem tokens_append
    (before after : List Piece) :
    tokens (before ++ after) = tokens before ++ tokens after :=
  List.filterMap_append

@[simp] theorem tokens_cons_trivia
    (text : List Char)
    (pieces : List Piece) :
    tokens (⟨text, none⟩ :: pieces) = tokens pieces := rfl

@[simp] theorem tokens_cons_lexeme
    (text : List Char)
    (token : Token)
    (pieces : List Piece) :
    tokens (⟨text, some token⟩ :: pieces) = token :: tokens pieces := rfl

end Piece

namespace Cutting

variable {cs middle rest : List Char}
variable {piece : Piece}
variable {pieces : List Piece}

@[simp] theorem nil_iff : Cutting cs [] rest ↔ cs = rest := by
  constructor
  · intro cutting
    cases cutting
    rfl
  · rintro rfl
    exact .nil

@[simp] theorem cons_iff :
    Cutting cs (piece :: pieces) rest ↔
      ∃ middle, cs = piece.text ++ middle ∧ piece.Precedes middle ∧
        Cutting middle pieces rest := by
  constructor
  · intro cutting
    cases cutting with
    | cons precedes later => exact ⟨_, rfl, precedes, later⟩
  · rintro ⟨middle, rfl, precedes, later⟩
    exact .cons precedes later

/-- A cutting that stops somewhere can be continued from there. -/
theorem append
    {later : List Piece}
    (first : Cutting cs pieces middle)
    (second : Cutting middle later rest) :
    Cutting cs (pieces ++ later) rest := by
  induction first with
  | nil => exact second
  | cons precedes _ inductionHypothesis =>
      exact .cons precedes (inductionHypothesis second)

/-- The pieces of a cutting make up the text. -/
theorem text_eq
    (cutting : Cutting cs pieces rest) :
    cs = pieces.flatMap Piece.text ++ rest := by
  induction cutting with
  | nil => rfl
  | cons _ _ inductionHypothesis =>
      rw [List.flatMap_cons, List.append_assoc, ← inductionHypothesis]

/-- A text has at most one cutting. -/
theorem unique
    {others : List Piece}
    (cutting : Cutting cs pieces [])
    (otherCutting : Cutting cs others []) :
    pieces = others := by
  induction pieces generalizing cs others with
  | nil =>
      cases others with
      | nil => rfl
      | cons other others =>
          obtain ⟨middle, split, precedes, -⟩ := cons_iff.mp otherCutting
          rw [nil_iff.mp cutting] at split
          exact absurd (List.append_eq_nil_iff.mp split.symm).1 precedes.text_ne_nil
  | cons piece pieces inductionHypothesis =>
      obtain ⟨middle, split, precedes, later⟩ := cons_iff.mp cutting
      cases others with
      | nil =>
          rw [nil_iff.mp otherCutting] at split
          exact absurd (List.append_eq_nil_iff.mp split.symm).1 precedes.text_ne_nil
      | cons other others =>
          obtain ⟨otherMiddle, otherSplit, otherPrecedes, otherLater⟩ :=
            cons_iff.mp otherCutting
          have same := split.symm.trans otherSplit
          have piece_eq := precedes.unique otherPrecedes same
          subst piece_eq
          have middle_eq := List.append_cancel_left same
          subst middle_eq
          rw [inductionHypothesis later otherLater]

/-- Blanks can be cut off as trivia. -/
theorem exists_of_blanks
    {blanks : List Char}
    (areBlanks : ∀ c ∈ blanks, Lexeme.isBlank c = true)
    (rest : List Char) :
    ∃ pieces, Cutting (blanks ++ rest) pieces rest ∧ Piece.tokens pieces = [] := by
  induction blanks with
  | nil => exact ⟨[], .nil, rfl⟩
  | cons c blanks inductionHypothesis =>
      obtain ⟨isBlank, othersBlank⟩ := List.forall_mem_cons.mp areBlanks
      obtain ⟨pieces, cutting, trivia⟩ := inductionHypothesis othersBlank
      exact ⟨⟨[c], none⟩ :: pieces, .cons (.blank (Lexeme.isBlank_iff.mp isBlank)) cutting, trivia⟩

end Cutting

/-! ## Trivia -/

namespace Lexeme

variable {text rest cs : List Char}

/-- A comment is over at the end of its line. -/
theorem skipTrivia_comment
    (position : Nat)
    {body : List Char}
    (oneLine : '\n' ∉ body)
    (ends : EndsRun (· ≠ '\n') rest) :
    skipTrivia true position (body ++ rest) =
      skipTrivia false (position + body.length) rest := by
  induction body generalizing position with
  | nil =>
      cases rest with
      | nil => rfl
      | cons c cs =>
          have isLineFeed : c = '\n' := by simpa using EndsRun.cons_iff.mp ends
          simp [skipTrivia, isLineFeed]
  | cons c body inductionHypothesis =>
      rw [List.mem_cons, not_or] at oneLine
      rw [List.cons_append, skipTrivia, if_neg (Ne.symm oneLine.1), if_pos rfl,
        inductionHypothesis (position + 1) oneLine.2, List.length_cons]
      congr 1
      omega

/-- A piece of trivia is passed over. -/
theorem skipTrivia_of_precedes
    (position : Nat)
    (precedes : Piece.Precedes ⟨text, none⟩ rest) :
    skipTrivia false position (text ++ rest) =
      skipTrivia false (position + text.length) rest := by
  cases precedes with
  | blank isBlank => simp [skipTrivia, Lexeme.isBlank_iff.mpr isBlank]
  | @comment body _ oneLine ends =>
      rw [List.cons_append, skipTrivia, if_neg (by decide), if_neg (by decide),
        if_neg (by decide), if_pos rfl, skipTrivia_comment (position + 1) oneLine ends,
        List.length_cons]
      congr 1
      omega

/-- Trivia of any number of pieces is passed over. -/
theorem skipTrivia_of_cutting
    (position : Nat)
    {pieces : List Piece}
    (cutting : Cutting cs pieces rest)
    (trivia : Piece.tokens pieces = []) :
    skipTrivia false position cs =
      skipTrivia false (position + (pieces.flatMap Piece.text).length) rest := by
  induction cutting generalizing position with
  | nil => rfl
  | @cons piece pieces middle rest precedes _ inductionHypothesis =>
      obtain ⟨text, token?⟩ := piece
      cases token? with
      | some token => cases trivia
      | none =>
          rw [skipTrivia_of_precedes position precedes, inductionHypothesis _ trivia,
            List.flatMap_cons, List.length_append, Nat.add_assoc]

/-- Nothing is passed over where no trivia begins. -/
theorem skipTrivia_cons_of_not_trivia
    (position : Nat)
    {c : Char}
    (notBlank : isBlank c = false)
    (notSign : c ≠ '#') :
    skipTrivia false position (c :: cs) = (position, c :: cs) := by
  have notLineFeed : c ≠ '\n' := by
    rintro rfl
    exact absurd notBlank (by decide)
  simp [skipTrivia, notLineFeed, notBlank, notSign]

/-- A lexeme is not passed over. -/
theorem skipTrivia_of_lexeme
    (position : Nat)
    {token : Token}
    (precedes : Piece.Precedes ⟨text, some token⟩ rest) :
    skipTrivia false position (text ++ rest) = (position, text ++ rest) := by
  obtain ⟨c, cs, rfl, notBlank, notSign⟩ := precedes.exists_head_of_lexeme
  exact skipTrivia_cons_of_not_trivia position notBlank notSign

/-- What is passed over is trivia. -/
theorem exists_cutting_of_skipTrivia
    (position : Nat)
    (cs : List Char) :
    ∃ pieces, Cutting cs pieces (skipTrivia false position cs).2 ∧
      Piece.tokens pieces = [] := by
  -- A comment is passed over in one go, so the induction is on the length of the text.
  induction length_eq : cs.length using Nat.strongRecOn generalizing cs position with
  | ind length inductionHypothesis =>
      have pass
          {text rest : List Char}
          (precedes : Piece.Precedes ⟨text, none⟩ rest)
          (split : cs = text ++ rest) :
          ∃ pieces, Cutting cs pieces (skipTrivia false position cs).2 ∧
            Piece.tokens pieces = [] := by
        have shorter : rest.length < length := by
          have nonempty : 0 < text.length := List.length_pos_iff.mpr precedes.text_ne_nil
          rw [← length_eq, split, List.length_append]
          omega
        obtain ⟨pieces, cutting, trivia⟩ :=
          inductionHypothesis rest.length shorter (position + text.length) rest rfl
        subst split
        rw [skipTrivia_of_precedes position precedes]
        exact ⟨⟨text, none⟩ :: pieces, .cons precedes cutting, trivia⟩
      cases cs with
      | nil => exact ⟨[], .nil, rfl⟩
      | cons c cs =>
          by_cases blank : isBlank c = true
          · exact pass (.blank (isBlank_iff.mp blank)) (List.singleton_append).symm
          · by_cases sign : c = '#'
            · obtain ⟨body, rest, rfl, inLine, ends⟩ := EndsRun.exists_run (· ≠ '\n') cs
              have oneLine : '\n' ∉ body := by
                intro isMember
                exact absurd (inLine _ isMember) (by decide)
              subst sign
              exact pass (.comment oneLine ends) rfl
            · have notBlank : isBlank c = false := by simpa using blank
              rw [skipTrivia_cons_of_not_trivia position notBlank sign]
              exact ⟨[], .nil, rfl⟩

end Lexeme

end RegisterMachine
