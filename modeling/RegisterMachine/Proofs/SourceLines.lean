import Mathlib.Algebra.Order.Ring.Nat
import RegisterMachine.Command.Excerpt
import RegisterMachine.Proofs.Assembling
import RegisterMachine.Proofs.Tiling

/-!
# Lines of the source text

An assembly error is about a lexeme, about a character that begins none, or about
the end of the source text. There is no blank in such a text, so it stands on
one line. A position is a line and a column; it is found from the lines that end
before it and from the characters before it on its own line.
-/

namespace RegisterMachine

/-! ## The text at fault -/

theorem Numeral.isBlank_of_mem_chars
    {numeral : Numeral}
    {c : Char}
    (areDigits : ∀ c ∈ numeral.digits, c.isDigit = true)
    (isMember : c ∈ numeral.chars) :
    Lexeme.isBlank c = false := by
  rcases isDigit_or_minus_of_mem_chars areDigits isMember with isDigit | rfl
  · exact Lexeme.isBlank_of_isWordChar (Lexeme.isWordChar_of_isDigit isDigit)
  · decide

/-- No lexeme has a blank in it. -/
theorem Piece.Precedes.isBlank_of_mem
    {text rest : List Char}
    {token : Token}
    {c : Char}
    (precedes : Piece.Precedes ⟨text, some token⟩ rest)
    (isMember : c ∈ text) :
    Lexeme.isBlank c = false := by
  cases precedes with
  | reserved isReserved _ => exact Lexeme.isBlank_of_isWordChar (isReserved.isWordChar c isMember)
  | number _ areDigits _ _ _ => exact Numeral.isBlank_of_mem_chars areDigits isMember
  | comma =>
      rw [List.mem_singleton.mp isMember]
      decide

/-- The text at a span of the source text: it has no blank in it, and it is empty only at the
end. -/
structure Culprit
    (source : String)
    (span : Span)
    (before text after : List Char) : Prop where
  split : source.toList = before ++ text ++ after
  span_eq : span = .ofLength before.length text.length
  notBlank : ∀ c ∈ text, Lexeme.isBlank c = false
  atEnd : text = [] → after = []

/-- What a lexical error describes stands at its span. -/
theorem LexicalError.Describes.exists_culprit
    {source : String}
    {upTo rest : List Char}
    {error : LexicalError}
    (describes : error.Describes upTo.length rest)
    (split : source.toList = upTo ++ rest) :
    ∃ text after, Culprit source error.report.span upTo text after := by
  cases describes with
  | @illegalCharacter c later rest_eq noPiece =>
      refine ⟨[c], later, ?_, rfl, ?_, by simp⟩
      · rw [split, rest_eq, List.append_assoc, List.singleton_append]
      · intro d isMember
        rw [List.mem_singleton.mp isMember]
        cases blank : Lexeme.isBlank c with
        | false => rfl
        | true =>
            exact absurd (.blank (Lexeme.isBlank_iff.mp blank)) (noPiece ⟨[c], none⟩ later rest_eq)
  | literalOutOfRange begins =>
      obtain ⟨numeral, later, rfl, nonempty, areDigits, rest_eq, ends, -⟩ := begins
      have isNumeral : Numeral.leading? rest = some numeral :=
        Numeral.leading?_eq_some_iff.mpr ⟨nonempty, areDigits, later, rest_eq, ends⟩
      refine ⟨numeral.chars, later, ?_, rfl, ?_, ?_⟩
      · rw [split, rest_eq, List.append_assoc]
      · exact fun c isMember => Numeral.isBlank_of_mem_chars areDigits isMember
      · exact fun isEmpty => absurd isEmpty (Numeral.chars_ne_nil_of_leading? isNumeral)

namespace Scanner.HasRead

variable {source : String}
variable {beginning : List Char}
variable {scanner after : Scanner}

/-- What is handed out stands at the span after it, also when it is the end of the text. -/
theorem exists_culprit
    {found : Option Token}
    (hasRead : HasRead source beginning scanner)
    (answer : scanner.next = .ok (found, after)) :
    ∃ before text rest, Culprit source after.span before text rest := by
  cases found with
  | none =>
      refine ⟨source.toList, [], [], by simp, ?_, by simp, fun _ => rfl⟩
      rw [hasRead.span_of_end answer, String.length_toList]
      rfl
  | some token =>
      obtain ⟨trivia, text, cutting, -, precedes, span_eq, -⟩ := exists_cutting_of_next answer
      refine ⟨beginning ++ trivia.flatMap Piece.text, text, after.rest, ?_, ?_, ?_, ?_⟩
      · rw [hasRead.split, cutting.text_eq, List.append_assoc, List.append_assoc]
      · rw [span_eq, hasRead.position_eq, List.length_append]
      · exact fun c isMember => precedes.isBlank_of_mem isMember
      · exact fun isEmpty => absurd isEmpty precedes.text_ne_nil

end Scanner.HasRead

/-- An assembly error is about the text at its span. -/
theorem exists_culprit_of_assemble
    {source : String}
    {error : AssemblyError}
    (failed : assemble source = .error error) :
    ∃ before text after, Culprit source error.report.span before text after := by
  obtain ⟨_, tokens, expected, middle, -, handedOut, stops⟩ := exists_fails_of_assemble failed
  cases stops with
  | lexical answer =>
      obtain ⟨upTo, rest, split, -, describes⟩ :=
        Scanner.HasRead.exists_lex_of_error handedOut answer
      exact ⟨upTo, describes.exists_culprit split⟩
  | unexpected answer _ _ =>
      obtain ⟨beginning, hasRead⟩ := (Scanner.HasRead.ofSource source).exists_handsOut handedOut
      exact hasRead.exists_culprit answer

/-! ## Lines -/

/-- Some lines with a line feed after each. -/
def withFeeds (lines : List (List Char)) : List Char :=
  lines.flatMap (· ++ ['\n'])

/-- A text of which some whole lines, one more line and a rest are known. The rest is empty or
begins with the line feed that ends the line. -/
structure LineAt
    (cs : List Char)
    (lines : List (List Char))
    (line rest : List Char) : Prop where
  split : cs = withFeeds lines ++ (line ++ rest)
  unbroken_before : ∀ earlier ∈ lines, '\n' ∉ earlier
  unbroken : '\n' ∉ line
  ends : EndsRun (· ≠ '\n') rest

theorem exists_withFeeds (cs : List Char) :
    ∃ lines start,
      cs = withFeeds lines ++ start ∧ (∀ line ∈ lines, '\n' ∉ line) ∧ '\n' ∉ start := by
  induction cs with
  | nil => exact ⟨[], [], rfl, by simp, by simp⟩
  | cons c cs inductionHypothesis =>
      obtain ⟨lines, start, rfl, unbroken, startUnbroken⟩ := inductionHypothesis
      by_cases isFeed : c = '\n'
      · refine ⟨[] :: lines, start, by simp [withFeeds, isFeed], ?_, startUnbroken⟩
        exact List.forall_mem_cons.mpr ⟨by simp, unbroken⟩
      · cases lines with
        | nil => exact ⟨[], c :: start, rfl, by simp, by simp [Ne.symm isFeed, startUnbroken]⟩
        | cons line lines =>
            obtain ⟨lineUnbroken, others⟩ := List.forall_mem_cons.mp unbroken
            refine ⟨(c :: line) :: lines, start, by simp [withFeeds], ?_, startUnbroken⟩
            exact List.forall_mem_cons.mpr ⟨by simp [Ne.symm isFeed, lineUnbroken], others⟩

/-- Text that is not broken stands on one line. -/
theorem exists_lineAt
    {text : List Char}
    (unbroken : '\n' ∉ text)
    (before after : List Char) :
    ∃ lines start more rest,
      before = withFeeds lines ++ start ∧
      LineAt (before ++ text ++ after) lines (start ++ text ++ more) rest := by
  obtain ⟨lines, start, rfl, unbrokenBefore, startUnbroken⟩ := exists_withFeeds before
  obtain ⟨more, rest, rfl, inLine, ends⟩ := EndsRun.exists_run (· ≠ '\n') after
  have moreUnbroken : '\n' ∉ more := fun isMember => by simpa using inLine '\n' isMember
  refine ⟨lines, start, more, rest, rfl, ?_, unbrokenBefore, ?_, ends⟩
  · simp only [List.append_assoc]
  · simp [startUnbroken, unbroken, moreUnbroken]

namespace Culprit

variable {source : String}
variable {span : Span}
variable {before text after : List Char}

theorem length_eq
    (culprit : Culprit source span before text after) :
    span.length = text.length := by
  rw [culprit.span_eq]
  exact Nat.add_sub_cancel_left _ _

/-- The text at fault stands on one line. -/
theorem exists_lineAt
    (culprit : Culprit source span before text after) :
    ∃ lines start more rest,
      LineAt source.toList lines (start ++ (text ++ more)) rest ∧
      span.start = (withFeeds lines ++ start).length := by
  have unbroken : '\n' ∉ text := fun isMember => absurd (culprit.notBlank '\n' isMember) (by decide)
  obtain ⟨lines, start, more, rest, before_eq, lineAt⟩ :=
    RegisterMachine.exists_lineAt unbroken before after
  rw [← culprit.split, List.append_assoc] at lineAt
  refine ⟨lines, start, more, rest, lineAt, ?_⟩
  rw [culprit.span_eq, ← before_eq]
  rfl

/-- Before the end of the source text, there is a character at fault. -/
theorem text_ne_nil
    (culprit : Culprit source span before text after)
    (inside : span.start < source.length) :
    text ≠ [] := by
  intro isEmpty
  rw [culprit.span_eq, ← String.length_toList, culprit.split, isEmpty, culprit.atEnd isEmpty,
    List.append_nil, List.append_nil] at inside
  exact Nat.lt_irrefl _ inside

end Culprit

/-- Splitting a text at its line feeds gives its whole lines first. -/
theorem splitOn_withFeeds_append
    {lines : List (List Char)}
    (unbroken : ∀ line ∈ lines, '\n' ∉ line)
    (rest : List Char) :
    (withFeeds lines ++ rest).splitOn '\n' = lines ++ rest.splitOn '\n' := by
  induction lines with
  | nil => rfl
  | cons line lines inductionHypothesis =>
      obtain ⟨lineUnbroken, othersUnbroken⟩ := List.forall_mem_cons.mp unbroken
      have noFeed : ∀ c ∈ line, (c == '\n') = false := by
        simpa using List.forall_mem_ne'.mpr lineUnbroken
      have cut :=
        List.splitOnP_append_cons_of_forall_mem noFeed '\n' (by simp) (withFeeds lines ++ rest)
      have later := inductionHypothesis othersUnbroken
      rw [List.splitOn] at later ⊢
      rw [later] at cut
      simpa [withFeeds] using cut

namespace LineAt

variable {cs line rest : List Char}
variable {lines : List (List Char)}

/-- Splitting a text at its line feeds gives its lines. -/
theorem splitOn_eq
    (lineAt : LineAt cs lines line rest) :
    ∃ others, cs.splitOn '\n' = lines ++ line :: others := by
  have noFeed : ∀ c ∈ line, (c == '\n') = false := by
    simpa using List.forall_mem_ne'.mpr lineAt.unbroken
  rw [lineAt.split, splitOn_withFeeds_append lineAt.unbroken_before]
  cases rest with
  | nil =>
      refine ⟨[], ?_⟩
      rw [List.append_nil, List.splitOn, List.splitOnP_eq_singleton noFeed]
  | cons c rest =>
      have isFeed : c = '\n' := by simpa using lineAt.ends c rfl
      refine ⟨rest.splitOn '\n', ?_⟩
      rw [List.splitOn, List.splitOnP_append_cons_of_forall_mem noFeed c (by simp [isFeed]) rest,
        ← List.splitOn]

end LineAt

section WithFeeds

variable {lines : List (List Char)}

theorem length_withFeeds (lines : List (List Char)) :
    (withFeeds lines).length = (lines.map (·.length + 1)).sum := by
  simp [withFeeds, List.length_flatMap]

theorem count_withFeeds (unbroken : ∀ line ∈ lines, '\n' ∉ line) :
    (withFeeds lines).count '\n' = lines.length := by
  induction lines with
  | nil => rfl
  | cons line lines inductionHypothesis =>
      obtain ⟨lineUnbroken, others⟩ := List.forall_mem_cons.mp unbroken
      rw [withFeeds, List.flatMap_cons, ← withFeeds, List.count_append, List.count_append,
        inductionHypothesis others, List.count_eq_zero_of_not_mem lineUnbroken,
        List.count_singleton_self, List.length_cons, Nat.zero_add, Nat.add_comm]

/-- A text that ends with whole lines ends in a line feed. -/
theorem getLast?_withFeeds_append
    {start : List Char}
    (nonempty : withFeeds lines ++ start ≠ [])
    (unbroken : '\n' ∉ start) :
    (withFeeds lines ++ start).getLast? = some '\n' ↔ start = [] := by
  constructor
  · intro endsInFeed
    cases start with
    | nil => rfl
    | cons c start =>
        rw [List.getLast?_append_of_ne_nil _ (List.cons_ne_nil c start)] at endsInFeed
        exact absurd (List.mem_of_getLast? endsInFeed) unbroken
  · rintro rfl
    rw [List.append_nil] at nonempty ⊢
    rcases List.eq_nil_or_concat lines with rfl | ⟨earlier, last, rfl⟩
    · exact absurd rfl nonempty
    · simp [withFeeds]

end WithFeeds

/-! ## Positions -/

namespace Command
namespace Position

variable {cs line rest : List Char}
variable {lines : List (List Char)}

theorem foldl_after_of_unbroken
    (unbroken : '\n' ∉ line)
    (position : Position) :
    line.foldl after position = ⟨position.line, position.column + line.length⟩ := by
  induction line generalizing position with
  | nil => rfl
  | cons c line inductionHypothesis =>
      rw [List.mem_cons, not_or] at unbroken
      rw [List.foldl_cons, inductionHypothesis unbroken.2, after, if_neg (Ne.symm unbroken.1),
        List.length_cons, Nat.add_assoc, Nat.add_comm 1]

theorem foldl_after_withFeeds
    (unbroken : ∀ line ∈ lines, '\n' ∉ line)
    (number : Nat) :
    (withFeeds lines).foldl after ⟨number, 1⟩ = ⟨number + lines.length, 1⟩ := by
  induction lines generalizing number with
  | nil => rfl
  | cons line lines inductionHypothesis =>
      obtain ⟨lineUnbroken, others⟩ := List.forall_mem_cons.mp unbroken
      rw [withFeeds, List.flatMap_cons, ← withFeeds, List.foldl_append, List.foldl_append,
        foldl_after_of_unbroken lineUnbroken, List.foldl_cons, List.foldl_nil, after, if_pos rfl,
        inductionHypothesis others, List.length_cons]
      simp only [Nat.add_assoc, Nat.add_comm 1]

/-- A position is found from the lines that end before it and the characters before it on its
line. -/
theorem ofOffset_of_lineAt
    {start more : List Char}
    (lineAt : LineAt cs lines (start ++ more) rest) :
    ofOffset cs (withFeeds lines ++ start).length = ⟨lines.length + 1, start.length + 1⟩ := by
  have unbroken := lineAt.unbroken
  rw [List.mem_append, not_or] at unbroken
  have taken : cs.take (withFeeds lines ++ start).length = withFeeds lines ++ start := by
    rw [lineAt.split, List.append_assoc start, ← List.append_assoc, List.take_left]
  rw [ofOffset, taken, List.foldl_append, foldl_after_withFeeds lineAt.unbroken_before,
    foldl_after_of_unbroken unbroken.1, Nat.add_comm 1, Nat.add_comm 1]

/-- The position of an offset: there are as many lines before it as line feeds, and what remains of
the offset after these lines is the column. -/
structure Locates
    (source : String)
    (offset : Nat)
    (position : Position) : Prop where
  line_pos : 1 ≤ position.line
  column_pos : 1 ≤ position.column
  line_eq : position.line - 1 = (source.toList.take offset).count '\n'
  offset_eq :
    offset =
      (((source.toList.splitOn '\n').take (position.line - 1)).map (·.length + 1)).sum +
        (position.column - 1)

/-- Positions are counted right up to the end of the text. -/
theorem ofOffset_locates
    {source : String}
    {offset : Nat}
    (inside : offset ≤ source.length) :
    Locates source offset (ofOffset source.toList offset) := by
  obtain ⟨lines, start, more, rest, before_eq, lineAt⟩ :=
    exists_lineAt (by simp : '\n' ∉ []) (source.toList.take offset) (source.toList.drop offset)
  rw [List.append_nil, List.append_nil, List.take_append_drop] at lineAt
  have position_eq := ofOffset_of_lineAt lineAt
  have offset_eq : (withFeeds lines ++ start).length = offset := by
    rw [← before_eq, List.length_take, String.length_toList, Nat.min_eq_left inside]
  obtain ⟨others, splitOn_eq⟩ := lineAt.splitOn_eq
  have unbroken := lineAt.unbroken
  rw [List.mem_append, not_or] at unbroken
  rw [offset_eq] at position_eq
  rw [position_eq]
  refine ⟨Nat.le_add_left 1 _, Nat.le_add_left 1 _, ?_, ?_⟩
  · rw [before_eq, List.count_append, count_withFeeds lineAt.unbroken_before,
      List.count_eq_zero_of_not_mem unbroken.1, Nat.add_sub_cancel, Nat.add_zero]
  · simp only [Nat.add_sub_cancel]
    rw [splitOn_eq, List.take_left, ← length_withFeeds, ← List.length_append, offset_eq]

end Position
end Command
end RegisterMachine
