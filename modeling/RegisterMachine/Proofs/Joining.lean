import RegisterMachine.Proofs.Assembling
import RegisterMachine.Proofs.Tiling

/-!
# Joining texts

Two texts are joined with a line feed between them. A line feed ends every
lexeme and every comment and is trivia itself, so the first text is scanned as
if it stood alone, and the second as if it did too, with every place moved by
the number of characters before it. What is assembled from the joined text is
therefore put together from what is assembled from its parts. Only where the
first text breaks off inside an instruction can the second go on with it.

Two operations on scanners carry the proof. One lets the text go on with
another line, and the other moves all places; each keeps what is handed out.
-/

namespace RegisterMachine

/-! ## Moved places -/

/-- A span with a number of characters put in front of the text. -/
def Span.shifted (offset : Nat) (span : Span) : Span :=
  ⟨span.start + offset, span.stop + offset⟩

/-- A lexical error with a number of characters put in front of the text. -/
def LexicalError.shifted (offset : Nat) : LexicalError → LexicalError
  | .illegalCharacter position c => .illegalCharacter (position + offset) c
  | .literalOutOfRange position lexeme => .literalOutOfRange (position + offset) lexeme

/-- An assembly error with a number of characters put in front of the text. -/
def AssemblyError.shifted (offset : Nat) : AssemblyError → AssemblyError
  | .lexical error => .lexical (error.shifted offset)
  | .unexpected expected found span => .unexpected expected found (span.shifted offset)

/-- A report on the same mistake further on in the text. Its wording is the same, except that the
position of an illegal character is written out in it. -/
structure Report.MovedBy (offset : Nat) (report moved : Report) : Prop where
  kind_eq : moved.kind = report.kind
  address_eq : moved.address = report.address
  span_eq : moved.span = ⟨report.span.start + offset, report.span.stop + offset⟩
  text_eq : report.kind ≠ .illegalCharacter → moved.text = report.text
  position_eq : report.kind = .illegalCharacter →
    ∃ quotation,
      report.text = quotation ++ " AT POSITION " ++ Decimal.ofNat report.span.start ∧
      moved.text = quotation ++ " AT POSITION " ++ Decimal.ofNat (report.span.start + offset)

theorem LexicalError.report_movedBy
    (offset : Nat)
    (error : LexicalError) :
    error.report.MovedBy offset (error.shifted offset).report := by
  cases error with
  | illegalCharacter position c =>
      refine ⟨rfl, rfl, ?_, fun otherKind => absurd rfl otherKind,
        fun _ => ⟨Text.quotedChar c, rfl, rfl⟩⟩
      simp only [report, shifted, span, Span.ofLength, Nat.add_right_comm]
  | literalOutOfRange position lexeme =>
      refine ⟨rfl, rfl, ?_, fun _ => rfl, fun sameKind => by cases sameKind⟩
      simp only [report, shifted, span, Span.ofLength, Nat.add_right_comm]

theorem AssemblyError.report_movedBy
    (offset : Nat)
    (error : AssemblyError) :
    error.report.MovedBy offset (error.shifted offset).report := by
  cases error with
  | lexical met => exact met.report_movedBy offset
  | unexpected expected found span =>
      exact ⟨rfl, rfl, rfl, fun _ => rfl, fun sameKind => by cases sameKind⟩

namespace Lexeme

variable {position start : Nat}
variable {inComment : Bool}
variable {c : Char}
variable {cs rest : List Char}

theorem skipTrivia_shifted
    (inComment : Bool)
    (position offset : Nat)
    (cs : List Char) :
    skipTrivia inComment (position + offset) cs =
      ((skipTrivia inComment position cs).1 + offset, (skipTrivia inComment position cs).2) := by
  fun_induction skipTrivia inComment position cs <;> simp_all [skipTrivia, Nat.add_right_comm]

theorem leading_shifted
    (position offset : Nat)
    (c : Char)
    (cs : List Char) :
    leading (position + offset) c cs =
      (leading position c cs).mapError (LexicalError.shifted offset) := by
  simp only [leading]
  split
  · rfl
  · split
    · split <;> rfl
    · split <;> rfl

/-! ## Texts that go on with another line -/

theorem skipTrivia_append_of_cons
    (skipped : skipTrivia inComment position cs = (start, c :: rest))
    (more : List Char) :
    skipTrivia inComment position (cs ++ more) = (start, c :: (rest ++ more)) := by
  fun_induction skipTrivia inComment position cs <;> simp_all [skipTrivia]

/-- Trivia that reaches the end of a text goes on with the line after it. -/
theorem skipTrivia_append_of_nil
    (skipped : skipTrivia inComment position cs = (start, []))
    (more : List Char) :
    skipTrivia inComment position (cs ++ '\n' :: more) = skipTrivia false (start + 1) more := by
  fun_induction skipTrivia inComment position cs <;> simp_all [skipTrivia]

end Lexeme

/-- What ends a run ends it wherever it begins. -/
theorem EndsRun.takeWhile_append_eq
    {inClass : Char → Bool}
    {rest : List Char}
    (ends : EndsRun inClass rest)
    (cs : List Char) :
    (cs ++ rest).takeWhile inClass = cs.takeWhile inClass := by
  induction cs with
  | nil => exact ends.takeWhile_append (by simp)
  | cons c cs inductionHypothesis =>
      rw [List.cons_append, List.takeWhile_cons, List.takeWhile_cons, inductionHypothesis]

/-- No numeral reaches over a line feed. -/
theorem Numeral.leading?_append_line
    (c : Char)
    (cs more : List Char) :
    leading? (c :: (cs ++ '\n' :: more)) = leading? (c :: cs) := by
  have ends : EndsRun Char.isDigit ('\n' :: more) := EndsRun.cons_iff.mpr (by decide)
  have digits_eq := ends.takeWhile_append_eq cs
  have allDigits_eq := ends.takeWhile_append_eq (c :: cs)
  rw [List.cons_append] at allDigits_eq
  simp only [leading?, ofLeadingDigits?, digits_eq, allDigits_eq]

namespace Lexeme

/-- No lexeme reaches over a line feed. -/
theorem leading_append_line
    (position : Nat)
    (c : Char)
    (cs more : List Char) :
    leading position c (cs ++ '\n' :: more) = leading position c cs := by
  have ends : EndsRun isWordChar ('\n' :: more) := EndsRun.cons_iff.mpr (by decide)
  have word_eq := ends.takeWhile_append_eq (c :: cs)
  rw [List.cons_append] at word_eq
  simp only [leading, word_eq, Numeral.leading?_append_line]

theorem length_le_of_leading
    {position : Nat}
    {c : Char}
    {cs : List Char}
    {lexeme : Lexeme}
    (found : leading position c cs = .ok lexeme) :
    lexeme.length ≤ (c :: cs).length := by
  obtain ⟨text, rest, split, length_eq, -⟩ := exists_precedes_of_leading found
  rw [← length_eq, split, List.length_append]
  exact Nat.le_add_right _ _

end Lexeme

/-! ## Scanners -/

namespace Scanner

variable {scanner after last : Scanner}
variable {found : Option Token}
variable {token : Token}
variable {tokens : List Token}
variable {error : LexicalError}

/-- A scanner with a number of characters put in front of the text. -/
def shifted (offset : Nat) (scanner : Scanner) : Scanner where
  rest := scanner.rest
  position := scanner.position + offset
  span := scanner.span.shifted offset

/-- A scanner whose text goes on with another line. -/
def continuedBy (more : List Char) (scanner : Scanner) : Scanner :=
  { scanner with rest := scanner.rest ++ '\n' :: more }

theorem ofSource_append_line (first second : String) :
    ofSource (first ++ "\n" ++ second) = (ofSource first).continuedBy second.toList := by
  simp [ofSource, continuedBy]

theorem next_of_skipTrivia_nil
    {start : Nat}
    (skipped : Lexeme.skipTrivia false scanner.position scanner.rest = (start, [])) :
    scanner.next = .ok (none, ⟨[], start, ⟨start, start⟩⟩) := by
  simp only [next, skipped]

theorem next_of_skipTrivia_cons
    {start : Nat}
    {c : Char}
    {cs : List Char}
    (skipped : Lexeme.skipTrivia false scanner.position scanner.rest = (start, c :: cs)) :
    scanner.next =
      (Lexeme.leading start c cs).map fun lexeme =>
        (some lexeme.token,
          { rest := (c :: cs).drop lexeme.length
            position := start + lexeme.length
            span := .ofLength start lexeme.length }) := by
  simp only [next, skipped]
  cases Lexeme.leading start c cs <;> rfl

/-- Characters in front of the text move the answer of a scanner and do not change it. -/
theorem next_shifted
    (offset : Nat)
    (scanner : Scanner) :
    (scanner.shifted offset).next =
      (scanner.next.map (Prod.map id (shifted offset))).mapError
        (LexicalError.shifted offset) := by
  have skip_eq :=
    Lexeme.skipTrivia_shifted false scanner.position offset scanner.rest
  rcases skipped : Lexeme.skipTrivia false scanner.position scanner.rest with ⟨start, _ | ⟨c, cs⟩⟩
  · rw [skipped] at skip_eq
    rw [next_of_skipTrivia_nil skipped, next_of_skipTrivia_nil skip_eq]
    rfl
  · rw [skipped] at skip_eq
    rw [next_of_skipTrivia_cons skipped, next_of_skipTrivia_cons skip_eq, Lexeme.leading_shifted]
    cases Lexeme.leading start c cs with
    | error error => rfl
    | ok lexeme =>
        simp only [Except.map, Except.mapError, Prod.map, shifted, id, Span.ofLength, Span.shifted,
          Nat.add_right_comm]

theorem next_shifted_of_ok
    (answer : scanner.next = .ok (found, after))
    (offset : Nat) :
    (scanner.shifted offset).next = .ok (found, after.shifted offset) := by
  rw [next_shifted, answer]
  rfl

theorem next_shifted_of_error
    (answer : scanner.next = .error error)
    (offset : Nat) :
    (scanner.shifted offset).next = .error (error.shifted offset) := by
  rw [next_shifted, answer]
  rfl

theorem HandsOut.shifted
    (handedOut : HandsOut scanner tokens last)
    (offset : Nat) :
    HandsOut (scanner.shifted offset) tokens (last.shifted offset) := by
  induction handedOut with
  | nil => exact .nil
  | cons first _ inductionHypothesis =>
      exact .cons (next_shifted_of_ok first offset) inductionHypothesis

/-- Short of the end of the text, the answer of a scanner does not depend on the line that comes
after the text. -/
theorem next_continuedBy
    (notEnd : ∀ after, scanner.next ≠ .ok (none, after))
    (more : List Char) :
    (scanner.continuedBy more).next = scanner.next.map (Prod.map id (continuedBy more)) := by
  rcases skipped : Lexeme.skipTrivia false scanner.position scanner.rest with ⟨start, _ | ⟨c, cs⟩⟩
  · exact absurd (next_of_skipTrivia_nil skipped) (notEnd _)
  · have skip_eq := Lexeme.skipTrivia_append_of_cons skipped ('\n' :: more)
    rw [next_of_skipTrivia_cons skipped, next_of_skipTrivia_cons skip_eq,
      Lexeme.leading_append_line, ← List.cons_append]
    cases found : Lexeme.leading start c cs with
    | error error => rfl
    | ok lexeme =>
        simp only [Except.map, Prod.map, id, continuedBy,
          List.drop_append_of_le_length (Lexeme.length_le_of_leading found)]

theorem next_continuedBy_of_token
    (answer : scanner.next = .ok (some token, after))
    (more : List Char) :
    (scanner.continuedBy more).next = .ok (some token, after.continuedBy more) := by
  rw [next_continuedBy (by simp [answer]), answer]
  rfl

theorem next_continuedBy_of_error
    (answer : scanner.next = .error error)
    (more : List Char) :
    (scanner.continuedBy more).next = .error error := by
  rw [next_continuedBy (by simp [answer]), answer]
  rfl

/-- At the end of the text the line that comes after it is begun. -/
theorem next_continuedBy_of_end
    (answer : scanner.next = .ok (none, after))
    (more : List Char)
    (span : Span) :
    (scanner.continuedBy more).next =
      next ⟨more, scanner.position + scanner.rest.length + 1, span⟩ := by
  have counted := Lexeme.skipTrivia_position false scanner.position scanner.rest
  rcases skipped : Lexeme.skipTrivia false scanner.position scanner.rest with ⟨start, _ | ⟨c, cs⟩⟩
  · rw [skipped, List.length_nil, Nat.add_zero] at counted
    simp only [next, continuedBy, Lexeme.skipTrivia_append_of_nil skipped more, ← counted]
  · rw [next_of_skipTrivia_cons skipped] at answer
    cases found : Lexeme.leading start c cs <;> rw [found] at answer <;> cases answer

theorem HandsOut.continuedBy
    (handedOut : HandsOut scanner tokens last)
    (more : List Char) :
    HandsOut (scanner.continuedBy more) tokens (last.continuedBy more) := by
  induction handedOut with
  | nil => exact .nil
  | cons first _ inductionHypothesis =>
      exact .cons (next_continuedBy_of_token first more) inductionHypothesis

/-- Where the first of two texts ends, the scanner of the joined text answers as the scanner of the
second, moved by what stands before. -/
theorem next_of_joined
    {first second : String}
    (handedOut : (ofSource first).HandsOut tokens last)
    (answer : last.next = .ok (none, after)) :
    (last.continuedBy second.toList).next =
      ((ofSource second).shifted (first.length + 1)).next := by
  obtain ⟨beginning, hasRead⟩ := (HasRead.ofSource first).exists_handsOut handedOut
  have length_eq : last.position + last.rest.length = first.length := by
    rw [hasRead.position_eq, ← List.length_append, ← String.length_toList, hasRead.split,
      List.nil_append]
  -- The span of a scanner plays no part in its answer; the one chosen is that of the moved scanner.
  rw [next_continuedBy_of_end answer second.toList (Span.nowhere.shifted (first.length + 1)),
    length_eq, shifted, ofSource, Nat.zero_add]

end Scanner

/-! ## Joined texts -/

section Joined

variable {first second : String}
variable {tokens more : List Token}

theorem lex_joined_of_first_error
    {error : LexicalError}
    (failed : lex first = .error error) :
    lex (first ++ "\n" ++ second) = .error error := by
  obtain ⟨tokens, last, handedOut, answer⟩ := lex_eq_error_iff.mp failed
  have joined := handedOut.continuedBy second.toList
  rw [← Scanner.ofSource_append_line] at joined
  exact lex_of_error joined (Scanner.next_continuedBy_of_error answer second.toList)

/-- The tokens of the first text are handed out, and then those that the second text begins
with. -/
theorem exists_handsOut_joined
    {last : Scanner}
    (lexed : lex first = .ok tokens)
    (handedOut : (Scanner.ofSource second).HandsOut more last) :
    ∃ joinedLast,
      (Scanner.ofSource (first ++ "\n" ++ second)).HandsOut (tokens ++ more) joinedLast ∧
      joinedLast.next = (last.shifted (first.length + 1)).next := by
  obtain ⟨middle, after, firstHanded, answer⟩ := lex_eq_ok_iff.mp lexed
  obtain ⟨joinedLast, secondHanded, same⟩ :=
    (handedOut.shifted (first.length + 1)).of_next_eq (Scanner.next_of_joined firstHanded answer)
  refine ⟨joinedLast, ?_, same⟩
  rw [Scanner.ofSource_append_line, Scanner.HandsOut.append_iff]
  exact ⟨_, firstHanded.continuedBy second.toList, secondHanded⟩

theorem lex_joined
    (lexed : lex first = .ok tokens)
    (lexedMore : lex second = .ok more) :
    lex (first ++ "\n" ++ second) = .ok (tokens ++ more) := by
  obtain ⟨last, after, handedOut, answer⟩ := lex_eq_ok_iff.mp lexedMore
  obtain ⟨joinedLast, joined, same⟩ := exists_handsOut_joined lexed handedOut
  exact lex_of_end joined (same.trans (Scanner.next_shifted_of_ok answer _))

theorem lex_joined_of_second_error
    {error : LexicalError}
    (lexed : lex first = .ok tokens)
    (failed : lex second = .error error) :
    lex (first ++ "\n" ++ second) = .error (error.shifted (first.length + 1)) := by
  obtain ⟨more, last, handedOut, answer⟩ := lex_eq_error_iff.mp failed
  obtain ⟨joinedLast, joined, same⟩ := exists_handsOut_joined lexed handedOut
  exact lex_of_error joined (same.trans (Scanner.next_shifted_of_error answer _))

theorem assemble_joined
    {program others : Program}
    (assembled : assemble first = .ok program)
    (assembledMore : assemble second = .ok others) :
    assemble (first ++ "\n" ++ second) =
      .ok ⟨program.instructions ++ others.instructions⟩ := by
  rw [assemble_eq_ok_iff_lex] at assembled assembledMore ⊢
  rw [lex_joined assembled assembledMore]
  simp [Program.tokens]

end Joined

namespace Reader

variable {scanner after : Scanner}
variable {expected : Expectation}
variable {error : AssemblyError}

theorem Stops.shifted
    (stops : Stops scanner expected error after)
    (offset : Nat) :
    Stops (scanner.shifted offset) expected (error.shifted offset) (after.shifted offset) := by
  cases stops with
  | lexical answer => exact .lexical (Scanner.next_shifted_of_error answer offset)
  | unexpected answer refused atEnd =>
      exact .unexpected (Scanner.next_shifted_of_ok answer offset) refused atEnd

/-- Reading that does not stop at the end of the text stops no matter which line comes after it. -/
theorem Stops.continuedBy
    (stops : Stops scanner expected error after)
    (notEnd : ∀ expected span, error ≠ .unexpected expected none span)
    (more : List Char) :
    Stops (scanner.continuedBy more) expected error (after.continuedBy more) := by
  cases stops with
  | lexical answer => exact .lexical (Scanner.next_continuedBy_of_error answer more)
  | @unexpected found _ answer refused atEnd =>
      cases found with
      | none => exact absurd rfl (notEnd expected after.span)
      | some token =>
          exact .unexpected (Scanner.next_continuedBy_of_token answer more) refused atEnd

end Reader

section Joined

variable {first second : String}
variable {error : AssemblyError}

theorem assemble_joined_of_first_error
    (failed : assemble first = .error error)
    (notEnd : ∀ expected span, error ≠ .unexpected expected none span) :
    assemble (first ++ "\n" ++ second) = .error error := by
  obtain ⟨after, tokens, expected, middle, expecting, handedOut, stops⟩ :=
    exists_fails_of_assemble failed
  rw [assemble_eq_error_iff_fails, Scanner.ofSource_append_line]
  exact ⟨_, tokens, expected, _, expecting, handedOut.continuedBy second.toList,
    stops.continuedBy notEnd second.toList⟩

theorem assemble_joined_of_second_error
    {program : Program}
    (assembled : assemble first = .ok program)
    (failed : assemble second = .error error) :
    assemble (first ++ "\n" ++ second) = .error (error.shifted (first.length + 1)) := by
  obtain ⟨after, tokens, expected, middle, expecting, handedOut, stops⟩ :=
    exists_fails_of_assemble failed
  obtain ⟨joinedMiddle, joined, same⟩ :=
    exists_handsOut_joined (assemble_eq_ok_iff_lex.mp assembled) handedOut
  obtain ⟨joinedAfter, joinedStops⟩ := (stops.shifted (first.length + 1)).of_next_eq same
  rw [assemble_eq_error_iff_fails]
  exact ⟨joinedAfter, _, expected, joinedMiddle,
    expecting.prependAll program.instructions.toList, joined, joinedStops⟩

end Joined

/-- Two texts that are joined with a line feed are scanned and assembled one after the other. What
is wrong with the first text is wrong with both, unless it only breaks off too early. What is wrong
with the second is found after what the first text has, and all places in the report are moved by
the characters before it. -/
theorem joined_texts_assemble_in_turn (first second : String) :
    (∀ error, lex first = .error error → lex (first ++ "\n" ++ second) = .error error) ∧
    (∀ tokens, lex first = .ok tokens →
      (∀ more, lex second = .ok more →
        lex (first ++ "\n" ++ second) = .ok (tokens ++ more)) ∧
      ∀ error, lex second = .error error →
        ∃ moved,
          lex (first ++ "\n" ++ second) = .error moved ∧
          error.report.MovedBy (first.length + 1) moved.report) ∧
    (∀ program, assemble first = .ok program →
      (∀ others, assemble second = .ok others →
        assemble (first ++ "\n" ++ second) =
          .ok ⟨program.instructions ++ others.instructions⟩) ∧
      ∀ error, assemble second = .error error →
        ∃ moved,
          assemble (first ++ "\n" ++ second) = .error moved ∧
          error.report.MovedBy (first.length + 1) moved.report) ∧
    (∀ error, assemble first = .error error →
      (∀ expected span, error ≠ .unexpected expected none span) →
        assemble (first ++ "\n" ++ second) = .error error) := by
  refine ⟨?_, ?_, ?_, ?_⟩
  · intro error failed
    exact lex_joined_of_first_error failed
  · intro tokens lexed
    constructor
    · intro more lexedMore
      exact lex_joined lexed lexedMore
    · intro error failed
      exact ⟨_, lex_joined_of_second_error lexed failed, error.report_movedBy _⟩
  · intro program assembled
    constructor
    · intro others assembledMore
      exact assemble_joined assembled assembledMore
    · intro error failed
      exact ⟨_, assemble_joined_of_second_error assembled failed, error.report_movedBy _⟩
  · intro error failed notEnd
    exact assemble_joined_of_first_error failed notEnd

/-- A comment that is open where the first text ends goes no further, and an illegal character in
the second text is found twelve characters later. A missing comma in the first text is reported as
it was. -/
theorem joined_after_open_comment :
    assemble "WRITE 7 # é" = .ok (.ofList [.write (.literal 7)]) ∧
    assemble "WRITE $" = .error (.lexical (.illegalCharacter 6 '$')) ∧
    (∃ moved,
      assemble ("WRITE 7 # é" ++ "\n" ++ "WRITE $") = .error moved ∧
      moved.report.kind = .illegalCharacter ∧
      moved.report.span = ⟨18, 19⟩) ∧
    assemble ("CP 1 r2" ++ "\n" ++ "WRITE $") =
      .error (.unexpected (.slot .comma) (some (.register ⟨2⟩)) ⟨5, 7⟩) := by
  have assembled : assemble "WRITE 7 # é" = .ok (.ofList [.write (.literal 7)]) := by
    decide +kernel
  have failed : assemble "WRITE $" = .error (.lexical (.illegalCharacter 6 '$')) := by
    decide +kernel
  obtain ⟨-, -, inTurn, -⟩ := joined_texts_assemble_in_turn "WRITE 7 # é" "WRITE $"
  obtain ⟨-, -, -, firstFails⟩ := joined_texts_assemble_in_turn "CP 1 r2" "WRITE $"
  obtain ⟨moved, joinedFails, movedBy⟩ := (inTurn _ assembled).2 _ failed
  refine ⟨assembled, failed, ⟨moved, joinedFails, movedBy.kind_eq, movedBy.span_eq⟩, ?_⟩
  exact firstFails _ (by decide +kernel) (by simp)

/-- An instruction that breaks off where the first text ends can be completed by the second. -/
example :
    assemble "CP 1" = .error (.unexpected (.slot .comma) none ⟨4, 4⟩) ∧
      assemble ("CP 1" ++ "\n" ++ ",r2") = .ok (.ofList [.copy (.literal 1) ⟨2⟩]) := by
  decide +kernel

end RegisterMachine
