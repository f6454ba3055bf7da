import RegisterMachine.Command.Toolkit
import RegisterMachine.Proofs.SourceLines

/-!
# Source excerpts

The excerpt under an assembly error shows the line on which the text at fault
stands. Carriage returns at the end of the line are left out, but none of them
is part of the text at fault.

The carets are as many as the characters at fault, and they come after as many
blanks as there are characters before these on the line. But the line number in
front of the source line takes more room than what stands in front of the
carets, so the carets stand to the left of what they are meant for.
-/

namespace RegisterMachine
namespace Command

variable {bold : String → String}
variable {cs line rest : List Char}
variable {lines : List (List Char)}

/-! ## Finding a line -/

namespace Excerpt

theorem line?_nil (before : Nat) : line? before [] = none := by
  cases before <;> rfl

theorem line?_succ (before : Nat) (cs : List Char) :
    line? (before + 1) cs = line? before ((cs.dropWhile (· ≠ '\n')).drop 1) := by
  cases cs with
  | nil => rw [line?_nil, List.dropWhile_nil, List.drop_nil, line?_nil]
  | cons c cs => rfl

/-- Nothing is shown of a line after the line feed at the very end, and any other line is found. -/
theorem line?_of_lineAt
    (lineAt : LineAt cs lines line rest) :
    line? lines.length cs = if line ++ rest = [] then none else some line := by
  obtain ⟨rfl, unbrokenBefore, unbroken, ends⟩ := lineAt
  have inLine {line : List Char} (unbroken : '\n' ∉ line) :
      ∀ c ∈ line, decide (c ≠ '\n') = true := by
    simpa using List.forall_mem_ne'.mpr unbroken
  induction lines with
  | nil =>
      have taken := ends.takeWhile_append (inLine unbroken)
      change line? 0 (line ++ rest) = _
      cases whole : line ++ rest with
      | nil => rfl
      | cons c cs =>
          rw [whole] at taken
          rw [line?, taken, if_neg (List.cons_ne_nil c cs)]
  | cons first lines inductionHypothesis =>
      obtain ⟨firstUnbroken, othersUnbroken⟩ := List.forall_mem_cons.mp unbrokenBefore
      rw [← inductionHypothesis othersUnbroken, List.length_cons, line?_succ]
      simp only [withFeeds, List.flatMap_cons, List.append_assoc]
      rw [List.dropWhile_append_of_pos (inLine firstUnbroken)]
      rfl

/-! ## Carriage returns -/

theorem exists_returns (line : List Char) :
    ∃ count,
      line = withoutReturns line ++ List.replicate count '\r' ∧
      (withoutReturns line).getLast? ≠ some '\r' := by
  have cut := List.takeWhile_append_dropWhile (p := (· = '\r')) (l := line.reverse)
  have ending := List.head?_dropWhile_not (· = '\r') line.reverse
  have returns :
      line.reverse.takeWhile (· = '\r') =
        List.replicate (line.reverse.takeWhile (· = '\r')).length '\r' := by
    apply List.eq_replicate_of_mem
    intro c isMember
    simpa using List.all_eq_true.mp List.all_takeWhile c isMember
  refine ⟨(line.reverse.takeWhile (· = '\r')).length, ?_, ?_⟩
  · rw [← List.reverse_replicate, ← returns, withoutReturns, ← List.reverse_append, cut,
      List.reverse_reverse]
  · rw [withoutReturns, List.getLast?_reverse]
    intro isReturn
    rw [isReturn] at ending
    simp at ending

/-- Carriage returns are left out only behind the last character that is none. -/
theorem withoutReturns_append
    {first : List Char}
    (ends : first.getLast? ≠ some '\r')
    (second : List Char) :
    withoutReturns (first ++ second) = first ++ withoutReturns second := by
  rw [withoutReturns, List.reverse_append, List.dropWhile_append, withoutReturns]
  split
  · rename_i allReturns
    have kept : first.reverse.dropWhile (· = '\r') = first.reverse := by
      rw [← List.head?_reverse] at ends
      cases reversed : first.reverse with
      | nil => rfl
      | cons c cs =>
          rw [reversed] at ends
          exact List.dropWhile_cons_of_neg (by simpa using ends)
    rw [kept, List.isEmpty_iff.mp allReturns, List.reverse_reverse, List.reverse_nil,
      List.append_nil]
  · rw [List.reverse_append, List.reverse_reverse]

/-! ## What is shown -/

/-- The first line of an excerpt tells where the fault is. -/
def heading (path : String) (position : Position) : String :=
  " --> " ++ path ++ ":" ++ Decimal.ofNat position.line ++ ":" ++ Decimal.ofNat position.column ++
    "\n"

/-- A line of the source text behind its number. -/
def sourceLine (number : Nat) (line : List Char) : String :=
  String.ofList ((Nat.toDigits 10 number).leftpad numberWidth ' ') ++ " | " ++ String.ofList line

/-- The carets for a number of characters from a column on. -/
def caretLine (bold : String → String) (column width : Nat) : String :=
  "  | " ++ String.ofList (List.replicate (column - 1) ' ') ++
    bold (String.ofList (List.replicate width '^'))

/-- The lines of an excerpt that show a line of the source text with carets. -/
def picture
    (bold : String → String)
    (position : Position)
    (width : Nat)
    (line : List Char) : String :=
  "  |\n" ++ sourceLine position.line line ++ "\n" ++
    caretLine bold position.column width ++ "\n"

theorem marked_eq_picture
    (position : Position)
    (width : Nat)
    (line : List Char) :
    marked bold position width line = picture bold position width (withoutReturns line) := by
  unfold marked picture sourceLine caretLine
  simp only [String.append_assoc]

/-- A line of a source text as it is printed, without the carriage returns at its end. -/
structure Prints
    (source : String)
    (number : Nat)
    (line : List Char) : Prop where
  exists_returns :
    ∃ count,
      (source.toList.splitOn '\n')[number - 1]? = some (line ++ List.replicate count '\r')
  ends : line.getLast? ≠ some '\r'

theorem prints_of_lineAt
    {source : String}
    (lineAt : LineAt source.toList lines line rest) :
    Prints source (lines.length + 1) (withoutReturns line) := by
  obtain ⟨count, line_eq, ends⟩ := exists_returns line
  obtain ⟨others, splitOn_eq⟩ := lineAt.splitOn_eq
  refine ⟨⟨count, ?_⟩, ends⟩
  rw [← line_eq, splitOn_eq, Nat.add_sub_cancel, List.getElem?_append_right (Nat.le_refl _),
    Nat.sub_self, List.getElem?_cons_zero]

theorem text_of_lineAt
    {source : String}
    {start more : List Char}
    {span : Span}
    (lineAt : LineAt source.toList lines (start ++ more) rest)
    (start_eq : span.start = (withFeeds lines ++ start).length)
    (path : String) :
    text bold path source span =
      heading path (Position.ofOffset source.toList span.start) ++
        if start ++ more ++ rest = [] then ""
        else
          picture bold (Position.ofOffset source.toList span.start) (max 1 span.length)
            (withoutReturns (start ++ more)) := by
  have position_eq := Position.ofOffset_of_lineAt lineAt
  rw [← start_eq] at position_eq
  have line_eq := line?_of_lineAt lineAt
  unfold text heading
  simp only [position_eq, Nat.add_sub_cancel, line_eq]
  by_cases nothing : start ++ more ++ rest = []
  · simp only [if_pos nothing]
  · simp only [if_neg nothing, marked_eq_picture]

end Excerpt

/-- Where the text at fault begins. -/
def positionOf (source : String) (error : AssemblyError) : Position :=
  Position.ofOffset source.toList error.report.span.start

/-- The excerpt for an error shows a line of the source text with a number of carets. -/
structure Excerpt.Shows
    (bold : String → String)
    (path source : String)
    (error : AssemblyError)
    (carets : Nat)
    (line : List Char) : Prop where
  prints : Prints source (positionOf source error).line line
  text_eq :
    Excerpt.text bold path source error.report.span =
      heading path (positionOf source error) ++
        picture bold (positionOf source error) carets line

theorem positionOf_of_lineAt
    {source : String}
    {error : AssemblyError}
    {start more : List Char}
    (lineAt : LineAt source.toList lines (start ++ more) rest)
    (start_eq : error.report.span.start = (withFeeds lines ++ start).length) :
    positionOf source error = ⟨lines.length + 1, start.length + 1⟩ := by
  rw [positionOf, start_eq]
  exact Position.ofOffset_of_lineAt lineAt

/-- The text at fault stands on the line that the excerpt shows, behind as many characters as the
carets stand behind blanks. -/
theorem Excerpt.exists_shows_of_assemble
    {source : String}
    {error : AssemblyError}
    (failed : assemble source = .error error)
    (inside : error.report.span.start < source.length)
    (path : String) :
    ∃ line,
      Shows bold path source error error.report.span.length line ∧
      (positionOf source error).column - 1 + error.report.span.length ≤ line.length ∧
      String.ofList
          ((line.drop ((positionOf source error).column - 1)).take error.report.span.length) =
        error.report.span.slice source := by
  obtain ⟨before, text, after, culprit⟩ := exists_culprit_of_assemble failed
  obtain ⟨lines, start, more, rest, lineAt, start_eq⟩ := culprit.exists_lineAt
  have nonempty := culprit.text_ne_nil inside
  have position_eq := positionOf_of_lineAt lineAt start_eq
  have printed_eq :
      withoutReturns (start ++ (text ++ more)) = start ++ (text ++ withoutReturns more) := by
    have ends : (start ++ text).getLast? ≠ some '\r' := by
      intro isReturn
      rw [List.getLast?_append_of_ne_nil _ nonempty] at isReturn
      exact absurd (culprit.notBlank '\r' (List.mem_of_getLast? isReturn)) (by decide)
    rw [← List.append_assoc, withoutReturns_append ends, List.append_assoc]
  have positive : 1 ≤ text.length := List.length_pos_iff.mpr nonempty
  refine ⟨start ++ (text ++ withoutReturns more), ⟨?_, ?_⟩, ?_, ?_⟩
  · rw [position_eq, ← printed_eq]
    exact prints_of_lineAt lineAt
  · rw [text_of_lineAt lineAt start_eq, if_neg (by simp [nonempty]), printed_eq, culprit.length_eq,
      Nat.max_eq_right positive]
    rfl
  · rw [position_eq, culprit.length_eq, Nat.add_sub_cancel]
    simp only [List.length_append]
    omega
  · rw [culprit.length_eq, position_eq, Nat.add_sub_cancel, List.drop_left, List.take_left,
      culprit.span_eq, Span.slice_eq culprit.split]

/-- At the end of the source text there is a line to show unless the text ends in a line feed. -/
theorem Excerpt.text_of_end
    {source : String}
    {error : AssemblyError}
    (failed : assemble source = .error error)
    (atEnd : error.report.span.start = source.length)
    (path : String) :
    (source.toList.getLast? = some '\n' →
      Excerpt.text bold path source error.report.span = heading path (positionOf source error)) ∧
    (source.toList.getLast? ≠ some '\n' →
      ∃ line, Shows bold path source error 1 line) := by
  obtain ⟨before, text, after, culprit⟩ := exists_culprit_of_assemble failed
  obtain ⟨lines, start, more, rest, lineAt, start_eq⟩ := culprit.exists_lineAt
  -- Nothing comes after the start of the span, so the last line ends there.
  have nothing : text ++ more ++ rest = [] := by
    have lengths := congrArg List.length lineAt.split
    rw [String.length_toList, ← atEnd, start_eq] at lengths
    simp only [List.length_append] at lengths
    apply List.length_eq_zero_iff.mp
    simp only [List.length_append]
    omega
  obtain ⟨⟨rfl, rfl⟩, rfl⟩ := by simpa only [List.append_eq_nil_iff] using nothing
  have source_eq : source.toList = withFeeds lines ++ start := by simpa using lineAt.split
  have nonempty : withFeeds lines ++ start ≠ [] := by
    rw [← source_eq]
    intro isEmpty
    have assembled : assemble "" = .ok (.ofList []) := by decide +kernel
    rw [String.toList_eq_nil_iff.mp isEmpty, assembled] at failed
    cases failed
  have startUnbroken : '\n' ∉ start := by simpa using lineAt.unbroken
  have text_eq : Excerpt.text bold path source error.report.span = _ :=
    text_of_lineAt lineAt start_eq path
  rw [ne_eq, source_eq, getLast?_withFeeds_append nonempty startUnbroken]
  constructor
  · rintro rfl
    rw [text_eq, if_pos (by simp), String.append_empty]
    rfl
  · intro startNonempty
    refine ⟨withoutReturns (start ++ ([] ++ [])), ?_, ?_⟩
    · rw [positionOf_of_lineAt lineAt start_eq]
      exact prints_of_lineAt lineAt
    · rw [text_eq, if_neg (by simpa using startNonempty), culprit.length_eq]
      rfl

/-- The excerpt for an assembly error shows the right place. Its position is found from the line
feeds before the text at fault. The text at fault stands whole on the line that is printed, behind
as many characters as there are blanks before the carets, and there is a caret for each of its
characters. At the end of the source text a line is shown with one caret, unless the text ends in a
line feed. -/
theorem excerpt_shows_text_at_fault
    (bold : String → String)
    (path source : String)
    (error : AssemblyError)
    (failed : assemble source = .error error) :
    Position.Locates source error.report.span.start (positionOf source error) ∧
    error.report.span.start ≤ error.report.span.stop ∧
    error.report.span.stop ≤ source.length ∧
    (error.report.span.start < source.length →
      ∃ line,
        Excerpt.Shows bold path source error error.report.span.length line ∧
        (positionOf source error).column - 1 + error.report.span.length ≤ line.length ∧
        String.ofList
            ((line.drop ((positionOf source error).column - 1)).take error.report.span.length) =
          error.report.span.slice source) ∧
    (error.report.span.start = source.length →
      (source.toList.getLast? = some '\n' →
        Excerpt.text bold path source error.report.span =
          Excerpt.heading path (positionOf source error)) ∧
      (source.toList.getLast? ≠ some '\n' →
        ∃ line, Excerpt.Shows bold path source error 1 line)) := by
  obtain ⟨before, text, after, culprit⟩ := exists_culprit_of_assemble failed
  have start_le : error.report.span.start ≤ error.report.span.stop := by
    rw [culprit.span_eq]
    exact Nat.le_add_right _ _
  have stop_le : error.report.span.stop ≤ source.length := by
    rw [culprit.span_eq]
    exact Span.stop_le_length culprit.split
  refine ⟨Position.ofOffset_locates (Nat.le_trans start_le stop_le), start_le, stop_le, ?_, ?_⟩
  · intro inside
    exact Excerpt.exists_shows_of_assemble failed inside path
  · intro atEnd
    exact Excerpt.text_of_end failed atEnd path

/-- A register after a missing comma is shown on its line, although a comment with an accent and
carriage returns come before it. At the end of a text that ends in a line feed nothing is shown. -/
theorem excerpt_after_carriage_returns :
    (assemble "# é\r\nCP 2 r2\r\n" =
        .error (.unexpected (.slot .comma) (some (.register ⟨2⟩)) ⟨10, 12⟩) ∧
      ∃ line,
        Excerpt.Prints "# é\r\nCP 2 r2\r\n" 2 line ∧
        Excerpt.text Toolkit.standard.bold "a.asm" "# é\r\nCP 2 r2\r\n" ⟨10, 12⟩ =
          Excerpt.heading "a.asm" ⟨2, 6⟩ ++
            Excerpt.picture Toolkit.standard.bold ⟨2, 6⟩ 2 line ∧
        String.ofList ((line.drop 5).take 2) = "r2") ∧
    assemble "CP 1,\n" = .error (.unexpected (.slot .register) none ⟨6, 6⟩) ∧
    Excerpt.text Toolkit.standard.bold "a.asm" "CP 1,\n" ⟨6, 6⟩ =
      Excerpt.heading "a.asm" ⟨2, 1⟩ := by
  have failed :
      assemble "# é\r\nCP 2 r2\r\n" =
        .error (.unexpected (.slot .comma) (some (.register ⟨2⟩)) ⟨10, 12⟩) := by
    decide +kernel
  have position_eq :
      positionOf "# é\r\nCP 2 r2\r\n"
        (.unexpected (.slot .comma) (some (.register ⟨2⟩)) ⟨10, 12⟩) = ⟨2, 6⟩ := by
    decide +kernel
  have failedAtEnd :
      assemble "CP 1,\n" = .error (.unexpected (.slot .register) none ⟨6, 6⟩) := by
    decide +kernel
  have end_eq : positionOf "CP 1,\n" (.unexpected (.slot .register) none ⟨6, 6⟩) = ⟨2, 1⟩ := by
    decide +kernel
  obtain ⟨-, -, -, inside, -⟩ :=
    excerpt_shows_text_at_fault Toolkit.standard.bold "a.asm" _ _ failed
  obtain ⟨-, -, -, -, atEnd⟩ :=
    excerpt_shows_text_at_fault Toolkit.standard.bold "a.asm" _ _ failedAtEnd
  obtain ⟨line, ⟨prints, text_eq⟩, -, shown⟩ := inside (by decide +kernel)
  rw [position_eq] at prints text_eq shown
  rw [end_eq] at atEnd
  refine ⟨⟨failed, line, prints, text_eq, shown.trans ?_⟩, failedAtEnd, ?_⟩
  · decide +kernel
  · exact (atEnd (by decide +kernel)).1 (by decide +kernel)

/-! ## Where the carets stand -/

/-- A text without the sequences that set a style. Each begins with an escape and ends in an m. -/
def unstyled : (inSequence : Bool) → List Char → List Char
  | _, [] => []
  | true, c :: cs => unstyled (c ≠ 'm') cs
  | false, c :: cs => if c = '\x1b' then unstyled true cs else c :: unstyled false cs

/-- The characters of a text that take up room on a terminal. -/
def visible (text : String) : List Char :=
  unstyled false text.toList

theorem unstyled_append
    {plain : List Char}
    (isPlain : '\x1b' ∉ plain)
    (rest : List Char) :
    unstyled false (plain ++ rest) = plain ++ unstyled false rest := by
  induction plain with
  | nil => rfl
  | cons c plain inductionHypothesis =>
      rw [List.mem_cons, not_or] at isPlain
      rw [List.cons_append, unstyled, if_neg (Ne.symm isPlain.1), inductionHypothesis isPlain.2]
      rfl

namespace Excerpt

theorem visible_caretLine
    (bold_eq : ∀ text, bold text = "\x1b[1m" ++ text ++ "\x1b[0m")
    (column width : Nat) :
    visible (caretLine bold column width) =
      "  | ".toList ++ (List.replicate (column - 1) ' ' ++ List.replicate width '^') := by
  have opened (rest : List Char) :
      unstyled false ("\x1b[1m".toList ++ rest) = unstyled false rest := rfl
  have closed : unstyled false "\x1b[0m".toList = [] := rfl
  simp only [visible, caretLine, bold_eq, String.toList_append, String.toList_ofList,
    List.append_assoc]
  rw [unstyled_append (by decide), unstyled_append (by simp), opened, unstyled_append (by simp),
    closed, List.append_nil]

/-- How many characters the number of a line takes up. -/
def numberLength (number : Nat) : Nat :=
  max numberWidth (Nat.toDigits 10 number).length

theorem toList_sourceLine
    (number : Nat)
    (line : List Char) :
    ∃ padded,
      (sourceLine number line).toList = padded ++ (" | ".toList ++ line) ∧
      padded.length = numberLength number ∧
      '|' ∉ padded := by
  refine ⟨(Nat.toDigits 10 number).leftpad numberWidth ' ', ?_, List.length_leftpad, ?_⟩
  · simp only [sourceLine, String.toList_append, String.toList_ofList, List.append_assoc]
  · intro isMember
    rw [List.leftpad, List.mem_append] at isMember
    rcases isMember with inBlanks | inDigits
    · simp at inBlanks
    · exact Decimal.not_mem_toDigits (by decide) number inDigits

theorem idxOf_bar_sourceLine
    (number : Nat)
    (line : List Char) :
    (sourceLine number line).toList.idxOf '|' = numberLength number + 1 := by
  obtain ⟨padded, chars_eq, length_eq, noBar⟩ := toList_sourceLine number line
  have second : (" | ".toList ++ line).idxOf '|' = 1 := rfl
  rw [chars_eq, List.idxOf_append, if_neg noBar, second, length_eq, Nat.add_comm]

theorem drop_sourceLine
    (number : Nat)
    (line : List Char)
    (count : Nat) :
    (sourceLine number line).toList.drop (numberLength number + 3 + count) = line.drop count := by
  obtain ⟨padded, chars_eq, length_eq, -⟩ := toList_sourceLine number line
  rw [chars_eq, ← length_eq, ← List.drop_drop, ← List.drop_drop, List.drop_left]
  rfl

theorem idxOf_bar_caretLine
    (bold_eq : ∀ text, bold text = "\x1b[1m" ++ text ++ "\x1b[0m")
    (column width : Nat) :
    (visible (caretLine bold column width)).idxOf '|' = 2 := by
  rw [visible_caretLine bold_eq]
  rfl

theorem idxOf_caret_caretLine
    {width : Nat}
    (bold_eq : ∀ text, bold text = "\x1b[1m" ++ text ++ "\x1b[0m")
    (positive : 0 < width)
    (column : Nat) :
    (visible (caretLine bold column width)).idxOf '^' = 4 + (column - 1) := by
  obtain ⟨others, rfl⟩ := Nat.exists_eq_add_one_of_ne_zero (Nat.ne_of_gt positive)
  rw [visible_caretLine bold_eq, List.idxOf_append, if_neg (by decide), List.idxOf_append,
    if_neg (by simp), List.replicate_succ, List.idxOf_cons_self, List.length_replicate,
    Nat.zero_add, Nat.add_comm]
  rfl

end Excerpt

/-- The carets do not stand under the text at fault, and the bar before them does not stand under
the bar before the source line. Both are too far to the left, by one less than the room of the line
number, which has three characters or more. -/
theorem carets_stand_left_of_fault
    (bold : String → String)
    (bold_eq : ∀ text, bold text = "\x1b[1m" ++ text ++ "\x1b[0m")
    (path source : String)
    (error : AssemblyError)
    (failed : assemble source = .error error)
    (inside : error.report.span.start < source.length) :
    ∃ (line : List Char) (sourceLine caretLine : String) (place : Nat),
      Excerpt.Shows bold path source error error.report.span.length line ∧
      sourceLine = Excerpt.sourceLine (positionOf source error).line line ∧
      caretLine =
        Excerpt.caretLine bold (positionOf source error).column error.report.span.length ∧
      String.ofList ((sourceLine.toList.drop place).take error.report.span.length) =
        error.report.span.slice source ∧
      3 ≤ Excerpt.numberLength (positionOf source error).line ∧
      place =
        (visible caretLine).idxOf '^' +
          (Excerpt.numberLength (positionOf source error).line - 1) ∧
      sourceLine.toList.idxOf '|' =
        (visible caretLine).idxOf '|' +
          (Excerpt.numberLength (positionOf source error).line - 1) := by
  obtain ⟨line, shows, -, shown⟩ := Excerpt.exists_shows_of_assemble failed inside path
  obtain ⟨before, text, after, culprit⟩ := exists_culprit_of_assemble failed
  have positive : 0 < error.report.span.length := by
    rw [culprit.length_eq]
    exact List.length_pos_iff.mpr (culprit.text_ne_nil inside)
  have wide : 3 ≤ Excerpt.numberLength (positionOf source error).line := Nat.le_max_left _ _
  refine ⟨line, _, _,
    Excerpt.numberLength (positionOf source error).line + 3 +
      ((positionOf source error).column - 1),
    shows, rfl, rfl, ?_, wide, ?_, ?_⟩
  · rw [Excerpt.drop_sourceLine, shown]
  · rw [Excerpt.idxOf_caret_caretLine bold_eq positive]
    omega
  · rw [Excerpt.idxOf_bar_sourceLine, Excerpt.idxOf_bar_caretLine bold_eq]
    omega

/-- A register on the second line stands two places to the right of its carets. -/
theorem carets_left_of_register :
    (∀ text, Toolkit.standard.bold text = "\x1b[1m" ++ text ++ "\x1b[0m") ∧
    assemble "CP 1,r1\nCP 2 r2\n" =
      .error (.unexpected (.slot .comma) (some (.register ⟨2⟩)) ⟨13, 15⟩) ∧
    ∃ line place,
      Excerpt.text Toolkit.standard.bold "a.asm" "CP 1,r1\nCP 2 r2\n" ⟨13, 15⟩ =
        Excerpt.heading "a.asm" ⟨2, 6⟩ ++
          Excerpt.picture Toolkit.standard.bold ⟨2, 6⟩ 2 line ∧
      String.ofList (((Excerpt.sourceLine 2 line).toList.drop place).take 2) = "r2" ∧
      place = (visible (Excerpt.caretLine Toolkit.standard.bold 6 2)).idxOf '^' + 2 := by
  have bold_eq : ∀ text, Toolkit.standard.bold text = "\x1b[1m" ++ text ++ "\x1b[0m" :=
    fun _ => rfl
  have failed :
      assemble "CP 1,r1\nCP 2 r2\n" =
        .error (.unexpected (.slot .comma) (some (.register ⟨2⟩)) ⟨13, 15⟩) := by
    decide +kernel
  have position_eq :
      positionOf "CP 1,r1\nCP 2 r2\n"
        (.unexpected (.slot .comma) (some (.register ⟨2⟩)) ⟨13, 15⟩) = ⟨2, 6⟩ := by
    decide +kernel
  have number_eq : Excerpt.numberLength 2 = 3 := by decide +kernel
  obtain ⟨line, _, _, place, ⟨-, text_eq⟩, rfl, rfl, shown, -, place_eq, -⟩ :=
    carets_stand_left_of_fault _ bold_eq "a.asm" _ _ failed (by decide +kernel)
  rw [position_eq] at text_eq shown place_eq
  rw [number_eq] at place_eq
  refine ⟨bold_eq, failed, line, place, text_eq, shown.trans ?_, place_eq⟩
  decide +kernel

/-- In the excerpt for a text of one line, neither the carets stand under the register nor the bars
under each other. -/
theorem carets_left_of_register_on_one_line :
    assemble "CP 1 r2" = .error (.unexpected (.slot .comma) (some (.register ⟨2⟩)) ⟨5, 7⟩) ∧
    Excerpt.text Toolkit.standard.bold "a.asm" "CP 1 r2" ⟨5, 7⟩ =
      " --> a.asm:1:6\n" ++ "  |\n" ++ "  1 | CP 1 r2\n" ++ "  |      \x1b[1m^^\x1b[0m\n" ∧
    (visible "  |      \x1b[1m^^\x1b[0m").idxOf '^' = 9 ∧
    "  1 | CP 1 r2".toList.idxOf 'r' = 11 ∧
    (visible "  |      \x1b[1m^^\x1b[0m").idxOf '|' = 2 ∧
    "  1 | CP 1 r2".toList.idxOf '|' = 4 := by
  decide +kernel

end Command
end RegisterMachine
