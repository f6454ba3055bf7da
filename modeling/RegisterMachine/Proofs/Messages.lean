import RegisterMachine.Proofs.LexicalGrammar

/-!
# Reports and their messages

A report is known from its message. The message is put together from a title,
an address, a span and a text, of which all but the title can be missing, and
the text can look like any of the others. Still each part tells where it ends: a
semicolon stands only before the text and in it, no title begins another, and
an address is a run of digits. So the parts are taken off the message one after
the other, from the semicolon and from the front.
-/

namespace RegisterMachine
namespace Report

/-! ## Titles -/

namespace Kind

/-- Every kind of report. -/
def all : List Kind :=
  [.illegalCharacter, .overflow, .syntaxError, .internalError, .inputPastEnd, .illegalInput,
    .outputError, .interrupted, .fileNotFound, .fileError]

theorem mem_all (kind : Kind) : kind ∈ all := by
  cases kind <;> decide

/-- No title begins another, so a title tells where it ends. -/
theorem title_append_inj
    {left right : Kind}
    {leftRest rightRest : List Char}
    (same : left.title.toList ++ leftRest = right.title.toList ++ rightRest) :
    left = right ∧ leftRest = rightRest := by
  have apart : ∀ kind ∈ all, ∀ other ∈ all,
      kind.title.toList <+: other.title.toList → kind = other := by
    decide
  have kind_eq : left = right := by
    have leftBegins : left.title.toList <+: right.title.toList ++ rightRest :=
      same ▸ List.prefix_append _ _
    rcases List.prefix_or_prefix_of_prefix leftBegins (List.prefix_append _ _) with
      isBefore | isAfter
    · exact apart _ left.mem_all _ right.mem_all isBefore
    · exact (apart _ right.mem_all _ left.mem_all isAfter).symm
  subst kind_eq
  exact ⟨rfl, List.append_cancel_left same⟩

theorem semicolon_not_mem_title (kind : Kind) : ';' ∉ kind.title.toList := by
  cases kind <;> decide

end Kind

/-! ## Parts of a message -/

/-- The address in a message. -/
def addressPart : Option Nat → List Char
  | none => []
  | some address => ' ' :: Nat.toDigits 10 address

/-- The span in a message. -/
def spanPart (span : Span) : List Char :=
  if span = .nowhere then [] else ' ' :: span.text.toList

/-- The address and the span in a message, with the word in front of them. -/
def placePart (address : Option Nat) (span : Span) : List Char :=
  if addressPart address ++ spanPart span = [] then []
  else ' ' :: 'I' :: 'N' :: (addressPart address ++ spanPart span)

/-- The text in a message. -/
def textPart (text : String) : List Char :=
  if text = "" then [] else ';' :: ' ' :: text.toList

theorem toList_place (report : Report) :
    report.place.toList = addressPart report.address ++ spanPart report.span := by
  rw [place, String.toList_append, spanPart]
  congr 1
  · cases report.address <;> simp [addressPart, Decimal.ofNat]
  · split <;> simp

/-- A message is made of its parts. -/
theorem toList_message (report : Report) :
    report.message.toList =
      report.kind.title.toList ++ placePart report.address report.span ++
        textPart report.text := by
  have noPlace : addressPart report.address ++ spanPart report.span = [] ↔ report.place = "" := by
    rw [← toList_place, String.toList_eq_nil_iff]
  rw [message, String.toList_append, String.toList_append, placePart, textPart]
  congr 2
  · simp only [noPlace]
    split <;> simp [toList_place]
  · split <;> simp

/-! ## What each part tells -/

theorem textPart_injective : Function.Injective textPart := by
  intro left right same
  unfold textPart at same
  split at same <;> split at same
  · simp_all
  · cases same
  · cases same
  · injection same with _ chars_eq
    injection chars_eq with _ chars_eq
    exact String.toList_injective chars_eq

theorem toList_spanText (span : Span) :
    span.text.toList =
      '(' ::
        (Nat.toDigits 10 span.start ++ '.' :: '.' :: (Nat.toDigits 10 span.stop ++ [')'])) := by
  simp [Span.text, Decimal.ofNat]

/-- A span is known from how it is shown: a point ends the first offset, a bracket the second. -/
theorem eq_of_toList_spanText
    {left right : Span}
    (same : left.text.toList = right.text.toList) :
    left = right := by
  obtain ⟨leftStart, leftStop⟩ := left
  obtain ⟨rightStart, rightStop⟩ := right
  rw [toList_spanText, toList_spanText] at same
  have pointEnds (rest : List Char) : EndsRun Char.isDigit ('.' :: rest) :=
    EndsRun.cons_iff.mpr (by decide)
  have bracketEnds : EndsRun Char.isDigit [')'] := EndsRun.cons_iff.mpr (by decide)
  obtain ⟨start_eq, points_eq⟩ :=
    Decimal.toDigits_append_inj (pointEnds _) (pointEnds _) (List.cons.inj same).2
  have stops_eq := (List.cons.inj (List.cons.inj points_eq).2).2
  obtain ⟨stop_eq, -⟩ := Decimal.toDigits_append_inj bracketEnds bracketEnds stops_eq
  cases start_eq
  cases stop_eq
  rfl

theorem spanPart_injective : Function.Injective spanPart := by
  intro left right same
  unfold spanPart at same
  split at same <;> split at same
  · simp_all
  · cases same
  · cases same
  · exact eq_of_toList_spanText (List.cons.inj same).2

/-- Whatever shows a span begins with a blank and a bracket. -/
theorem spanPart_cases (span : Span) :
    spanPart span = [] ∨ ∃ rest, spanPart span = ' ' :: '(' :: rest := by
  unfold spanPart
  split
  · exact .inl rfl
  · exact .inr ⟨_, by rw [toList_spanText]⟩

theorem endsRun_spanPart (span : Span) : EndsRun Char.isDigit (spanPart span) := by
  rcases spanPart_cases span with isEmpty | ⟨rest, begins⟩
  · rw [isEmpty]
    exact .nil
  · rw [begins]
    exact EndsRun.cons_iff.mpr (by decide)

/-- An address is not taken for a span. -/
theorem spanPart_ne_address
    (span : Span)
    (address : Nat)
    (rest : List Char) :
    spanPart span ≠ ' ' :: Nat.toDigits 10 address ++ rest := by
  intro same
  obtain ⟨digit, digits, digits_eq, isDigit⟩ := Decimal.exists_toDigits_eq_cons address
  rw [digits_eq] at same
  rcases spanPart_cases span with isEmpty | ⟨others, begins⟩
  · rw [isEmpty] at same
    cases same
  · rw [begins] at same
    cases same
    exact absurd isDigit (by decide)

/-- The address and the span are known from the place that they make up. -/
theorem addressPart_append_spanPart_inj
    {left right : Option Nat}
    {leftSpan rightSpan : Span}
    (same : addressPart left ++ spanPart leftSpan = addressPart right ++ spanPart rightSpan) :
    left = right ∧ leftSpan = rightSpan := by
  cases left with
  | none =>
      cases right with
      | none => exact ⟨rfl, spanPart_injective same⟩
      | some address => exact absurd same (spanPart_ne_address leftSpan address _)
  | some address =>
      cases right with
      | none => exact absurd same.symm (spanPart_ne_address rightSpan address _)
      | some other =>
          obtain ⟨address_eq, spans_eq⟩ :=
            Decimal.toDigits_append_inj (endsRun_spanPart leftSpan) (endsRun_spanPart rightSpan)
              (List.cons.inj same).2
          exact ⟨congrArg some address_eq, spanPart_injective spans_eq⟩

theorem placePart_inj
    {left right : Option Nat}
    {leftSpan rightSpan : Span}
    (same : placePart left leftSpan = placePart right rightSpan) :
    left = right ∧ leftSpan = rightSpan := by
  apply addressPart_append_spanPart_inj
  unfold placePart at same
  split at same <;> split at same
  · simp_all
  · cases same
  · cases same
  · simpa using same

/-! ## Semicolons -/

theorem semicolon_not_mem_placePart
    (address : Option Nat)
    (span : Span) :
    ';' ∉ placePart address span := by
  have noDigit : ∀ number, ';' ∉ Nat.toDigits 10 number := Decimal.not_mem_toDigits (by decide)
  have notInAddress : ';' ∉ addressPart address := by
    cases address <;> simp [addressPart, noDigit]
  have notInSpan : ';' ∉ spanPart span := by
    unfold spanPart
    split
    · simp
    · simp [toList_spanText, noDigit]
  unfold placePart
  split
  · simp
  · simp [notInAddress, notInSpan]

theorem endsRun_textPart (text : String) : EndsRun (· ≠ ';') (textPart text) := by
  unfold textPart
  split
  · exact .nil
  · exact EndsRun.cons_iff.mpr (by decide)

end Report

/-- Two reports with the same message are the same in all their parts. -/
theorem message_determines_report
    (left right : Report)
    (same : left.message = right.message) :
    left.kind = right.kind ∧
    left.address = right.address ∧
    left.span = right.span ∧
    left.text = right.text := by
  have beforeText (report : Report) :
      ∀ c ∈ report.kind.title.toList ++ Report.placePart report.address report.span,
        decide (c ≠ ';') = true := by
    rintro c isMember
    rw [decide_eq_true_eq]
    rintro rfl
    rcases List.mem_append.mp isMember with inTitle | inPlace
    · exact report.kind.semicolon_not_mem_title inTitle
    · exact Report.semicolon_not_mem_placePart _ _ inPlace
  have chars_eq := congrArg String.toList same
  rw [Report.toList_message, Report.toList_message] at chars_eq
  obtain ⟨heading_eq, text_eq⟩ :=
    (Report.endsRun_textPart left.text).append_inj (Report.endsRun_textPart right.text)
      (beforeText left) (beforeText right) chars_eq
  obtain ⟨kind_eq, place_eq⟩ := Report.Kind.title_append_inj heading_eq
  obtain ⟨address_eq, span_eq⟩ := Report.placePart_inj place_eq
  exact ⟨kind_eq, address_eq, span_eq, Report.textPart_injective text_eq⟩

/-- A report that has an address already takes no other, and a text that looks like a place is told
from one. -/
theorem message_with_place_and_text_like_it :
    (Report.inAddress ⟨.illegalInput, some 4, .nowhere, "IN 9 (5..7); BREAK"⟩ 9).message =
      (Report.inAddress ⟨.illegalInput, none, .nowhere, "IN 9 (5..7); BREAK"⟩ 4).message ∧
    (Report.inAddress ⟨.illegalInput, some 4, .nowhere, "IN 9 (5..7); BREAK"⟩ 9).address =
      (Report.inAddress ⟨.illegalInput, none, .nowhere, "IN 9 (5..7); BREAK"⟩ 4).address := by
  have same :
      (Report.inAddress ⟨.illegalInput, some 4, .nowhere, "IN 9 (5..7); BREAK"⟩ 9).message =
        (Report.inAddress ⟨.illegalInput, none, .nowhere, "IN 9 (5..7); BREAK"⟩ 4).message := by
    decide +kernel
  obtain ⟨-, address_eq, -⟩ := message_determines_report _ _ same
  exact ⟨same, address_eq⟩

end RegisterMachine
