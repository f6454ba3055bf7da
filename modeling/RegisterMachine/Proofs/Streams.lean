import RegisterMachine.Proofs.Lexing

/-!
# The stream of a scanner

A stream is what a scanner hands out from where it stands. The stream of a
scanner that has handed out a token is the rest of the stream from before, so
tokens that are handed out, with their spans, stand at the beginning of a
stream. Where a stream ends, the scanner has passed over the whole text, or it
stands before a lexical error with only trivia between.
-/

namespace RegisterMachine
namespace Scanner

variable {scanner after last : Scanner}
variable {token : Token}
variable {tokens : List Token}
variable {error : LexicalError}

/-- An exhausted scanner meets the end of the text or a lexical error. -/
theorem Exhausted.end_or_error
    (exhausted : scanner.Exhausted) :
    (∃ after, scanner.next = .ok (none, after)) ∨ ∃ error, scanner.next = .error error := by
  cases answer : scanner.next with
  | error error => exact .inr ⟨error, rfl⟩
  | ok handed =>
      obtain ⟨found, after⟩ := handed
      cases found with
      | none => exact .inl ⟨after, rfl⟩
      | some token => exact absurd answer (exhausted token after)

/-! ## Streams token by token -/

/-- What was handed out before stands in front of what is handed out from now on. -/
theorem streamAfter_eq
    (done : Array (Token × Span))
    (scanner : Scanner) :
    scanner.streamAfter done =
      { scanner.stream with tokens := done ++ scanner.stream.tokens } := by
  obtain ⟨tokens, last, handedOut, exhausted⟩ := scanner.exists_handsOut_exhausted
  obtain ⟨handed, -, continued⟩ := handedOut.exists_streamAfter
  rw [stream, continued, continued]
  rcases exhausted.end_or_error with ⟨after, answer⟩ | ⟨error, answer⟩
  · rw [streamAfter_of_end _ answer, streamAfter_of_end _ answer, Array.empty_append]
  · rw [streamAfter_of_error _ answer, streamAfter_of_error _ answer, Array.empty_append]

/-- A stream begins with the next token. -/
theorem stream_of_token
    (answer : scanner.next = .ok (some token, after)) :
    scanner.stream =
      { after.stream with tokens := #[(token, after.span)] ++ after.stream.tokens } := by
  rw [stream, streamAfter_of_token #[] answer, streamAfter_eq]
  rfl

theorem stream_of_end
    (answer : scanner.next = .ok (none, after)) :
    scanner.stream = ⟨#[], after, none⟩ :=
  streamAfter_of_end #[] answer

theorem stream_of_error
    (answer : scanner.next = .error error) :
    scanner.stream = ⟨#[], scanner, some error⟩ :=
  streamAfter_of_error #[] answer

/-- A stream that begins with a token was made by handing it out. -/
theorem exists_next_of_stream
    {span : Span}
    {later : List (Token × Span)}
    (stream_eq : scanner.stream.tokens.toList = (token, span) :: later) :
    ∃ after, scanner.next = .ok (some token, after) ∧
      after.span = span ∧ after.stream.tokens.toList = later := by
  match answer : scanner.next with
  | .ok (some first, after) =>
      rw [stream_of_token answer, Array.toList_append] at stream_eq
      cases stream_eq
      exact ⟨after, rfl, rfl, rfl⟩
  | .ok (none, after) =>
      rw [stream_of_end answer] at stream_eq
      cases stream_eq
  | .error error =>
      rw [stream_of_error answer] at stream_eq
      cases stream_eq

/-- The span of a scanner after it has handed out some tokens. -/
def spanAfter
    (span : Span)
    (entries : List (Token × Span)) : Span :=
  (entries.getLast?.map Prod.snd).getD span

@[simp] theorem spanAfter_nil (span : Span) : spanAfter span [] = span := rfl

@[simp] theorem spanAfter_cons
    (span : Span)
    (entry : Token × Span)
    (entries : List (Token × Span)) :
    spanAfter span (entry :: entries) = spanAfter entry.2 entries := by
  rw [spanAfter, spanAfter, List.getLast?_cons]
  cases entries.getLast? <;> rfl

/-- Tokens that are handed out stand at the beginning of the stream, with the spans that the
scanner had after each. -/
theorem HandsOut.exists_entries
    (handedOut : HandsOut scanner tokens last) :
    ∃ entries : List (Token × Span),
      entries.map Prod.fst = tokens ∧
      scanner.stream.tokens.toList = entries ++ last.stream.tokens.toList ∧
      scanner.stream.last = last.stream.last ∧
      scanner.stream.error = last.stream.error ∧
      last.span = spanAfter scanner.span entries := by
  induction handedOut with
  | nil => exact ⟨[], rfl, rfl, rfl, rfl, rfl⟩
  | @cons scanner middle last token tokens first _ inductionHypothesis =>
      obtain ⟨entries, tokens_eq, stream_eq, last_eq, error_eq, span_eq⟩ := inductionHypothesis
      refine ⟨(token, middle.span) :: entries, ?_, ?_, ?_, ?_, ?_⟩
      · rw [List.map_cons, tokens_eq]
      · rw [stream_of_token first, Array.toList_append, stream_eq]
        rfl
      · rw [stream_of_token first, last_eq]
      · rw [stream_of_token first, error_eq]
      · rw [spanAfter_cons, span_eq]

/-- A scanner that has handed out its whole stream meets the end of the text or the error in
which the stream ends. -/
theorem exists_last_of_stream (scanner : Scanner) :
    ∃ last : Scanner,
      scanner.HandsOut (scanner.stream.tokens.toList.map Prod.fst) last ∧
      last.span = spanAfter scanner.span scanner.stream.tokens.toList ∧
      match scanner.stream.error with
      | none => last.next = .ok (none, scanner.stream.last)
      | some error => last.next = .error error := by
  obtain ⟨tokens, last, handedOut, exhausted⟩ := scanner.exists_handsOut_exhausted
  obtain ⟨entries, rfl, stream_eq, last_eq, error_eq, span_eq⟩ := handedOut.exists_entries
  rcases exhausted.end_or_error with ⟨after, answer⟩ | ⟨error, answer⟩
  · rw [stream_of_end answer] at stream_eq last_eq error_eq
    rw [List.append_nil] at stream_eq
    rw [stream_eq, error_eq, last_eq]
    exact ⟨last, handedOut, span_eq, answer⟩
  · rw [stream_of_error answer] at stream_eq error_eq
    rw [List.append_nil] at stream_eq
    rw [stream_eq, error_eq]
    exact ⟨last, handedOut, span_eq, answer⟩

end Scanner
end RegisterMachine
