import RegisterMachine.Assembly.Scanner
import RegisterMachine.Proofs.Cutting

/-!
# What a scanner hands out

A scanner that is asked again and again hands out one token after the other,
until it meets the end of the text or a lexical error. The relation `HandsOut`
says which tokens come before the scanner stands at a given place. The tokens
of `lex` and those of the stream of a scanner are described by it, and a cutting
of the text tells which tokens are handed out.
-/

namespace RegisterMachine

/-- Outcomes can be compared, so that what becomes of a given text can be decided. -/
instance decidableEqOutcome
    {Error Result : Type}
    [DecidableEq Error]
    [DecidableEq Result] : DecidableEq (Except Error Result)
  | .ok left, .ok right => decidable_of_iff (left = right) (by simp)
  | .ok _, .error _ => isFalse (by simp)
  | .error _, .ok _ => isFalse (by simp)
  | .error left, .error right => decidable_of_iff (left = right) (by simp)

namespace Scanner

/-- A scanner hands out some tokens one after the other and then stands at another place. -/
inductive HandsOut : Scanner → List Token → Scanner → Prop
  | nil {scanner : Scanner} : HandsOut scanner [] scanner
  | cons {scanner middle after : Scanner} {token : Token} {tokens : List Token} :
      scanner.next = .ok (some token, middle) →
      HandsOut middle tokens after →
      HandsOut scanner (token :: tokens) after

namespace HandsOut

variable {scanner middle after : Scanner}
variable {token : Token}
variable {tokens before later : List Token}

@[simp] theorem nil_iff : HandsOut scanner [] after ↔ scanner = after := by
  constructor
  · intro handedOut
    cases handedOut
    rfl
  · rintro rfl
    exact .nil

@[simp] theorem cons_iff :
    HandsOut scanner (token :: tokens) after ↔
      ∃ middle, scanner.next = .ok (some token, middle) ∧ HandsOut middle tokens after := by
  constructor
  · intro handedOut
    cases handedOut with
    | cons first others => exact ⟨_, first, others⟩
  · rintro ⟨middle, first, others⟩
    exact .cons first others

/-- Tokens are handed out in two parts when they are handed out. -/
@[simp] theorem append_iff :
    HandsOut scanner (before ++ later) after ↔
      ∃ middle, HandsOut scanner before middle ∧ HandsOut middle later after := by
  induction before generalizing scanner with
  | nil => simp
  | cons token before inductionHypothesis =>
      simp only [List.cons_append, cons_iff, inductionHypothesis]
      constructor
      · rintro ⟨first, isFirst, middle, others, rest⟩
        exact ⟨middle, ⟨first, isFirst, others⟩, rest⟩
      · rintro ⟨middle, ⟨first, isFirst, others⟩, rest⟩
        exact ⟨first, isFirst, middle, others, rest⟩

/-- Of two rows of tokens that a scanner hands out, one goes on from where the other ends. -/
theorem comparable
    {left right : List Token}
    {leftAfter rightAfter : Scanner}
    (leftHanded : HandsOut scanner left leftAfter)
    (rightHanded : HandsOut scanner right rightAfter) :
    (∃ more, right = left ++ more ∧ HandsOut leftAfter more rightAfter) ∨
      ∃ more, left = right ++ more ∧ HandsOut rightAfter more leftAfter := by
  induction leftHanded generalizing right with
  | nil => exact .inl ⟨right, rfl, rightHanded⟩
  | @cons scanner middle after token tokens first others inductionHypothesis =>
      cases rightHanded with
      | nil => exact .inr ⟨token :: tokens, rfl, .cons first others⟩
      | cons rightFirst rightOthers =>
          have same := Except.ok.inj (first.symm.trans rightFirst)
          injection same with token_eq middle_eq
          cases token_eq
          cases middle_eq
          rcases inductionHypothesis rightOthers with ⟨more, rfl, rest⟩ | ⟨more, rfl, rest⟩
          · exact .inl ⟨more, rfl, rest⟩
          · exact .inr ⟨more, rfl, rest⟩

end HandsOut

/-- A scanner that hands out no further token: the end of the text or a lexical error comes. -/
def Exhausted (scanner : Scanner) : Prop :=
  ∀ token after, scanner.next ≠ .ok (some token, after)

/-- Every scanner is exhausted after some tokens. -/
theorem exists_handsOut_exhausted (scanner : Scanner) :
    ∃ tokens last, scanner.HandsOut tokens last ∧ last.Exhausted := by
  induction length_eq : scanner.rest.length using Nat.strongRecOn generalizing scanner with
  | ind length inductionHypothesis =>
      match answer : scanner.next with
      | .ok (some token, middle) =>
          have shorter := length_rest_lt_of_next answer
          rw [length_eq] at shorter
          obtain ⟨tokens, last, handedOut, exhausted⟩ :=
            inductionHypothesis middle.rest.length shorter middle rfl
          exact ⟨token :: tokens, last, .cons answer handedOut, exhausted⟩
      | .ok (none, after) =>
          refine ⟨[], scanner, .nil, ?_⟩
          intro token other
          rw [answer]
          simp
      | .error error =>
          refine ⟨[], scanner, .nil, ?_⟩
          intro token other
          rw [answer]
          simp

/-! ## Streams -/

section Stream

variable {scanner after last : Scanner}
variable {token : Token}
variable {tokens : List Token}
variable {error : LexicalError}

theorem streamAfter_of_token
    (done : Array (Token × Span))
    (answer : scanner.next = .ok (some token, after)) :
    scanner.streamAfter done = after.streamAfter (done.push (token, after.span)) := by
  rw [streamAfter]
  split <;> simp_all

theorem streamAfter_of_end
    (done : Array (Token × Span))
    (answer : scanner.next = .ok (none, after)) :
    scanner.streamAfter done = ⟨done, after, none⟩ := by
  rw [streamAfter]
  split <;> simp_all

theorem streamAfter_of_error
    (done : Array (Token × Span))
    (answer : scanner.next = .error error) :
    scanner.streamAfter done = ⟨done, scanner, some error⟩ := by
  rw [streamAfter]
  split <;> simp_all

/-- The stream of a scanner begins with the tokens that it hands out. -/
theorem HandsOut.exists_streamAfter
    (handedOut : HandsOut scanner tokens last) :
    ∃ handed : Array (Token × Span),
      handed.toList.map Prod.fst = tokens ∧
        ∀ done, scanner.streamAfter done = last.streamAfter (done ++ handed) := by
  induction handedOut with
  | nil => exact ⟨#[], rfl, fun done => by simp⟩
  | @cons scanner middle after token tokens first _ inductionHypothesis =>
      obtain ⟨handed, tokens_eq, continued⟩ := inductionHypothesis
      refine ⟨#[(token, middle.span)] ++ handed, by simp [tokens_eq], ?_⟩
      intro done
      rw [streamAfter_of_token done first, continued, ← Array.append_assoc, Array.push_eq_append]

/-- The tokens of a stream that ends in a lexical error are those before the error. -/
theorem HandsOut.stream_of_error
    (handedOut : HandsOut scanner tokens last)
    (answer : last.next = .error error) :
    scanner.stream.tokens.toList.map Prod.fst = tokens ∧ scanner.stream.error = some error := by
  obtain ⟨handed, tokens_eq, continued⟩ := handedOut.exists_streamAfter
  rw [stream, continued, streamAfter_of_error _ answer]
  exact ⟨by simpa using tokens_eq, rfl⟩

theorem HandsOut.stream_of_end
    (handedOut : HandsOut scanner tokens last)
    (answer : last.next = .ok (none, after)) :
    scanner.stream.tokens.toList.map Prod.fst = tokens ∧ scanner.stream.error = none := by
  obtain ⟨handed, tokens_eq, continued⟩ := handedOut.exists_streamAfter
  rw [stream, continued, streamAfter_of_end _ answer]
  exact ⟨by simpa using tokens_eq, rfl⟩

end Stream

end Scanner

section Lex

variable {source : String}
variable {tokens : List Token}
variable {last after : Scanner}
variable {error : LexicalError}

theorem lex_of_end
    (handedOut : (Scanner.ofSource source).HandsOut tokens last)
    (answer : last.next = .ok (none, after)) :
    lex source = .ok tokens := by
  obtain ⟨tokens_eq, error_eq⟩ := handedOut.stream_of_end answer
  simp only [lex, error_eq, tokens_eq]

theorem lex_of_error
    (handedOut : (Scanner.ofSource source).HandsOut tokens last)
    (answer : last.next = .error error) :
    lex source = .error error := by
  obtain ⟨-, error_eq⟩ := handedOut.stream_of_error answer
  simp only [lex, error_eq]

/-- A text has tokens when its scanner hands them out up to the end of the text. -/
theorem lex_eq_ok_iff :
    lex source = .ok tokens ↔
      ∃ last after, (Scanner.ofSource source).HandsOut tokens last ∧
        last.next = .ok (none, after) := by
  constructor
  · intro lexed
    obtain ⟨handed, last, handedOut, exhausted⟩ :=
      (Scanner.ofSource source).exists_handsOut_exhausted
    match answer : last.next with
    | .ok (some token, after) => exact absurd answer (exhausted token after)
    | .ok (none, after) =>
        cases (lex_of_end handedOut answer).symm.trans lexed
        exact ⟨last, after, handedOut, answer⟩
    | .error error => cases (lex_of_error handedOut answer).symm.trans lexed
  · rintro ⟨last, after, handedOut, answer⟩
    exact lex_of_end handedOut answer

/-- A text has a lexical error when its scanner meets it after some tokens. -/
theorem lex_eq_error_iff :
    lex source = .error error ↔
      ∃ tokens last, (Scanner.ofSource source).HandsOut tokens last ∧ last.next = .error error := by
  constructor
  · intro failed
    obtain ⟨handed, last, handedOut, exhausted⟩ :=
      (Scanner.ofSource source).exists_handsOut_exhausted
    match answer : last.next with
    | .ok (some token, after) => exact absurd answer (exhausted token after)
    | .ok (none, after) => cases (lex_of_end handedOut answer).symm.trans failed
    | .error met =>
        cases (lex_of_error handedOut answer).symm.trans failed
        exact ⟨handed, last, handedOut, answer⟩
  · rintro ⟨tokens, last, handedOut, answer⟩
    exact lex_of_error handedOut answer

end Lex

end RegisterMachine
