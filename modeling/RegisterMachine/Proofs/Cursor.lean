import RegisterMachine.Assembly.Dialogue
import RegisterMachine.Proofs.Assembling
import RegisterMachine.Proofs.Tiling

/-!
# A scanner is a cursor into its stream

The stream of a source text is fixed: tokens with their spans, and then the end
of the text or one lexical error. A scanner that is asked for tokens, for looks
ahead and for programs, in any order and also after errors, answers like a
cursor that moves along this stream. The cursor is an index and the span of what
was consumed last. What a request does to the cursor is said by the relation
`Serves`, which speaks of the stream and of the instruction grammar only.

A scanner stands at a cursor when what it still hands out is the stream from the
index on. One request keeps it standing at the cursor that the relation gives,
so a whole dialogue does, and the relation leaves no choice of the answers.
-/

namespace RegisterMachine

/-- Reading that fails with a lexical error stops before it. -/
theorem Reader.Fails.next_eq_error
    {scanner after : Scanner}
    {met : LexicalError}
    (fails : Fails scanner (.lexical met) after) :
    after.next = .error met := by
  obtain ⟨tokens, expected, middle, expecting, handedOut, stops⟩ := fails
  cases stops with
  | lexical answer => exact answer

namespace Scanner

/-! ## Cursors -/

/-- A place in a stream, and the span of what was consumed last on the way there. -/
structure Cursor where
  /-- How many tokens of the stream come before the place. -/
  index : Nat
  /-- The span of the last token that was consumed, or of the end of the text. -/
  span : Span

namespace Stream

/-- What comes at a place of a stream: a token or, after the tokens, the end of the text or the
lexical error. -/
def entry (stream : Stream) (index : Nat) : Except LexicalError (Option Token × Span) :=
  match stream.tokens[index]? with
  | some (token, span) => .ok (some token, span)
  | none =>
      match stream.error with
      | none => .ok (none, stream.last.span)
      | some error => .error error

/-- The tokens of a stream from a place on. -/
def tokensFrom (stream : Stream) (index : Nat) : List Token :=
  (stream.tokens.toList.drop index).map Prod.fst

/-- The place after a place. Nothing comes after the end of the stream. -/
def following (stream : Stream) (index : Nat) : Nat :=
  min (index + 1) stream.tokens.size

/-- From a place on, so many tokens can begin a program, and what comes after them cannot go on
with it. What is expected instead is called by a name that calls the tokens that could. -/
structure Refuses
    (stream : Stream)
    (index count : Nat)
    (expected : Expectation)
    (found : Option Token)
    (span : Span) : Prop where
  inside : index + count ≤ stream.tokens.size
  viable : Viable ((stream.tokensFrom index).take count)
  entry_eq : stream.entry (index + count) = .ok (found, span)
  not_viable : ∀ token, found = some token →
    ¬Viable ((stream.tokensFrom index).take count ++ [token])
  not_complete : found = none → ¬Complete ((stream.tokensFrom index).take count)
  expected_iff : ∀ token, Token.CalledBy expected.description token ↔
    Viable ((stream.tokensFrom index).take count ++ [token])

/-- The answer to a request at a cursor, and the cursor after it. -/
inductive Serves (stream : Stream) : Cursor → Request → Answer → Cursor → Prop
  | next {cursor : Cursor} {found : Option Token} {span : Span} :
      stream.entry cursor.index = .ok (found, span) →
      Serves stream cursor .next (.token found) ⟨stream.following cursor.index, span⟩
  | nextError {cursor : Cursor} {error : LexicalError} :
      stream.entry cursor.index = .error error →
      Serves stream cursor .next (.failure (.lexical error)) cursor
  | peek {cursor : Cursor} {found : Option Token} {span : Span} :
      stream.entry cursor.index = .ok (found, span) →
      Serves stream cursor .peek (.token found) cursor
  | peekError {cursor : Cursor} {error : LexicalError} :
      stream.entry cursor.index = .error error →
      Serves stream cursor .peek (.failure (.lexical error)) cursor
  | program {cursor : Cursor} {program : Program} :
      stream.error = none →
      stream.tokensFrom cursor.index = program.flatten →
      Serves stream cursor .program (.program program) ⟨stream.tokens.size, stream.last.span⟩
  | programError {cursor : Cursor} {error : LexicalError} :
      stream.error = some error →
      Viable (stream.tokensFrom cursor.index) →
      Serves stream cursor .program (.failure (.lexical error))
        ⟨stream.tokens.size, spanAfter cursor.span (stream.tokens.toList.drop cursor.index)⟩
  | programRefused
      {cursor : Cursor}
      {count : Nat}
      {expected : Expectation}
      {found : Option Token}
      {span : Span} :
      stream.Refuses cursor.index count expected found span →
      Serves stream cursor .program (.failure (.unexpected expected found span))
        ⟨stream.following (cursor.index + count), span⟩

/-- The answers to some requests from a cursor on, each with the span of the cursor after it. -/
inductive Follows (stream : Stream) : Cursor → List Request → List (Answer × Span) → Prop
  | nil {cursor : Cursor} : Follows stream cursor [] []
  | cons
      {cursor after : Cursor}
      {request : Request}
      {requests : List Request}
      {answer : Answer}
      {replies : List (Answer × Span)} :
      stream.Serves cursor request answer after →
      Follows stream after requests replies →
      Follows stream cursor (request :: requests) ((answer, after.span) :: replies)

/-! ## Entries -/

section Entries

variable {stream : Stream}
variable {index count : Nat}
variable {token : Token}
variable {span : Span}
variable {error : LexicalError}

theorem entry_eq_token_iff :
    stream.entry index = .ok (some token, span) ↔ stream.tokens[index]? = some (token, span) := by
  unfold entry
  split
  · rename_i found
    simp [found]
  · rename_i none_eq
    rw [none_eq]
    split <;> simp

theorem entry_eq_end_iff :
    stream.entry index = .ok (none, span) ↔
      stream.tokens.size ≤ index ∧ stream.error = none ∧ span = stream.last.span := by
  unfold entry
  split
  · rename_i found
    have inside := (Array.getElem?_eq_some_iff.mp found).1
    refine iff_of_false (by simp) ?_
    rintro ⟨outside, -⟩
    omega
  · rename_i none_eq
    have outside := Array.getElem?_eq_none_iff.mp none_eq
    split <;> simp_all [eq_comm]

theorem entry_eq_error_iff :
    stream.entry index = .error error ↔
      stream.tokens.size ≤ index ∧ stream.error = some error := by
  unfold entry
  split
  · rename_i found
    have inside := (Array.getElem?_eq_some_iff.mp found).1
    refine iff_of_false (by simp) ?_
    rintro ⟨outside, -⟩
    omega
  · rename_i none_eq
    have outside := Array.getElem?_eq_none_iff.mp none_eq
    split <;> simp_all

@[simp] theorem length_tokensFrom :
    (stream.tokensFrom index).length = stream.tokens.size - index := by
  simp [tokensFrom]

theorem take_tokensFrom_size :
    (stream.tokensFrom index).take (stream.tokens.size - index) = stream.tokensFrom index := by
  apply List.take_of_length_le
  exact Nat.le_of_eq length_tokensFrom

theorem lt_size_of_entry
    (entry_eq : stream.entry index = .ok (some token, span)) :
    index < stream.tokens.size :=
  (Array.getElem?_eq_some_iff.mp (entry_eq_token_iff.mp entry_eq)).1

theorem following_of_lt
    (inside : index < stream.tokens.size) :
    stream.following index = index + 1 := by
  unfold following
  omega

theorem following_of_size_le
    (outside : stream.tokens.size ≤ index) :
    stream.following index = stream.tokens.size := by
  unfold following
  omega

/-- One more token from a place on. -/
theorem take_tokensFrom_succ
    (entry_eq : stream.entry (index + count) = .ok (some token, span)) :
    (stream.tokensFrom index).take (count + 1) =
      (stream.tokensFrom index).take count ++ [token] := by
  have found := entry_eq_token_iff.mp entry_eq
  rw [List.take_add_one]
  simp [tokensFrom, found]

end Entries

/-! ## The answers are determined -/

namespace Refuses

variable {stream : Stream}
variable {index count otherCount : Nat}
variable {expected otherExpected : Expectation}
variable {found otherFound : Option Token}
variable {span otherSpan : Span}

/-- The tokens from a place on are not viable when one of them is refused. -/
theorem not_viable_take
    {more : Nat}
    (refuses : stream.Refuses index count expected found span)
    (later : count < more)
    (inside : index + more ≤ stream.tokens.size) :
    ¬Viable ((stream.tokensFrom index).take more) := by
  intro viable
  match found, refuses.entry_eq with
  | none, entry_eq =>
      have outside := (entry_eq_end_iff.mp entry_eq).1
      omega
  | some token, entry_eq =>
      apply refuses.not_viable token rfl
      rw [← take_tokensFrom_succ entry_eq]
      have taken : (stream.tokensFrom index).take (count + 1) <+:
          (stream.tokensFrom index).take more :=
        List.take_prefix_take_left later
      obtain ⟨others, split⟩ := taken
      rw [← split] at viable
      exact viable.of_append

theorem count_eq
    (refuses : stream.Refuses index count expected found span)
    (otherRefuses : stream.Refuses index otherCount otherExpected otherFound otherSpan) :
    count = otherCount := by
  rcases Nat.lt_trichotomy count otherCount with less | equal | greater
  · exact absurd otherRefuses.viable (refuses.not_viable_take less otherRefuses.inside)
  · exact equal
  · exact absurd refuses.viable (otherRefuses.not_viable_take greater refuses.inside)

/-- At most one thing is refused, and in favour of one expectation. -/
theorem unique
    (refuses : stream.Refuses index count expected found span)
    (otherRefuses : stream.Refuses index otherCount otherExpected otherFound otherSpan) :
    count = otherCount ∧ expected = otherExpected ∧ found = otherFound ∧ span = otherSpan := by
  obtain rfl := refuses.count_eq otherRefuses
  cases refuses.entry_eq.symm.trans otherRefuses.entry_eq
  refine ⟨rfl, Expectation.eq_of_admits_iff ?_, rfl, rfl⟩
  intro token
  rw [← Expectation.calledBy_description_iff, ← Expectation.calledBy_description_iff,
    refuses.expected_iff, otherRefuses.expected_iff]

/-- The tokens from a place on are not viable when one of them is refused. -/
theorem not_viable_tokensFrom
    (refuses : stream.Refuses index count expected found span)
    (inside : index + count < stream.tokens.size) :
    ¬Viable (stream.tokensFrom index) := by
  rw [← take_tokensFrom_size]
  exact refuses.not_viable_take (by omega) (by omega)

/-- Where something is refused, the tokens from there on are not those of a program. -/
theorem not_complete_tokensFrom
    (refuses : stream.Refuses index count expected found span) :
    ¬Complete (stream.tokensFrom index) := by
  rintro ⟨program, tokens_eq⟩
  match found, refuses.entry_eq with
  | some token, entry_eq =>
      apply refuses.not_viable_tokensFrom (lt_size_of_entry entry_eq)
      exact ⟨[], program, (List.append_nil _).trans tokens_eq⟩
  | none, entry_eq =>
      have outside := (entry_eq_end_iff.mp entry_eq).1
      have inside := refuses.inside
      have count_eq : count = stream.tokens.size - index := by omega
      apply refuses.not_complete rfl
      rw [count_eq, take_tokensFrom_size]
      exact ⟨program, tokens_eq⟩

/-- Before a lexical error only a token can be refused, and then the tokens up to the error are
not viable. -/
theorem not_viable_of_error
    {error : LexicalError}
    (refuses : stream.Refuses index count expected found span)
    (isError : stream.error = some error) :
    ¬Viable (stream.tokensFrom index) := by
  match found, refuses.entry_eq with
  | some token, entry_eq => exact refuses.not_viable_tokensFrom (lt_size_of_entry entry_eq)
  | none, entry_eq =>
      have noError := (entry_eq_end_iff.mp entry_eq).2.1
      cases noError.symm.trans isError

end Refuses

/-- What is handed out where something else is expected is refused. -/
theorem refuses_of_expecting
    {stream : Stream}
    {index count : Nat}
    {tokens : List Token}
    {expected : Expectation}
    {found : Option Token}
    {span : Span}
    (inside : index + count ≤ stream.tokens.size)
    (taken_eq : (stream.tokensFrom index).take count = tokens)
    (expecting : Expecting tokens expected)
    (entry_eq : stream.entry (index + count) = .ok (found, span))
    (refused : ∀ token, found = some token → ¬expected.Admits token)
    (atEnd : found = none → expected ≠ .instruction) :
    stream.Refuses index count expected found span := by
  refine ⟨inside, ?_, entry_eq, ?_, ?_, ?_⟩ <;> rw [taken_eq]
  · exact expecting.viable
  · intro token found_eq
    rw [expecting.viable_append_iff]
    exact refused token found_eq
  · intro found_eq
    cases expected with
    | instruction => exact absurd rfl (atEnd found_eq)
    | slot slot => exact expecting.not_complete
  · intro token
    rw [expecting.viable_append_iff, Expectation.calledBy_description_iff]

/-- A cursor leaves no choice of the answer. -/
theorem Serves.unique
    {stream : Stream}
    {cursor after otherAfter : Cursor}
    {request : Request}
    {answer otherAnswer : Answer}
    (serves : stream.Serves cursor request answer after)
    (otherServes : stream.Serves cursor request otherAnswer otherAfter) :
    answer = otherAnswer ∧ after = otherAfter := by
  cases serves with
  | next entry_eq =>
      cases otherServes with
      | next otherEntry_eq =>
          cases entry_eq.symm.trans otherEntry_eq
          exact ⟨rfl, rfl⟩
      | nextError otherEntry_eq => cases entry_eq.symm.trans otherEntry_eq
  | nextError entry_eq =>
      cases otherServes with
      | next otherEntry_eq => cases entry_eq.symm.trans otherEntry_eq
      | nextError otherEntry_eq =>
          cases entry_eq.symm.trans otherEntry_eq
          exact ⟨rfl, rfl⟩
  | peek entry_eq =>
      cases otherServes with
      | peek otherEntry_eq =>
          cases entry_eq.symm.trans otherEntry_eq
          exact ⟨rfl, rfl⟩
      | peekError otherEntry_eq => cases entry_eq.symm.trans otherEntry_eq
  | peekError entry_eq =>
      cases otherServes with
      | peek otherEntry_eq => cases entry_eq.symm.trans otherEntry_eq
      | peekError otherEntry_eq =>
          cases entry_eq.symm.trans otherEntry_eq
          exact ⟨rfl, rfl⟩
  | program noError tokens_eq =>
      cases otherServes with
      | program _ otherTokens_eq =>
          have same := tokens_eq.symm.trans otherTokens_eq
          rw [Program.flatten_eq_tokens, Program.flatten_eq_tokens] at same
          rw [Program.tokens_injective same]
          exact ⟨rfl, rfl⟩
      | programError isError => cases noError.symm.trans isError
      | programRefused refuses =>
          exact absurd ⟨_, tokens_eq⟩ refuses.not_complete_tokensFrom
  | programError isError viable =>
      cases otherServes with
      | program noError => cases noError.symm.trans isError
      | programError otherIsError =>
          cases isError.symm.trans otherIsError
          exact ⟨rfl, rfl⟩
      | programRefused refuses => exact absurd viable (refuses.not_viable_of_error isError)
  | programRefused refuses =>
      cases otherServes with
      | program _ tokens_eq => exact absurd ⟨_, tokens_eq⟩ refuses.not_complete_tokensFrom
      | programError isError viable => exact absurd viable (refuses.not_viable_of_error isError)
      | programRefused otherRefuses =>
          obtain ⟨rfl, rfl, rfl, rfl⟩ := refuses.unique otherRefuses
          exact ⟨rfl, rfl⟩

end Stream

/-! ## Where a scanner stands -/

section Standing

variable {scanner after middle : Scanner}
variable {stream : Stream}
variable {cursor : Cursor}
variable {tokens : List Token}

/-- The end of the text is met as often as the scanner is asked. -/
theorem next_of_end
    (answer : scanner.next = .ok (none, after)) :
    after.next = .ok (none, after) := by
  simp only [next] at answer
  split at answer
  · cases answer
    exact next_nil _ _
  · split at answer <;> cases answer

/-- Passing over trivia has no influence on the next answer. -/
theorem next_pastTrivia (scanner : Scanner) : scanner.pastTrivia.next = scanner.next := by
  match skipped : Lexeme.skipTrivia false scanner.position scanner.rest with
  | (start, []) => simp only [next, pastTrivia, skipped, Lexeme.skipTrivia]
  | (start, c :: cs) =>
      obtain ⟨notBlank, notSign⟩ := Lexeme.head_of_skipTrivia skipped
      simp only [next, pastTrivia, skipped,
        Lexeme.skipTrivia_cons_of_not_trivia start notBlank notSign]

/-- A scanner stands at a cursor into a stream when it hands out the stream from the index of the
cursor on, and its span is that of the cursor. -/
structure StandsAt
    (stream : Stream)
    (cursor : Cursor)
    (scanner : Scanner) : Prop where
  inside : cursor.index ≤ stream.tokens.size
  tokens_eq : scanner.stream.tokens.toList = stream.tokens.toList.drop cursor.index
  error_eq : scanner.stream.error = stream.error
  -- Before an error the scanner may have passed over trivia or not, so its streams end differently.
  last_eq : stream.error = none → scanner.stream.last = stream.last
  span_eq : scanner.span = cursor.span

/-- A request at a cursor is answered as the stream says, by a scanner that then stands at the
cursor after it. -/
def AnswersAt
    (stream : Stream)
    (cursor : Cursor)
    (request : Request)
    (answer : Answer)
    (after : Scanner) : Prop :=
  ∃ cursorAfter, stream.Serves cursor request answer cursorAfter ∧
    StandsAt stream cursorAfter after

namespace StandsAt

theorem beginning (scanner : Scanner) : StandsAt scanner.stream ⟨0, scanner.span⟩ scanner where
  inside := Nat.zero_le _
  tokens_eq := rfl
  error_eq := rfl
  last_eq := fun _ => rfl
  span_eq := rfl

/-- What comes at the cursor is what the scanner answers next. -/
theorem entry_eq (stands : StandsAt stream cursor scanner) :
    stream.entry cursor.index = scanner.next.map fun (found, after) => (found, after.span) := by
  have tokens_eq := stands.tokens_eq
  have error_eq := stands.error_eq
  match answer : scanner.next with
  | .ok (some token, after) =>
      rw [stream_of_token answer, Array.toList_append] at tokens_eq
      apply Stream.entry_eq_token_iff.mpr
      have first := congrArg (·[0]?) tokens_eq
      simpa [eq_comm] using first
  | .ok (none, after) =>
      have last_eq := stands.last_eq
      rw [stream_of_end answer] at tokens_eq error_eq last_eq
      apply Stream.entry_eq_end_iff.mpr
      refine ⟨?_, error_eq.symm, ?_⟩
      · simpa [eq_comm] using tokens_eq
      · rw [← last_eq error_eq.symm]
  | .error error =>
      rw [stream_of_error answer] at tokens_eq error_eq
      apply Stream.entry_eq_error_iff.mpr
      refine ⟨?_, error_eq.symm⟩
      simpa [eq_comm] using tokens_eq

/-- A scanner that hands out tokens moves along the stream. -/
theorem exists_handsOut
    (stands : StandsAt stream cursor scanner)
    (handedOut : HandsOut scanner tokens middle) :
    ∃ entries : List (Token × Span),
      entries.map Prod.fst = tokens ∧
      stream.tokens.toList.drop cursor.index = entries ++ middle.stream.tokens.toList ∧
      StandsAt stream ⟨cursor.index + tokens.length, spanAfter cursor.span entries⟩ middle := by
  obtain ⟨entries, rfl, stream_eq, last_eq, error_eq, span_eq⟩ := handedOut.exists_entries
  have drop_eq := stands.tokens_eq.symm.trans stream_eq
  have length_eq := congrArg List.length drop_eq
  have inside := stands.inside
  rw [List.length_drop, Array.length_toList, List.length_append] at length_eq
  refine ⟨entries, rfl, drop_eq, ?_, ?_, ?_, ?_, ?_⟩
  · simp only [List.length_map]
    omega
  · simp only [List.length_map]
    rw [← List.drop_drop, drop_eq, List.drop_left]
  · rw [← error_eq, stands.error_eq]
  · intro noError
    rw [← last_eq, stands.last_eq noError]
  · rw [span_eq, stands.span_eq]

/-- The scanner after a token or the end of the text stands at the following place. -/
theorem following
    {found : Option Token}
    (stands : StandsAt stream cursor scanner)
    (answer : scanner.next = .ok (found, after)) :
    StandsAt stream ⟨stream.following cursor.index, after.span⟩ after := by
  have entry_eq := stands.entry_eq
  rw [answer] at entry_eq
  match found with
  | some token =>
      rw [Stream.following_of_lt (Stream.lt_size_of_entry entry_eq)]
      obtain ⟨entries, tokens_eq, -, stands⟩ := stands.exists_handsOut (.cons answer .nil)
      exact { stands with span_eq := rfl }
  | none =>
      obtain ⟨outside, noError, -⟩ := Stream.entry_eq_end_iff.mp entry_eq
      have same : after.stream = scanner.stream := by
        rw [stream_of_end answer, stream_of_end (next_of_end answer)]
      rw [Stream.following_of_size_le outside, Nat.le_antisymm outside stands.inside]
      exact ⟨stands.inside, same ▸ stands.tokens_eq, same ▸ stands.error_eq,
        fun noError => same ▸ stands.last_eq noError, rfl⟩

/-- The scanner past the trivia before a lexical error stands where it stood. -/
theorem pastTrivia
    {error : LexicalError}
    (stands : StandsAt stream cursor scanner)
    (answer : scanner.next = .error error) :
    StandsAt stream cursor scanner.pastTrivia := by
  have pastAnswer := scanner.next_pastTrivia.trans answer
  have tokens_eq := stands.tokens_eq
  have error_eq := stands.error_eq
  rw [stream_of_error answer] at tokens_eq error_eq
  refine ⟨stands.inside, ?_, ?_, ?_, stands.span_eq⟩
  · rw [stream_of_error pastAnswer, tokens_eq]
  · rw [stream_of_error pastAnswer, error_eq]
  · intro noError
    cases error_eq.trans noError

/-! ## Requests -/

theorem answersAt_next (stands : StandsAt stream cursor scanner) :
    AnswersAt stream cursor .next (scanner.serve .next).1 (scanner.serve .next).2 := by
  have entry_eq := stands.entry_eq
  match answer : scanner.next with
  | .ok (found, after) =>
      rw [answer] at entry_eq
      rw [serve, answer]
      exact ⟨_, .next entry_eq, stands.following answer⟩
  | .error error =>
      rw [answer] at entry_eq
      rw [serve, answer]
      exact ⟨_, .nextError entry_eq, stands.pastTrivia answer⟩

theorem answersAt_peek (stands : StandsAt stream cursor scanner) :
    AnswersAt stream cursor .peek (scanner.serve .peek).1 (scanner.serve .peek).2 := by
  have entry_eq := stands.entry_eq
  match answer : scanner.next with
  | .ok (found, after) =>
      rw [answer] at entry_eq
      rw [serve, peek, answer]
      exact ⟨_, .peek entry_eq, stands⟩
  | .error error =>
      rw [answer] at entry_eq
      rw [serve, peek, answer]
      exact ⟨_, .peekError entry_eq, stands⟩

/-- A program that is read makes up the stream from the cursor on. -/
theorem answersAt_of_read
    {program : Program}
    (stands : StandsAt stream cursor scanner)
    (wasRead : Reader.program scanner = .ok program after) :
    AnswersAt stream cursor .program (.program program) after := by
  obtain ⟨instructions, last, rfl, handedOut, answer⟩ :=
    Reader.exists_handsOut_of_programAfter wasRead
  obtain ⟨entries, tokens_eq, drop_eq, standsLast⟩ := stands.exists_handsOut handedOut
  have entry_eq := standsLast.entry_eq
  rw [answer] at entry_eq
  obtain ⟨outside, noError, span_eq⟩ := Stream.entry_eq_end_iff.mp entry_eq
  rw [stream_of_end answer, List.append_nil] at drop_eq
  have standsAfter := standsLast.following answer
  rw [Stream.following_of_size_le outside, span_eq] at standsAfter
  refine ⟨_, .program noError ?_, standsAfter⟩
  rw [Stream.tokensFrom, drop_eq, tokens_eq, Program.flatten_eq_tokens, Program.tokens]
  simp

/-- Reading a program fails at the lexical error of the stream or at what is refused. -/
theorem answersAt_of_fails
    {error : AssemblyError}
    (stands : StandsAt stream cursor scanner)
    (fails : Reader.Fails scanner error after) :
    AnswersAt stream cursor .program (.failure error) after := by
  obtain ⟨tokens, expected, middle, expecting, handedOut, stops⟩ := fails
  obtain ⟨entries, rfl, drop_eq, standsMiddle⟩ := stands.exists_handsOut handedOut
  have entry_eq := standsMiddle.entry_eq
  cases stops with
  | @lexical met answer =>
      rw [answer] at entry_eq
      obtain ⟨outside, isError⟩ := Stream.entry_eq_error_iff.mp entry_eq
      rw [stream_of_error answer, List.append_nil] at drop_eq
      have viable : Viable (stream.tokensFrom cursor.index) := by
        rw [Stream.tokensFrom, drop_eq]
        exact expecting.viable
      have index_eq : cursor.index + (entries.map Prod.fst).length = stream.tokens.size :=
        Nat.le_antisymm standsMiddle.inside outside
      rw [index_eq, ← drop_eq] at standsMiddle
      exact ⟨_, .programError isError viable, standsMiddle⟩
  | @unexpected found _ answer refused atEnd =>
      rw [answer] at entry_eq
      have taken_eq :
          (stream.tokensFrom cursor.index).take (entries.map Prod.fst).length =
            entries.map Prod.fst := by
        rw [Stream.tokensFrom, drop_eq, List.map_append, List.take_left]
      have refuses :=
        Stream.refuses_of_expecting standsMiddle.inside taken_eq expecting entry_eq refused atEnd
      exact ⟨_, .programRefused refuses, standsMiddle.following answer⟩

theorem answersAt_program (stands : StandsAt stream cursor scanner) :
    AnswersAt stream cursor .program (scanner.serve .program).1 (scanner.serve .program).2 := by
  match outcome : Reader.program scanner with
  | .ok program after =>
      rw [serve, outcome]
      exact stands.answersAt_of_read outcome
  | .error (.lexical met) after =>
      rw [serve, outcome]
      have fails := Reader.fails_of_programAfter outcome
      obtain ⟨cursorAfter, serves, standsAfter⟩ := stands.answersAt_of_fails fails
      exact ⟨cursorAfter, serves, standsAfter.pastTrivia fails.next_eq_error⟩
  | .error (.unexpected expected found span) after =>
      rw [serve, outcome]
      exact stands.answersAt_of_fails (Reader.fails_of_programAfter outcome)

/-- A request moves the scanner to where it moves the cursor. -/
theorem answersAt
    (stands : StandsAt stream cursor scanner)
    (request : Request) :
    AnswersAt stream cursor request (scanner.serve request).1 (scanner.serve request).2 := by
  cases request with
  | next => exact stands.answersAt_next
  | peek => exact stands.answersAt_peek
  | program => exact stands.answersAt_program

/-- A scanner that stands at a cursor answers like the cursor, however often it is asked. -/
theorem converse_eq_iff
    (stands : StandsAt stream cursor scanner)
    (requests : List Request)
    (replies : List (Answer × Span)) :
    scanner.converse requests = replies ↔ stream.Follows cursor requests replies := by
  -- The scanner and the cursor move together, so the relation between them is what is carried on.
  induction requests generalizing scanner cursor replies with
  | nil =>
      constructor
      · rintro rfl
        exact .nil
      · intro follows
        cases follows
        rfl
  | cons request requests inductionHypothesis =>
      obtain ⟨cursorAfter, serves, standsAfter⟩ := stands.answersAt request
      rw [converse_cons]
      constructor
      · rintro rfl
        rw [standsAfter.span_eq]
        exact .cons serves ((inductionHypothesis standsAfter _).mp rfl)
      · intro follows
        cases follows with
        | cons otherServes later =>
            obtain ⟨rfl, rfl⟩ := serves.unique otherServes
            rw [standsAfter.span_eq, (inductionHypothesis standsAfter _).mpr later]

end StandsAt

end Standing

end Scanner

/-- A scanner answers every dialogue as a cursor into the stream of its source text does, and in
no other way. Where the stream ends with the text, the span of its end is empty and behind the
last character. -/
theorem converse_eq_iff_follows
    (source : String)
    (requests : List Scanner.Request)
    (replies : List (Scanner.Answer × Span)) :
    ((Scanner.ofSource source).converse requests = replies ↔
      (Scanner.ofSource source).stream.Follows ⟨0, .nowhere⟩ requests replies) ∧
    ((Scanner.ofSource source).stream.error = none →
      (Scanner.ofSource source).stream.last.span = ⟨source.length, source.length⟩) := by
  constructor
  · exact (Scanner.StandsAt.beginning (Scanner.ofSource source)).converse_eq_iff requests replies
  · intro noError
    obtain ⟨last, handedOut, -, ending⟩ := (Scanner.ofSource source).exists_last_of_stream
    rw [noError] at ending
    obtain ⟨more, hasRead⟩ := (Scanner.HasRead.ofSource source).exists_handsOut handedOut
    exact hasRead.span_of_end ending

/-- Reading goes on behind a refused register and then stops at a stray character, as often as it
is tried. -/
theorem follows_past_refused_register :
    (Scanner.ofSource "r1 READ r2 $").stream.Follows ⟨0, .nowhere⟩
      [.peek, .program, .program, .next]
      [(.token (some (.register ⟨1⟩)), .nowhere),
        (.failure (.unexpected .instruction (some (.register ⟨1⟩)) ⟨0, 2⟩), ⟨0, 2⟩),
        (.failure (.lexical (.illegalCharacter 11 '$')), ⟨8, 10⟩),
        (.failure (.lexical (.illegalCharacter 11 '$')), ⟨8, 10⟩)] ∧
    (Scanner.ofSource "READ r2 # é").stream.error = none ∧
    (Scanner.ofSource "READ r2 # é").stream.last.span = ⟨11, 11⟩ := by
  obtain ⟨follows_iff, -⟩ := converse_eq_iff_follows "r1 READ r2 $"
    [.peek, .program, .program, .next]
    [(.token (some (.register ⟨1⟩)), .nowhere),
      (.failure (.unexpected .instruction (some (.register ⟨1⟩)) ⟨0, 2⟩), ⟨0, 2⟩),
      (.failure (.lexical (.illegalCharacter 11 '$')), ⟨8, 10⟩),
      (.failure (.lexical (.illegalCharacter 11 '$')), ⟨8, 10⟩)]
  obtain ⟨-, endSpan⟩ := converse_eq_iff_follows "READ r2 # é" [] []
  have noError : (Scanner.ofSource "READ r2 # é").stream.error = none := by decide +kernel
  exact ⟨follows_iff.mp (by decide +kernel), noError, endSpan noError⟩

end RegisterMachine
