import RegisterMachine.Proofs.Reading

/-!
# Which texts assemble, and what is reported about the others

The tokens of a text decide whether it assembles, and to which program: the
program whose tokens they are. A text that does not assemble is faulted at the
first place that no program could have made good. The tokens before that place
can be completed to a program, the token there cannot follow them, and the
report names exactly the tokens that could.
-/

namespace RegisterMachine

/-- Every assembly error is about the source text. -/
theorem AssemblyError.concernsSource (error : AssemblyError) :
    error.report.kind.concernsSource = true := by
  cases error with
  | lexical error => cases error <;> rfl
  | unexpected expected found span => rfl

variable {source : String}
variable {program : Program}
variable {error : AssemblyError}

/-- A program is assembled when its tokens are handed out up to the end of the text. -/
theorem assemble_eq_ok_iff_handsOut :
    assemble source = .ok program ↔
      ∃ last after, (Scanner.ofSource source).HandsOut program.tokens last ∧
        last.next = .ok (none, after) := by
  rw [assemble]
  constructor
  · intro assembled
    split at assembled
    · rename_i wasRead
      cases assembled
      obtain ⟨instructions, last, rfl, handedOut, answer⟩ :=
        Reader.exists_handsOut_of_programAfter wasRead
      refine ⟨last, _, ?_, answer⟩
      simpa [Program.tokens] using handedOut
    · cases assembled
  · rintro ⟨last, after, handedOut, answer⟩
    have wasRead : Reader.program (Scanner.ofSource source) = .ok program after := by
      rw [Reader.program, Reader.programAfter_of_handsOut handedOut,
        Reader.programAfter_of_end (Reader.instruction?_eq_none_iff.mpr answer)]
      simp
    rw [wasRead]

/-- A program is assembled when the text has its tokens. -/
theorem assemble_eq_ok_iff_lex :
    assemble source = .ok program ↔ lex source = .ok program.tokens :=
  assemble_eq_ok_iff_handsOut.trans lex_eq_ok_iff.symm

/-- A text that is not assembled fails where something is expected. -/
theorem exists_fails_of_assemble
    (failed : assemble source = .error error) :
    ∃ after, Reader.Fails (Scanner.ofSource source) error after := by
  rw [assemble] at failed
  split at failed
  · cases failed
  · rename_i after notRead
    cases failed
    exact ⟨after, Reader.fails_of_programAfter notRead⟩

/-- The tokens of a text decide what is assembled from it. -/
theorem assemble_congr_of_lex
    {other : String}
    (same : lex other = lex source) :
    (assemble other).toOption = (assemble source).toOption := by
  cases assembled : assemble source with
  | ok program =>
      have lexed := assemble_eq_ok_iff_lex.mp assembled
      rw [assemble_eq_ok_iff_lex.mpr (same.trans lexed)]
  | error error =>
      cases otherAssembled : assemble other with
      | error => rfl
      | ok program =>
          have lexed := assemble_eq_ok_iff_lex.mp otherAssembled
          rw [assemble_eq_ok_iff_lex.mpr (same.symm.trans lexed)] at assembled
          cases assembled

/-- The tokens of the instruction at an address come after those of the instructions with smaller
addresses. -/
theorem Program.flatten_eq_of_get?
    {address : Nat}
    {instruction : Instruction}
    (found : program.get? address = some instruction) :
    program.flatten =
      (program.instructions.toList.take address).flatMap Instruction.row ++
        instruction.row ++
        (program.instructions.toList.drop (address + 1)).flatMap Instruction.row := by
  rw [Program.get?, ← Array.getElem?_toList] at found
  obtain ⟨inside, instruction_eq⟩ := List.getElem?_eq_some_iff.mp found
  have split := List.take_append_drop address program.instructions.toList
  rw [List.drop_eq_getElem_cons inside, instruction_eq] at split
  calc
    program.flatten =
        (program.instructions.toList.take address ++
          instruction :: program.instructions.toList.drop (address + 1)).flatMap
            Instruction.row := by
      rw [split, Program.flatten]
    _ = _ := by
      rw [List.flatMap_append, List.flatMap_cons, List.append_assoc]

/-- A text assembles to a program exactly when its tokens are those of the program. So the tokens
alone decide, no program shares its tokens with another, and instructions are numbered in the
order in which they are written. -/
theorem assemble_iff_lex_flatten
    (source : String)
    (program : Program) :
    (assemble source = .ok program ↔ lex source = .ok program.flatten) ∧
    (∀ other : String,
      lex other = lex source → (assemble other).toOption = (assemble source).toOption) ∧
    (∀ other : Program, other.flatten = program.flatten → other = program) ∧
    (assemble source = .ok program →
      ∀ address instruction, program.get? address = some instruction →
        lex source = .ok
          ((program.instructions.toList.take address).flatMap Instruction.row ++
            instruction.row ++
            (program.instructions.toList.drop (address + 1)).flatMap Instruction.row)) := by
  have assemble_iff : assemble source = .ok program ↔ lex source = .ok program.flatten := by
    rw [Program.flatten_eq_tokens]
    exact assemble_eq_ok_iff_lex
  refine ⟨assemble_iff, ?_, ?_, ?_⟩
  · intro other same
    exact assemble_congr_of_lex same
  · intro other same
    rw [Program.flatten_eq_tokens, Program.flatten_eq_tokens] at same
    exact Program.tokens_injective same
  · intro assembled address instruction found
    rw [assemble_iff.mp assembled, Program.flatten_eq_of_get? found]

/-- Two instructions may share a line. -/
theorem assemble_two_on_one_line :
    assemble "WRITE -7 READ r2" = .ok (.ofList [.write (.literal (-7)), .read ⟨2⟩]) ∧
      lex "WRITE -7 READ r2" =
        .ok ([.mnemonic .write, .number (-7)] ++ [.mnemonic .read, .register ⟨2⟩] ++ []) := by
  obtain ⟨assemble_iff, -, -, inOrder⟩ := assemble_iff_lex_flatten "WRITE -7 READ r2"
    (.ofList [.write (.literal (-7)), .read ⟨2⟩])
  have assembled := assemble_iff.mpr (by decide +kernel)
  exact ⟨assembled, inOrder assembled 1 (.read ⟨2⟩) rfl⟩

/-! ## Errors -/

/-- The tokens that a report calls by a name. -/
inductive Token.CalledBy : String → Token → Prop
  | instruction (name : Mnemonic) : CalledBy "INSTRUCTION" (.mnemonic name)
  | valueRegister (place : Register) : CalledBy "VALUE" (.register place)
  | valueNumber (word : Word) : CalledBy "VALUE" (.number word)
  | register (place : Register) : CalledBy "REGISTER" (.register place)
  | condition (test : Condition) : CalledBy "CONDITION" (.condition test)
  | comma : CalledBy "COMMA" .comma

/-- What a report writes for what it has found, where no token means the end of the text. A register
and a number are written in decimal, every other token in its one way. -/
def Token.foundName : Option Token → String
  | none => "END OF INPUT"
  | some (.mnemonic .copy) => "CP"
  | some (.mnemonic .load) => "LOAD"
  | some (.mnemonic .store) => "STORE"
  | some (.mnemonic (.arith .add)) => "ADD"
  | some (.mnemonic (.arith .sub)) => "SUB"
  | some (.mnemonic (.arith .mul)) => "MUL"
  | some (.mnemonic .read) => "READ"
  | some (.mnemonic .write) => "WRITE"
  | some (.mnemonic .jump) => "JUMP"
  | some (.register place) => "r" ++ toString place.number
  | some (.number word) => toString word.toInt
  | some (.condition .zero) => "zero"
  | some (.condition .positive) => "pos"
  | some (.condition .negative) => "neg"
  | some .comma => ","

theorem Decimal.ofInt_eq_toString (n : Int) : Decimal.ofInt n = toString n := by
  cases n with
  | ofNat n => rfl
  | negSucc n => simp [Decimal.ofInt, Numeral.ofInt, Numeral.chars, toString, Int.repr, Nat.repr]

/-- A report describes what it has found by that name. -/
theorem Token.describe_eq_foundName (found : Option Token) :
    Token.describe found = Token.foundName found := by
  rcases found with _ | token
  · rfl
  · cases token with
    | mnemonic name =>
        cases name with
        | arith op => cases op <;> rfl
        | _ => rfl
    | register place => rfl
    | number word => exact Decimal.ofInt_eq_toString word.toInt
    | condition test => cases test <;> rfl
    | comma => rfl

namespace Expectation

theorem description_injective : Function.Injective description := by
  intro left right same
  rcases left with _ | left <;> rcases right with _ | right
  · rfl
  · cases right <;> exact absurd same (by decide)
  · cases left <;> exact absurd same (by decide)
  · cases left <;> cases right <;> first | rfl | exact absurd same (by decide)

theorem exists_admits_of_calledBy
    {name : String}
    {token : Token}
    (called : Token.CalledBy name token) :
    ∃ expected : Expectation, expected.description = name ∧ expected.Admits token := by
  cases called with
  | instruction name => exact ⟨.instruction, rfl, .instruction name⟩
  | valueRegister place => exact ⟨.slot .value, rfl, .valueRegister place⟩
  | valueNumber word => exact ⟨.slot .value, rfl, .valueNumber word⟩
  | register place => exact ⟨.slot .register, rfl, .register place⟩
  | condition test => exact ⟨.slot .condition, rfl, .condition test⟩
  | comma => exact ⟨.slot .comma, rfl, .comma⟩

/-- An expectation admits the tokens that its name calls. -/
theorem calledBy_description_iff
    {expected : Expectation}
    {token : Token} :
    Token.CalledBy expected.description token ↔ expected.Admits token := by
  constructor
  · intro called
    obtain ⟨other, description_eq, admits⟩ := exists_admits_of_calledBy called
    rw [← description_injective description_eq]
    exact admits
  · intro admits
    cases admits with
    | instruction name => exact .instruction name
    | valueRegister place => exact .valueRegister place
    | valueNumber word => exact .valueNumber word
    | register place => exact .register place
    | condition test => exact .condition test
    | comma => exact .comma

end Expectation

namespace Reader

/-- Viable tokens that are handed out are handed out before reading fails. -/
theorem Stops.exists_append_of_viable
    {scanner middle last after : Scanner}
    {expected : Expectation}
    {tokens viableTokens : List Token}
    (stops : Stops middle expected error after)
    (expecting : Expecting tokens expected)
    (handedOut : scanner.HandsOut tokens middle)
    (viableHanded : scanner.HandsOut viableTokens last)
    (viable : Viable viableTokens) :
    ∃ more, tokens = viableTokens ++ more ∧ last.HandsOut more middle := by
  rcases viableHanded.comparable handedOut with isBefore | ⟨more, rfl, rest⟩
  · exact isBefore
  · cases rest with
    | nil => exact ⟨[], by simp, .nil⟩
    | @cons _ next _ token others first _ =>
        -- The token after which reading stops would keep the row viable.
        exfalso
        rw [List.append_cons] at viable
        have admits := expecting.admits_of_viable_append viable.of_append
        cases stops with
        | lexical answer => cases answer.symm.trans first
        | unexpected answer refused _ =>
            cases answer.symm.trans first
            exact refused token rfl admits

end Reader

/-- A text is not assembled when its scanner fails to be read, and then for the same reason. -/
theorem assemble_eq_error_iff_fails :
    assemble source = .error error ↔
      ∃ after, Reader.Fails (Scanner.ofSource source) error after := by
  refine ⟨exists_fails_of_assemble, ?_⟩
  rintro ⟨after, tokens, expected, middle, expecting, handedOut, stops⟩
  cases assembled : assemble source with
  | ok program =>
      obtain ⟨last, ending, programHanded, answer⟩ := assemble_eq_ok_iff_handsOut.mp assembled
      have complete : Complete program.tokens := ⟨program, program.flatten_eq_tokens.symm⟩
      have viable : Viable program.tokens :=
        ⟨[], program, by rw [List.append_nil, program.flatten_eq_tokens]⟩
      obtain ⟨more, rfl, rest⟩ :=
        stops.exists_append_of_viable expecting handedOut programHanded viable
      cases rest with
      | cons first _ => cases answer.symm.trans first
      | nil =>
          rw [List.append_nil] at expecting
          cases stops with
          | lexical otherAnswer => cases answer.symm.trans otherAnswer
          | unexpected otherAnswer _ atEnd =>
              cases answer.symm.trans otherAnswer
              cases expected with
              | instruction => exact absurd rfl (atEnd rfl)
              | slot slot => exact absurd complete expecting.not_complete
  | error other =>
      obtain ⟨otherAfter, otherTokens, otherExpected, otherMiddle, otherExpecting, otherHanded,
        otherStops⟩ := exists_fails_of_assemble assembled
      obtain ⟨more, tokens_eq, rest⟩ :=
        stops.exists_append_of_viable expecting handedOut otherHanded otherExpecting.viable
      obtain ⟨others, otherTokens_eq, -⟩ :=
        otherStops.exists_append_of_viable otherExpecting otherHanded handedOut expecting.viable
      -- Each row begins with the other, so nothing comes between the two places.
      have more_eq : more = [] := by
        have lengths := congrArg List.length tokens_eq
        have otherLengths := congrArg List.length otherTokens_eq
        rw [List.length_append] at lengths otherLengths
        exact List.length_eq_zero_iff.mp (by omega)
      rw [more_eq, List.append_nil] at tokens_eq
      rw [more_eq, Scanner.HandsOut.nil_iff] at rest
      rw [tokens_eq] at expecting
      rw [expecting.unique otherExpecting, ← rest] at stops
      rw [stops.unique otherStops]

/-- A lexical error after tokens that can be completed to a program is what is reported. -/
theorem assemble_of_lexical_error
    {tokens : List Token}
    {last : Scanner}
    {met : LexicalError}
    (handedOut : (Scanner.ofSource source).HandsOut tokens last)
    (viable : Viable tokens)
    (answer : last.next = .error met) :
    assemble source = .error (.lexical met) := by
  cases assembled : assemble source with
  | ok program =>
      have lexed := assemble_eq_ok_iff_lex.mp assembled
      cases (lex_of_error handedOut answer).symm.trans lexed
  | error error =>
      obtain ⟨after, read, expected, middle, expecting, readHanded, stops⟩ :=
        exists_fails_of_assemble assembled
      obtain ⟨more, rfl, rest⟩ :=
        stops.exists_append_of_viable expecting readHanded handedOut viable
      cases rest with
      | cons first _ => cases answer.symm.trans first
      | nil =>
          cases stops with
          | lexical otherAnswer =>
              cases answer.symm.trans otherAnswer
              rfl
          | unexpected otherAnswer _ _ => cases answer.symm.trans otherAnswer

/-- A text that does not assemble is faulted at the first place that no program can make good, and
the report says what could have stood there and what stands there. -/
theorem assemble_error_place
    (source : String)
    (error : AssemblyError)
    (failed : assemble source = .error error) :
    ∃ tokens middle,
      (Scanner.ofSource source).HandsOut tokens middle ∧
      Viable tokens ∧
      match error with
      | .unexpected expected found span =>
          (∃ after, middle.next = .ok (found, after) ∧ after.span = span) ∧
          (∀ token, found = some token → ¬Viable (tokens ++ [token])) ∧
          (found = none → ¬Complete tokens) ∧
          (∀ token,
            Token.CalledBy expected.description token ↔ Viable (tokens ++ [token])) ∧
          error.report =
            { kind := .syntaxError
              span := span
              text :=
                "EXPECTED " ++ expected.description ++ ", FOUND " ++ Token.foundName found }
      | .lexical met =>
          middle.next = .error met ∧
          lex source = .error met ∧
          error.report = met.report ∧
          error.report.kind ≠ .syntaxError := by
  obtain ⟨after, tokens, expected, middle, expecting, handedOut, stops⟩ :=
    exists_fails_of_assemble failed
  refine ⟨tokens, middle, handedOut, expecting.viable, ?_⟩
  cases stops with
  | @lexical met answer =>
      refine ⟨answer, lex_of_error handedOut answer, rfl, ?_⟩
      cases met <;> exact fun same => by cases same
  | @unexpected found after answer refused atEnd =>
      refine ⟨⟨after, answer, rfl⟩, ?_, ?_, ?_, ?_⟩
      · intro token found_eq viable
        exact refused token found_eq (expecting.admits_of_viable_append viable)
      · intro isEnd
        cases expected with
        | instruction => exact absurd rfl (atEnd isEnd)
        | slot slot => exact expecting.not_complete
      · intro token
        rw [Expectation.calledBy_description_iff, expecting.viable_append_iff]
      · rw [← Token.describe_eq_foundName]
        rfl

/-- Where a comma is missing, only a comma could have stood, and the report says so and names the
register that stands there. Where a text ends too early, the report names its end. -/
theorem assemble_missing_comma :
    (∃ tokens middle,
      (Scanner.ofSource "CP 1 r2").HandsOut tokens middle ∧
      Viable tokens ∧
      ¬Viable (tokens ++ [.register ⟨2⟩]) ∧
      Viable (tokens ++ [.comma])) ∧
    (∃ error,
      assemble "CP 1 r2" = .error error ∧
      error.report =
        { kind := .syntaxError, span := ⟨5, 7⟩, text := "EXPECTED COMMA, FOUND r2" }) ∧
    ∃ error,
      assemble "CP 1," = .error error ∧
      error.report =
        { kind := .syntaxError
          span := ⟨5, 5⟩
          text := "EXPECTED REGISTER, FOUND END OF INPUT" } := by
  have noComma :
      assemble "CP 1 r2" =
        .error (.unexpected (.slot .comma) (some (.register ⟨2⟩)) ⟨5, 7⟩) := by
    decide +kernel
  have noRegister :
      assemble "CP 1," = .error (.unexpected (.slot .register) none ⟨5, 5⟩) := by
    decide +kernel
  obtain ⟨tokens, middle, handedOut, viable, -, notViable, -, expected, commaReport⟩ :=
    assemble_error_place _ _ noComma
  obtain ⟨-, -, -, -, -, -, -, -, registerReport⟩ := assemble_error_place _ _ noRegister
  exact
    ⟨⟨tokens, middle, handedOut, viable, notViable _ rfl, (expected .comma).mp .comma⟩,
      ⟨_, noComma, commaReport⟩, ⟨_, noRegister, registerReport⟩⟩

end RegisterMachine
