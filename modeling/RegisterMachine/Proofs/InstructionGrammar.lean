import Mathlib.Data.List.Forall2
import RegisterMachine.Assembly.Reader

/-!
# The instruction grammar

Which rows of tokens are programs, and which can still become one. The tokens of
an instruction fix it and tell where it ends, so a row of tokens is the row of
at most one program. A row that some further tokens complete to a program is
viable. What a viable row expects is known from where it stops: between two
instructions it expects a mnemonic, and inside an instruction it expects what
the next slot admits. Nothing else can follow.
-/

namespace RegisterMachine

/-- The token that an operand is written as. -/
def Operand.token : Operand → Token
  | .register place => .register place
  | .literal word => .number word

/-- The tokens of each instruction: its mnemonic, and then its operands with commas between
them. -/
def Instruction.row : Instruction → List Token
  | .copy source target =>
      [.mnemonic .copy, source.token, .comma, .register target]
  | .load address target =>
      [.mnemonic .load, address.token, .comma, .register target]
  | .store source address =>
      [.mnemonic .store, source.token, .comma, address.token]
  | .arith op lhs rhs target =>
      [.mnemonic (.arith op), lhs.token, .comma, rhs.token, .comma, .register target]
  | .read target => [.mnemonic .read, .register target]
  | .write source => [.mnemonic .write, source.token]
  | .jump test source address =>
      [.mnemonic .jump, .condition test, .comma, source.token, .comma, address.token]

/-- The tokens of a program, instruction after instruction. -/
def Program.flatten (program : Program) : List Token :=
  program.instructions.toList.flatMap Instruction.row

/-- The shapes of the mnemonics put the same tokens together. -/
@[simp] theorem Instruction.row_eq_tokens (instruction : Instruction) :
    instruction.row = instruction.tokens := by
  have operand_token (operand : Operand) : operand.token = Slot.value.token operand := by
    cases operand <;> rfl
  cases instruction <;> simp only [row, operand_token] <;> rfl

@[simp] theorem Program.flatten_eq_tokens (program : Program) :
    program.flatten = program.tokens := by
  have row_eq : Instruction.row = Instruction.tokens := by
    funext instruction
    exact instruction.row_eq_tokens
  rw [flatten, tokens, row_eq]

namespace Expectation

/-- The tokens that an expectation is about. -/
inductive Admits : Expectation → Token → Prop
  | instruction (name : Mnemonic) : Admits .instruction (.mnemonic name)
  | valueRegister (place : Register) : Admits (.slot .value) (.register place)
  | valueNumber (word : Word) : Admits (.slot .value) (.number word)
  | register (place : Register) : Admits (.slot .register) (.register place)
  | condition (test : Condition) : Admits (.slot .condition) (.condition test)
  | comma : Admits (.slot .comma) .comma

/-- A slot admits the tokens that are written for its contents. -/
theorem admits_slot_iff
    {slot : Slot}
    {token : Token} :
    Admits (.slot slot) token ↔ ∃ content, token = slot.token content := by
  constructor
  · intro admits
    cases admits with
    | valueRegister place => exact ⟨.register place, rfl⟩
    | valueNumber word => exact ⟨.literal word, rfl⟩
    | register place => exact ⟨place, rfl⟩
    | condition test => exact ⟨test, rfl⟩
    | comma => exact ⟨(), rfl⟩
  · rintro ⟨content, rfl⟩
    cases slot with
    | value =>
        cases content with
        | register place => exact .valueRegister place
        | literal word => exact .valueNumber word
    | register => exact .register content
    | condition => exact .condition content
    | comma => exact .comma

/-- Every expectation can be met. -/
theorem exists_admits (expected : Expectation) : ∃ token, expected.Admits token := by
  cases expected with
  | instruction => exact ⟨_, .instruction .read⟩
  | slot slot =>
      cases slot with
      | value => exact ⟨_, .valueNumber 0⟩
      | register => exact ⟨_, .register ⟨0⟩⟩
      | condition => exact ⟨_, .condition .zero⟩
      | comma => exact ⟨_, .comma⟩

/-- An expectation is known by the tokens that it admits. -/
theorem eq_of_admits_iff
    {left right : Expectation}
    (same : ∀ token, left.Admits token ↔ right.Admits token) :
    left = right := by
  obtain ⟨token, admits⟩ := left.exists_admits
  have rightAdmits := (same token).mp admits
  -- Only a register is admitted by two expectations, and a number tells them apart.
  have number := same (.number 0)
  cases admits <;> cases rightAdmits <;> first | rfl | skip
  · have admitsNumber := number.mp (.valueNumber 0)
    cases admitsNumber
  · have admitsNumber := number.mpr (.valueNumber 0)
    cases admitsNumber

end Expectation

/-! ## Filling slots -/

/-- Tokens fill a row of slots when each is admitted by its slot. -/
def Fills : List Slot → List Token → Prop :=
  List.Forall₂ fun slot token => Expectation.Admits (.slot slot) token

namespace Fills

variable {slots before later : List Slot}
variable {tokens left right : List Token}

theorem length_eq (fills : Fills slots tokens) : slots.length = tokens.length :=
  List.Forall₂.length_eq fills

theorem append
    (first : Fills before left)
    (second : Fills later right) :
    Fills (before ++ later) (left ++ right) :=
  List.rel_append first second

/-- Tokens that fill two rows of slots are those of the first row and then those of the second. -/
theorem exists_append
    (fills : Fills (before ++ later) tokens) :
    ∃ left right, tokens = left ++ right ∧ Fills before left ∧ Fills later right := by
  induction before generalizing tokens with
  | nil => exact ⟨[], tokens, rfl, .nil, fills⟩
  | cons slot before inductionHypothesis =>
      obtain ⟨token, others, admits, othersFill, rfl⟩ := List.forall₂_cons_left_iff.mp fills
      obtain ⟨left, right, rfl, leftFill, rightFill⟩ := inductionHypothesis othersFill
      exact ⟨token :: left, right, rfl, .cons admits leftFill, rightFill⟩

/-- Every row of slots can be filled. -/
theorem exists_tokens (slots : List Slot) : ∃ tokens, Fills slots tokens := by
  induction slots with
  | nil => exact ⟨[], .nil⟩
  | cons slot slots inductionHypothesis =>
      obtain ⟨tokens, fills⟩ := inductionHypothesis
      obtain ⟨token, admits⟩ := Expectation.exists_admits (.slot slot)
      exact ⟨token :: tokens, .cons admits fills⟩

end Fills

namespace Contents

/-- The tokens of contents fill the slots. -/
theorem fills_tokens
    (slots : List Slot)
    (contents : Contents slots) :
    Fills slots (tokens slots contents) := by
  induction slots with
  | nil => exact .nil
  | cons slot slots inductionHypothesis =>
      obtain ⟨content, contents⟩ := contents
      exact .cons (Expectation.admits_slot_iff.mpr ⟨content, rfl⟩) (inductionHypothesis contents)

/-- Tokens that fill the slots are those of some contents. -/
theorem exists_tokens_eq
    {slots : List Slot}
    {filling : List Token}
    (fills : Fills slots filling) :
    ∃ contents, tokens slots contents = filling := by
  induction slots generalizing filling with
  | nil =>
      cases fills
      exact ⟨(), rfl⟩
  | cons slot slots inductionHypothesis =>
      obtain ⟨token, others, admits, othersFill, rfl⟩ := List.forall₂_cons_left_iff.mp fills
      obtain ⟨content, rfl⟩ := Expectation.admits_slot_iff.mp admits
      obtain ⟨contents, rfl⟩ := inductionHypothesis othersFill
      exact ⟨(content, contents), rfl⟩

/-- The tokens of contents determine them. -/
theorem tokens_injective (slots : List Slot) : Function.Injective (tokens slots) := by
  intro left right same
  induction slots with
  | nil => rfl
  | cons slot slots inductionHypothesis =>
      obtain ⟨leftContent, leftContents⟩ := left
      obtain ⟨rightContent, rightContents⟩ := right
      injection same with token_eq tokens_eq
      have leftFits : slot.content? (slot.token leftContent) = some leftContent :=
        Slot.content?_eq_some_iff.mpr rfl
      rw [token_eq, Slot.content?_eq_some_iff.mpr rfl] at leftFits
      cases leftFits
      rw [inductionHypothesis tokens_eq]

end Contents

/-! ## Unique readability -/

namespace Instruction

variable {name : Mnemonic}

/-- The tokens after the mnemonic of an instruction fill its slots. -/
theorem fills_operandTokens (instruction : Instruction) :
    Fills instruction.mnemonic.shape instruction.operandTokens :=
  Contents.fills_tokens _ instruction.contents

/-- A mnemonic and tokens that fill its slots make an instruction. -/
theorem exists_tokens_eq
    {operands : List Token}
    (fills : Fills name.shape operands) :
    ∃ instruction : Instruction, instruction.tokens = .mnemonic name :: operands := by
  obtain ⟨contents, rfl⟩ := Contents.exists_tokens_eq fills
  exact ⟨name.instruction contents, tokens_instruction name contents⟩

theorem tokens_injective : Function.Injective tokens := by
  intro left right same
  rw [← instruction_contents left, ← instruction_contents right] at same ⊢
  generalize left.contents = leftContents, right.contents = rightContents at same ⊢
  revert leftContents rightContents
  generalize left.mnemonic = leftName, right.mnemonic = rightName
  intro leftContents rightContents same
  rw [tokens_instruction, tokens_instruction] at same
  injection same with token_eq tokens_eq
  injection token_eq with name_eq
  subst name_eq
  rw [Contents.tokens_injective _ tokens_eq]

/-- The tokens of an instruction tell where it ends. -/
theorem tokens_append_inj
    {left right : Instruction}
    {leftMore rightMore : List Token}
    (same : left.tokens ++ leftMore = right.tokens ++ rightMore) :
    left = right ∧ leftMore = rightMore := by
  have names : Token.mnemonic left.mnemonic = .mnemonic right.mnemonic := (List.cons.inj same).1
  injection names with name_eq
  have length_eq : left.tokens.length = right.tokens.length := by
    rw [tokens, tokens, List.length_cons, List.length_cons,
      ← left.fills_operandTokens.length_eq, ← right.fills_operandTokens.length_eq, name_eq]
  obtain ⟨tokens_eq, more_eq⟩ := List.append_inj same length_eq
  exact ⟨tokens_injective tokens_eq, more_eq⟩

/-- A row of instructions is read off from any row of tokens that begins with its tokens. -/
theorem exists_append_of_flatMap_tokens
    {done all : List Instruction}
    {more : List Token}
    (same : done.flatMap tokens ++ more = all.flatMap tokens) :
    ∃ others, all = done ++ others ∧ more = others.flatMap tokens := by
  induction done generalizing all with
  | nil => exact ⟨all, rfl, same⟩
  | cons instruction done inductionHypothesis =>
      cases all with
      | nil => cases same
      | cons first all =>
          rw [List.flatMap_cons, List.flatMap_cons, List.append_assoc] at same
          obtain ⟨rfl, others_eq⟩ := tokens_append_inj same
          obtain ⟨others, rfl, more_eq⟩ := inductionHypothesis others_eq
          exact ⟨others, rfl, more_eq⟩

theorem flatMap_tokens_eq_nil_iff {instructions : List Instruction} :
    instructions.flatMap tokens = [] ↔ instructions = [] := by
  constructor
  · intro empty
    cases instructions with
    | nil => rfl
    | cons instruction instructions => cases empty
  · rintro rfl
    rfl

end Instruction

namespace Program

@[simp] theorem tokens_ofList (instructions : List Instruction) :
    (ofList instructions).tokens = instructions.flatMap Instruction.tokens := rfl

/-- A row of tokens is the row of at most one program. -/
theorem tokens_injective : Function.Injective tokens := by
  rintro ⟨⟨left⟩⟩ ⟨⟨right⟩⟩ same
  have padded : left.flatMap Instruction.tokens ++ [] = right.flatMap Instruction.tokens := by
    rw [List.append_nil]
    exact same
  obtain ⟨others, rfl, nothing⟩ := Instruction.exists_append_of_flatMap_tokens padded
  rw [Instruction.flatMap_tokens_eq_nil_iff.mp nothing.symm, List.append_nil]

end Program

/-! ## Viable rows of tokens -/

/-- Some tokens can be completed to the tokens of a program. -/
def Viable (tokens : List Token) : Prop :=
  ∃ (more : List Token) (program : Program), tokens ++ more = program.flatten

/-- Some tokens are those of a program as they stand. -/
def Complete (tokens : List Token) : Prop :=
  ∃ program : Program, tokens = program.flatten

theorem viable_iff
    {tokens : List Token} :
    Viable tokens ↔
      ∃ (more : List Token) (instructions : List Instruction),
        tokens ++ more = instructions.flatMap Instruction.tokens := by
  constructor
  · rintro ⟨more, program, same⟩
    rw [Program.flatten_eq_tokens] at same
    exact ⟨more, program.instructions.toList, same⟩
  · rintro ⟨more, instructions, same⟩
    refine ⟨more, .ofList instructions, ?_⟩
    rw [Program.flatten_eq_tokens, Program.tokens_ofList, same]

/-- What comes before something in a viable row is viable. -/
theorem Viable.of_append
    {tokens more : List Token}
    (viable : Viable (tokens ++ more)) :
    Viable tokens := by
  obtain ⟨later, program, same⟩ := viable
  exact ⟨more ++ later, program, by rw [← same, List.append_assoc]⟩

/-- What is expected after some tokens: a mnemonic after the tokens of a program, and otherwise
what comes next in the shape of the last mnemonic. -/
inductive Expecting : List Token → Expectation → Prop
  | instruction (done : List Instruction) :
      Expecting (done.flatMap Instruction.tokens) .instruction
  | slot
      (done : List Instruction)
      {name : Mnemonic}
      {before later : List Slot}
      {slot : Slot}
      {filling : List Token} :
      name.shape = before ++ slot :: later →
      Fills before filling →
      Expecting (done.flatMap Instruction.tokens ++ .mnemonic name :: filling) (.slot slot)

namespace Expecting

variable {tokens : List Token}
variable {expected : Expectation}
variable {token : Token}

/-- A token that is admitted keeps the row viable. -/
theorem viable_append_of_admits
    (expecting : Expecting tokens expected)
    (admits : expected.Admits token) :
    Viable (tokens ++ [token]) := by
  rw [viable_iff]
  cases expecting with
  | instruction done =>
      cases admits with
      | instruction name =>
          obtain ⟨operands, fills⟩ := Fills.exists_tokens name.shape
          obtain ⟨instruction, instruction_eq⟩ := Instruction.exists_tokens_eq fills
          refine ⟨operands, done ++ [instruction], ?_⟩
          rw [List.flatMap_append, List.flatMap_singleton, instruction_eq, List.append_assoc,
            List.singleton_append]
  | @slot done name before later slot filling shape_eq fills =>
      obtain ⟨others, othersFill⟩ := Fills.exists_tokens later
      have allFill : Fills name.shape (filling ++ token :: others) := by
        rw [shape_eq]
        exact fills.append (.cons admits othersFill)
      obtain ⟨instruction, instruction_eq⟩ := Instruction.exists_tokens_eq allFill
      refine ⟨others, done ++ [instruction], ?_⟩
      rw [List.flatMap_append, List.flatMap_singleton, instruction_eq]
      simp

/-- An instruction in front changes nothing about what is expected. -/
theorem prepend
    (instruction : Instruction)
    (expecting : Expecting tokens expected) :
    Expecting (instruction.tokens ++ tokens) expected := by
  cases expecting with
  | instruction done => exact .instruction (instruction :: done)
  | slot done shape_eq fills =>
      rw [← List.append_assoc]
      exact .slot (instruction :: done) shape_eq fills

/-- A row that expects something is viable. -/
theorem viable (expecting : Expecting tokens expected) : Viable tokens := by
  obtain ⟨token, admits⟩ := expected.exists_admits
  exact (expecting.viable_append_of_admits admits).of_append

/-- A row of tokens that stops inside an instruction goes on, in every program that begins with
it, with a token for the slot it stops at. -/
theorem exists_slot_token
    {name : Mnemonic}
    {before later : List Slot}
    {slot : Slot}
    {filling more : List Token}
    {instructions : List Instruction}
    (shape_eq : name.shape = before ++ slot :: later)
    (fills : Fills before filling)
    (same : .mnemonic name :: filling ++ more = instructions.flatMap Instruction.tokens) :
    ∃ token others, more = token :: others ∧ Expectation.Admits (.slot slot) token := by
  cases instructions with
  | nil => cases same
  | cons instruction instructions =>
      rw [List.flatMap_cons, Instruction.tokens, List.cons_append, List.cons_append] at same
      injection same with token_eq operands_eq
      injection token_eq with name_eq
      have operandsFill := instruction.fills_operandTokens
      rw [← name_eq, shape_eq] at operandsFill
      obtain ⟨left, right, split, leftFill, rightFill⟩ := operandsFill.exists_append
      obtain ⟨found, others, admits, -, rfl⟩ := List.forall₂_cons_left_iff.mp rightFill
      rw [split, List.append_assoc] at operands_eq
      have length_eq : filling.length = left.length := by
        rw [← fills.length_eq, leftFill.length_eq]
      obtain ⟨-, more_eq⟩ := List.append_inj operands_eq length_eq
      exact ⟨found, others ++ instructions.flatMap Instruction.tokens, more_eq, admits⟩

/-- Only a token that is admitted keeps the row viable. -/
theorem admits_of_viable_append
    (expecting : Expecting tokens expected)
    (viable : Viable (tokens ++ [token])) :
    expected.Admits token := by
  obtain ⟨more, instructions, same⟩ := viable_iff.mp viable
  rw [List.append_assoc, List.singleton_append] at same
  cases expecting with
  | instruction done =>
      obtain ⟨others, rfl, token_eq⟩ := Instruction.exists_append_of_flatMap_tokens same
      cases others with
      | nil => cases token_eq
      | cons instruction others =>
          cases token_eq
          exact .instruction instruction.mnemonic
  | @slot done name before later slot filling shape_eq fills =>
      rw [List.append_assoc] at same
      obtain ⟨others, rfl, others_eq⟩ := Instruction.exists_append_of_flatMap_tokens same
      obtain ⟨found, rest, more_eq, admits⟩ := exists_slot_token shape_eq fills others_eq
      injection more_eq with token_eq
      rw [token_eq]
      exact admits

/-- The tokens that can follow are exactly those that are expected. -/
theorem viable_append_iff
    (expecting : Expecting tokens expected) :
    Viable (tokens ++ [token]) ↔ expected.Admits token :=
  ⟨expecting.admits_of_viable_append, expecting.viable_append_of_admits⟩

/-- What is expected is known from the tokens. -/
theorem unique
    {other : Expectation}
    (expecting : Expecting tokens expected)
    (otherExpecting : Expecting tokens other) :
    expected = other := by
  apply Expectation.eq_of_admits_iff
  intro token
  rw [← expecting.viable_append_iff, otherExpecting.viable_append_iff]

/-- Instructions in front change nothing about what is expected. -/
theorem prependAll
    (instructions : List Instruction)
    (expecting : Expecting tokens expected) :
    Expecting (instructions.flatMap Instruction.tokens ++ tokens) expected := by
  induction instructions with
  | nil => exact expecting
  | cons instruction instructions inductionHypothesis =>
      rw [List.flatMap_cons, List.append_assoc]
      exact inductionHypothesis.prepend instruction

/-- A row of tokens that stops inside an instruction is not a program. -/
theorem not_complete
    {slot : Slot}
    (expecting : Expecting tokens (.slot slot)) :
    ¬Complete tokens := by
  rintro ⟨program, same⟩
  rw [Program.flatten_eq_tokens] at same
  cases expecting with
  | @slot done name before later _ filling shape_eq fills =>
      obtain ⟨others, -, others_eq⟩ := Instruction.exists_append_of_flatMap_tokens same
      rw [← List.append_nil (Token.mnemonic name :: filling)] at others_eq
      obtain ⟨token, rest, more_eq, -⟩ := exists_slot_token shape_eq fills others_eq
      cases more_eq

end Expecting

end RegisterMachine
