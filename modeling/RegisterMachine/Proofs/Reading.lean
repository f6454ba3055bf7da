import RegisterMachine.Proofs.HandingOut
import RegisterMachine.Proofs.InstructionGrammar

/-!
# What is read from a scanner

Reading a program asks a scanner for one token after the other and follows the
instruction grammar. It succeeds when the tokens up to the end of the text are
those of a program. Otherwise it stops at the first place where the scanner
meets a lexical error or hands out something that is not expected there.
-/

namespace RegisterMachine
namespace Reader

variable {scanner middle after : Scanner}
variable {error : AssemblyError}

theorem token?_eq_error_iff :
    token? scanner = .error error after ↔
      ∃ met, scanner.next = .error met ∧ error = .lexical met ∧ after = scanner := by
  unfold token?
  split
  · simp_all
  · rename_i met answer
    constructor
    · intro failed
      cases failed
      exact ⟨met, answer, rfl, rfl⟩
    · rintro ⟨other, otherAnswer, rfl, rfl⟩
      cases answer.symm.trans otherAnswer
      rfl

/-- Reading stops where something is expected: a lexical error is met, or something else is
handed out. The end of the text is expected only where an instruction is. -/
inductive Stops
    (scanner : Scanner)
    (expected : Expectation) : AssemblyError → Scanner → Prop
  | lexical {met : LexicalError} :
      scanner.next = .error met →
      Stops scanner expected (.lexical met) scanner
  | unexpected {found : Option Token} {after : Scanner} :
      scanner.next = .ok (found, after) →
      (∀ token, found = some token → ¬expected.Admits token) →
      (found = none → expected ≠ .instruction) →
      Stops scanner expected (.unexpected expected found after.span) after

/-- What is expected and the next answer decide what reading stops with. -/
theorem Stops.unique
    {other : AssemblyError}
    {otherAfter : Scanner}
    {expected : Expectation}
    (stops : Stops scanner expected error after)
    (otherStops : Stops scanner expected other otherAfter) :
    error = other := by
  cases stops with
  | lexical answer =>
      cases otherStops with
      | lexical otherAnswer =>
          cases answer.symm.trans otherAnswer
          rfl
      | unexpected otherAnswer => cases answer.symm.trans otherAnswer
  | unexpected answer =>
      cases otherStops with
      | lexical otherAnswer => cases answer.symm.trans otherAnswer
      | unexpected otherAnswer =>
          cases answer.symm.trans otherAnswer
          rfl

/-- A scanner that answers as another one stops reading in the same way. -/
theorem Stops.of_next_eq
    {other : Scanner}
    {expected : Expectation}
    (same : other.next = scanner.next)
    (stops : Stops scanner expected error after) :
    ∃ otherAfter, Stops other expected error otherAfter := by
  cases stops with
  | lexical answer => exact ⟨other, .lexical (same.trans answer)⟩
  | unexpected answer refused atEnd =>
      exact ⟨after, .unexpected (same.trans answer) refused atEnd⟩

/-! ## Slots -/

section Slots

variable {slot : Slot}
variable {slots : List Slot}

theorem content_eq_ok_iff
    {filled : slot.Content} :
    content slot scanner = .ok filled after ↔
      scanner.next = .ok (some (slot.token filled), after) := by
  rw [content, Stateful.bind_eq_ok_iff]
  constructor
  · rintro ⟨found, middle, handedOut, accepted⟩
    cases fits : found.bind slot.content? with
    | none =>
        rw [fits] at accepted
        cases accepted
    | some content =>
        rw [fits] at accepted
        cases accepted
        obtain ⟨token, rfl, isContent⟩ := Option.bind_eq_some_iff.mp fits
        rw [← Slot.content?_eq_some_iff.mp isContent]
        exact token?_eq_ok_iff.mp handedOut
  · intro answer
    refine ⟨_, after, token?_eq_ok_iff.mpr answer, ?_⟩
    rw [Option.bind_some, Slot.content?_eq_some_iff.mpr rfl]
    rfl

theorem stops_of_content
    (failed : content slot scanner = .error error after) :
    Stops scanner (.slot slot) error after := by
  rw [content, Stateful.bind_eq_error_iff] at failed
  rcases failed with noToken | ⟨found, middle, handedOut, refused⟩
  · obtain ⟨met, answer, rfl, rfl⟩ := token?_eq_error_iff.mp noToken
    exact .lexical answer
  · cases fits : found.bind slot.content? with
    | some content =>
        rw [fits] at refused
        cases refused
    | none =>
        rw [fits] at refused
        cases refused
        refine .unexpected (token?_eq_ok_iff.mp handedOut) ?_ (fun _ => by simp)
        rintro token rfl admits
        obtain ⟨content, rfl⟩ := Expectation.admits_slot_iff.mp admits
        rw [Option.bind_some, Slot.content?_eq_some_iff.mpr rfl] at fits
        cases fits

/-- Contents are read when their tokens are handed out. -/
theorem contents_eq_ok_iff
    {filled : Contents slots} :
    contents slots scanner = .ok filled after ↔
      scanner.HandsOut (Contents.tokens slots filled) after := by
  induction slots generalizing scanner with
  | nil =>
      rw [Contents.tokens, Scanner.HandsOut.nil_iff]
      constructor
      · intro wasRead
        cases wasRead
        rfl
      · rintro rfl
        rfl
  | cons slot slots inductionHypothesis =>
      obtain ⟨first, others⟩ := filled
      rw [contents, Stateful.bind_eq_ok_iff, Contents.tokens, Scanner.HandsOut.cons_iff]
      constructor
      · rintro ⟨content, middle, firstRead, othersRead⟩
        obtain ⟨contents, last, othersRead, returned⟩ := Stateful.bind_eq_ok_iff.mp othersRead
        cases returned
        exact ⟨middle, content_eq_ok_iff.mp firstRead, inductionHypothesis.mp othersRead⟩
      · rintro ⟨middle, answer, handedOut⟩
        refine ⟨first, middle, content_eq_ok_iff.mpr answer, ?_⟩
        exact Stateful.bind_eq_ok_iff.mpr
          ⟨others, after, inductionHypothesis.mpr handedOut, rfl⟩

/-- Reading contents stops at a slot, after the slots before it have been filled. -/
theorem exists_stops_of_contents
    (failed : contents slots scanner = .error error after) :
    ∃ before slot later filling middle,
      slots = before ++ slot :: later ∧
      Fills before filling ∧
      scanner.HandsOut filling middle ∧
      Stops middle (.slot slot) error after := by
  induction slots generalizing scanner with
  | nil => cases failed
  | cons slot slots inductionHypothesis =>
      rw [contents, Stateful.bind_eq_error_iff] at failed
      rcases failed with firstFailed | ⟨content, middle, firstRead, othersFailed⟩
      · exact ⟨[], slot, slots, [], scanner, rfl, .nil, .nil, stops_of_content firstFailed⟩
      · rcases Stateful.bind_eq_error_iff.mp othersFailed with
          othersFailed | ⟨_, _, _, returned⟩
        · obtain ⟨before, stopped, later, filling, last, rfl, fills, handedOut, stops⟩ :=
            inductionHypothesis othersFailed
          refine ⟨slot :: before, stopped, later, slot.token content :: filling, last, rfl,
            .cons (Expectation.admits_slot_iff.mpr ⟨content, rfl⟩) fills, ?_, stops⟩
          exact .cons (content_eq_ok_iff.mp firstRead) handedOut
        · cases returned

end Slots

/-! ## Instructions -/

/-- An instruction is read when its tokens are handed out. -/
theorem instruction?_eq_some_iff
    {instruction : Instruction} :
    instruction? scanner = .ok (some instruction) after ↔
      scanner.HandsOut instruction.tokens after := by
  rw [instruction?, Stateful.bind_eq_ok_iff]
  constructor
  · rintro ⟨found, middle, handedOut, accepted⟩
    match found with
    | none => cases accepted
    | some (.mnemonic name) =>
        obtain ⟨filled, last, contentsRead, returned⟩ := Stateful.bind_eq_ok_iff.mp accepted
        cases returned
        rw [Instruction.tokens_instruction]
        exact .cons (token?_eq_ok_iff.mp handedOut) (contents_eq_ok_iff.mp contentsRead)
    | some (.register _) | some (.number _) | some (.condition _) | some .comma => cases accepted
  · intro handedOut
    obtain ⟨middle, answer, operands⟩ := Scanner.HandsOut.cons_iff.mp handedOut
    refine ⟨_, middle, token?_eq_ok_iff.mpr answer, ?_⟩
    refine Stateful.bind_eq_ok_iff.mpr
      ⟨instruction.contents, after, contents_eq_ok_iff.mpr operands, ?_⟩
    rw [Instruction.instruction_contents]
    rfl

/-- No instruction is read at the end of the text. -/
theorem instruction?_eq_none_iff :
    instruction? scanner = .ok none after ↔ scanner.next = .ok (none, after) := by
  rw [instruction?, Stateful.bind_eq_ok_iff]
  constructor
  · rintro ⟨found, middle, handedOut, accepted⟩
    match found with
    | none =>
        cases accepted
        exact token?_eq_ok_iff.mp handedOut
    | some (.mnemonic name) =>
        obtain ⟨filled, last, -, returned⟩ := Stateful.bind_eq_ok_iff.mp accepted
        cases returned
    | some (.register _) | some (.number _) | some (.condition _) | some .comma => cases accepted
  · intro answer
    exact ⟨none, after, token?_eq_ok_iff.mpr answer, rfl⟩

/-- Reading fails after some tokens, at a place where the grammar expects something. -/
def Fails
    (scanner : Scanner)
    (error : AssemblyError)
    (after : Scanner) : Prop :=
  ∃ tokens expected middle,
    Expecting tokens expected ∧
    scanner.HandsOut tokens middle ∧
    Stops middle expected error after

/-- An instruction that cannot be read is refused at a mnemonic or at a slot. -/
theorem fails_of_instruction?
    (failed : instruction? scanner = .error error after) :
    Fails scanner error after := by
  have atStart
      (stops : Stops scanner .instruction error after) :
      Fails scanner error after :=
    ⟨[], .instruction, scanner, .instruction [], .nil, stops⟩
  rw [instruction?, Stateful.bind_eq_error_iff] at failed
  rcases failed with noToken | ⟨found, middle, handedOut, refused⟩
  · obtain ⟨met, answer, rfl, rfl⟩ := token?_eq_error_iff.mp noToken
    exact atStart (.lexical answer)
  · have answer := token?_eq_ok_iff.mp handedOut
    match found with
    | none => cases refused
    | some (.mnemonic name) =>
        rcases Stateful.bind_eq_error_iff.mp refused with contentsFailed | ⟨_, _, _, returned⟩
        · obtain ⟨before, slot, later, filling, last, shape_eq, fills, operands, stops⟩ :=
            exists_stops_of_contents contentsFailed
          exact ⟨.mnemonic name :: filling, .slot slot, last, .slot [] shape_eq fills,
            .cons answer operands, stops⟩
        · cases returned
    | some (.register _) | some (.number _) | some (.condition _) | some .comma =>
        cases refused
        refine atStart (.unexpected answer ?_ (by simp))
        rintro token found_eq admits
        cases admits
        cases found_eq

/-! ## Programs -/

section Programs

variable {done : Array Instruction}
variable {instruction : Instruction}

theorem programAfter_of_instruction
    (wasRead : instruction? scanner = .ok (some instruction) after) :
    programAfter done scanner = programAfter (done.push instruction) after := by
  rw [programAfter]
  split <;> simp_all

theorem programAfter_of_end
    (wasRead : instruction? scanner = .ok none after) :
    programAfter done scanner = .ok ⟨done⟩ after := by
  rw [programAfter]
  split <;> simp_all

theorem programAfter_of_error
    (notRead : instruction? scanner = .error error after) :
    programAfter done scanner = .error error after := by
  rw [programAfter]
  split <;> simp_all

/-- Instructions whose tokens are handed out are read one by one. -/
theorem programAfter_of_handsOut
    {instructions : List Instruction}
    (handedOut : scanner.HandsOut (instructions.flatMap Instruction.tokens) middle) :
    programAfter done scanner = programAfter (done ++ instructions.toArray) middle := by
  induction instructions generalizing scanner done with
  | nil =>
      rw [List.flatMap_nil, Scanner.HandsOut.nil_iff] at handedOut
      simp [handedOut]
  | cons instruction instructions inductionHypothesis =>
      rw [List.flatMap_cons, Scanner.HandsOut.append_iff] at handedOut
      obtain ⟨next, first, others⟩ := handedOut
      rw [programAfter_of_instruction (instruction?_eq_some_iff.mpr first),
        inductionHypothesis others]
      simp

/-- A program that is read consists of what was read before and of instructions whose tokens are
handed out up to the end of the text. -/
theorem exists_handsOut_of_programAfter
    {program : Program}
    (wasRead : programAfter done scanner = .ok program after) :
    ∃ (instructions : List Instruction) (last : Scanner),
      program = ⟨done ++ instructions.toArray⟩ ∧
      scanner.HandsOut (instructions.flatMap Instruction.tokens) last ∧
      last.next = .ok (none, after) := by
  fun_induction programAfter done scanner with
  | case1 done scanner instruction middle firstRead shorter inductionHypothesis =>
      obtain ⟨instructions, last, rfl, handedOut, answer⟩ := inductionHypothesis wasRead
      refine ⟨instruction :: instructions, last, by simp, ?_, answer⟩
      rw [List.flatMap_cons, Scanner.HandsOut.append_iff]
      exact ⟨middle, instruction?_eq_some_iff.mp firstRead, handedOut⟩
  | case2 done scanner last endRead =>
      cases wasRead
      exact ⟨[], scanner, by simp, .nil, instruction?_eq_none_iff.mp endRead⟩
  | case3 => cases wasRead

theorem fails_of_programAfter
    (failed : programAfter done scanner = .error error after) :
    Fails scanner error after := by
  fun_induction programAfter done scanner with
  | case1 done scanner instruction middle firstRead shorter inductionHypothesis =>
      obtain ⟨tokens, expected, last, expecting, handedOut, stops⟩ := inductionHypothesis failed
      refine ⟨instruction.tokens ++ tokens, expected, last, expecting.prepend instruction, ?_,
        stops⟩
      rw [Scanner.HandsOut.append_iff]
      exact ⟨middle, instruction?_eq_some_iff.mp firstRead, handedOut⟩
  | case2 => cases failed
  | case3 done scanner met last notRead =>
      cases failed
      exact fails_of_instruction? notRead

end Programs

end Reader
end RegisterMachine
