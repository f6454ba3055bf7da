import Mathlib.Logic.Relation
import RegisterMachine.Proofs.Batching

/-!
# Operating a machine

A machine is operated by calls. It can be asked for one step, for a run until it
stops and for a batch of steps, and it can be interrupted, again and again and
in any order, also after it has stopped. A run is answered only if it ends.

Every call executes some instructions and then ends in one of few ways: the
machine can go on, it has come to the end of its program, an instruction has
failed, or it was interrupted. A machine that has stopped stays as it is, and
every later call is answered at once.
-/

namespace RegisterMachine
namespace Machine

/-- What a machine can be called on to do. -/
inductive Call
  | step
  | run
  | execute (cycles : Nat)
  | interrupt
  deriving DecidableEq

/-- What a call is answered with. -/
inductive Answer
  | stepped (didExecute : Bool)
  | ended
  | executed (status : Status)
  | trapped (trap : Trap)
  | interrupted (report : Report)
  deriving DecidableEq

/-- The report in an answer that is an error. -/
def Answer.report? : Answer → Option Report
  | .trapped trap => some trap.report
  | .interrupted report => some report
  | _ => none

variable {World : Type}

/-- The answer to a call that has come to a result, and the machine after it. -/
def reply
    {α : Type}
    (succeeded : α → Answer) :
    EStateM.Result Trap (Machine World) α → Answer × Machine World
  | .ok value after => (succeeded value, after)
  | .error trap after => (.trapped trap, after)

theorem exists_trap_of_reply
    {α : Type}
    {answer : Answer}
    {after : Machine World}
    {succeeded : α → Answer}
    {result : EStateM.Result Trap (Machine World) α}
    {report : Report}
    (replied : reply succeeded result = (answer, after))
    (harmless : ∀ value, (succeeded value).report? = none)
    (isError : answer.report? = some report) :
    ∃ trap, answer = .trapped trap ∧ trap.report = report := by
  cases result with
  | ok value last =>
      cases replied
      rw [harmless value] at isError
      cases isError
  | error trap last =>
      cases replied
      exact ⟨trap, rfl, Option.some.inj isError⟩

variable [Console World]

/-- A machine responds to a call with an answer, and is in another state after it. -/
inductive Responds (machine : Machine World) : Call → Answer → Machine World → Prop
  | step {answer : Answer} {after : Machine World} :
      reply .stepped (step machine) = (answer, after) →
      Responds machine .step answer after
  | run
      {bound : Nat}
      {result : EStateM.Result Trap (Machine World) Unit}
      {answer : Answer}
      {after : Machine World} :
      run bound machine = some result →
      reply (fun _ => .ended) result = (answer, after) →
      Responds machine .run answer after
  | execute {cycles : Nat} {answer : Answer} {after : Machine World} :
      reply .executed (execute cycles machine) = (answer, after) →
      Responds machine (.execute cycles) answer after
  | interrupt :
      Responds machine .interrupt (.interrupted machine.interrupt.1) machine.interrupt.2

/-- A machine undergoes some calls, each with the answer to it, and is in another state after the
last of them. -/
inductive Undergoes : Machine World → List (Call × Answer) → Machine World → Prop
  | nil {machine : Machine World} : Undergoes machine [] machine
  | cons
      {machine middle after : Machine World}
      {call : Call}
      {answer : Answer}
      {exchanges : List (Call × Answer)} :
      Responds machine call answer middle →
      Undergoes middle exchanges after →
      Undergoes machine ((call, answer) :: exchanges) after

variable {machine after : Machine World}
variable {call : Call}
variable {answer : Answer}
variable {exchanges : List (Call × Answer)}

/-! ## What a call does -/

/-- A machine reaches the states that come from it by executing instructions, none of which
fails. -/
def Reaches : Machine World → Machine World → Prop :=
  Relation.ReflTransGen fun machine after => step machine = .ok true after

/-- Whether an answer tells that the machine has stopped at the end of its program. -/
def Answer.tellsEnd : Answer → Bool
  | .stepped didExecute => !didExecute
  | .ended => true
  | .executed status => decide (status = .stopped)
  | _ => false

/-- How a call can end when the machine has come to its last state: with which answer, and what
becomes of the machine. -/
inductive Concludes (last : Machine World) : Answer → Machine World → Prop
  | stepped : Concludes last (.stepped true) last
  | running {entry : Nat × Instruction} :
      last.next? = some entry →
      Concludes last (.executed .running) last
  | stopped {answer : Answer} :
      last.next? = none →
      answer.tellsEnd = true →
      Concludes last answer last.halt
  | trapped {trap : Trap} {after : Machine World} :
      step last = .error trap after →
      Concludes last (.trapped trap) after
  | interrupted {report : Report} : Concludes last (.interrupted report) last.halt

theorem exists_concludes_of_execute
    {cycles : Nat}
    (replied : reply .executed (execute cycles machine) = (answer, after)) :
    ∃ last, machine.Reaches last ∧ last.Concludes answer after := by
  induction cycles generalizing machine with
  | zero =>
      refine ⟨machine, .refl, ?_⟩
      cases found : machine.next? with
      | none =>
          simp only [execute, found] at replied
          cases replied
          exact .stopped found rfl
      | some entry =>
          simp only [execute, found] at replied
          cases replied
          exact .running found
  | succ cycles inductionHypothesis =>
      rcases step_cases machine with
        ⟨middle, stepped⟩ | ⟨nothing, stepped⟩ | ⟨trap, middle, stepped⟩
      · simp only [execute, stepped] at replied
        obtain ⟨last, reaches, concludes⟩ := inductionHypothesis replied
        exact ⟨last, .head stepped reaches, concludes⟩
      · simp only [execute, stepped] at replied
        cases replied
        exact ⟨machine, .refl, .stopped nothing rfl⟩
      · simp only [execute, stepped] at replied
        cases replied
        exact ⟨machine, .refl, .trapped stepped⟩

theorem exists_concludes_of_run
    {bound : Nat}
    {result : EStateM.Result Trap (Machine World) Unit}
    (ended : run bound machine = some result)
    (replied : reply (fun _ => .ended) result = (answer, after)) :
    ∃ last, machine.Reaches last ∧ last.Concludes answer after := by
  induction bound generalizing machine with
  | zero => cases ended
  | succ bound inductionHypothesis =>
      rcases step_cases machine with
        ⟨middle, stepped⟩ | ⟨nothing, stepped⟩ | ⟨trap, middle, stepped⟩
      · simp only [run, stepped] at ended
        obtain ⟨last, reaches, concludes⟩ := inductionHypothesis ended
        exact ⟨last, .head stepped reaches, concludes⟩
      · simp only [run, stepped] at ended
        cases ended
        cases replied
        exact ⟨machine, .refl, .stopped nothing rfl⟩
      · simp only [run, stepped] at ended
        cases ended
        cases replied
        exact ⟨machine, .refl, .trapped stepped⟩

/-- Every call executes some instructions and then ends in one of the ways in which calls end. -/
theorem Responds.exists_concludes
    (responds : machine.Responds call answer after) :
    ∃ last, machine.Reaches last ∧ last.Concludes answer after := by
  cases responds with
  | step replied =>
      rcases step_cases machine with
        ⟨middle, stepped⟩ | ⟨nothing, stepped⟩ | ⟨trap, middle, stepped⟩
      · rw [stepped] at replied
        cases replied
        exact ⟨after, .single stepped, .stepped⟩
      · rw [stepped] at replied
        cases replied
        exact ⟨machine, .refl, .stopped nothing rfl⟩
      · rw [stepped] at replied
        cases replied
        exact ⟨machine, .refl, .trapped stepped⟩
  | run ended replied => exact exists_concludes_of_run ended replied
  | execute replied => exact exists_concludes_of_execute replied
  | interrupt => exact ⟨machine, .refl, .interrupted⟩

theorem Responds.exists_step_eq_error
    {trap : Trap}
    (responds : machine.Responds call (.trapped trap) after) :
    ∃ last, machine.Reaches last ∧ Machine.step last = .error trap after := by
  obtain ⟨last, reaches, concludes⟩ := responds.exists_concludes
  cases concludes with
  | stopped _ tellsEnd => cases tellsEnd
  | trapped failed => exact ⟨last, reaches, failed⟩

/-- An answer that is an error comes from an instruction that failed, unless the machine was
interrupted. -/
theorem Responds.exists_trap
    {report : Report}
    (responds : machine.Responds call answer after)
    (notInterrupted : call ≠ .interrupt)
    (isError : answer.report? = some report) :
    ∃ trap, answer = .trapped trap ∧ trap.report = report := by
  cases responds with
  | step replied => exact exists_trap_of_reply replied (fun _ => rfl) isError
  | run _ replied => exact exists_trap_of_reply replied (fun _ => rfl) isError
  | execute replied => exact exists_trap_of_reply replied (fun _ => rfl) isError
  | interrupt => exact absurd rfl notInterrupted

/-! ## The program -/

theorem Reaches.program_eq
    {last : Machine World}
    (reaches : machine.Reaches last) :
    last.program = machine.program := by
  induction reaches with
  | refl => rfl
  | tail _ stepped inductionHypothesis =>
      exact (frame_of_step_eq_true stepped).1.trans inductionHypothesis

theorem Concludes.program_eq
    (concludes : machine.Concludes answer after) :
    after.program = machine.program := by
  cases concludes with
  | trapped failed => exact (frame_of_step_eq_error failed).1
  | _ => rfl

theorem Responds.program_eq
    (responds : machine.Responds call answer after) :
    after.program = machine.program := by
  obtain ⟨last, reaches, concludes⟩ := responds.exists_concludes
  exact concludes.program_eq.trans reaches.program_eq

/-! ## A machine that has stopped -/

/-- The answer to a call on a machine that has stopped. -/
def Call.idleAnswer (machine : Machine World) : Call → Answer
  | .step => .stepped false
  | .run => .ended
  | .execute _ => .executed .stopped
  | .interrupt => .interrupted { kind := .interrupted, address := machine.address? }

/-- A call on a machine that has stopped is answered at once and changes nothing. -/
theorem responds_iff_of_stopped
    (stopped : machine.running = false) :
    machine.Responds call answer after ↔ answer = call.idleAnswer machine ∧ after = machine := by
  have nothing : machine.next? = none := next?_eq_none_iff.mpr (.inl stopped)
  have stepped : Machine.step machine = .ok false machine := by
    rw [step_of_next?_eq_none nothing, halt_of_stopped stopped]
  constructor
  · intro responds
    cases responds with
    | step replied =>
        rw [stepped] at replied
        cases replied
        exact ⟨rfl, rfl⟩
    | @run bound result _ _ ended replied =>
        cases bound with
        | zero => cases ended
        | succ bound =>
            simp only [Machine.run, stepped] at ended
            cases ended
            cases replied
            exact ⟨rfl, rfl⟩
    | @execute cycles _ _ replied =>
        rw [execute_of_next?_eq_none nothing, halt_of_stopped stopped] at replied
        cases replied
        exact ⟨rfl, rfl⟩
    | interrupt => exact ⟨rfl, halt_of_stopped stopped⟩
  · rintro ⟨rfl, rfl⟩
    cases call with
    | step =>
        apply Responds.step
        rw [stepped]
        rfl
    | run =>
        have ended : Machine.run 1 after = some (.ok () after) := by
          simp only [Machine.run, stepped]
        exact .run ended rfl
    | execute cycles =>
        apply Responds.execute
        rw [execute_of_next?_eq_none nothing, halt_of_stopped stopped]
        rfl
    | interrupt =>
        have responds : after.Responds .interrupt (.interrupted after.interrupt.1) after.halt :=
          .interrupt
        rwa [halt_of_stopped stopped] at responds

/-- However often a machine that has stopped is called on, it stays as it is. -/
theorem Undergoes.of_stopped
    (undergone : machine.Undergoes exchanges after)
    (stopped : machine.running = false) :
    after = machine ∧ ∀ exchange ∈ exchanges, exchange.2 = exchange.1.idleAnswer machine := by
  induction undergone with
  | nil => exact ⟨rfl, by simp⟩
  | cons responds _ inductionHypothesis =>
      obtain ⟨rfl, rfl⟩ := (responds_iff_of_stopped stopped).mp responds
      obtain ⟨rfl, answered⟩ := inductionHypothesis stopped
      exact ⟨rfl, List.forall_mem_cons.mpr ⟨rfl, answered⟩⟩

theorem after_of_stopped
    (stopped : machine.running = false)
    (steps : Nat) :
    Stateful.after step steps machine = machine := by
  have nothing : machine.next? = none := next?_eq_none_iff.mpr (.inl stopped)
  have stays : Stateful.next step machine = machine := by
    rw [Stateful.next, step_of_next?_eq_none nothing]
    exact halt_of_stopped stopped
  induction steps with
  | zero => rfl
  | succ steps inductionHypothesis => rw [Stateful.after, stays, inductionHypothesis]

/-- A run goes through the states that single steps lead to, as long as the machine is running. -/
theorem run_add
    {steps : Nat}
    (isRunning : (Stateful.after step steps machine).running = true)
    (bound : Nat) :
    run (steps + bound) machine = run bound (Stateful.after step steps machine) := by
  induction steps generalizing machine with
  | zero => rw [Nat.zero_add, Stateful.after]
  | succ steps inductionHypothesis =>
      -- A machine that stops in its first step does not come to be running later.
      have nextRunning : (Stateful.next step machine).running = true := by
        by_contra stopped
        rw [Bool.not_eq_true] at stopped
        rw [Stateful.after, after_of_stopped stopped, stopped] at isRunning
        cases isRunning
      rw [Stateful.after] at isRunning ⊢
      rw [Nat.succ_add, run, ← inductionHypothesis isRunning]
      rcases step_cases machine with ⟨after, stepped⟩ | ⟨-, stepped⟩ | ⟨trap, after, stepped⟩
      · rw [Stateful.next, stepped]
      · rw [Stateful.next, stepped] at nextRunning
        cases nextRunning
      · rw [Stateful.next, stepped, (frame_of_step_eq_error stepped).2] at nextRunning
        cases nextRunning

theorem Undergoes.exists_append
    {before later : List (Call × Answer)}
    (undergone : machine.Undergoes (before ++ later) after) :
    ∃ middle, machine.Undergoes before middle ∧ middle.Undergoes later after := by
  induction before generalizing machine with
  | nil => exact ⟨machine, .nil, undergone⟩
  | cons exchange before inductionHypothesis =>
      cases undergone with
      | cons responds rest =>
          obtain ⟨middle, first, second⟩ := inductionHypothesis rest
          exact ⟨middle, .cons responds first, second⟩

theorem Responds.stopped_of_trapped
    {trap : Trap}
    (responds : machine.Responds call (.trapped trap) after) :
    after.running = false := by
  obtain ⟨last, -, failed⟩ := responds.exists_step_eq_error
  exact (frame_of_step_eq_error failed).2

/-- After an instruction has failed, the machine has stopped and no other failure is reported. -/
theorem Undergoes.after_trapped
    {trap : Trap}
    {before later : List (Call × Answer)}
    (undergone : machine.Undergoes (before ++ (call, .trapped trap) :: later) after) :
    after.running = false ∧ ∀ exchange ∈ later, ∀ other, exchange.2 ≠ .trapped other := by
  obtain ⟨middle, -, undergoneAfter⟩ := undergone.exists_append
  cases undergoneAfter with
  | cons responds rest =>
      have stopped := responds.stopped_of_trapped
      obtain ⟨rfl, answered⟩ := rest.of_stopped stopped
      refine ⟨stopped, ?_⟩
      intro exchange isMember other
      rw [answered exchange isMember]
      cases exchange.1 <;> exact Answer.noConfusion

/-- Before an instruction failed, no other failure was reported. -/
theorem Undergoes.before_trapped
    {trap : Trap}
    {before later : List (Call × Answer)}
    (undergone : machine.Undergoes (before ++ (call, .trapped trap) :: later) after) :
    ∀ exchange ∈ before, ∀ other, exchange.2 ≠ .trapped other := by
  rintro ⟨earlierCall, answer⟩ isMember other rfl
  obtain ⟨earliest, between, rfl⟩ := List.append_of_mem isMember
  rw [List.append_assoc, List.cons_append] at undergone
  exact undergone.after_trapped.2 (call, .trapped trap) (by simp) trap rfl

/-! ## Where a machine stops -/

/-- A machine that has stopped has its program counter outside the program. -/
def StopsOutside (machine : Machine World) : Prop :=
  machine.running = false →
    machine.counter.toInt < 0 ∨ machine.program.length ≤ machine.counter.toInt

theorem Reaches.stopsOutside
    {last : Machine World}
    (reaches : machine.Reaches last)
    (outside : machine.StopsOutside) :
    last.StopsOutside := by
  induction reaches with
  | refl => exact outside
  | tail _ stepped _ =>
      intro stopped
      rw [(frame_of_step_eq_true stepped).2] at stopped
      cases stopped

theorem Concludes.stopsOutside
    (concludes : machine.Concludes answer after)
    (noError : answer.report? = none)
    (outside : machine.StopsOutside) :
    after.StopsOutside := by
  cases concludes with
  | stepped => exact outside
  | running _ => exact outside
  | stopped nothing _ =>
      intro _
      rcases next?_eq_none_iff.mp nothing with stopped | left
      · exact outside stopped
      · exact left
  | trapped _ => cases noError
  | interrupted => cases noError

/-- A machine that was not interrupted and none of whose instructions has failed stops only where
its program ends. -/
theorem Undergoes.stopsOutside
    (undergone : machine.Undergoes exchanges after)
    (noError : ∀ exchange ∈ exchanges, exchange.2.report? = none)
    (outside : machine.StopsOutside) :
    after.StopsOutside := by
  induction undergone with
  | nil => exact outside
  | cons responds _ inductionHypothesis =>
      obtain ⟨noErrorNow, noErrorLater⟩ := List.forall_mem_cons.mp noError
      obtain ⟨last, reaches, concludes⟩ := responds.exists_concludes
      apply inductionHypothesis noErrorLater
      exact concludes.stopsOutside noErrorNow (reaches.stopsOutside outside)

theorem Undergoes.program_eq
    (undergone : machine.Undergoes exchanges after) :
    after.program = machine.program := by
  induction undergone with
  | nil => rfl
  | cons responds _ inductionHypothesis => exact inductionHypothesis.trans responds.program_eq

/-- A machine that has stopped never does anything again. A failure stops it, so it is reported
once and no other follows. Without a failure or an interruption it stops only where its program
ends. A batch says whether the machine can go on. -/
theorem halting_is_permanent
    (program : Program)
    (console : World)
    (exchanges : List (Call × Answer))
    (machine : Machine World)
    (undergone : Undergoes { program, console } exchanges machine) :
    (machine.running = false →
      machine.next? = none ∧
      (∀ call answer after,
        machine.Responds call answer after ↔
          answer = call.idleAnswer machine ∧ after = machine) ∧
      ∀ later after, machine.Undergoes later after →
        after = machine ∧ ∀ exchange ∈ later, exchange.2 = exchange.1.idleAnswer machine) ∧
    (∀ before call trap later,
      exchanges = before ++ (call, .trapped trap) :: later →
        machine.running = false ∧
        ∀ exchange ∈ before ++ later, ∀ other, exchange.2 ≠ .trapped other) ∧
    (machine.running = false →
      (∀ exchange ∈ exchanges, exchange.2.report? = none) →
      machine.counter.toInt < 0 ∨ program.length ≤ machine.counter.toInt) ∧
    (∀ cycles after,
      (machine.Responds (.execute cycles) (.executed .running) after →
        after.running = true ∧ after.next?.isSome = true) ∧
      (machine.Responds (.execute cycles) (.executed .stopped) after →
        after.running = false)) := by
  refine ⟨?_, ?_, ?_, ?_⟩
  · intro stopped
    refine ⟨next?_eq_none_iff.mpr (.inl stopped), ?_, ?_⟩
    · intro call answer after
      exact responds_iff_of_stopped stopped
    · intro later after undergoneLater
      exact undergoneLater.of_stopped stopped
  · rintro before call trap later rfl
    obtain ⟨stopped, noneLater⟩ := undergone.after_trapped
    refine ⟨stopped, ?_⟩
    intro exchange isMember
    rcases List.mem_append.mp isMember with isBefore | isLater
    · exact undergone.before_trapped exchange isBefore
    · exact noneLater exchange isLater
  · intro stopped noError
    have initially : StopsOutside { program, console } := fun isFalse => by cases isFalse
    have outside := undergone.stopsOutside noError initially stopped
    rwa [undergone.program_eq] at outside
  · intro cycles after
    constructor
    · intro responds
      obtain ⟨last, -, concludes⟩ := responds.exists_concludes
      cases concludes with
      | running found =>
          rw [found]
          exact ⟨(next?_eq_some_iff.mp found).1, rfl⟩
      | stopped _ tellsEnd => cases tellsEnd
    · intro responds
      obtain ⟨last, -, concludes⟩ := responds.exists_concludes
      cases concludes with
      | stopped _ _ => rfl

/-- On a terminal where the user interrupts the read, the countdown fails once, and nothing comes
after that. A jump to a negative address stops a machine without a failure. -/
theorem countdown_fails_once :
    (∃ after,
      (countdown impatient).Undergoes
        [(.execute 3, .executed .running),
          (.run, .trapped ⟨4, .console { kind := .interrupted }⟩)] after ∧
      after.running = false ∧
      after.next? = none ∧
      after.Responds (.execute 9) (.executed .stopped) after) ∧
    ∃ after : Machine ByteConsole,
      Undergoes
        { program := .ofList [.jump .zero (.literal 0) (.literal (-5))]
          console := { input := [], sink := {} } }
        [(.execute 1, .executed .stopped)] after ∧
      (after.counter.toInt < 0 ∨ 1 ≤ after.counter.toInt) := by
  constructor
  · let middle : Machine (Command.TermConsole Script Sink) :=
      { countdown impatient with
        storage := { registers := ⟨#v[1, 0, 0, 0, 0, 0, 0, 0, 0, 0, 0, 0, 0, 0, 0, 0]⟩ }
        counter := 3
        console := { impatient with sink := { written := "2\n" } } }
    let last : Machine (Command.TermConsole Script Sink) :=
      { countdown impatient with
        counter := 5
        running := false
        console := { editor := { answers := [.line "3"] }, sink := { written := "2\n1\n" } } }
    have batch : execute 3 (countdown impatient) = .ok .running middle := by decide +kernel
    have failed :
        run 9 middle = some (.error ⟨4, .console { kind := .interrupted }⟩ last) := by
      decide +kernel
    have undergone :
        (countdown impatient).Undergoes
          [(.execute 3, .executed .running),
            (.run, .trapped ⟨4, .console { kind := .interrupted }⟩)] last :=
      .cons (.execute (by rw [batch]; rfl)) (.cons (.run failed rfl) .nil)
    obtain ⟨permanent, once, -, -⟩ := halting_is_permanent _ _ _ _ undergone
    obtain ⟨stopped, -⟩ := once [(.execute 3, .executed .running)] .run _ [] rfl
    obtain ⟨nothing, responds_iff, -⟩ := permanent stopped
    exact ⟨last, undergone, stopped, nothing, (responds_iff _ _ _).mpr ⟨rfl, rfl⟩⟩
  · let first : Machine ByteConsole :=
      { program := .ofList [.jump .zero (.literal 0) (.literal (-5))]
        console := { input := [], sink := {} } }
    let last : Machine ByteConsole := { first with counter := -5, running := false }
    have batch : execute 1 first = .ok .stopped last := by decide +kernel
    have undergone : first.Undergoes [(.execute 1, .executed .stopped)] last :=
      .cons (.execute (by rw [batch]; rfl)) .nil
    obtain ⟨-, -, justified, -⟩ := halting_is_permanent _ _ _ _ undergone
    exact ⟨last, undergone, justified rfl (by decide)⟩

end Machine
end RegisterMachine
