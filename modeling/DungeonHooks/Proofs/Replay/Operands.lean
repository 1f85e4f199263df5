import DungeonHooks.Host.Scripted
import DungeonHooks.Replay.Run

/-! Operand words that a replay cuts off or fills up with zeros: no instruction that decodes its operands can tell. -/

namespace DungeonHooks

variable {σ : Type}

/-- The contexts whose host is one of the given ones. -/
abbrev Context.On (among : σ → Prop) : Type :=
  { cx : Context σ // among cx.host }

section

variable [Host σ]

/--
An instruction that knows its operands only as the host decodes them.

What it does is a function of the decoded operands up to its count, each asked for by its index, and of nothing else in the words.
It may ask at any time, also after it has given commands, but only a host among the given ones.
-/
def Instruction.Decodes (among : σ → Prop) (instruction : Instruction σ) : Prop :=
  ∃ body : (Fin instruction.paramCount.toNat → Context.On among → Int32) →
      Routine → Context.On among → Routine × Context σ,
    ∀ args routine (cx : Context.On among), instruction.run args routine cx.val =
      body (fun index cx => cx.val.param args index) routine cx

/-- The built-in instructions know their operands only as the host decodes them. -/
theorem builtin_decodes (among : σ → Prop) {firstOpcode : Int32} {instruction : Instruction σ}
    (built : instruction ∈ (InstructionTable.builtin firstOpcode).table.records) :
    instruction.Decodes among := by
  simp only [InstructionTable.builtin, InstructionTable.new, List.mem_cons, List.not_mem_nil,
    or_false] at built
  rcases built with rfl | rfl
  · -- The dialogue box takes all six of its operands before it gives a command.
    refine ⟨fun operand routine cx =>
      let box : DialogueBox :=
        { x := operand (0 : Fin 6) cx, y := operand (1 : Fin 6) cx
          width := operand (2 : Fin 6) cx, height := operand (3 : Fin 6) cx
          screen := operand (4 : Fin 6) cx, frame := operand (5 : Fin 6) cx }
      (routine, (cx.val.tell (Host.setDialogueBox box)).info .instructions box.announced), ?_⟩
    intro args routine cx
    rfl
  · refine ⟨fun operand routine cx =>
      let buttons :=
        if operand (0 : Fin 1) cx == 0 then Host.pressedButtons cx.val.host
        else Host.heldButtons cx.val.host
      (routine, cx.val.tell (Host.saveVariable .eventLocal buttons.toInt32)), ?_⟩
    intro args routine cx
    rfl

end

/-- The instruction that the engine has at an index runs under an opcode. -/
structure Engine.RunsAt (engine : Engine σ) (opcode index : Int32) (instruction : Instruction σ) :
    Prop where
  routed : engine.settings.routeOpcode opcode = .custom index
  found : engine.instructions.table.get index = .ok instruction

namespace Replay

/-- The words that are handed over for those that were given: as many as the count, and zero for each that is missing. -/
structure HandedOver (count : Nat) (args words : List UInt16) : Prop where
  length : words.length = count
  word : ∀ index < count, words[index]? = some (args[index]?.getD 0)

/-- An instruction cannot tell whether it is given all words, or as many as it takes. -/
structure Unseen [Host σ] (among : σ → Prop) (instruction : Instruction σ) : Prop where
  dispatched : ∀ (table : InstructionTable σ) index, table.table.get index = .ok instruction →
    ∀ args routine cx, among cx.host →
      table.dispatch index (operands instruction.paramCount.toNat args) routine cx =
        table.dispatch index args routine cx
  /-- The hook answers alike as well. -/
  handled : ∀ (engine : Engine σ) opcode index, engine.RunsAt opcode index instruction →
    ∀ args routine cx, among cx.host →
      engine.handleOpcode opcode (operands instruction.paramCount.toNat args) routine cx =
        engine.handleOpcode opcode args routine cx

/-- A replayed opcode leaves routine, host and journal as its instruction does on the words that the scenario gives. -/
def ReplaysAsGiven (among : SimulatedHost → Prop) (instruction : Instruction SimulatedHost) :
    Prop :=
  ∀ (session : Session) (step : OpcodeStep) index,
    session.engine.RunsAt step.opcode index instruction → among session.context.host → ∀ report,
      let ran := session.engine.dispatch index step.args session.routine session.context
      (runOpcode step report session).2 = { session with routine := ran.2.1, context := ran.2.2 }

section

variable (count : Nat) (args : List UInt16)

/-- There are as many words as were asked for. -/
theorem length_operands : (operands count args).length = count := by
  rw [operands, List.length_append, List.length_take, List.length_replicate]
  omega

/-- Each of them is the word that was given in its place, or else zero. -/
theorem getElem?_operands {index : Nat} (inside : index < count) :
    (operands count args)[index]? = some (args[index]?.getD 0) := by
  unfold operands
  by_cases given : index < args.length
  · -- A given word is within what is taken over.
    have taken : index < (args.take count).length := by
      rw [List.length_take]
      omega
    rw [List.getElem?_append_left taken, List.getElem?_take_of_lt inside,
      List.getElem?_eq_getElem given]
    rfl
  · -- From the last given word on, there are zeros up to the count.
    have all : args.take count = args := List.take_of_length_le (by omega)
    rw [all, List.getElem?_append_right (by omega), List.getElem?_replicate_of_lt (by omega),
      List.getElem?_eq_none (by omega)]
    rfl

end

section

variable [Host σ] {among : σ → Prop} {instruction : Instruction σ}

/-- A host that decodes zero as zero decodes an operand as if no word had been cut off or filled up. -/
theorem param_operands {cx : Context σ} (zero : Host.scriptParam cx.host 0 = 0) {count index : Nat}
    (inside : index < count) (args : List UInt16) :
    cx.param (operands count args) index = cx.param args index := by
  unfold Context.param
  rw [getElem?_operands count args inside]
  cases args[index]? with
  -- A missing operand is not decoded at all, but would come to the same.
  | none => exact zero
  | some word => rfl

variable (zero : ∀ host, among host → Host.scriptParam host 0 = 0) (decodes : instruction.Decodes among)

include zero decodes

/-- An instruction runs alike on the words as they are given and on as many as it takes. -/
theorem run_operands (args : List UInt16) (routine : Routine) {cx : Context σ}
    (present : among cx.host) :
    instruction.run (operands instruction.paramCount.toNat args) routine cx =
      instruction.run args routine cx := by
  obtain ⟨body, runs⟩ := decodes
  -- The operands are decoded alike in every context that the instruction may ask in.
  have alike : (fun (index : Fin instruction.paramCount.toNat) (cx : Context.On among) =>
        cx.val.param (operands instruction.paramCount.toNat args) index) =
      fun index cx => cx.val.param args index := by
    funext index asked
    exact param_operands (zero asked.val.host asked.property) index.isLt args
  have padded := runs (operands instruction.paramCount.toNat args) routine ⟨cx, present⟩
  rw [alike] at padded
  exact padded.trans (runs args routine ⟨cx, present⟩).symm

/-- So the table that holds it answers alike, and leaves the same behind. -/
theorem dispatch_operands {table : InstructionTable σ} {index : Int32}
    (found : table.table.get index = .ok instruction) (args : List UInt16) (routine : Routine)
    {cx : Context σ} (present : among cx.host) :
    table.dispatch index (operands instruction.paramCount.toNat args) routine cx =
      table.dispatch index args routine cx := by
  -- The announcement in the journal leaves the host alone.
  have alike (message : String) :
      instruction.run (operands instruction.paramCount.toNat args) routine
          (cx.info .instructions message) =
        instruction.run args routine (cx.info .instructions message) :=
    run_operands zero decodes args routine present
  simp only [InstructionTable.dispatch, found]
  exact congrArg (fun ran => (Except.ok (), ran)) (alike _)

/-- The opcode hook answers alike, and leaves the same behind. -/
theorem handleOpcode_operands {engine : Engine σ} {opcode index : Int32}
    (runs : engine.RunsAt opcode index instruction) (args : List UInt16) (routine : Routine)
    {cx : Context σ} (present : among cx.host) :
    engine.handleOpcode opcode (operands instruction.paramCount.toNat args) routine cx =
      engine.handleOpcode opcode args routine cx := by
  have same := dispatch_operands zero decodes runs.found args routine present
  simp only [Engine.handleOpcode, runs.routed, Engine.dispatch]
  rw [same]

end

/-- A replayed opcode is handled on as many words as its instruction takes. -/
theorem runOpcode_counted {session : Session} {step : OpcodeStep} {index : Int32}
    {instruction : Instruction SimulatedHost}
    (runs : session.engine.RunsAt step.opcode index instruction) (report : StepReport) :
    let words := operands instruction.paramCount.toNat step.args
    let ran := session.engine.dispatch index words session.routine session.context
    (runOpcode step report session).2 = { session with routine := ran.2.1, context := ran.2.2 } := by
  -- The count is asked for first, which changes nothing, since there is an instruction.
  have counted : session.engine.opcodeParameterCount step.opcode session.context =
      (.ok (some instruction.paramCount), session.context) := by
    simp only [Engine.opcodeParameterCount, runs.routed, Engine.parameterCount,
      InstructionTable.parameterCount, runs.found, Except.map]
  simp only [runOpcode, answerOpcode, counted, answerCounted, Engine.handleOpcode, runs.routed]

/-- An instruction that decodes its operands is replayed as if it had been given all the words. -/
theorem replaysAsGiven {among : SimulatedHost → Prop} {instruction : Instruction SimulatedHost}
    (decodes : instruction.Decodes among) : ReplaysAsGiven among instruction := by
  intro session step index runs present report
  -- The simulated host takes every word for the number that it stands for.
  have zero (host : SimulatedHost) (_ : among host) : Host.scriptParam host 0 = 0 := rfl
  have same := dispatch_operands zero decodes runs.found step.args session.routine present
  have counted := runOpcode_counted runs report
  simp only [Engine.dispatch] at counted ⊢
  rw [same] at counted
  exact counted

/-- Words may be cut off or filled up with zeros on any host that decodes zero as zero, and no instruction can tell. -/
theorem operand_padding_unseen [Host σ] {among : σ → Prop}
    (zero : ∀ host, among host → Host.scriptParam host 0 = 0) :
    (∀ count args, HandedOver count args (operands count args)) ∧
    (∀ instruction : Instruction σ, instruction.Decodes among → Unseen among instruction) ∧
    (∀ (instruction : Instruction SimulatedHost) (near : SimulatedHost → Prop),
      instruction.Decodes near → ReplaysAsGiven near instruction) ∧
    ∀ firstOpcode,
      ∀ instruction ∈ (InstructionTable.builtin firstOpcode : InstructionTable σ).table.records,
        instruction.Decodes among := by
  refine ⟨?_, ?_, ?_, ?_⟩
  · intro count args
    exact ⟨length_operands count args, fun index inside => getElem?_operands count args inside⟩
  · intro instruction decodes
    constructor
    · intro table index found args routine cx present
      exact dispatch_operands zero decodes found args routine present
    · intro engine opcode index runs args routine cx present
      exact handleOpcode_operands zero decodes runs args routine present
  · intro instruction near decodes
    exact replaysAsGiven decodes
  · intro firstOpcode instruction built
    exact builtin_decodes among built

/-- Two words are filled up for the dialogue box, and a surplus one is left out for the buttons. -/
theorem missing_and_surplus_unseen :
    let engine : Engine ScriptedHost := .new {}
    let cx : Context ScriptedHost := { host := { params := [(7, -7)], held := 3 } }
    let first := engine.settings.firstCustomOpcode
    operands 6 [7, 2] = [7, 2, 0, 0, 0, 0] ∧
      engine.handleOpcode first [7, 2, 0, 0, 0, 0] {} cx = engine.handleOpcode first [7, 2] {} cx ∧
      operands 1 [7, 2] = [7] ∧
      engine.handleOpcode (first + 1) [7] {} cx = engine.handleOpcode (first + 1) [7, 2] {} cx := by
  intro engine cx first
  -- A host whose table says nothing of zero decodes it as the number zero.
  have zero (host : ScriptedHost) (silent : host.params.lookup 0 = none) :
      Host.scriptParam host 0 = 0 := by
    show (host.params.lookup 0).getD 0 = 0
    rw [silent]
    rfl
  obtain ⟨_, unseen, _, builtin⟩ := operand_padding_unseen zero
  have box := unseen .setDialogueBox (builtin 0 _ (.head _))
  have buttons := unseen .checkInput (builtin 0 _ (.tail _ (.head _)))
  have silent : cx.host.params.lookup 0 = none := by decide
  refine ⟨by decide, ?_, by decide, ?_⟩
  · exact box.handled engine first 0 ⟨by decide, rfl⟩ [7, 2] {} cx silent
  · exact buttons.handled engine (first + 1) 1 ⟨by decide, rfl⟩ [7, 2] {} cx silent

/-- A host that decodes zero as another number does tell a missing word from a zero. -/
example :
    let cx : Context ScriptedHost := { host := { params := [(0, 5)] } }
    (Instruction.setDialogueBox.run (operands 6 []) {} cx).2.log ≠
      (Instruction.setDialogueBox.run [] {} cx).2.log := by
  decide

end Replay

end DungeonHooks
