import DungeonHooks.Engine
import DungeonHooks.Proofs.Dispatch.Table
import DungeonHooks.Proofs.Effect.Spoken

/-! An engine whose handlers only talk to their host answers every hook by talking. -/

namespace DungeonHooks

variable {σ : Type} [Host σ] {allowed : Request → Prop}

/-- The instructions only talk to their host. -/
def InstructionTable.Talks (allowed : Request → Prop) (table : InstructionTable σ) : Prop :=
  ∀ instruction ∈ table.table.records, ∀ args routine,
    Spoken allowed (instruction.run args routine)

/-- The resolvers and the instructions only talk to their host. -/
structure Engine.Talks (allowed : Request → Prop) (engine : Engine σ) : Prop where
  effects : engine.effects.Talks allowed
  instructions : engine.instructions.Talks allowed

section

variable (journals : ∀ severity message, allowed (.record .instructions severity message))

include journals

/-- Looking up an operand count is talking; only an unknown index is told to the journal. -/
theorem InstructionTable.parameterCount_spoken (table : InstructionTable σ) (index : Int32) :
    Spoken allowed (table.parameterCount index) := by
  -- The table is no part of the host, so the look-up itself is silent.
  unfold parameterCount
  cases table.table.get index with
  | ok instruction => exact .still (Except.ok instruction.paramCount)
  | error error =>
    exact (Spoken.record .instructions .error _ (journals _ _)).map fun _ =>
      Except.error error

/-- Running an instruction is talking, as far as the instruction itself is. -/
theorem InstructionTable.dispatch_spoken {table : InstructionTable σ} (talks : table.Talks allowed)
    (index : Int32) (args : List UInt16) (routine : Routine) :
    Spoken allowed fun cx =>
      let (ran, routine, cx) := table.dispatch index args routine cx
      ((ran, routine), cx) := by
  unfold dispatch
  cases found : table.table.get index with
  | error error =>
    exact (Spoken.record .instructions .error _ (journals _ _)).map fun _ =>
      (Except.error error, routine)
  | ok instruction =>
    -- An instruction of the table is announced before it runs.
    have runs := talks instruction (HandlerTable.mem_of_get found) args routine
    exact (Spoken.record .instructions .info _ (journals _ _)).andThen fun _ =>
      runs.map fun routine => (Except.ok (), routine)

namespace Engine

variable {engine : Engine σ}

/-- Asking for the operands of an opcode is talking. -/
theorem opcodeParameterCount_spoken (opcode : Int32) :
    Spoken allowed (engine.opcodeParameterCount opcode) := by
  -- An opcode of the host is not looked up at all.
  unfold opcodeParameterCount
  cases engine.settings.routeOpcode opcode with
  | native => exact .still (Except.ok none)
  | custom index =>
    exact (engine.instructions.parameterCount_spoken journals index).map fun count =>
      count.map some

/-- Handling an opcode is talking. -/
theorem handleOpcode_spoken (talks : engine.Talks allowed) (opcode : Int32) (args : List UInt16)
    (routine : Routine) :
    Spoken allowed fun cx =>
      let (route, routine, cx) := engine.handleOpcode opcode args routine cx
      ((route, routine), cx) := by
  -- An opcode of the host is left to it in silence.
  unfold handleOpcode
  cases route : engine.settings.routeOpcode opcode with
  | native => exact .still (Except.ok OpcodeRoute.native, routine)
  | custom index =>
    exact (InstructionTable.dispatch_spoken journals talks.instructions index args routine).map
      fun (ran, routine) => (ran.map fun _ => OpcodeRoute.custom index, routine)

end Engine

end

namespace Engine

variable {engine : Engine σ}

/-- Resolving an item use is talking. -/
theorem itemEffect_spoken
    (journals : ∀ severity message, allowed (.record .effects severity message))
    (talks : engine.Talks allowed) (thrown : Bool) (use : ItemUse) :
    Spoken allowed fun cx =>
      let (handled, use, engine, cx) := engine.itemEffect thrown cx use
      ((handled, use, engine), cx) :=
  -- The engine takes the chain back as the event left it.
  (talks.effects.itemEffect_spoken journals thrown use).map fun (handled, use, chain) =>
    (handled, use, { engine with effects := chain })

/-- Resolving a move use is talking. -/
theorem moveEffect_spoken
    (journals : ∀ severity message, allowed (.record .effects severity message))
    (talks : engine.Talks allowed) (use : MoveUse) :
    Spoken allowed fun cx =>
      let (handled, use, engine, cx) := engine.moveEffect cx use
      ((handled, use, engine), cx) :=
  -- As for items, only the chain of the engine changes.
  (talks.effects.moveEffect_spoken journals use).map fun (handled, use, chain) =>
    (handled, use, { engine with effects := chain })

/-- Handling a special process is talking. -/
theorem handleSpecialProcess_spoken
    (journals : ∀ severity message, allowed (.record .specialProcess severity message))
    (talks : engine.Talks allowed) (call : ProcessCall) :
    Spoken allowed fun cx =>
      let (value, engine, cx) := engine.handleSpecialProcess cx call
      ((value, engine), cx) := by
  -- A process of the host is left to it in silence.
  unfold handleSpecialProcess
  cases engine.settings.routeProcess call.id with
  | native => exact .still (none, engine)
  | custom =>
    exact (talks.effects.specialProcess_spoken journals call).map fun (_, outcome, chain) =>
      (some outcome.value, { engine with effects := chain })

/-- An engine that talks still does after an item use. -/
theorem Talks.itemEffect (talks : engine.Talks allowed) (thrown : Bool) (cx : Context σ)
    (use : ItemUse) : (engine.itemEffect thrown cx use).2.2.1.Talks allowed where
  effects := talks.effects.itemEffect thrown cx use
  instructions := talks.instructions

/-- An engine that talks still does after a move use. -/
theorem Talks.moveEffect (talks : engine.Talks allowed) (cx : Context σ) (use : MoveUse) :
    (engine.moveEffect cx use).2.2.1.Talks allowed where
  effects := talks.effects.moveEffect cx use
  instructions := talks.instructions

/-- An engine that talks still does after a special process. -/
theorem Talks.handleSpecialProcess (talks : engine.Talks allowed) (cx : Context σ)
    (call : ProcessCall) : (engine.handleSpecialProcess cx call).2.1.Talks allowed := by
  -- The chain is changed only by a process that is put to it.
  unfold Engine.handleSpecialProcess
  cases engine.settings.routeProcess call.id with
  | native => exact talks
  | custom =>
    exact ⟨talks.effects.specialProcess cx call, talks.instructions⟩

omit [Host σ] in
/-- A special process leaves the menus alone. -/
theorem handleSpecialProcess_menus (engine : Engine σ) (cx : Context σ) (call : ProcessCall) :
    (engine.handleSpecialProcess cx call).2.1.menus = engine.menus := by
  unfold Engine.handleSpecialProcess
  split <;> rfl

end Engine

end DungeonHooks
