import DungeonHooks.Dispatch.Table
import DungeonHooks.Host.Basic

/-! Custom script instructions: how many operand words each reads, and what it does with them. -/

namespace DungeonHooks

/-- The script routine an opcode was issued by. -/
structure Routine where
  id : UInt32 := 0
  deriving DecidableEq, Inhabited

/-- An instruction; the host reads exactly `paramCount` operand words before it runs. -/
structure Instruction (σ : Type) where
  name : String
  paramCount : UInt8
  run : List UInt16 → Routine → Context σ → Routine × Context σ

/-- Decodes an operand through the host; a missing operand reads as 0. -/
def Context.param {σ : Type} [Host σ] (cx : Context σ) (args : List UInt16) (index : Nat) :
    Int32 :=
  match args[index]? with
  | some raw => Host.scriptParam cx.host raw
  | none => 0

/-- The display text of an instruction, its name quoted by the given function. -/
def Instruction.describe {σ : Type} (quote : String → String) (instruction : Instruction σ) :
    String :=
  s!"CustomInstruction \x7b name: {quote instruction.name}, "
    ++ s!"param_count: {instruction.paramCount}, .. \x7d"

/-- The instructions of a runtime, by consecutive opcodes. -/
structure InstructionTable (σ : Type) where
  table : HandlerTable (Instruction σ)

namespace InstructionTable

variable {σ : Type}

/-- The table of some instructions, the first at an opcode. -/
def new (firstOpcode : Int32) (instructions : List (Instruction σ)) : InstructionTable σ :=
  { table := { kind := .instructions, firstId := firstOpcode, records := instructions } }

/-- The operand words an index takes. An index without a record is journalled. -/
def parameterCount (table : InstructionTable σ) (index : Int32) (cx : Context σ) :
    Except OutOfRange UInt8 × Context σ :=
  match table.table.get index with
  | .ok instruction => (.ok instruction.paramCount, cx)
  | .error error =>
    (.error error, cx.error .instructions
      s!"Parameter count requested for custom opcode {index.toInt} out of bounds")

/-- Runs the instruction at an index. An index without a record is journalled and runs nothing. -/
def dispatch (table : InstructionTable σ) (index : Int32) (args : List UInt16) (routine : Routine)
    (cx : Context σ) : Except OutOfRange Unit × Routine × Context σ :=
  match table.table.get index with
  | .error error =>
    (.error error, routine, cx.error .instructions
      s!"Custom opcode {index.toInt} out of bounds")
  | .ok instruction =>
    -- The opcode is named in the journal, so the sum has to fit a word.
    let opcode := saturatingAdd table.table.firstId index
    let cx := cx.info .instructions <|
      s!"Running custom instruction '{instruction.name}' with {instruction.paramCount} arguments "
        ++ s!"(opcode {opcode.toInt}, index {index.toInt})"
    let (routine, cx) := instruction.run args routine cx
    (.ok (), routine, cx)

/-- The display text of the table. -/
def describe (table : InstructionTable σ) : String :=
  s!"InstructionTable \x7b table: {table.table.describe} \x7d"

end InstructionTable

end DungeonHooks
