import DungeonHooks.Proofs.Dispatch.Table
import DungeonHooks.Replay.Run

/-! How an opcode is answered: routing, operand counts and dispatch all go by one exact distance. -/

namespace DungeonHooks

variable {σ : Type}

/-- How far an opcode lies beyond the first custom one, as an exact number. -/
def Settings.distance (settings : Settings) (opcode : Int32) : Int :=
  opcode.toInt - settings.firstCustomOpcode.toInt

/-- The journal's entry for an instruction that is about to run. -/
def Instruction.announced (instruction : Instruction σ) (opcode : Int32) (place : Nat) : String :=
  s!"Running custom instruction '{instruction.name}' with {instruction.paramCount} arguments "
    ++ s!"(opcode {opcode.toInt}, index {place})"

namespace Engine

/--
The instructions of the engine are the given ones, the first at the first custom opcode.

They are fewer than there are indices, so that the last index of all has no instruction.
-/
structure Instructed (engine : Engine σ) (rows : List (Instruction σ)) : Prop where
  made : engine.instructions = .new engine.settings.firstCustomOpcode rows
  short : (rows.length : Int) ≤ Int32.maxValue.toInt

/-- What the engine answers about an opcode, said of its exact distance from the first custom one. -/
structure AnswersByDistance (engine : Engine σ) (rows : List (Instruction σ)) (opcode : Int32) :
    Prop where
  /-- Before the first custom opcode, all is left to the host in silence. -/
  native : engine.settings.distance opcode < 0 → ∀ args routine cx,
    engine.opcodeParameterCount opcode cx = (.ok none, cx) ∧
      engine.handleOpcode opcode args routine cx = (.ok .native, routine, cx)
  /-- The instruction at the distance is announced, and runs once on the words as they are given. -/
  custom : ∀ (place : Nat) (inside : place < rows.length),
    engine.settings.distance opcode = place →
    ∃ index : Int32, index.toInt = place ∧ ∀ args routine cx,
      let ran := rows[place].run args routine
        (cx.info .instructions (rows[place].announced opcode place))
      engine.opcodeParameterCount opcode cx = (.ok (some rows[place].paramCount), cx) ∧
        engine.handleOpcode opcode args routine cx = (.ok (.custom index), ran.1, ran.2)
  /-- From the number of instructions on, the same index is refused on both ways, and journalled once. -/
  unknown : (rows.length : Int) ≤ engine.settings.distance opcode →
    ∃ error : OutOfRange, error.table = .instructions ∧ error.len = rows.length ∧
      error.index.toInt = min (engine.settings.distance opcode) Int32.maxValue.toInt ∧
      ∀ args routine cx,
        engine.opcodeParameterCount opcode cx = (.error error, cx.error .instructions
          s!"Parameter count requested for custom opcode {error.index.toInt} out of bounds") ∧
        engine.handleOpcode opcode args routine cx = (.error error, routine,
          cx.error .instructions s!"Custom opcode {error.index.toInt} out of bounds")

section

variable {engine : Engine σ} {rows : List (Instruction σ)} {opcode : Int32}

/-- An opcode before the first custom one is routed to the host. -/
theorem routeOpcode_of_neg {settings : Settings} (before : settings.distance opcode < 0) :
    settings.routeOpcode opcode = .native := by
  unfold Settings.distance at before
  -- Words are ordered as the numbers that they stand for.
  have below : ¬ settings.firstCustomOpcode ≤ opcode := by
    rw [Int32.le_iff_toInt_le]
    omega
  rw [Settings.routeOpcode, if_neg below]

/-- Any other opcode is routed to an index, which is the distance as far as it fits a word. -/
theorem routeOpcode_of_nonneg {settings : Settings} (custom : 0 ≤ settings.distance opcode) :
    ∃ index : Int32, settings.routeOpcode opcode = .custom index ∧
      index.toInt = min (settings.distance opcode) Int32.maxValue.toInt := by
  unfold Settings.distance at custom ⊢
  have reached : settings.firstCustomOpcode ≤ opcode := by
    rw [Int32.le_iff_toInt_le]
    omega
  refine ⟨_, if_pos reached, ?_⟩
  -- A distance that is not negative can only be too large for a word.
  rw [saturatingSub, toInt_ofIntClamp_eq, Int32.toInt_minValue, Int32.toInt_maxValue]
  omega

/-- The opcode that the journal names is the one that was asked for. -/
theorem saturatingAdd_distance {settings : Settings} {index : Int32}
    (exact : index.toInt = settings.distance opcode) :
    saturatingAdd settings.firstCustomOpcode index = opcode := by
  have low := opcode.le_toInt
  have high := opcode.toInt_lt
  unfold Settings.distance at exact
  -- Base and distance add up to a word, so that nothing is clamped.
  rw [← Int32.toInt_inj, saturatingAdd, toInt_ofIntClamp_eq, Int32.toInt_minValue,
    Int32.toInt_maxValue]
  omega

/-- Every question about an opcode is answered by its exact distance. -/
theorem Instructed.answersByDistance (instructed : engine.Instructed rows) (opcode : Int32) :
    engine.AnswersByDistance rows opcode where
  native before args routine cx := by
    -- Neither question gets as far as the table.
    simp only [opcodeParameterCount, handleOpcode, routeOpcode_of_neg before, and_self]
  custom place inside exact := by
    have custom : 0 ≤ engine.settings.distance opcode := by omega
    obtain ⟨index, routed, distance⟩ := routeOpcode_of_nonneg custom
    have short := instructed.short
    have counts : index.toInt = place := by omega
    refine ⟨index, counts, fun args routine cx => ?_⟩
    have found : engine.instructions.table.get index = .ok rows[place] := by
      rw [instructed.made]
      exact HandlerTable.get_of_lt counts inside
    have named : saturatingAdd engine.instructions.table.firstId index = opcode := by
      rw [instructed.made]
      exact saturatingAdd_distance (counts.trans exact.symm)
    simp only [opcodeParameterCount, parameterCount, InstructionTable.parameterCount, handleOpcode,
      dispatch, InstructionTable.dispatch, routed, found, named, counts, Except.map]
    exact ⟨trivial, rfl⟩
  unknown beyond := by
    have custom : 0 ≤ engine.settings.distance opcode := by omega
    obtain ⟨index, routed, distance⟩ := routeOpcode_of_nonneg custom
    have short := instructed.short
    have missing : engine.instructions.table.get index =
        .error { table := .instructions, index, len := rows.length } := by
      rw [instructed.made]
      -- The largest index is still beyond the table, wherever the distance was cut off.
      exact HandlerTable.get_of_length_le (show (rows.length : Int) ≤ index.toInt by omega)
    refine ⟨{ table := .instructions, index, len := rows.length }, rfl, rfl, distance, ?_⟩
    intro args routine cx
    simp only [opcodeParameterCount, parameterCount, InstructionTable.parameterCount, handleOpcode,
      dispatch, InstructionTable.dispatch, routed, missing, Except.map, and_self]

/-- An opcode that has an operand count has an instruction, at the place that the distance tells. -/
theorem AnswersByDistance.place_of_counted (answers : engine.AnswersByDistance rows opcode)
    {cx : Context σ} {count : UInt8}
    (counted : (engine.opcodeParameterCount opcode cx).1 = .ok (some count)) :
    ∃ place, ∃ _ : place < rows.length, engine.settings.distance opcode = place := by
  by_cases before : engine.settings.distance opcode < 0
  · -- The host knows the counts of its own opcodes itself.
    rw [(answers.native before [] {} cx).1] at counted
    simp at counted
  · by_cases inside : engine.settings.distance opcode < rows.length
    · exact ⟨(engine.settings.distance opcode).toNat, by omega, by omega⟩
    · -- Beyond the table, the count is refused like the opcode itself.
      obtain ⟨error, _, _, _, refused⟩ := answers.unknown (by omega)
      rw [(refused [] {} cx).1] at counted
      simp at counted

end

end Engine

namespace Replay

/-- The opcode is one of the custom instructions: it is run, and the step is reported as handled. -/
structure OpcodeStep.Runs (step : OpcodeStep) (session : Session) (count : UInt8) : Prop where
  /-- The answer is the place of the instruction, whatever words it is given and wherever it runs. -/
  answer : ∀ args routine cx, ∃ index : Int32,
    index.toInt = session.engine.settings.distance step.opcode ∧
      (session.engine.handleOpcode step.opcode args routine cx).1 = .ok (.custom index)
  report : ∀ report, ∃ index : Int32,
    index.toInt = session.engine.settings.distance step.opcode ∧
      (runOpcode step report session).1 =
        { report with
          handled := true, value := some index, detail := some s!"{count} parameters" }

/-- Once a step has asked for an operand count and got one, the opcode can only be run. -/
theorem runs_of_counted {session : Session} {rows : List (Instruction SimulatedHost)}
    (instructed : session.engine.Instructed rows) {step : OpcodeStep} {count : UInt8}
    (counted : (session.engine.opcodeParameterCount step.opcode session.context).1 =
      .ok (some count)) : step.Runs session count := by
  have answers := instructed.answersByDistance step.opcode
  obtain ⟨place, inside, exact⟩ := answers.place_of_counted counted
  obtain ⟨index, counts, answered⟩ := answers.custom place inside exact
  have handled (args : List UInt16) (routine : Routine) (cx : Context SimulatedHost) :
      (session.engine.handleOpcode step.opcode args routine cx).1 = .ok (.custom index) := by
    rw [(answered args routine cx).2]
  refine ⟨fun args routine cx => ⟨index, counts.trans exact.symm, handled args routine cx⟩, ?_⟩
  refine fun report => ⟨index, counts.trans exact.symm, ?_⟩
  -- Neither the arm of the host's own opcodes nor that of errors is reached.
  simp only [runOpcode, answerOpcode, counted, answerCounted, handled, Except.map,
    OpcodeAnswer.ofRoute, OpcodeStep.reported]

/--
All ways to ask about an opcode agree, however far it lies from the first custom one.

So a replay that got an operand count never finds the opcode to be native or unknown.
-/
theorem opcode_paths_agree {engine : Engine σ} {rows : List (Instruction σ)}
    (instructed : engine.Instructed rows) {session : Session}
    {replayed : List (Instruction SimulatedHost)} (other : session.engine.Instructed replayed) :
    (∀ opcode, engine.AnswersByDistance rows opcode) ∧
      ∀ (step : OpcodeStep) (count : UInt8),
        (session.engine.opcodeParameterCount step.opcode session.context).1 = .ok (some count) →
          step.Runs session count :=
  ⟨instructed.answersByDistance, fun _ _ counted => runs_of_counted other counted⟩

/-- With the smallest word as the first custom opcode, the largest one is as far off as can be. -/
theorem outermost_opcodes_agree :
    let engine : Engine SimulatedHost := .new { firstCustomOpcode := Int32.minValue }
    let session : Session := .start engine { host := {} } {}
    let error : OutOfRange := { table := .instructions, index := Int32.maxValue, len := 2 }
    engine.Instructed [.setDialogueBox, .checkInput] ∧
      engine.settings.distance Int32.maxValue = UInt32.size - 1 ∧
      (engine.opcodeParameterCount Int32.maxValue session.context).1 = .error error ∧
      (engine.handleOpcode Int32.maxValue [] {} session.context).1 = .error error ∧
      OpcodeStep.Runs { opcode := Int32.minValue + 1 } session 1 := by
  intro engine session error
  have instructed : engine.Instructed [.setDialogueBox, .checkInput] := ⟨rfl, by decide⟩
  have inSession : session.engine.Instructed [.setDialogueBox, .checkInput] := instructed
  obtain ⟨answers, runs⟩ := opcode_paths_agree instructed inSession
  have distance : engine.settings.distance Int32.maxValue = UInt32.size - 1 := by decide
  -- The distance does not fit a word, and the index that is reported is the largest one.
  obtain ⟨found, table, len, index, refused⟩ := (answers Int32.maxValue).unknown (by
    rw [distance]
    decide)
  obtain rfl : found = error := by
    obtain ⟨_, found, _⟩ := found
    obtain rfl : found = Int32.maxValue := by
      rw [← Int32.toInt_inj]
      exact index.trans (by rw [distance]; decide)
    subst table len
    rfl
  refine ⟨instructed, distance, ?_, ?_, runs _ 1 (by decide)⟩
  · rw [(refused [] {} session.context).1]
  · rw [(refused [] {} session.context).2]

end Replay

end DungeonHooks
