import DungeonHooks.Instruction.Table

/-! The instructions that come with the runtime. -/

namespace DungeonHooks

/-- The text that the journal keeps of a new look of the dialogue box. -/
def DialogueBox.announced (box : DialogueBox) : String :=
  s!"Setting dialogue box attributes: x={box.x.toInt}, y={box.y.toInt}, "
    ++ s!"width={box.width.toInt}, height={box.height.toInt}, screen={box.screen.toInt}, "
    ++ s!"frame={box.frame.toInt}"

variable {σ : Type} [Host σ]

/-- Replaces the look of the dialogue box: x, y, width, height, screen and frame. -/
def Instruction.setDialogueBox : Instruction σ where
  name := "SetDialogueBoxAttributes"
  paramCount := 6
  run args routine cx :=
    let box : DialogueBox :=
      { x := cx.param args 0, y := cx.param args 1, width := cx.param args 2,
        height := cx.param args 3, screen := cx.param args 4, frame := cx.param args 5 }
    let cx := cx.tell (Host.setDialogueBox box)
    (routine, cx.info .instructions box.announced)

/-- Saves the pressed buttons (mode 0) or the held ones (any other) as a bit field. -/
def Instruction.checkInput : Instruction σ where
  name := "CheckInputStatus"
  paramCount := 1
  run args routine cx :=
    let buttons :=
      if cx.param args 0 == 0 then Host.pressedButtons cx.host else Host.heldButtons cx.host
    (routine, cx.tell (Host.saveVariable .eventLocal buttons.toInt32))

/-- The table that comes with the runtime. -/
def InstructionTable.builtin (firstOpcode : Int32) : InstructionTable σ :=
  .new firstOpcode [.setDialogueBox, .checkInput]

end DungeonHooks
