import DungeonHooks.Replay.SimulatedHost

/-! The slots in which menus keep their windows, and the windows that are in them. -/

namespace DungeonHooks.Replay

open RecruitMenu

/-- The handle and the kind of an open window. -/
abbrev Pane := WindowId × WindowKind

/-- The slots that menus use, each for windows of one kind. -/
inductive SlotFor : Fin menuSlots → WindowKind → Prop where
  | list : SlotFor listSlot .advanced
  | portrait : SlotFor portraitSlot .portrait
  | gender : SlotFor genderSlot .simple

/-- The windows in those slots. -/
def slotPanes (slots : WindowSlots) : List Pane :=
  ((slots.get listSlot).map (·, WindowKind.advanced)).toList ++
    (((slots.get portraitSlot).map (·, WindowKind.portrait)).toList ++
      ((slots.get genderSlot).map (·, WindowKind.simple)).toList)

/-- The last of three lists may come first. -/
theorem last_first {α : Type} (first second last : List α) :
    (first ++ (second ++ last)).Perm (last ++ (first ++ second)) := by
  rw [← List.append_assoc]
  exact List.perm_append_comm

/-- What is put into a slot comes to the windows in the others. -/
theorem slotPanes_put {slot : Fin menuSlots} {kind : WindowKind} (proper : SlotFor slot kind)
    (slots : WindowSlots) (window : Option WindowId) :
    (slotPanes (slots.put slot window)).Perm
      ((window.map (·, kind)).toList ++ slotPanes (slots.put slot none)) := by
  -- Only the order of the slots is not that of the panes.
  cases proper
  case list => simp [slotPanes, WindowSlots.get_put, listSlot, portraitSlot, genderSlot]
  case portrait =>
    simp only [slotPanes, WindowSlots.get_put, listSlot, portraitSlot, genderSlot]
    simpa using List.perm_append_comm_assoc ..
  case gender =>
    simp only [slotPanes, WindowSlots.get_put, listSlot, portraitSlot, genderSlot]
    simpa using last_first ..

/-- What a slot holds already may be put into it again. -/
theorem slotPanes_put_self {slots : WindowSlots} {slot : Fin menuSlots}
    {window : Option WindowId} (holds : slots.get slot = window) :
    slotPanes (slots.put slot window) = slotPanes slots := by
  -- Every slot reads the same as before.
  have same (other : Nat) : (slots.put slot window).get other = slots.get other := by
    rw [WindowSlots.get_put]
    split
    case isTrue this => rw [← this, holds]
    case isFalse => rfl
  simp only [slotPanes, same]

/-- A window put into an empty slot comes to the others. -/
theorem slotPanes_fill {slot : Fin menuSlots} {kind : WindowKind} (proper : SlotFor slot kind)
    {slots : WindowSlots} (empty : slots.get slot = none) (window : WindowId) :
    (slotPanes (slots.put slot (some window))).Perm ((window, kind) :: slotPanes slots) := by
  have filled := slotPanes_put proper slots (some window)
  rwa [slotPanes_put_self empty] at filled

/-- A window taken out of its slot leaves the others. -/
theorem slotPanes_clear {slot : Fin menuSlots} {kind : WindowKind} (proper : SlotFor slot kind)
    {slots : WindowSlots} {window : WindowId} (holds : slots.get slot = some window) :
    (slotPanes slots).Perm ((window, kind) :: slotPanes (slots.put slot none)) := by
  have filled := slotPanes_put proper slots (some window)
  rwa [slotPanes_put_self holds] at filled

/-- Fresh slots hold no window. -/
theorem slotPanes_empty : slotPanes {} = [] := by
  simp [slotPanes]

/-- The windows of a kind among them are those in the slot for that kind. -/
theorem mem_slotPanes_iff {slot : Fin menuSlots} {kind : WindowKind} (proper : SlotFor slot kind)
    {slots : WindowSlots} {id : WindowId} :
    (id, kind) ∈ slotPanes slots ↔ slots.get slot = some id := by
  -- Windows of different kinds are told apart by their kinds.
  cases proper <;> simp [slotPanes]

/-- A window that a slot holds is one of them. -/
theorem mem_slotPanes {slot : Fin menuSlots} {kind : WindowKind} (proper : SlotFor slot kind)
    {slots : WindowSlots} {id : WindowId} (holds : slots.get slot = some id) :
    (id, kind) ∈ slotPanes slots :=
  (mem_slotPanes_iff proper).mpr holds

end DungeonHooks.Replay
