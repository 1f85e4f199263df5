import DungeonHooks.Host.Basic

/-! The state of the running menu: its window slots, and the progress it keeps between frames. -/

namespace DungeonHooks

/-- The windows, and the remembered results, that one menu may hold. -/
def menuSlots : Nat := 20

/-- The window handles of the running menu. -/
structure WindowSlots where
  windows : Vector (Option WindowId) menuSlots := Vector.replicate menuSlots none
  deriving DecidableEq, Inhabited

namespace WindowSlots

/-- The window in a slot; there is none past the last slot. -/
def get (slots : WindowSlots) (slot : Nat) : Option WindowId :=
  slots.windows[slot]?.join

/-- Fills or empties one of the slots there are. -/
def put (slots : WindowSlots) (slot : Fin menuSlots) (window : Option WindowId) : WindowSlots :=
  { windows := slots.windows.set slot.val window slot.isLt }

/-- Fills or empties a slot by number; a slot that does not exist is a fault of the menu itself. -/
def set (slots : WindowSlots) (slot : Nat) (window : Option WindowId) : Except Halt WindowSlots :=
  if h : slot < menuSlots then .ok (slots.put ⟨slot, h⟩ window)
  else .error ⟨s!"window slot {slot} outside the {menuSlots} slots a menu owns"⟩

/-- Empties a slot and gives what it held. -/
def take (slots : WindowSlots) (slot : Nat) : Option WindowId × WindowSlots :=
  if h : slot < menuSlots then (slots.get slot, slots.put ⟨slot, h⟩ none) else (none, slots)

/-- Whether no slot holds a window. -/
def isEmpty (slots : WindowSlots) : Bool :=
  slots.windows.all Option.isNone

/-- No slot of fresh slots holds a window. -/
@[simp] theorem get_empty (slot : Nat) : ({} : WindowSlots).get slot = none := by
  -- A slot past the last one holds none either.
  simp only [get, Vector.getElem?_replicate]
  split <;> rfl

/-- Filling a slot changes that slot and no other. -/
theorem get_put (slots : WindowSlots) (slot : Fin menuSlots) (window : Option WindowId)
    (other : Nat) :
    (slots.put slot window).get other = if slot.val = other then window else slots.get other := by
  simp only [get, put, Vector.getElem?_set]
  split <;> rfl

/-- What a slot holds already may be put into it again. -/
theorem put_get {slots : WindowSlots} {slot : Fin menuSlots} {window : Option WindowId}
    (holds : slots.get slot = window) : slots.put slot window = slots := by
  have inside : slots.windows[slot.val]? = some slots.windows[slot.val] :=
    Vector.getElem?_eq_getElem slot.isLt
  rw [get, inside, Option.join_some] at holds
  rw [put, ← holds, Vector.set_getElem_self]

end WindowSlots

/-- What a menu carries from frame to frame. -/
structure MenuState where
  /-- The external id of the running menu. -/
  activeMenu : Option Int32 := none
  /-- The menu's own marker; it starts at 0. -/
  progress : Int32 := 0
  /-- The value for the script once the menu has finished. -/
  returnValue : Int32 := 0
  /-- The option the cursor was last seen on. -/
  previousOption : Int32 := 0
  portrait : Portrait := {}
  results : Vector Int32 menuSlots := Vector.replicate menuSlots 0
  windows : WindowSlots := {}
  deriving DecidableEq, Inhabited

/-- The remembered result of a slot. -/
def MenuState.result (state : MenuState) (slot : Fin menuSlots) : Int32 :=
  state.results[slot]

/-- Remembers a result in a slot. -/
def MenuState.setResult (state : MenuState) (slot : Fin menuSlots) (value : Int32) : MenuState :=
  { state with results := state.results.set slot.val value slot.isLt }

/-- Remembering a result changes that slot and no other. -/
theorem MenuState.result_setResult (state : MenuState) (slot other : Fin menuSlots)
    (value : Int32) :
    (state.setResult slot value).result other =
      if slot = other then value else state.result other := by
  simp only [result, setResult, Fin.getElem_fin, Vector.getElem_set, Fin.ext_iff]

end DungeonHooks
