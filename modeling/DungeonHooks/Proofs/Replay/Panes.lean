import DungeonHooks.Proofs.Menu.Slots
import DungeonHooks.Proofs.Replay.Steps

/-! The open windows of the simulated host: what opens and closes them, and what leaves them alone. -/

namespace DungeonHooks.Replay

/-- A look-up in changed entries finds what the entry was changed to. -/
theorem lookup_map_snd {α β γ : Type} [BEq α] (change : α → β → γ) (key : α) [LawfulBEq α] :
    ∀ entries : List (α × β),
      (entries.map fun (key, value) => (key, change key value)).lookup key =
        (entries.lookup key).map (change key)
  | [] => rfl
  | (other, value) :: rest => by
    simp only [List.map_cons, List.lookup_cons]
    -- The change sees the key that is looked up, since the two are equal.
    cases same : key == other with
    | true => simp [eq_of_beq same]
    | false => exact lookup_map_snd change key rest

namespace SimulatedHost

/-- The open windows with their kinds, by ascending handle. -/
def panes (host : SimulatedHost) : List Pane :=
  host.windows.map fun (id, window) => (id, window.kind)

/-- As many panes as windows are open. -/
theorem openWindows_eq (host : SimulatedHost) : host.openWindows = host.panes.length := by
  simp [openWindows, panes]

/-- The same windows are open, and the next handle is the same. -/
def SameWindows (host other : SimulatedHost) : Prop :=
  host.panes = other.panes ∧ host.nextWindow = other.nextWindow

/-- The panes are looked up as the windows are. -/
theorem panes_lookup (host : SimulatedHost) (id : WindowId) :
    host.panes.lookup id = (host.anyWindow? id).map (·.kind) :=
  lookup_map_snd (fun _ (window : Window) => window.kind) id host.windows

/-- A window is open exactly if its handle is that of a pane. -/
theorem anyWindow?_isSome (host : SimulatedHost) (id : WindowId) :
    (host.anyWindow? id).isSome = (host.panes.lookup id).isSome := by
  rw [panes_lookup, Option.isSome_map]

/-- A window is found under a handle and a kind exactly if it is one of the panes. -/
theorem window?_isSome_iff {host : SimulatedHost} {kind : WindowKind} {id : WindowId} :
    (host.window? kind id).isSome = true ↔ host.panes.lookup id = some kind := by
  rw [panes_lookup, window?]
  -- A window of another kind is not found under this one.
  cases host.anyWindow? id with
  | none => simp
  | some window => by_cases same : window.kind = kind <;> simp [Option.filter, same]

/-- Opening a window adds it behind the others. -/
theorem panes_openWindow (kind : WindowKind) (host : SimulatedHost) :
    (host.openWindow kind).2.panes = host.panes ++ [((host.openWindow kind).1, kind)] := by
  -- The new window has the kind that was asked for.
  simp [openWindow, panes, Window.opened]

/-- Closing a window that is open removes what has its handle. -/
theorem panes_closeWindow {kind : WindowKind} {id : WindowId} {host : SimulatedHost}
    (here : host.panes.lookup id = some kind) :
    (closeWindow kind id host).host.panes = host.panes.filter (·.1 != id) := by
  -- The window is found, so it is removed by its handle.
  rw [closeWindow, if_pos (window?_isSome_iff.mpr here)]
  simp only [Reply.still, panes, List.filter_map]
  rfl

/-- Closing a window gives no handle back. -/
theorem nextWindow_closeWindow (kind : WindowKind) (id : WindowId) (host : SimulatedHost) :
    (closeWindow kind id host).host.nextWindow = host.nextWindow := by
  -- A window that is not found is only warned about.
  unfold closeWindow
  split <;> rfl

/-- Input changes what a window shows, never its kind. -/
theorem deliver_kind (input : PlayerInput) (window : Window) :
    (deliver input window).2.kind = window.kind := by
  unfold deliver
  split
  · rfl
  · -- One case for each kind, and for the input that waits for it.
    repeat' split
    all_goals rfl

/-- A frame of input leaves the handles and the kinds of the windows. -/
theorem deliverAll_panes (input : PlayerInput) (windows : List (WindowId × Window)) :
    ((deliverAll input windows).2.map fun (id, window) => (id, window.kind)) =
      windows.map fun (id, window) => (id, window.kind) := by
  induction windows generalizing input with
  | nil => rfl
  | cons entry rest ih =>
    simp only [deliverAll, List.map_cons, deliver_kind]
    -- The rest takes what input the first window left.
    rw [ih]

/-- Windows take no text. -/
theorem deliver_keyboard (input : PlayerInput) (window : Window) :
    (deliver input window).1.keyboard = input.keyboard := by
  unfold deliver
  -- One case for each kind, and for the input that waits for it.
  repeat' split
  all_goals rfl

/-- However many windows there are, they take no text. -/
theorem deliverAll_keyboard (input : PlayerInput) (windows : List (WindowId × Window)) :
    (deliverAll input windows).1.keyboard = input.keyboard := by
  -- Each window hands the texts on to the next.
  induction windows generalizing input with
  | nil => rfl
  | cons entry rest ih => exact (ih _).trans (deliver_keyboard input entry.2)

/-- A frame of input opens and closes no window. -/
theorem advanceFrame_same (host : SimulatedHost) : SameWindows host host.advanceFrame := by
  have delivered := (deliverAll_panes host.input host.windows).symm
  unfold advanceFrame
  cases host.keyboard <;> exact ⟨delivered, rfl⟩

/-- A request that opens and closes no window leaves the windows. -/
theorem serve_same {request : Request} (windowless : request.windowless = true)
    (cx : Context SimulatedHost) : SameWindows cx.host (request.serve cx).2.host := by
  -- The requests that change something else of the host are looked at one by one.
  cases request
  case resumeAdvancedMenu id =>
    -- The window that is resumed only turns active.
    refine ⟨?_, rfl⟩
    simp only [Request.serve, Context.call, Host.resumeAdvancedMenu, Reply.still, resumeWindow,
      panes, List.map_map]
    refine List.map_congr_left fun entry _ => ?_
    simp only [Function.comp]
    split <;> rfl
  case randRange low high =>
    simp only [Request.serve, Context.call, Host.randRange, Reply.still, draw]
    cases cx.host.random <;> exact ⟨rfl, rfl⟩
  all_goals first
    | exact ⟨rfl, rfl⟩
    | cases windowless

/-- What requests that open and close no window keep to. -/
theorem kept_sameWindows : Kept (fun request => request.windowless = true) SameWindows where
  refl _ := ⟨rfl, rfl⟩
  trans first second := ⟨first.1.trans second.1, first.2.trans second.2⟩
  serve _ windowless cx := serve_same windowless cx

end SimulatedHost

end DungeonHooks.Replay
