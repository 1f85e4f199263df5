import DungeonHooks.Proofs.Menu.Talks
import DungeonHooks.Proofs.Replay.Panes

/-! Options that leave room for the second form of their species: queued by the player, they are all that scrolling lists ever show. -/

namespace DungeonHooks.Replay

/-- The last option whose species has a second form with a number. -/
def lastOption : Int32 :=
  Int32.maxValue - 601

/-- No choice visits an option behind the last one, or is closed with one. -/
def PlayerInput.Modest (input : PlayerInput) : Prop :=
  ∀ choice ∈ input.advanced, (∀ option ∈ choice.hover, option ≤ lastOption) ∧
    choice.result ≤ lastOption

/-- A scrolling list shows no option behind the last one. -/
def Window.Modest (window : Window) : Prop :=
  window.kind = .advanced → window.currentOption ≤ lastOption ∧ window.result ≤ lastOption

/-- No option behind the last one is queued or shown. -/
structure Tame (host : SimulatedHost) : Prop where
  input : host.input.Modest
  windows : ∀ entry ∈ host.windows, entry.2.Modest

/-- A window that is opened shows the first option. -/
theorem Window.modest_opened (kind : WindowKind) : (Window.opened kind).Modest :=
  have first : (0 : Int32) ≤ lastOption := by decide
  fun _ => ⟨first, first⟩

namespace Tame

variable {host : SimulatedHost}

/-- A host without input and windows is tame. -/
theorem of_idle (input : host.input = {}) (windows : host.windows = []) : Tame host :=
  ⟨by rw [input]; nofun, by rw [windows]; nofun⟩

/-- It takes no more than that input and windows are the same. -/
theorem same {other : SimulatedHost} (tame : Tame host) (input : other.input = host.input)
    (windows : other.windows = host.windows) : Tame other :=
  ⟨input ▸ tame.input, windows ▸ tame.windows⟩

/-- A window that is found shows no option behind the last one. -/
theorem window (tame : Tame host) {id : WindowId} {window : Window}
    (found : host.window? .advanced id = some window) :
    window.currentOption ≤ lastOption ∧ window.result ≤ lastOption := by
  obtain ⟨found, kind⟩ := Option.filter_eq_some_iff.mp found
  obtain ⟨before, after, windows, -⟩ := List.lookup_eq_some_iff.mp found
  -- What is looked up is one of the entries.
  exact tame.windows (id, window) (by rw [windows]; simp) (eq_of_beq kind)

/-- The cursor of a list is on no option behind the last one. -/
theorem option (tame : Tame host) (id : WindowId) :
    Host.advancedMenuOption host id ≤ lastOption := by
  show ((host.window? .advanced id).map (·.currentOption)).getD 0 ≤ lastOption
  cases found : host.window? .advanced id with
  | none => exact by decide
  | some window => exact (tame.window found).1

/-- A list is closed with no option behind the last one. -/
theorem result (tame : Tame host) (id : WindowId) :
    Host.advancedMenuResult host id ≤ lastOption := by
  show ((host.window? .advanced id).map (·.result)).getD (-1) ≤ lastOption
  cases found : host.window? .advanced id with
  | none => exact by decide
  | some window => exact (tame.window found).2

/-- No request shows an option behind the last one. -/
theorem serve (request : Request) {cx : Context SimulatedHost} (tame : Tame cx.host) :
    Tame (request.serve cx).2.host := by
  have opens (kind : WindowKind) : Tame (cx.host.openWindow kind).2 :=
    ⟨tame.input, List.forall_mem_append.mpr
      ⟨tame.windows, List.forall_mem_singleton.mpr (Window.modest_opened kind)⟩⟩
  have closes (kind : WindowKind) (id : WindowId) :
      Tame (SimulatedHost.closeWindow kind id cx.host).host := by
    unfold SimulatedHost.closeWindow
    split
    · exact ⟨tame.input, fun entry member => tame.windows entry (List.mem_filter.mp member).1⟩
    · exact tame
  cases request with
  | createAdvancedMenu menu => exact opens .advanced
  | createSimpleMenu menu => exact opens .simple
  | createPortraitBox screen palette framed => exact opens .portrait
  | closeAdvancedMenu id => exact closes .advanced id
  | closeSimpleMenu id => exact closes .simple id
  | closePortraitBox id => exact closes .portrait id
  | resumeAdvancedMenu id =>
    refine ⟨tame.input, fun entry member => ?_⟩
    obtain ⟨entry, there, rfl⟩ := List.mem_map.mp member
    -- The window that is resumed only turns active.
    dsimp only
    split <;> exact tame.windows entry there
  | randRange low high =>
    show Tame (cx.host.draw low high).2
    unfold SimulatedHost.draw
    cases cx.host.random <;> exact tame.same rfl rfl
  | _ => exact tame.same rfl rfl

/-- So no talk does. -/
theorem kept : Kept (fun _ => True) fun before after => Tame before → Tame after where
  refl _ := id
  trans first second tame := second (first tame)
  serve request _ _ := serve request

/-- Input that is queued behind other input is all of it modest. -/
theorem queueInput (tame : Tame host) {input : PlayerInput} (modest : input.Modest) :
    Tame (host.queueInput input) :=
  ⟨List.forall_mem_append.mpr ⟨tame.input, modest⟩, tame.windows⟩

/-- A window takes a modest event, and leaves modest ones. -/
theorem deliver {input : PlayerInput} {window : Window} (queued : input.Modest)
    (shown : window.Modest) : (SimulatedHost.deliver input window).1.Modest ∧
      (SimulatedHost.deliver input window).2.Modest := by
  unfold SimulatedHost.deliver
  split
  · exact ⟨queued, shown⟩
  cases kind : window.kind with
  | portrait => exact ⟨queued, shown⟩
  | simple =>
    dsimp only
    split
    · exact ⟨queued, shown⟩
    -- The answer of another menu may be anything.
    · exact ⟨queued, nofun⟩
  | advanced =>
    dsimp only
    split
    · exact ⟨queued, shown⟩
    case h_2 choice later waiting =>
      rw [PlayerInput.Modest, waiting] at queued
      obtain ⟨⟨hover, result⟩, others⟩ := List.forall_mem_cons.mp queued
      split
      case h_1 option rest visits =>
        rw [visits] at hover
        obtain ⟨first, hover⟩ := List.forall_mem_cons.mp hover
        exact ⟨List.forall_mem_cons.mpr ⟨⟨hover, result⟩, others⟩, fun _ => ⟨first, (shown kind).2⟩⟩
      case h_2 => exact ⟨others, fun _ => ⟨(shown kind).1, result⟩⟩

/-- So do windows that take input one after the other. -/
theorem deliverAll {input : PlayerInput} {windows : List (WindowId × Window)}
    (queued : input.Modest) (shown : ∀ entry ∈ windows, entry.2.Modest) :
    (SimulatedHost.deliverAll input windows).1.Modest ∧
      ∀ entry ∈ (SimulatedHost.deliverAll input windows).2, entry.2.Modest := by
  induction windows generalizing input with
  | nil => exact ⟨queued, nofun⟩
  | cons entry rest ih =>
    obtain ⟨first, others⟩ := List.forall_mem_cons.mp shown
    obtain ⟨queued, taken⟩ := deliver queued first
    obtain ⟨left, later⟩ := ih queued others
    exact ⟨left, List.forall_mem_cons.mpr ⟨taken, later⟩⟩

/-- A frame of input shows no option behind the last one. -/
theorem advanceFrame (tame : Tame host) : Tame host.advanceFrame := by
  obtain ⟨queued, shown⟩ := deliverAll tame.input tame.windows
  unfold SimulatedHost.advanceFrame
  cases host.keyboard with
  | none => exact ⟨queued, shown⟩
  | some session =>
    refine ⟨?_, shown⟩
    -- The keyboard takes no choices.
    dsimp only
    unfold SimulatedHost.deliverText
    repeat' split
    all_goals exact queued

end Tame

end DungeonHooks.Replay
