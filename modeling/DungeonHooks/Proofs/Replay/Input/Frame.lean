import DungeonHooks.Proofs.Replay.Panes

/-! What a frame of input delivers: at most one event to each window that waits, and one text to the keyboard. -/

namespace DungeonHooks.Replay

/-- What the player does to a window in one frame. -/
inductive WindowEvent where
  /-- Moves the cursor of a scrolling list to an option. -/
  | hover (option : Int32)
  /-- Closes a scrolling list with a result. -/
  | pick (result : Int32)
  /-- Closes a simple menu with a result. -/
  | answer (result : Int32)
  deriving DecidableEq, Inhabited

/-- The kind of the windows that an event is for. -/
def WindowEvent.channel : WindowEvent → WindowKind
  | .hover _ | .pick _ => .advanced
  | .answer _ => .simple

/-- The events of a channel, in order. -/
def onChannel (kind : WindowKind) (events : List WindowEvent) : List WindowEvent :=
  events.filter (·.channel == kind)

/-- The events that a choice consists of: what the cursor visits, and then the result. -/
def ListChoice.events (choice : ListChoice) : List WindowEvent :=
  choice.hover.map .hover ++ [.pick choice.result]

/-- The queued events for windows of a kind, in the order in which they are consumed. -/
def PlayerInput.waiting (input : PlayerInput) : WindowKind → List WindowEvent
  | .advanced => input.advanced.flatMap ListChoice.events
  | .simple => input.simple.map .answer
  | .portrait => []

/-- What an event makes of the window that receives it. -/
def Window.receive (window : Window) : WindowEvent → Window
  | .hover option => { window with currentOption := option }
  | .pick result | .answer result => { window with result, active := false }

/-- The window as it is when it received an event, if there was one. -/
def Window.receiveAny (window : Window) (event : Option WindowEvent) : Window :=
  (event.map window.receive).getD window

/-- A window in a frame, with the event that it takes if it takes one. -/
structure Delivery where
  id : WindowId
  window : Window
  event : Option WindowEvent
  deriving DecidableEq, Inhabited

/-- The event that a window takes when it is its turn: the next one of its kind, if it is active. -/
def Window.takes (window : Window) (input : PlayerInput) : Option WindowEvent :=
  if window.active then (input.waiting window.kind).head? else none

/-- The deliveries to windows that take input one after the other. -/
def deliveriesTo : PlayerInput → List (WindowId × Window) → List Delivery
  | _, [] => []
  | input, (id, window) :: rest =>
    { id, window, event := window.takes input } ::
      deliveriesTo (SimulatedHost.deliver input window).1 rest

namespace SimulatedHost

/-- The deliveries of the next frame, window by window. -/
def deliveries (host : SimulatedHost) : List Delivery :=
  deliveriesTo host.input host.windows

/-- The events of the next frame, in the order in which they are delivered. -/
def events (host : SimulatedHost) : List WindowEvent :=
  host.deliveries.filterMap (·.event)

/-- The text that the keyboard takes in the next frame. -/
def typed (host : SimulatedHost) : Option String :=
  if host.keyboard.any (!·.done) then host.input.keyboard.head? else none

end SimulatedHost

/-- What a window takes is the first event of its kind, and what it leaves are the others. -/
theorem deliver_eq (input : PlayerInput) (window : Window) :
    (SimulatedHost.deliver input window).2 = window.receiveAny (window.takes input) ∧
      ∀ kind, input.waiting kind = onChannel kind (window.takes input).toList ++
        (SimulatedHost.deliver input window).1.waiting kind := by
  obtain ⟨kind, active, shown, current⟩ := window
  unfold SimulatedHost.deliver Window.takes
  cases active with
  | false => simp [Window.receiveAny, onChannel]
  | true =>
    -- One case for each kind, and for what waits for a window of that kind.
    cases kind with
    | portrait => simp [PlayerInput.waiting, Window.receiveAny, onChannel]
    | simple =>
      cases queued : input.simple with
      | nil => simp [PlayerInput.waiting, Window.receiveAny, onChannel, queued]
      | cons result later =>
        refine ⟨by simp [PlayerInput.waiting, Window.receiveAny, Window.receive, queued], ?_⟩
        rintro (_ | _ | _) <;> simp [PlayerInput.waiting, onChannel, WindowEvent.channel, queued]
    | advanced =>
      cases queued : input.advanced with
      | nil => simp [PlayerInput.waiting, Window.receiveAny, onChannel, queued]
      | cons choice later =>
        obtain ⟨hover, result⟩ := choice
        -- The cursor goes to its options first, and the choice is over with its result.
        cases hover <;> refine ⟨by simp [PlayerInput.waiting, ListChoice.events,
          Window.receiveAny, Window.receive, queued], ?_⟩ <;>
          rintro (_ | _ | _) <;>
          simp [PlayerInput.waiting, ListChoice.events, onChannel, WindowEvent.channel, queued]

/-- A window takes only events of its own kind, and only if it is active. -/
theorem Window.takes_proper {window : Window} {input : PlayerInput} {event : WindowEvent}
    (taken : window.takes input = some event) :
    window.active = true ∧ window.kind = event.channel := by
  unfold takes at taken
  split at taken
  case isFalse => contradiction
  case isTrue active =>
    refine ⟨active, ?_⟩
    have queued := List.mem_of_mem_head? taken
    -- In each queue there are only events for one kind of windows.
    cases kind : window.kind with
    | portrait => simp [PlayerInput.waiting, kind] at queued
    | simple =>
      simp only [PlayerInput.waiting, kind, List.mem_map] at queued
      obtain ⟨result, -, rfl⟩ := queued
      rfl
    | advanced =>
      simp only [PlayerInput.waiting, ListChoice.events, kind, List.mem_flatMap, List.mem_append,
        List.mem_map, List.mem_singleton] at queued
      obtain ⟨choice, -, ⟨option, -, rfl⟩ | rfl⟩ := queued <;> rfl

/-- An active window takes nothing only if nothing of its kind is queued. -/
theorem Window.takes_none {window : Window} {input : PlayerInput} (active : window.active = true)
    (nothing : window.takes input = none) : input.waiting window.kind = [] := by
  rw [takes, if_pos active] at nothing
  exact List.head?_eq_none_iff.mp nothing

/-- The deliveries are to the windows as they stand, one to each. -/
theorem deliveriesTo_windows (input : PlayerInput) (windows : List (WindowId × Window)) :
    (deliveriesTo input windows).map (fun delivery => (delivery.id, delivery.window)) =
      windows := by
  induction windows generalizing input with
  | nil => rfl
  | cons entry rest ih => simp [deliveriesTo, ih]

/-- Windows that take input one after the other receive their deliveries, and leave the rest of the input. -/
theorem deliverAll_eq (input : PlayerInput) (windows : List (WindowId × Window)) :
    (SimulatedHost.deliverAll input windows).2 = (deliveriesTo input windows).map
        (fun delivery => (delivery.id, delivery.window.receiveAny delivery.event)) ∧
      ∀ kind, input.waiting kind =
        onChannel kind ((deliveriesTo input windows).filterMap (·.event)) ++
          (SimulatedHost.deliverAll input windows).1.waiting kind := by
  induction windows generalizing input with
  | nil => exact ⟨rfl, fun kind => rfl⟩
  | cons entry rest ih =>
    obtain ⟨id, window⟩ := entry
    obtain ⟨received, taken⟩ := deliver_eq input window
    obtain ⟨others, left⟩ := ih (SimulatedHost.deliver input window).1
    refine ⟨by simp [SimulatedHost.deliverAll, deliveriesTo, received, others], fun kind => ?_⟩
    -- The event of the first window stands before those of the others.
    rw [taken kind, left kind, deliveriesTo, SimulatedHost.deliverAll, ← List.append_assoc,
      onChannel, onChannel, ← List.filter_append]
    cases window.takes input <;> rfl

/-- What is queued of a kind at the end of a frame was queued when a window of that kind had its turn. -/
theorem deliveriesTo_served {input : PlayerInput} {windows : List (WindowId × Window)}
    {delivery : Delivery} (member : delivery ∈ deliveriesTo input windows) :
    (∀ event, delivery.event = some event →
      delivery.window.active = true ∧ delivery.window.kind = event.channel) ∧
    (delivery.window.active = true → delivery.event = none →
      (SimulatedHost.deliverAll input windows).1.waiting delivery.window.kind = []) := by
  induction windows generalizing input with
  | nil => simp [deliveriesTo] at member
  | cons entry rest ih =>
    obtain ⟨id, window⟩ := entry
    rcases List.mem_cons.mp member with rfl | later
    · refine ⟨fun event => window.takes_proper, fun active nothing => ?_⟩
      -- Nothing was queued then, so nothing is left.
      have none := window.takes_none active nothing
      rw [(deliverAll_eq input ((id, window) :: rest)).2 window.kind] at none
      exact (List.append_eq_nil_iff.mp none).2
    · exact ih later

/-- What a frame delivers, read off the host on both sides of it. -/
structure FrameDelivers (host : SimulatedHost) : Prop where
  /-- There is one delivery for each window, in their order. -/
  before : host.deliveries.map (fun delivery => (delivery.id, delivery.window)) = host.windows
  /-- The windows are afterwards as they are when they received their events. -/
  after : host.advanceFrame.windows = host.deliveries.map
    fun delivery => (delivery.id, delivery.window.receiveAny delivery.event)
  /-- Only active windows receive events, and only those for their kind. -/
  proper : ∀ delivery ∈ host.deliveries, ∀ event, delivery.event = some event →
    delivery.window.active = true ∧ delivery.window.kind = event.channel
  /-- An active window receives nothing only if nothing is left for it. -/
  served : ∀ delivery ∈ host.deliveries, delivery.window.active = true → delivery.event = none →
    host.advanceFrame.input.waiting delivery.window.kind = []
  /-- The keyboard takes a text only while a session waits, which is over with it. -/
  text : ∀ text, host.typed = some text → ∃ session, host.keyboard = some session ∧
    session.done = false ∧
    host.advanceFrame.keyboard = some { session with text, done := true }
  /-- Without a text, the keyboard stays as it is. -/
  silent : host.typed = none → host.advanceFrame.keyboard = host.keyboard
  /-- What was queued is what is delivered, followed by what is still queued. -/
  events : ∀ kind, host.input.waiting kind =
    onChannel kind host.events ++ host.advanceFrame.input.waiting kind
  /-- So it is with the texts. -/
  texts : host.input.keyboard = host.typed.toList ++ host.advanceFrame.input.keyboard

namespace SimulatedHost

/-- After a frame, the windows and their input are as the deliveries left them. -/
theorem advanceFrame_windows (host : SimulatedHost) :
    host.advanceFrame.windows = (deliverAll host.input host.windows).2 ∧
      ∀ kind, host.advanceFrame.input.waiting kind =
        (deliverAll host.input host.windows).1.waiting kind := by
  unfold advanceFrame
  cases host.keyboard with
  | none => exact ⟨rfl, fun _ => rfl⟩
  | some session =>
    refine ⟨rfl, fun kind => ?_⟩
    -- A text is taken out of another queue.
    dsimp only [deliverText]
    split
    · rfl
    · split <;> cases kind <;> rfl

/-- After a frame, the keyboard has taken the text that is typed, if there is one. -/
theorem advanceFrame_keyboard (host : SimulatedHost) :
    host.input.keyboard = host.typed.toList ++ host.advanceFrame.input.keyboard ∧
      host.advanceFrame.keyboard = match host.typed with
        | none => host.keyboard
        | some text => host.keyboard.map ({ · with text, done := true }) := by
  have texts := deliverAll_keyboard host.input host.windows
  unfold advanceFrame typed
  cases host.keyboard with
  | none => simp [texts]
  | some session =>
    cases done : session.done with
    | true => simp [deliverText, texts, done]
    | false =>
      -- A session that waits takes the first text, if there is one.
      cases queued : host.input.keyboard with
      | nil => simp [deliverText, texts, done, queued]
      | cons text later => simp [deliverText, texts, done, queued]

/-- Every frame delivers its events, whatever is queued and whichever windows are open. -/
theorem frameDelivers (host : SimulatedHost) : FrameDelivers host := by
  obtain ⟨windows, waiting⟩ := host.advanceFrame_windows
  obtain ⟨received, taken⟩ := deliverAll_eq host.input host.windows
  obtain ⟨texts, keyboard⟩ := host.advanceFrame_keyboard
  refine
    { before := deliveriesTo_windows host.input host.windows
      after := windows.trans received
      proper := fun delivery member => (deliveriesTo_served member).1
      served := fun delivery member active nothing => ?_
      text := fun text typed => ?_
      silent := fun nothing => by rw [keyboard, nothing]
      events := fun kind => by rw [waiting kind, taken kind, events, deliveries]
      texts }
  · rw [waiting]
    exact (deliveriesTo_served member).2 active nothing
  · rw [typed] at keyboard
    unfold SimulatedHost.typed at typed
    split at typed
    case isFalse => contradiction
    case isTrue waits =>
      -- The session that waits is the one that takes the text.
      obtain ⟨session, here, undone⟩ := (Option.any_eq_true ..).mp waits
      exact ⟨session, here, by simpa using undone, by rw [keyboard, here]; rfl⟩

end SimulatedHost

end DungeonHooks.Replay
