import DungeonHooks.Proofs.Replay.Input.Frame

/-! The player's input is conserved: whatever is done with the host, all that was queued is delivered once, in order, or still queued. -/

namespace DungeonHooks.Replay

/-- A call of the simulated host, by the player or by a menu. -/
inductive HostCall where
  /-- Queues input. -/
  | queue (input : PlayerInput)
  /-- Applies one frame of input. -/
  | frame
  /-- Puts a request to the host, such as to open, resume or close a window, or to set up the keyboard. -/
  | serve (request : Request)

namespace HostCall

/-- The host after a call. -/
def run (host : SimulatedHost) : HostCall → SimulatedHost
  | queue input => host.queueInput input
  | frame => host.advanceFrame
  | serve request => (request.serve { host : Context SimulatedHost }).2.host

/-- The events that a call delivers to windows. -/
def events (host : SimulatedHost) : HostCall → List WindowEvent
  | frame => host.events
  | _ => []

/-- The texts that a call delivers to the keyboard. -/
def texts (host : SimulatedHost) : HostCall → List String
  | frame => host.typed.toList
  | _ => []

/-- The input that a call queues. -/
def queued : HostCall → PlayerInput
  | queue input => input
  | _ => {}

/-- The call sets up the keyboard. -/
def setsUp : HostCall → Bool
  | serve (.setupKeyboard _) => true
  | _ => false

end HostCall

namespace SimulatedHost

/-- The host after some calls. -/
def play (host : SimulatedHost) (calls : List HostCall) : SimulatedHost :=
  calls.foldl HostCall.run host

/-- What is collected along some calls, each seen with the host that it finds. -/
def along {α : Type} (collect : SimulatedHost → HostCall → List α) :
    SimulatedHost → List HostCall → List α
  | _, [] => []
  | host, call :: rest => collect host call ++ along collect (call.run host) rest

/-- The events delivered along some calls, in the order of delivery. -/
def delivered : SimulatedHost → List HostCall → List WindowEvent :=
  along HostCall.events

/-- The texts delivered along some calls, in the order of delivery. -/
def deliveredTexts : SimulatedHost → List HostCall → List String :=
  along HostCall.texts

end SimulatedHost

open SimulatedHost

section

variable {α : Type} (collect : SimulatedHost → HostCall → List α) (host : SimulatedHost)
  (first rest : List HostCall)

/-- Calls that follow on each other find the host that the earlier ones left. -/
theorem play_append : host.play (first ++ rest) = (host.play first).play rest :=
  List.foldl_append

/-- So does what is collected along them. -/
theorem along_append :
    along collect host (first ++ rest) =
      along collect host first ++ along collect (host.play first) rest := by
  induction first generalizing host with
  | nil => rfl
  | cons call first ih =>
    simp only [List.cons_append, along, ih, List.append_assoc, play, List.foldl_cons]

end

/-- What is queued behind other input waits behind it. -/
theorem PlayerInput.waiting_append (input more : PlayerInput) (kind : WindowKind) :
    (input.append more).waiting kind = input.waiting kind ++ more.waiting kind := by
  cases kind <;> simp [waiting, append]

/-- Without input, nothing waits for a window. -/
@[simp] theorem PlayerInput.waiting_empty (kind : WindowKind) :
    ({} : PlayerInput).waiting kind = [] := by
  cases kind <;> rfl

/-- A request neither takes nor queues input, and it leaves the keyboard alone unless it sets it up. -/
theorem serve_player (request : Request) (cx : Context SimulatedHost) :
    (request.serve cx).2.host.input = cx.host.input ∧
      ((HostCall.serve request).setsUp = false →
        (request.serve cx).2.host.keyboard = cx.host.keyboard) := by
  have closes (kind : WindowKind) (id : WindowId) :
      (closeWindow kind id cx.host).host.input = cx.host.input ∧
        (closeWindow kind id cx.host).host.keyboard = cx.host.keyboard := by
    unfold closeWindow
    split <;> exact ⟨rfl, rfl⟩
  have draws (low high : Int32) : (cx.host.draw low high).2.input = cx.host.input ∧
      (cx.host.draw low high).2.keyboard = cx.host.keyboard := by
    unfold draw
    cases cx.host.random <;> exact ⟨rfl, rfl⟩
  -- Closing a window and drawing a value are the services that go two ways.
  cases request with
  | closeAdvancedMenu id => exact ⟨(closes .advanced id).1, fun _ => (closes .advanced id).2⟩
  | closeSimpleMenu id => exact ⟨(closes .simple id).1, fun _ => (closes .simple id).2⟩
  | closePortraitBox id => exact ⟨(closes .portrait id).1, fun _ => (closes .portrait id).2⟩
  | randRange low high => exact ⟨(draws low high).1, fun _ => (draws low high).2⟩
  | setupKeyboard menu => exact ⟨rfl, nofun⟩
  | _ => exact ⟨rfl, fun _ => rfl⟩

/-- A call delivers from the front of what is queued, and queues behind it. -/
theorem HostCall.run_input (call : HostCall) (host : SimulatedHost) :
    (∀ kind, onChannel kind (call.events host) ++ (call.run host).input.waiting kind =
      host.input.waiting kind ++ call.queued.waiting kind) ∧
    call.texts host ++ (call.run host).input.keyboard =
      host.input.keyboard ++ call.queued.keyboard := by
  cases call with
  | queue input => exact ⟨host.input.waiting_append input, rfl⟩
  | frame =>
    have delivers := host.frameDelivers
    simp only [queued, PlayerInput.waiting_empty, List.append_nil]
    exact ⟨fun kind => (delivers.events kind).symm, delivers.texts.symm⟩
  | serve request =>
    simp only [run, (serve_player request _).1, queued, PlayerInput.waiting_empty,
      List.append_nil]
    exact ⟨fun kind => rfl, rfl⟩

section

variable (host : SimulatedHost) (calls : List HostCall)

/-- Of each kind, what was delivered and what is still queued is all that was ever queued. -/
theorem delivered_waiting (kind : WindowKind) :
    onChannel kind (host.delivered calls) ++ (host.play calls).input.waiting kind =
      host.input.waiting kind ++ calls.flatMap (·.queued.waiting kind) := by
  induction calls generalizing host with
  | nil => simp [delivered, along, play, onChannel]
  | cons call rest ih =>
    -- What the first call delivers comes before all that the others deliver.
    have first := (call.run_input host).1 kind
    have others := ih (call.run host)
    simp only [delivered, along, play, onChannel, List.filter_append, List.foldl_cons,
      List.flatMap_cons, List.append_assoc] at first others ⊢
    rw [others, ← List.append_assoc, first, List.append_assoc]

/-- So it is with the texts. -/
theorem deliveredTexts_waiting :
    host.deliveredTexts calls ++ (host.play calls).input.keyboard =
      host.input.keyboard ++ calls.flatMap (·.queued.keyboard) := by
  induction calls generalizing host with
  | nil => simp [deliveredTexts, along, play]
  | cons call rest ih =>
    have first := (call.run_input host).2
    have others := ih (call.run host)
    simp only [deliveredTexts, along, play, List.foldl_cons, List.flatMap_cons,
      List.append_assoc] at others ⊢
    rw [others, ← List.append_assoc, first, List.append_assoc]

end

/-- The handles of the open windows ascend, as long as none has been repeated. -/
def Ascending (host : SimulatedHost) : Prop :=
  ∃ numbers : List Nat, host.panes.map (·.1) = numbers.map (fun n => ⟨Int32.ofNat n⟩) ∧
    numbers.Pairwise (· < ·) ∧ ∀ n ∈ numbers, n < host.nextWindow

namespace Ascending

variable {host other : SimulatedHost}

/-- It takes no more than the same windows. -/
theorem same (ascending : Ascending host) (same : host.SameWindows other) : Ascending other := by
  rw [Ascending, ← same.1, ← same.2]
  exact ascending

/-- A window that opens has the highest handle. -/
theorem openWindow (ascending : Ascending host) (kind : WindowKind) :
    Ascending (host.openWindow kind).2 := by
  obtain ⟨numbers, handles, sorted, below⟩ := ascending
  refine ⟨numbers ++ [host.nextWindow], ?_, ?_, ?_⟩
  · rw [panes_openWindow, List.map_append, handles, List.map_append]
    rfl
  · exact List.pairwise_append.mpr ⟨sorted, List.pairwise_singleton _ _, by simpa using below⟩
  · intro n member
    rcases List.mem_append.mp member with old | new
    · exact Nat.lt_succ_of_lt (below n old)
    · rw [List.mem_singleton.mp new]
      exact Nat.lt_succ_self _

/-- The windows that are left when one is closed are in the same order. -/
theorem closeWindow (ascending : Ascending host) (kind : WindowKind) (id : WindowId) :
    Ascending (SimulatedHost.closeWindow kind id host).host := by
  obtain ⟨numbers, handles, sorted, below⟩ := ascending
  have fewer : ((SimulatedHost.closeWindow kind id host).host.panes.map (·.1)).Sublist
      (numbers.map fun n => ⟨Int32.ofNat n⟩) := by
    rw [← handles]
    unfold SimulatedHost.closeWindow
    split
    · exact (List.filter_sublist.map _).map _
    · exact List.Sublist.refl _
  obtain ⟨left, among, handles⟩ := List.sublist_map_iff.mp fewer
  exact ⟨left, handles, sorted.sublist among, fun n member => by
    rw [nextWindow_closeWindow]
    exact below n (among.subset member)⟩

/-- Every call leaves the handles ascending. -/
theorem run (ascending : Ascending host) (call : HostCall) : Ascending (call.run host) := by
  cases call with
  | queue input => exact ascending.same ⟨rfl, rfl⟩
  | frame => exact ascending.same host.advanceFrame_same
  | serve request =>
    cases windowless : request.windowless with
    | true => exact ascending.same (serve_same windowless { host })
    | false =>
      cases request <;> first
        | exact ascending.openWindow _
        | exact ascending.closeWindow _ _
        | cases windowless

/-- So do all calls together. -/
theorem play (ascending : Ascending host) (calls : List HostCall) :
    Ascending (host.play calls) := by
  induction calls generalizing host with
  | nil => exact ascending
  | cons call rest ih => exact ih (ascending.run call)

/-- Handles that have not been repeated ascend as words. -/
theorem sorted (ascending : Ascending host) (fits : host.nextWindow ≤ 2147483648) :
    (host.windows.map (·.1.id)).Pairwise (· < ·) := by
  obtain ⟨numbers, handles, sorted, below⟩ := ascending
  have ids : host.windows.map (·.1.id) = numbers.map Int32.ofNat := by
    have same := congrArg (List.map WindowId.id) handles
    simpa [panes, Function.comp_def] using same
  rw [ids, List.pairwise_map]
  refine sorted.imp_of_mem fun {n m} _ last less => ?_
  have bound := below m last
  -- Below the bound, a word is its number.
  rw [Int32.lt_iff_toInt_lt, Int32.toInt_ofNat_of_lt (by omega), Int32.toInt_ofNat_of_lt (by omega)]
  omega

end Ascending

section Keyboard

variable {host : SimulatedHost} {session : KeyboardSession} {calls : List HostCall}

/-- A keyboard session that is over takes no text, and stays until another one is set up. -/
theorem keyboard_over (here : host.keyboard = some session) (done : session.done = true)
    (others : ∀ call ∈ calls, call.setsUp = false) :
    host.deliveredTexts calls = [] ∧ (host.play calls).keyboard = some session := by
  induction calls generalizing host with
  | nil => exact ⟨rfl, here⟩
  | cons call rest ih =>
    obtain ⟨other, others⟩ := List.forall_mem_cons.mp others
    have first : call.texts host = [] ∧ (call.run host).keyboard = some session := by
      cases call with
      | queue input => exact ⟨rfl, here⟩
      | frame =>
        have silent : host.typed = none := by simp [typed, here, done]
        exact ⟨by rw [HostCall.texts, silent]; rfl, (host.frameDelivers.silent silent).trans here⟩
      | serve request => exact ⟨rfl, ((serve_player request _).2 other).trans here⟩
    obtain ⟨none, stays⟩ := ih first.2 others
    exact ⟨List.append_eq_nil_iff.mpr ⟨first.1, none⟩, stays⟩

/-- A keyboard session takes at most one text, and is over with it. -/
theorem keyboard_texts (here : host.keyboard = some session)
    (others : ∀ call ∈ calls, call.setsUp = false) :
    host.deliveredTexts calls = [] ∧ (host.play calls).keyboard = some session ∨
      ∃ text, host.deliveredTexts calls = [text] ∧
        (host.play calls).keyboard = some { session with text, done := true } := by
  induction calls generalizing host with
  | nil => exact .inl ⟨rfl, here⟩
  | cons call rest ih =>
    obtain ⟨other, behind⟩ := List.forall_mem_cons.mp others
    -- As long as no frame brings a text, the session stays as it is.
    have goesOn (texts : call.texts host = []) (same : (call.run host).keyboard = some session) :
        host.deliveredTexts (call :: rest) = (call.run host).deliveredTexts rest ∧ _ :=
      ⟨congrArg (· ++ (call.run host).deliveredTexts rest) texts, ih same behind⟩
    cases call with
    | queue input =>
      obtain ⟨texts, later⟩ := goesOn rfl here
      exact texts ▸ later
    | serve request =>
      obtain ⟨texts, later⟩ := goesOn rfl (((serve_player request _).2 other).trans here)
      exact texts ▸ later
    | frame =>
      cases typed : host.typed with
      | none =>
        obtain ⟨texts, later⟩ := goesOn (congrArg Option.toList typed)
          ((host.frameDelivers.silent typed).trans here)
        exact texts ▸ later
      | some text =>
        obtain ⟨waiting, same, -, taken⟩ := host.frameDelivers.text text typed
        obtain rfl : session = waiting := Option.some.inj (here.symm.trans same)
        have finished : host.advanceFrame.deliveredTexts rest = [] ∧ _ :=
          keyboard_over taken rfl behind
        refine .inr ⟨text, ?_, finished.2⟩
        exact (congrArg (Option.toList · ++ _) typed).trans (congrArg (text :: ·) finished.1)

end Keyboard

/-- What becomes of the player's input in the course of some calls, from any host on. -/
structure InputConserved (host : SimulatedHost) (calls : List HostCall) : Prop where
  /-- The events delivered so far, followed by the queued ones, are all that were queued, in order. -/
  events : ∀ kind, onChannel kind (host.delivered calls) ++ (host.play calls).input.waiting kind =
    host.input.waiting kind ++ calls.flatMap (·.queued.waiting kind)
  /-- So are the texts for the keyboard. -/
  texts : host.deliveredTexts calls ++ (host.play calls).input.keyboard =
    host.input.keyboard ++ calls.flatMap (·.queued.keyboard)
  /-- A frame at this point serves the windows one after the other, and then the keyboard. -/
  frame : FrameDelivers (host.play calls)
  /-- The handles of the windows ascend, unless so many were opened that handles repeat. -/
  ascending : host.windows = [] → (host.play calls).nextWindow ≤ 2147483648 →
    ((host.play calls).windows.map (·.1.id)).Pairwise (· < ·)
  /-- A keyboard that was set up anew shows no text but the one that it took since then. -/
  fresh : ∀ earlier menu later, calls = earlier ++ .serve (.setupKeyboard menu) :: later →
    (∀ call ∈ later, call.setsUp = false) →
      let anew := (HostCall.serve (.setupKeyboard menu)).run (host.play earlier)
      host.deliveredTexts calls = host.deliveredTexts earlier ++ anew.deliveredTexts later ∧
        (anew.deliveredTexts later = [] ∧ (host.play calls).keyboard = some { menu } ∨
          ∃ text, anew.deliveredTexts later = [text] ∧
            (host.play calls).keyboard = some { menu, text, done := true })

/-- Whatever is done with a host, the player's input is neither lost nor doubled nor reordered. -/
theorem player_input_conserved (host : SimulatedHost) (calls : List HostCall) :
    InputConserved host calls where
  events := delivered_waiting host calls
  texts := deliveredTexts_waiting host calls
  frame := (host.play calls).frameDelivers
  ascending empty fits := by
    have start : Ascending host := ⟨[], by simp [panes, empty], .nil, by simp⟩
    exact (start.play calls).sorted fits
  fresh := by
    rintro earlier menu later rfl others anew
    refine ⟨along_append .., ?_⟩
    -- The session begins anew, whatever the keyboard was before.
    have here : anew.keyboard = some { menu } := rfl
    rw [play_append]
    exact keyboard_texts here others

/-- Two lists share a choice: in one frame, the first is hovered over and the second is closed. -/
example :
    let choice : ListChoice := { hover := [3], result := 5 }
    let opens : HostCall := .serve (.createAdvancedMenu RecruitMenu.speciesList)
    let host := ({} : SimulatedHost).play [.queue { advanced := [choice] }, opens, opens]
    host.deliveries.map (·.event) = [some (.hover 3), some (.pick 5)] ∧
      host.advanceFrame.deliveries.map (·.event) = [none, none] := by
  decide +kernel

end DungeonHooks.Replay
