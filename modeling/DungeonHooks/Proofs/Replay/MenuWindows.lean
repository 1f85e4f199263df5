import DungeonHooks.Proofs.Menu.Keyboard
import DungeonHooks.Proofs.Menu.Recruit.Stages
import DungeonHooks.Proofs.Replay.Tidy

/-! The windows that menus open on the simulated host are accounted for in every frame. -/

namespace DungeonHooks.Replay

open RecruitMenu

/-- The windows are accounted for, as long as the handles that were given out do not repeat. -/
def Accounted (left : Nat) (slots : WindowSlots) (host : SimulatedHost) : Prop :=
  -- Beyond that many handles, a new window could take the place of an open one.
  host.nextWindow ≤ UInt32.size → Tidy left slots host

/-- It takes no more than that the same windows are open. -/
theorem Accounted.same {left : Nat} {slots : WindowSlots} {host other : SimulatedHost}
    (accounted : Accounted left slots host) (same : host.SameWindows other) :
    Accounted left slots other :=
  fun fits => (accounted (same.2 ▸ fits)).same same

/-- What is said quietly leaves the windows as they are. -/
theorem hold_quiet {α : Type} (talk : Talk α) (cx : Context SimulatedHost)
    (quiet : Quiet (talk.hold cx).transcript) :
    cx.host.SameWindows (talk.hold cx).context.host := by
  -- Each request leaves the windows to the rest of the talk.
  induction talk generalizing cx with
  | done value => exact ⟨rfl, rfl⟩
  | ask request next ih =>
    rw [Talk.hold_ask] at quiet ⊢
    obtain ⟨first, later⟩ := List.forall_mem_cons.mp quiet
    exact SimulatedHost.kept_sameWindows.trans (SimulatedHost.serve_same first cx) (ih _ _ later)

/-- A quiet talk keeps the windows accounted for. -/
theorem leads_quiet {α : Type} {talk : Talk α} {ends : α → Prop} {left : Nat}
    {slots : WindowSlots} (always : talk.Always fun value said => ends value ∧ Quiet said) :
    Talk.Leads (Accounted left slots) talk fun value host =>
      ends value ∧ Accounted left slots host := by
  -- What always holds is known of the transcript, which tells that it was quiet.
  intro cx accounted
  obtain ⟨holds, quiet⟩ := always.hold cx
  exact ⟨holds, accounted.same (hold_quiet talk cx quiet)⟩

/-- A window that was opened is accounted for once it is in its slot. -/
theorem Accounted.openWindow {left : Nat} {slots : WindowSlots} {host : SimulatedHost}
    (accounted : Accounted left slots host) {slot : Fin menuSlots} {kind : WindowKind}
    (proper : SlotFor slot kind) (empty : slots.get slot = none) :
    Accounted left (slots.put slot (some (host.openWindow kind).1)) (host.openWindow kind).2 :=
  fun fits => (accounted (Nat.le_of_succ_le fits)).openWindow fits proper empty

/-- A window that was closed is accounted for once it is out of its slot. -/
theorem Accounted.closeWindow {left : Nat} {slots : WindowSlots} {host : SimulatedHost}
    (accounted : Accounted left slots host) {slot : Fin menuSlots} {kind : WindowKind}
    (proper : SlotFor slot kind) {id : WindowId} (holds : slots.get slot = some id) :
    Accounted left (slots.put slot none) (SimulatedHost.closeWindow kind id host).host :=
  -- Closing gives out no handle, so the bound is the one from before.
  fun fits =>
    (accounted (host.nextWindow_closeWindow kind id ▸ fits)).closeWindow proper holds

/-- What holds of the windows of a recruit session: no gender menu is open before one is asked for. -/
structure Browsing (left : Nat) (state : MenuState) (host : SimulatedHost) : Prop where
  accounted : Accounted left state.windows host
  unasked : Stage.ofProgress state.progress = .browse ∨
    Stage.ofProgress state.progress = .chooseForm → state.windows.get genderSlot = none

section Recruit

variable {left : Nat} {state : MenuState}

/-- The session begins with a list and a portrait box, each in its slot. -/
theorem create_browsing (id : Int32) :
    Talk.Leads (Accounted left {}) (create { activeMenu := some id }) (Browsing left) := by
  let listed (list : Option WindowId) : WindowSlots := WindowSlots.put {} listSlot list
  have opensList : Talk.Leads (Accounted left {})
      (Talk.request (.createAdvancedMenu speciesList)) fun list => Accounted left (listed list) :=
    Talk.leads_request fun cx accounted => accounted.openWindow .list (WindowSlots.get_empty _)
  have opensBox (list : Option WindowId) : Talk.Leads (Accounted left (listed list))
      (Talk.request (.createPortraitBox 0 3 true)) fun portrait =>
        Accounted left ((listed list).put portraitSlot portrait) := by
    refine Talk.leads_request fun cx accounted => accounted.openWindow .portrait ?_
    simp [listed, WindowSlots.get_put, listSlot, portraitSlot]
  -- Showing the portrait comes last and leaves the windows alone.
  refine opensList.bind fun list => (opensBox list).bind fun portrait => ?_
  have shows := (showPortrait_quiet (setWindow portraitSlot portrait (setWindow listSlot list
    { activeMenu := some id, portrait := firstPortrait }))).mono
      fun _ _ quiet => And.intro trivial quiet
  refine (leads_quiet shows).bind fun _ => Talk.leads_done fun host shown => ⟨shown.2, fun _ => ?_⟩
  -- The gender menu has a slot of its own.
  simp [setWindow, WindowSlots.get_put, listSlot, portraitSlot, genderSlot]

/-- A talk that leaves windows alone in a stage keeps them accounted for. -/
theorem unmoved_browsing {talk : Talk MenuState}
    (always : talk.Always fun after said => Unmoved state after said ∧
      (Stage.ofProgress after.progress = .done ∨ state.windows.get genderSlot = none)) :
    Talk.Leads (Browsing left state) talk (Browsing left) := by
  have kept := @leads_quiet _ _ _ left state.windows (always.mono fun after said ⟨unmoved, last⟩ =>
    ⟨And.intro unmoved.windows last, unmoved.quiet⟩)
  refine kept.mono (fun host browsing => browsing.accounted) fun after host holds => ?_
  obtain ⟨⟨windows, last⟩, accounted⟩ := holds
  refine ⟨windows ▸ accounted, fun early => ?_⟩
  -- At the end nothing is to be known of the gender menu.
  rcases last with last | unasked
  · rw [last] at early
    simp at early
  · rw [windows, unasked]

/-- Choosing a form opens a gender menu, if it does, into its empty slot. -/
theorem chooseForm_browsing (choosing : Stage.ofProgress state.progress = .chooseForm) :
    Talk.Leads (Browsing left state) (chooseForm state) (Browsing left) := by
  intro cx browsing
  have empty := browsing.unasked (.inr choosing)
  -- A session that goes on to the commit keeps the empty slot.
  have committed (host : SimulatedHost) (accounted : Accounted left state.windows host) :
      Browsing left (enter .commit state) host :=
    ⟨accounted, fun _ => empty⟩
  simp only [chooseForm, askGender, Talk.bind_eq, Talk.pure_eq_done, Talk.request, Talk.bind,
    Talk.hold_ask]
  -- The form is asked for first, which changes nothing.
  split
  · exact committed _ browsing.accounted
  · refine ⟨browsing.accounted.openWindow .gender empty, fun early => ?_⟩
    rw [show Stage.ofProgress _ = Stage.awaitGender from rfl] at early
    simp at early

/-- The talk closes a window of a kind, and does nothing else to the host. -/
def Closes (kind : WindowKind) (closing : WindowId → Talk Unit) : Prop :=
  ∀ (window : WindowId) (cx : Context SimulatedHost),
    ((closing window).hold cx).context.host = (SimulatedHost.closeWindow kind window cx.host).host

/-- A slot that is emptied keeps the windows accounted for, if what it held is closed. -/
theorem closeSlot_accounted {slot : Fin menuSlots} {kind : WindowKind} (proper : SlotFor slot kind)
    {closing : WindowId → Talk Unit} (closes : Closes kind closing) :
    Talk.Leads (Accounted left state.windows) (closeSlot slot closing state) fun after host =>
      after.windows = state.windows.put slot none ∧ Accounted left after.windows host := by
  unfold closeSlot
  cases holds : state.windows.get slot with
  | none =>
    -- Nothing is there to be closed, and the slot is as it should be.
    refine Talk.leads_done fun host accounted => ⟨?_, accounted⟩
    rw [WindowSlots.put_get holds]
  | some window =>
    have emptied : Talk.Leads (Accounted left state.windows) (closing window) fun _ =>
        Accounted left (state.windows.put slot none) := by
      intro cx accounted
      rw [closes window cx]
      exact accounted.closeWindow proper holds
    exact emptied.bind fun _ => Talk.leads_done fun host accounted => ⟨rfl, accounted⟩

/-- Closing a session closes all its windows. -/
theorem close_empties : Talk.Leads (Accounted left state.windows) (close state) fun after host =>
    slotPanes after.windows = [] ∧ Accounted left after.windows host := by
  have list (state : MenuState) := @closeSlot_accounted left state _ _ .list
    (fun window => Talk.request (.closeAdvancedMenu window)) fun _ _ => rfl
  have portrait (state : MenuState) := @closeSlot_accounted left state _ _ .portrait
    (fun window => Talk.request (.closePortraitBox window)) fun _ _ => rfl
  have gender (state : MenuState) := @closeSlot_accounted left state _ _ .gender
    (fun window => Talk.request (.closeSimpleMenu window)) fun _ _ => rfl
  refine (list state).bind fun first => Talk.leads_given fun listless => ?_
  refine (portrait first).bind fun second => Talk.leads_given fun boxless => ?_
  refine (gender second).weaken fun third host kept => ⟨?_, kept.2⟩
  -- Each of the three slots was emptied by one of the three talks.
  rw [kept.1, boxless, listless]
  simp [slotPanes, WindowSlots.get_put, listSlot, portraitSlot, genderSlot]

/-- Going back to the list closes the gender menu, and its slot is empty after it. -/
theorem backOut_browsing :
    Talk.Leads (Accounted left state.windows) (backOut state) (Browsing left) := by
  have emptied : Talk.Leads (Accounted left state.windows) (closeGender state) fun _ =>
      Accounted left (state.windows.put genderSlot none) := by
    unfold closeGender
    cases holds : state.windows.get genderSlot with
    | none => exact Talk.leads_done fun host accounted => by rwa [WindowSlots.put_get holds]
    | some window => exact Talk.leads_request fun cx accounted => accounted.closeWindow .gender holds
  -- The list that is resumed is open already.
  have resumes : (resumeList state).Always fun _ said => True ∧ Quiet said := by
    unfold resumeList
    cases state.windows.get listSlot <;> simp [Talk.request, Quiet, Request.windowless]
  refine emptied.bind fun _ => (leads_quiet resumes).bind fun _ => ?_
  refine Talk.leads_done fun host kept => ⟨kept.2, fun _ => ?_⟩
  exact (WindowSlots.get_put ..).trans (if_pos rfl)

/-- An answer of the gender menu leaves it open for the commit, or closes it. -/
theorem answered_browsing (choice : Int32) :
    Talk.Leads (Accounted left state.windows) (answered choice state) (Browsing left) := by
  -- The gender menu may stay open only on the way to the commit.
  have commits (after : MenuState) (windows : after.windows = state.windows) :
      Talk.Leads (Accounted left state.windows) (Talk.done (enter .commit after))
        (Browsing left) := by
    refine Talk.leads_done fun host accounted => ⟨windows ▸ accounted, fun early => ?_⟩
    rw [show Stage.ofProgress _ = Stage.commit from rfl] at early
    simp at early
  unfold answered
  split
  · exact @backOut_browsing left (state.setResult genderResult choice)
  · split
    · exact commits _ rfl
    · exact commits _ rfl

/-- Waiting for a gender keeps the windows accounted for. -/
theorem awaitGender_browsing :
    Talk.Leads (Browsing left state) (awaitGender state) (Browsing left) := by
  unfold awaitGender
  cases state.windows.get genderSlot with
  | none => exact (answered_browsing 0).mono (fun _ browsing => browsing.accounted) fun _ _ => id
  | some window =>
    intro cx browsing
    simp only [Talk.bind_eq, Talk.pure_eq_done, Talk.request, Talk.bind, Talk.hold_ask]
    -- Both questions leave the host as it is.
    split
    · exact browsing
    · exact answered_browsing _ _ browsing.accounted

/-- Every stage but the last keeps the windows accounted for. -/
theorem going_browsing {talk : Talk MenuState} (going : Going state talk) :
    Talk.Leads (Browsing left state) talk (Browsing left) := by
  -- Only choosing a form and waiting for a gender touch the gender menu.
  rcases going with browsing | choosing | waiting | committing
  · intro cx holds
    refine unmoved_browsing ((browse_unmoved state).mono fun _ _ unmoved => ⟨unmoved, .inr ?_⟩) cx
      holds
    exact holds.unasked (.inl browsing)
  · exact chooseForm_browsing choosing
  · exact awaitGender_browsing
  · exact unmoved_browsing ((commit_unmoved state).mono fun _ _ ⟨unmoved, last⟩ =>
      ⟨unmoved, .inl last⟩)

/-- What a stage keeps, an update keeps; the last update does nothing. -/
theorem update_browsing : Talk.Leads (Browsing left state) (update state) fun ended =>
    Browsing left ended.2 := by
  have goes {talk : Talk MenuState} (going : Going state talk) :
      Talk.Leads (Browsing left state) (goingOn talk) fun ended => Browsing left ended.2 :=
    (going_browsing going).bind fun _ => Talk.leads_done fun _ => id
  -- The end of the session is noticed without another request.
  unfold update
  cases stage : Stage.ofProgress state.progress
  case browse => exact goes (.browse stage)
  case chooseForm => exact goes (.chooseForm stage)
  case awaitGender => exact goes (.awaitGender stage)
  case commit => exact goes (.commit stage)
  case done => exact Talk.leads_done fun _ => id

/-- Every frame keeps the windows accounted for, and the last one closes them all. -/
theorem recruit_frame_browsing (menu : Int32) :
    Talk.Leads (Browsing left state) (TalkingMenu.recruit.frame menu state) fun ended host =>
      if ended.1 then slotPanes ended.2.windows = [] ∧ Accounted left ended.2.windows host
      else Browsing left ended.2 host := by
  have closes (after : MenuState) := @close_empties left after
  refine TalkingMenu.leads_frame
    (update_browsing.weaken fun ended host browsing => ?_) closes
  -- Only the accounting is left to the closing talk.
  split
  · exact browsing.accounted
  · exact browsing

end Recruit

/-- The menu accounts for its windows: between two frames by what is given, and at the end by closing them. -/
structure AccountsFor (menu : TalkingMenu) (between : Nat → MenuState → SimulatedHost → Prop) :
    Prop where
  steady : menu.Steady
  accounted : ∀ {left state host}, between left state host → Accounted left state.windows host
  same : ∀ {left state host other}, between left state host → host.SameWindows other →
    between left state other
  create : ∀ left id,
    Talk.Leads (Accounted left {}) (menu.create id { activeMenu := some id }) (between left)
  frame : ∀ left id state, Talk.Leads (between left state) (menu.frame id state) fun ended host =>
    if ended.1 then slotPanes ended.2.windows = [] ∧ Accounted left ended.2.windows host
    else between left ended.2 host

/-- The recruit menu accounts for its windows. -/
theorem recruit_accountsFor : AccountsFor .recruit Browsing where
  -- Between two frames, only the gender menu has to be told apart.
  steady := recruit_steady
  accounted browsing := browsing.accounted
  same browsing same := ⟨browsing.accounted.same same, browsing.unasked⟩
  create _ := create_browsing
  frame _ id _ := recruit_frame_browsing id

/-- No slot is in use, and the windows are accounted for. -/
def Unopened (left : Nat) (state : MenuState) (host : SimulatedHost) : Prop :=
  slotPanes state.windows = [] ∧ Accounted left state.windows host

/-- A menu around the keyboard has no windows of its own to account for. -/
theorem keyboard_accountsFor {act : String → MenuState → Talk MenuState}
    (acts : ∀ typed state, (act typed state).Always (Unmoved state)) :
    AccountsFor (.keyboard act) Unopened where
  steady := TalkingMenu.keyboard_steady acts
  accounted unopened := unopened.2
  same unopened same := ⟨unopened.1, unopened.2.same same⟩
  create left id cx accounted := by
    have unmoved := @TalkingMenu.keyboard_create_unmoved act id { activeMenu := some id }
    obtain ⟨windows, accounted⟩ := leads_quiet (unmoved.mono fun after said unmoved =>
      And.intro unmoved.windows unmoved.quiet) cx accounted
    exact ⟨windows ▸ slotPanes_empty, windows ▸ accounted⟩
  frame left id state cx unopened := by
    have unmoved := TalkingMenu.keyboard_frame_unmoved acts id state
    obtain ⟨windows, accounted⟩ := leads_quiet (unmoved.mono fun ended said unmoved =>
      And.intro unmoved.windows unmoved.quiet) cx unopened.2
    have kept : Unopened left ((TalkingMenu.keyboard act).frame id state |>.hold cx).value.2
        ((TalkingMenu.keyboard act).frame id state |>.hold cx).context.host :=
      ⟨windows ▸ unopened.1, windows ▸ accounted⟩
    -- Whether the session is over makes no difference to slots that are never filled.
    dsimp only
    split
    · exact kept
    · exact kept

/-- Every built-in menu accounts for its windows. -/
theorem builtin_accountsFor {first : Int32} {descriptor : MenuDescriptor SimulatedHost}
    (member : descriptor ∈ (MenuMachine.builtin first).table.records) :
    ∃ menu between, descriptor.menu = TalkingMenu.menu menu ∧ AccountsFor menu between := by
  simp only [MenuMachine.builtin, MenuMachine.new, List.mem_cons, List.not_mem_nil, or_false]
    at member
  -- The recruit menu has windows, the two around the keyboard have none.
  rcases member with rfl | rfl | rfl
  · exact ⟨_, _, rfl, recruit_accountsFor⟩
  · refine ⟨_, _, rfl, keyboard_accountsFor fun typed state => ?_⟩
    exact ⟨rfl, rfl, by simp [Quiet]⟩
  · refine ⟨_, _, rfl, keyboard_accountsFor fun typed state => ?_⟩
    exact fun _ _ _ => ⟨rfl, rfl, by simp [Quiet, Request.windowless]⟩

end DungeonHooks.Replay
