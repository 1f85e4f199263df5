import DungeonHooks.Host.Scripted
import DungeonHooks.Menu.Builtin
import DungeonHooks.Proofs.Menu.Ledger
import DungeonHooks.Proofs.Menu.Recruit.Stages

/-! A recruit session owns its windows: what it opens stands in a slot until it is closed, once. -/

namespace DungeonHooks.RecruitMenu

open Exchange Replay

section Stages

variable (state : MenuState)

/-- Showing the portrait minds the windows in the slots. -/
theorem showPortrait_minds : (showPortrait state).Always fun _ said =>
    Minds (slotPanes state.windows) said := by
  unfold showPortrait
  cases opened : state.windows.get portraitSlot with
  | none => simp [Minds]
  | some box =>
    have held := mem_slotPanes .portrait opened
    simp [Talk.request, opened?, closed?, Request.pane?, held]

/-- The list minds the windows in the slots. -/
theorem browse_minds : (browse state).Always fun _ said =>
    Minds (slotPanes state.windows) said := by
  simp only [browse, follow, pick, Talk.bind_eq, Talk.pure_eq_done, Talk.request, Talk.bind]
  cases opened : state.windows.get listSlot with
  | none =>
    exact fun _ => by simp [opened?, closed?, Request.pane?]
  | some list =>
    have held := mem_slotPanes .list opened
    intro active
    cases active with
    | true =>
      intro hovered
      dsimp only
      -- A cursor that has moved has the portrait shown, which minds its own window.
      split
      · simp [opened?, closed?, Request.pane?, held]
      · simp only [Talk.always_bind, Talk.always_done]
        refine (showPortrait_minds _).mono fun _ said minded => ?_
        simpa [opened?, closed?, Request.pane?, held] using minded
    | false =>
      intro choice
      dsimp only
      split <;> simp [opened?, closed?, Request.pane?, held]

/-- The commit is about no window. -/
theorem commit_minds : (commit state).Always fun _ said =>
    Minds (slotPanes state.windows) said := by
  -- With a free slot or without one, the roster and the journal are all it talks about.
  rintro (_ | slot)
  · exact fun _ => by simp [opened?, closed?, Request.pane?]
  · exact fun _ _ _ _ => by simp [opened?, closed?, Request.pane?]

end Stages

/-- The session is at the list, or it has just left it. -/
def Early (state : MenuState) : Prop :=
  Stage.ofProgress state.progress = .browse ∨ Stage.ofProgress state.progress = .chooseForm

/-- No gender menu is asked for. -/
def Unasking (said : List Exchange) : Prop :=
  ∀ exchange ∈ said, ∀ menu, exchange.request ≠ .createSimpleMenu menu

/-- Nothing that is said asks for nothing. -/
@[simp] theorem unasking_nil : Unasking [] :=
  List.forall_mem_nil _

/-- No gender menu is asked for if no request does. -/
@[simp] theorem unasking_cons {exchange : Exchange} {said : List Exchange} :
    Unasking (exchange :: said) ↔
      (∀ menu, exchange.request ≠ .createSimpleMenu menu) ∧ Unasking said :=
  List.forall_mem_cons

/-- Two talks ask for no gender menu if neither of them does. -/
theorem Unasking.append {said more : List Exchange} (first : Unasking said)
    (second : Unasking more) : Unasking (said ++ more) :=
  List.forall_mem_append.mpr ⟨first, second⟩

/-- What was said trades the windows in some slots for those in the slots of a state. -/
structure Traded (slots : WindowSlots) (after : MenuState) (said : List Exchange) : Prop where
  trades : Trades (slotPanes slots) said (slotPanes after.windows)
  others : ∀ slot : Nat, 2 < slot → after.windows.get slot = slots.get slot
  asked : ∀ exchange ∈ said, ∀ menu, exchange.request = .createSimpleMenu menu →
    slots.get genderSlot = none
  unasked : Early after → after.windows.get genderSlot = none

section Stages

variable {state : MenuState}

/-- A quiet talk that minds the windows leaves them where they are. -/
theorem traded_of_unmoved {after : MenuState} {said : List Exchange}
    (unmoved : Unmoved state after said) (minded : Minds (slotPanes state.windows) said)
    (unasked : Early after → state.windows.get genderSlot = none) :
    Traded state.windows after said where
  trades := by
    rw [unmoved.windows]
    exact .of_minds minded
  others slot _ := by rw [unmoved.windows]
  asked exchange member menu asked := by
    have quiet := unmoved.quiet exchange member
    rw [asked] at quiet
    contradiction
  unasked early := by rw [unmoved.windows, unasked early]

/-- A window that is opened for an empty slot, and put there, is traded for nothing. -/
theorem opening_trades {slot : Fin menuSlots} {kind : WindowKind} (proper : SlotFor slot kind)
    {slots : WindowSlots} (empty : slots.get slot = none) {exchange : Exchange}
    {window : Option WindowId} (opened : exchange.opened? = window.map (·, kind))
    (about : exchange.request.pane? = none) :
    Trades (slotPanes slots) [exchange] (slotPanes (slots.put slot window)) := by
  cases window with
  | none =>
    have unclosed : exchange.closed? = none := by
      cases closed : exchange.closed? with
      | none => rfl
      | some pane => simp [pane?_of_closed closed] at about
    rw [WindowSlots.put_get empty]
    exact .minds ⟨opened, unclosed⟩ (by simp [about]) (.done (.refl _))
  | some window => exact .opens opened (.done (slotPanes_fill proper empty window).symm)

/-- Choosing a form opens a gender menu, if it does, for an empty slot. -/
theorem chooseForm_traded (empty : state.windows.get genderSlot = none) :
    (chooseForm state).Always (Traded state.windows) := by
  simp only [chooseForm, askGender, Talk.bind_eq, Talk.pure_eq_done, Talk.request, Talk.bind]
  intro gender
  dsimp only
  -- Without a gender menu, nothing but questions leads on to the commit.
  have minded (said : List Exchange) (minds : Minds (slotPanes state.windows) said) :
      Traded state.windows (enter .commit state) said :=
    ⟨.of_minds minds, fun _ _ => rfl, fun _ _ _ _ => empty, fun _ => empty⟩
  split
  · exact minded _ (by simp [opened?, closed?, Request.pane?])
  · rintro (_ | window)
    -- A menu that is refused is no window.
    · exact fun _ => minded _ (by simp [opened?, closed?, Request.pane?])
    · have opens : Trades (slotPanes state.windows) [⟨.createSimpleMenu genderMenu, some window⟩]
          (slotPanes (state.windows.put genderSlot (some window))) :=
        opening_trades .gender empty rfl rfl
      have minds : Trades (slotPanes state.windows)
          [⟨.monsterGender (chosen state + secondFormOffset), gender⟩] (slotPanes state.windows) :=
        .of_minds (by simp [opened?, closed?, Request.pane?])
      refine ⟨minds.append opens, ?_, fun _ _ _ _ => empty, ?_⟩
      · intro slot beyond
        exact (WindowSlots.get_put ..).trans (if_neg (Nat.ne_of_lt beyond))
      · intro early
        exact absurd early (by simp [Early])

/-- Closing the gender menu leaves the windows in the other slots. -/
theorem closeGender_trades (state : MenuState) : (closeGender state).Always fun _ said =>
    Trades (slotPanes state.windows) said (slotPanes (state.windows.put genderSlot none)) ∧
      Unasking said := by
  unfold closeGender
  cases opened : state.windows.get genderSlot with
  | none => exact ⟨by rw [slotPanes_put_self opened]; exact .done (.refl _), by simp⟩
  | some window =>
    refine fun _ => ⟨.closes rfl (slotPanes_clear .gender opened) (.done (.refl _)), ?_⟩
    simp

/-- The list that waits for input again is in its slot, whatever becomes of the gender menu. -/
theorem resumeList_minds (state : MenuState) : (resumeList state).Always fun _ said =>
    Minds (slotPanes (state.windows.put genderSlot none)) said ∧
      Unasking said := by
  unfold resumeList
  cases opened : state.windows.get listSlot with
  | none => simp
  | some list =>
    have kept : (state.windows.put genderSlot none).get listSlot = some list :=
      (WindowSlots.get_put ..).trans opened
    have held := mem_slotPanes .list kept
    simp [Talk.request, opened?, closed?, Request.pane?, held]

/-- Going back to the list closes the gender menu and takes it out of its slot. -/
theorem backOut_traded : (backOut state).Always (Traded state.windows) := by
  -- By the time the list is asked to wait, the slot of the gender menu is empty.
  simp only [backOut, Talk.bind_eq, Talk.pure_eq_done, Talk.always_bind, Talk.always_done]
  refine (closeGender_trades state).mono fun _ closing closes => ?_
  refine (resumeList_minds state).mono fun _ resuming resumes => ?_
  obtain ⟨closed, unasked⟩ := closes
  obtain ⟨minded, unasked'⟩ := resumes
  rw [List.append_nil]
  refine ⟨closed.append (.of_minds minded), fun slot beyond => ?_, ?_, fun _ => ?_⟩
  · exact (WindowSlots.get_put ..).trans (if_neg (Nat.ne_of_lt beyond))
  · exact fun exchange member menu asked =>
      absurd asked (unasked.append unasked' exchange member menu)
  · exact (WindowSlots.get_put ..).trans (if_pos rfl)

/-- An answer of the gender menu leaves it open for the commit, or closes it. -/
theorem answered_traded (choice : Int32) :
    (answered choice state).Always (Traded state.windows) := by
  -- On the way to the commit, nothing is said.
  have commits (after : MenuState) (windows : after.windows = state.windows) :
      Traded state.windows (enter .commit after) [] :=
    { trades := .done (by rw [← windows]; rfl)
      others := fun _ _ => by rw [← windows]; rfl
      asked := by simp
      unasked := fun early =>
        absurd early (by simp [Early]) }
  unfold answered
  split
  · exact backOut_traded
  · split
    · exact commits _ rfl
    · exact commits _ rfl

/-- What was only minded before may come before what is traded. -/
theorem Traded.after_minds {slots : WindowSlots} {after : MenuState}
    {before said : List Exchange} (traded : Traded slots after said)
    (minded : Minds (slotPanes slots) before)
    (unasked : Unasking before) : Traded slots after (before ++ said) where
  trades := (Trades.of_minds minded).append traded.trades
  others := traded.others
  asked exchange member menu asked := by
    rcases List.mem_append.mp member with member | member
    · exact absurd asked (unasked exchange member menu)
    · exact traded.asked exchange member menu asked
  unasked := traded.unasked

/-- Waiting for a gender keeps the menu open until it is answered. -/
theorem awaitGender_traded (waiting : Stage.ofProgress state.progress = .awaitGender) :
    (awaitGender state).Always (Traded state.windows) := by
  unfold awaitGender
  cases opened : state.windows.get genderSlot with
  -- A menu that was lost reads as a cancel.
  | none => exact answered_traded 0
  | some window =>
    have held := mem_slotPanes .gender opened
    rintro (_ | _)
    · intro choice
      have minded : Minds (slotPanes state.windows)
          [⟨.simpleMenuActive window, false⟩, ⟨.simpleMenuResult window, choice⟩] := by
        simp [opened?, closed?, Request.pane?, held]
      exact (answered_traded choice).mono fun after said traded =>
        traded.after_minds minded (by simp)
    · refine ⟨.of_minds ?_, fun _ _ => rfl, ?_, fun early => ?_⟩
      · simp [opened?, closed?, Request.pane?, held]
      · simp
      · rw [Early, waiting] at early
        simp at early

/-- Every stage but the last trades the windows in the slots. -/
theorem going_traded {talk : Talk MenuState} (stage : Going state talk)
    (unasked : Early state → state.windows.get genderSlot = none) :
    talk.Always (Traded state.windows) := by
  cases stage with
  | browse stage =>
    exact ((browse_unmoved state).and (browse_minds state)).mono fun after said kept =>
      traded_of_unmoved kept.1 kept.2 fun _ => unasked (.inl stage)
  | chooseForm stage => exact chooseForm_traded (unasked (.inr stage))
  | awaitGender stage => exact awaitGender_traded stage
  | commit stage =>
    -- The commit leads to the end, so the session is at the list no more.
    refine ((commit_unmoved state).and (commit_minds state)).mono fun after said kept =>
      traded_of_unmoved kept.1.1 kept.2 fun early => ?_
    rw [Early, kept.1.2] at early
    simp at early

/-- The talk closes a window of a kind, and says nothing else. -/
def Closing (kind : WindowKind) (closing : WindowId → Talk Unit) : Prop :=
  ∀ window, (closing window).Always fun _ said =>
    ∃ exchange, said = [exchange] ∧ exchange.closed? = some (window, kind)

/-- Emptying a slot closes the window that it holds, as the kind of window that it is for. -/
theorem closeSlot_trades {slot : Fin menuSlots} {kind : WindowKind} (proper : SlotFor slot kind)
    {closing : WindowId → Talk Unit} (closes : Closing kind closing) (state : MenuState) :
    (closeSlot slot closing state).Always fun after said =>
      after.windows = state.windows.put slot none ∧
        Trades (slotPanes state.windows) said (slotPanes after.windows) ∧ Unasking said := by
  unfold closeSlot
  cases opened : state.windows.get slot with
  | none => exact ⟨(WindowSlots.put_get opened).symm, .done (.refl _), by simp⟩
  | some window =>
    simp only [Talk.bind_eq, Talk.pure_eq_done, Talk.always_bind, Talk.always_done]
    refine (closes window).mono fun _ said spoken => ?_
    obtain ⟨exchange, only, closed⟩ := spoken
    have unasked : Unasking [exchange] := by
      intro other member menu asked
      rw [List.mem_singleton.mp member] at asked
      -- What is about a window does not ask for one.
      have about := pane?_of_closed closed
      rw [asked] at about
      contradiction
    rw [only]
    exact ⟨rfl, .closes closed (slotPanes_clear proper opened) (.done (.refl _)), unasked⟩

/-- Closing a session closes the windows in its slots, and empties these. -/
theorem close_trades (state : MenuState) : (close state).Always fun after said =>
    after.windows =
        ((state.windows.put listSlot none).put portraitSlot none).put genderSlot none ∧
      Trades (slotPanes state.windows) said (slotPanes after.windows) ∧ Unasking said := by
  have list : Closing .advanced fun window => Talk.request (.closeAdvancedMenu window) :=
    fun _ _ => ⟨_, rfl, rfl⟩
  have portrait : Closing .portrait fun window => Talk.request (.closePortraitBox window) :=
    fun _ _ => ⟨_, rfl, rfl⟩
  have gender : Closing .simple fun window => Talk.request (.closeSimpleMenu window) :=
    fun _ _ => ⟨_, rfl, rfl⟩
  simp only [close, Talk.bind_eq, Talk.always_bind]
  -- Each slot is emptied on its own, whatever the session still holds in it.
  refine (closeSlot_trades .list list state).mono fun first _ kept => ?_
  refine (closeSlot_trades .portrait portrait first).mono fun second _ kept' => ?_
  refine (closeSlot_trades .gender gender second).mono fun third _ kept'' => ?_
  obtain ⟨listless, closed, asked⟩ := kept
  obtain ⟨boxless, closed', asked'⟩ := kept'
  obtain ⟨emptied, closed'', asked''⟩ := kept''
  refine ⟨by rw [emptied, boxless, listless], closed.append (closed'.append closed''), ?_⟩
  exact asked.append (asked'.append asked'')

/-- A session begins with its list and its portrait box in their slots. -/
theorem create_traded (id : Int32) :
    (create { activeMenu := some id }).Always (Traded {}) := by
  simp only [create, Talk.bind_eq, Talk.pure_eq_done, Talk.request, Talk.bind, Talk.always_ask,
    Talk.always_bind, Talk.always_done]
  intro list portrait
  let listed : WindowSlots := WindowSlots.put {} listSlot list
  have listOpens : Trades (slotPanes {}) [⟨.createAdvancedMenu speciesList, list⟩]
      (slotPanes listed) := opening_trades .list (WindowSlots.get_empty _) rfl rfl
  have boxless : listed.get portraitSlot = none :=
    (WindowSlots.get_put ..).trans (WindowSlots.get_empty _)
  have boxOpens : Trades (slotPanes listed) [⟨.createPortraitBox 0 3 true, portrait⟩]
      (slotPanes (listed.put portraitSlot portrait)) := opening_trades .portrait boxless rfl rfl
  refine (showPortrait_minds _).mono fun _ shown minded => ?_
  -- Showing the portrait comes last, with the windows in their slots.
  rw [List.append_nil]
  refine ⟨listOpens.append (boxOpens.append (.of_minds minded)), fun slot beyond => ?_, ?_, ?_⟩
  · refine (WindowSlots.get_put ..).trans ((if_neg ?_).trans
      ((WindowSlots.get_put ..).trans (if_neg ?_)))
    · exact Nat.ne_of_lt (Nat.lt_trans (by decide) beyond)
    · exact Nat.ne_of_lt (Nat.lt_trans (by decide) beyond)
  · exact fun _ _ _ _ => WindowSlots.get_empty _
  · intro _
    simp [setWindow, WindowSlots.get_put, listSlot, portraitSlot, genderSlot]

end Stages

/-- Between two frames, the windows in the slots are those traded for since the start. -/
structure Owned (state : MenuState) (said : List Exchange) : Prop where
  trades : Trades [] said (slotPanes state.windows)
  others : ∀ slot : Nat, 2 < slot → state.windows.get slot = none
  unasked : Early state → state.windows.get genderSlot = none

/-- What was traded goes on to be owned. -/
theorem Owned.later {state after : MenuState} {said more : List Exchange}
    (owned : Owned state said) (traded : Traded state.windows after more) :
    Owned after (said ++ more) where
  trades := owned.trades.append traded.trades
  others slot beyond := (traded.others slot beyond).trans (owned.others slot beyond)
  unasked := traded.unasked

/-- The session owns its windows from the start. -/
theorem create_owned (id : Int32) : (create { activeMenu := some id }).Always Owned :=
  (create_traded id).mono fun _ _ traded =>
    { trades := slotPanes_empty ▸ traded.trades
      others := fun slot beyond => (traded.others slot beyond).trans (WindowSlots.get_empty slot)
      unasked := traded.unasked }

/-- What a frame of a session leads to: the session goes on, or all its windows are closed. -/
structure Kept (state : MenuState) (ended : Bool × MenuState) (said more : List Exchange) :
    Prop where
  pending : ended.1 = false → Owned ended.2 (said ++ more)
  closed : ended.1 = true → Trades [] (said ++ more) [] ∧ ended.2.windows.isEmpty = true
  asked : ∀ exchange ∈ more, ∀ menu, exchange.request = .createSimpleMenu menu →
    state.windows.get genderSlot = none

/-- Slots that hold nothing are empty. -/
theorem isEmpty_of_get {slots : WindowSlots} (none : ∀ slot : Nat, slots.get slot = none) :
    slots.isEmpty = true := by
  rw [WindowSlots.isEmpty, Vector.all_eq_true]
  intro slot inside
  have holds := none slot
  rw [WindowSlots.get, Vector.getElem?_eq_getElem inside, Option.join_some] at holds
  rw [holds]
  rfl

/-- Every frame of a session keeps its windows, and the last one closes them. -/
theorem frame_kept (id : Int32) {state : MenuState} {said : List Exchange}
    (owned : Owned state said) : (TalkingMenu.recruit.frame id state).Always fun ended more =>
      Kept state ended said more := by
  -- A frame is a stage that goes on, or the last one with the closing talk.
  refine always_recruit_frame (fun talk stage => ?_) fun last => ?_
  · refine (going_traded stage owned.unasked).mono fun after more traded => ?_
    exact ⟨fun _ => owned.later traded, by simp, traded.asked⟩
  · refine (close_trades state).mono fun after more kept => ?_
    obtain ⟨emptied, trades, unasked⟩ := kept
    -- The slots that the session used are emptied, and the others were never filled.
    have none (slot : Nat) : after.windows.get slot = none := by
      rw [emptied]
      simp only [WindowSlots.get_put]
      split
      · rfl
      · split
        · rfl
        · split
          · rfl
          · exact owned.others slot (by simp only [listSlot, portraitSlot, genderSlot] at *; omega)
    have gone : slotPanes after.windows = [] := by simp [slotPanes, none]
    have all := owned.trades.append trades
    rw [gone] at all
    refine ⟨by simp, fun _ => ⟨all, isEmpty_of_get none⟩, fun exchange member menu asked => ?_⟩
    exact absurd asked (unasked exchange member menu)

/-- The handles of the windows that were opened are distinct. -/
def DistinctHandles (said : List Exchange) : Prop :=
  ((said.filterMap opened?).map (·.1)).Nodup

instance (said : List Exchange) : Decidable (DistinctHandles said) :=
  inferInstanceAs (Decidable (List.Nodup _))

/-- The slots hold the windows that were opened and not closed since, each in the slot for its kind. -/
structure HoldsOpen (slots : WindowSlots) (said : List Exchange) : Prop where
  used : ∀ {slot kind}, SlotFor slot kind → ∀ window, slots.get slot = some window ↔
    (window, kind) ∈ said.filterMap opened? ∧ (window, kind) ∉ said.filterMap closed?
  others : ∀ slot : Nat, 2 < slot → slots.get slot = none

/-- No request is about a window that has the handle of one closed before. -/
def SilentAfterClose (said : List Exchange) : Prop :=
  ∀ {before after exchange later pane other}, said = before ++ exchange :: after →
    exchange.closed? = some pane → later ∈ after → later.request.pane? = some other →
      other.1 ≠ pane.1

/-- Each window that was opened is closed once, and as the kind of window that it is. -/
structure ClosesAll (said : List Exchange) : Prop where
  once : ∀ pane ∈ said.filterMap opened?,
    (said.filterMap closed?).filter (·.1 == pane.1) = [pane]
  own : ∀ pane ∈ said.filterMap closed?, pane ∈ said.filterMap opened?

/-- A session owns the windows that it opens, and when it is over it has closed each of them once. -/
theorem session_owns_windows {σ : Type} [Host σ] {machine : MenuMachine σ} {id : Int32}
    {said : List Exchange} (session : TalkingMenu.recruit.Session id machine said)
    (cx : Context σ)
    (distinct : DistinctHandles (said ++ TalkingMenu.recruit.polling id machine cx)) :
    let polling := TalkingMenu.recruit.polling id machine cx
    HoldsOpen machine.state.windows said ∧ SilentAfterClose (said ++ polling) ∧
      (∀ exchange ∈ polling, ∀ menu, exchange.request = .createSimpleMenu menu →
        machine.state.windows.get genderSlot = none) ∧
      ∀ value, (machine.step id cx).answer = .ok (.done value) →
        ClosesAll (said ++ polling) ∧ (machine.step id cx).machine.state.windows.isEmpty := by
  obtain ⟨running, owned⟩ := session.invariant recruit_steady (create_owned id)
    fun _ _ owned => (frame_kept id owned).mono fun _ _ kept => kept.pending
  have kept := (frame_kept id owned).hold cx
  -- Handles that are distinct after the poll were distinct before it.
  have early : DistinctHandles said := by
    unfold DistinctHandles at distinct ⊢
    rw [List.filterMap_append, List.map_append] at distinct
    exact (List.nodup_append.mp distinct).1
  -- Whether or not the poll is the last one, all that was said since the start is a trade.
  have trades : ∃ left, Trades [] (said ++ TalkingMenu.recruit.polling id machine cx) left := by
    cases flag : ((TalkingMenu.recruit.frame id machine.state).hold cx).value.1 with
    | false => exact ⟨_, (kept.pending flag).trades⟩
    | true => exact ⟨_, (kept.closed flag).1⟩
  refine ⟨⟨?_, owned.others⟩, ?_, kept.asked, ?_⟩
  · intro slot kind proper window
    rw [← owned.trades.mem_left_iff early]
    exact (mem_slotPanes_iff proper).symm
  · intro before after exchange later pane other happened closed member about
    obtain ⟨left, trades⟩ := trades
    exact trades.silent_after_close distinct happened closed member about
  · intro value finished
    have done := ((MenuMachine.step_done_iff running cx).mp finished).1
    obtain ⟨trades, empty⟩ := kept.closed done
    rw [(MenuMachine.step_running running cx).2.1, if_pos done]
    refine ⟨⟨fun pane opened => trades.closed_once distinct opened, fun pane closed => ?_⟩, empty⟩
    exact trades.balance.mem_iff.mpr (List.mem_append_left [] closed)

/-- A frame in which the list is closed with an option that has two forms, and menus are refused or not. -/
private def pickedWith (result : Int32) (refused : Bool) : Context ScriptedHost :=
  { host :=
      { windows := [(⟨0⟩, { active := false, result })], genders := [(605, .female)],
        refusesSimple := refused, nextWindow := 2, freeSlots := [7] } }

/-- A gender menu is lost, the next one is refused, and the first form joins with all windows closed. -/
theorem lost_window_owned :
    ∃ (machine : MenuMachine ScriptedHost) (said : List Exchange) (cx : Context ScriptedHost),
      TalkingMenu.recruit.Session 80 machine said ∧
        DistinctHandles (said ++ TalkingMenu.recruit.polling 80 machine cx) ∧
        (said ++ TalkingMenu.recruit.polling 80 machine cx).filterMap opened? =
          [(⟨0⟩, .advanced), (⟨1⟩, .portrait), (⟨2⟩, .simple)] ∧
        (machine.step 80 cx).answer = .ok (.done 7) ∧
        ClosesAll (said ++ TalkingMenu.recruit.polling 80 machine cx) := by
  have opened : TalkingMenu.recruit.Session 80 ((MenuMachine.builtin 80).start 80 _).machine _ :=
    .started rfl rfl { host := ({} : ScriptedHost) }
  -- The gender menu of the first pick is gone by the next frame, which reads as a cancel.
  have picked := opened.polled (pickedWith 4 false) (by decide +kernel)
  have asked := picked.polled (pickedWith 4 false) (by decide +kernel)
  have lost := asked.polled (pickedWith 4 false) (by decide +kernel)
  have pickedAgain := lost.polled (pickedWith 4 true) (by decide +kernel)
  have refused := pickedAgain.polled (pickedWith 4 true) (by decide +kernel)
  have joined := refused.polled (pickedWith 4 true) (by decide +kernel)
  refine ⟨_, _, pickedWith 4 true, joined, ?distinct, by decide +kernel, ?finished,
    ((session_owns_windows joined (pickedWith 4 true) ?distinct).2.2.2 7 ?finished).1⟩
  case distinct => decide +kernel
  case finished => decide +kernel

end DungeonHooks.RecruitMenu
