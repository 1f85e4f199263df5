import Mathlib.Data.List.Destutter
import DungeonHooks.Host.Scripted
import DungeonHooks.Menu.Builtin
import DungeonHooks.Proofs.Menu.Recruit.Stages

/-! The portrait of a recruit session follows the cursor: it is shown once for each option that the cursor moves to. -/

namespace DungeonHooks

namespace Exchange

/-- The option that the cursor was seen on. -/
def hovered? : Exchange → Option Int32
  | ⟨.advancedMenuOption _, option⟩ => some option
  | _ => none

/-- The species whose portrait was shown. -/
def shown? : Exchange → Option Int32
  | ⟨.showPortrait _ portrait, _⟩ => some portrait.monsterId
  | _ => none

/-- The answer to the opening of a portrait box. -/
def boxOpened? : Exchange → Option (Option WindowId)
  | ⟨.createPortraitBox .., window⟩ => some window
  | _ => none

end Exchange

namespace RecruitMenu

open Exchange

section Cursor

/-- The options that differ from the one before them; before the first, there was another one. -/
def moved : Int32 → List Int32 → List Int32
  | _, [] => []
  | before, option :: rest =>
    if option = before then moved option rest else option :: moved option rest

variable (before : Int32) (options : List Int32)

/-- One more option is one that the cursor moved to, unless it was there already. -/
theorem moved_concat (option : Int32) :
    moved before (options ++ [option]) =
      moved before options ++ if option = options.getLastD before then [] else [option] := by
  -- The option before changes along the list, so the induction is for all of them.
  induction options generalizing before with
  | nil => simp [moved]
  | cons first rest ih =>
    rw [List.cons_append, moved, moved, ih, List.getLastD_cons]
    split <;> simp

/-- The last option that the cursor moved to is the last that it was seen on. -/
theorem getLast?_moved : (before :: moved before options).getLast? =
    some (options.getLastD before) := by
  induction options generalizing before with
  | nil => rfl
  | cons option rest ih =>
    rw [moved, List.getLastD_cons, ← ih option]
    split
    case isTrue same => rw [same]
    case isFalse => exact List.getLast?_cons_cons

/-- With the one before the first, these are the options without repetitions in a row. -/
theorem cons_moved : before :: moved before options = options.destutter' (· ≠ ·) before := by
  induction options generalizing before with
  | nil => rfl
  | cons option rest ih =>
    rw [moved, List.destutter'_cons]
    by_cases same : option = before
    · simp [same, ih]
    · simp [same, Ne.symm same, ih]

/-- An option that is not the greatest number has a number behind it. -/
theorem toInt_add_one {option : Int32} (small : option < Int32.maxValue) :
    (option + 1).toInt = option.toInt + 1 := by
  have above : option.toInt < 2147483647 := Int32.lt_iff_toInt_lt.mp small
  have below := option.le_toInt
  rw [Int32.toInt_add, Int32.toInt_one]
  exact Int.bmod_eq_of_le (by omega) (by omega)

end Cursor

/-- What concerns the portrait: where the cursor is, the box, and what is shown in it. -/
def concerns : Request → Bool
  | .advancedMenuOption _ | .createPortraitBox .. | .showPortrait .. => true
  | _ => false

/-- Nothing is said that concerns the portrait. -/
def Aside (more : List Exchange) : Prop :=
  ∀ exchange ∈ more, concerns exchange.request = false

section Aside

variable {exchange : Exchange} {said more : List Exchange}

/-- Nothing that is said concerns nothing. -/
@[simp] theorem aside_nil : Aside [] :=
  List.forall_mem_nil _

/-- The portrait is left aside if every request leaves it aside. -/
@[simp] theorem aside_cons :
    Aside (exchange :: more) ↔ concerns exchange.request = false ∧ Aside more :=
  List.forall_mem_cons

/-- Two talks leave the portrait aside if both of them do. -/
@[simp] theorem aside_append : Aside (said ++ more) ↔ Aside said ∧ Aside more :=
  List.forall_mem_append

namespace Aside

variable (aside : Aside more)

include aside

/-- What only such requests can tell is not told. -/
theorem filterMap_eq_nil {α : Type} {told? : Exchange → Option α}
    (quiet : ∀ exchange, concerns exchange.request = false → told? exchange = none) :
    more.filterMap told? = [] :=
  List.filterMap_eq_nil_iff.mpr fun exchange member => quiet exchange (aside exchange member)

/-- The cursor is not looked for. -/
theorem hovered : more.filterMap hovered? = [] :=
  aside.filterMap_eq_nil fun ⟨request, _⟩ quiet => by
    cases request <;> first | rfl | cases quiet

/-- No portrait is shown. -/
theorem shown : more.filterMap shown? = [] :=
  aside.filterMap_eq_nil fun ⟨request, _⟩ quiet => by
    cases request <;> first | rfl | cases quiet

/-- No portrait box is opened. -/
theorem boxes : more.filterMap boxOpened? = [] :=
  aside.filterMap_eq_nil fun ⟨request, _⟩ quiet => by
    cases request <;> first | rfl | cases quiet

end Aside

end Aside

/-- The portrait and the cursor stay as they were, and nothing is said about them. -/
structure Undrawn (state after : MenuState) (more : List Exchange) : Prop where
  portrait : after.portrait = state.portrait
  cursor : after.previousOption = state.previousOption
  aside : Aside more

/-- The portrait box stays in its slot too. -/
structure Resting (state after : MenuState) (more : List Exchange) : Prop extends
    Undrawn state after more where
  box : after.windows.get portraitSlot = state.windows.get portraitSlot

section Resting

variable {state after : MenuState} {said more : List Exchange}

/-- What is left aside may be said before. -/
theorem Resting.after_aside (resting : Resting state after more) (aside : Aside said) :
    Resting state after (said ++ more) :=
  ⟨⟨resting.portrait, resting.cursor, aside_append.mpr ⟨aside, resting.aside⟩⟩, resting.box⟩

/-- The slot of the gender menu is not that of the portrait box. -/
theorem get_portraitSlot_genderSlot (window : Option WindowId) (slots : WindowSlots) :
    (slots.put genderSlot window).get portraitSlot = slots.get portraitSlot :=
  (WindowSlots.get_put ..).trans (if_neg (by decide))

end Resting

section Stages

variable (state : MenuState)

/-- Taking the result of the list leaves the portrait as it is. -/
theorem pick_resting (list : WindowId) : (pick list state).Always (Resting state) := by
  simp only [pick, Talk.bind_eq, Talk.pure_eq_done, Talk.request, Talk.bind]
  intro choice
  dsimp only
  split <;> exact ⟨⟨rfl, rfl, by simp [concerns]⟩, rfl⟩

/-- Choosing a form fills the slot of the gender menu, if any. -/
theorem chooseForm_resting : (chooseForm state).Always (Resting state) := by
  simp only [chooseForm, askGender, Talk.bind_eq, Talk.pure_eq_done, Talk.request, Talk.bind]
  intro gender
  dsimp only
  split
  · exact ⟨⟨rfl, rfl, by simp [concerns]⟩, rfl⟩
  · rintro (_ | window)
    · exact fun _ => ⟨⟨rfl, rfl, by simp [concerns]⟩, rfl⟩
    · exact ⟨⟨rfl, rfl, by simp [concerns]⟩, get_portraitSlot_genderSlot ..⟩

/-- Closing the gender menu does not concern the portrait. -/
theorem closeGender_aside : (closeGender state).Always fun _ more => Aside more := by
  unfold closeGender
  cases state.windows.get genderSlot with
  | none => simp
  | some window => simp [Talk.request, concerns]

/-- Nor does it that the list waits for input again. -/
theorem resumeList_aside : (resumeList state).Always fun _ more => Aside more := by
  unfold resumeList
  cases state.windows.get listSlot with
  | none => simp
  | some list => simp [Talk.request, concerns]

/-- An answer of the gender menu empties its slot, if any. -/
theorem answered_resting (choice : Int32) : (answered choice state).Always (Resting state) := by
  unfold answered
  split
  · simp only [backOut, Talk.bind_eq, Talk.pure_eq_done, Talk.always_bind, Talk.always_done]
    refine (closeGender_aside _).mono fun _ closing closed => ?_
    refine (resumeList_aside _).mono fun _ resuming resumed => ?_
    exact ⟨⟨rfl, rfl, by simp [closed, resumed]⟩, get_portraitSlot_genderSlot ..⟩
  · split <;> exact ⟨⟨rfl, rfl, aside_nil⟩, rfl⟩

/-- So does waiting for a gender. -/
theorem awaitGender_resting : (awaitGender state).Always (Resting state) := by
  unfold awaitGender
  cases state.windows.get genderSlot with
  | none => exact answered_resting state 0
  | some window =>
    rintro (_ | _)
    · intro choice
      have asked : Aside [⟨.simpleMenuActive window, false⟩, ⟨.simpleMenuResult window, choice⟩] :=
        by simp [concerns]
      exact (answered_resting state choice).mono fun _ _ resting => resting.after_aside asked
    · exact ⟨⟨rfl, rfl, by simp [concerns]⟩, rfl⟩

/-- The commit is about the roster. -/
theorem commit_resting : (commit state).Always (Resting state) := by
  rintro (_ | slot)
  · exact fun _ => ⟨⟨rfl, rfl, by simp [concerns]⟩, rfl⟩
  · exact fun _ _ _ _ => ⟨⟨rfl, rfl, by simp [concerns]⟩, rfl⟩

/-- Emptying a slot leaves the portrait as it is, be it without its box. -/
theorem closeSlot_undrawn {slot : Fin menuSlots} {closing : WindowId → Talk Unit}
    (quiet : ∀ window, (closing window).Always fun _ more => Aside more) :
    (closeSlot slot closing state).Always (Undrawn state) := by
  unfold closeSlot
  cases state.windows.get slot with
  | none => exact ⟨rfl, rfl, aside_nil⟩
  | some window =>
    simp only [Talk.bind_eq, Talk.always_bind, Talk.pure_eq_done, Talk.always_done]
    exact (quiet window).mono fun _ more aside => ⟨rfl, rfl, by simpa using aside⟩

/-- Closing a session shows nothing more. -/
theorem close_undrawn : (close state).Always (Undrawn state) := by
  simp only [close, Talk.bind_eq, Talk.always_bind]
  refine (closeSlot_undrawn state ?_).mono fun first list kept => ?_
  · simp [Talk.request, concerns]
  refine (closeSlot_undrawn first ?_).mono fun second portrait kept' => ?_
  · simp [Talk.request, concerns]
  refine (closeSlot_undrawn second ?_).mono fun third gender kept'' => ?_
  · simp [Talk.request, concerns]
  -- Each of the three keeps what the one before it kept.
  exact ⟨kept''.portrait.trans (kept'.portrait.trans kept.portrait),
    kept''.cursor.trans (kept'.cursor.trans kept.cursor),
    by simp [kept.aside, kept'.aside, kept''.aside]⟩

/-- In every stage but that of the list, the portrait is left as it is. -/
theorem frame_undrawn (id : Int32) (elsewhere : Stage.ofProgress state.progress ≠ .browse) :
    (TalkingMenu.recruit.frame id state).Always fun ended more => Undrawn state ended.2 more := by
  refine always_recruit_frame (fun talk going => ?_) fun _ => close_undrawn state
  cases going with
  | browse stage => exact absurd stage elsewhere
  | chooseForm => exact (chooseForm_resting state).mono fun _ _ resting => resting.toUndrawn
  | awaitGender => exact (awaitGender_resting state).mono fun _ _ resting => resting.toUndrawn
  | commit => exact (commit_resting state).mono fun _ _ resting => resting.toUndrawn

/-- The portrait is shown in its box, if there is one, and nothing else is said. -/
theorem showPortrait_shows : (showPortrait state).Always fun _ more =>
    more.filterMap hovered? = [] ∧ more.filterMap boxOpened? = [] ∧
      more.filterMap shown? =
        if (state.windows.get portraitSlot).isSome then [state.portrait.monsterId] else [] := by
  unfold showPortrait
  cases state.windows.get portraitSlot with
  | none => simp
  | some box => simp [Talk.request, hovered?, boxOpened?, shown?]

end Stages

/-- The portrait is that of the option that the cursor is on, and each option that the cursor moved to was shown in the box that the session got, if any. -/
structure Draws (box : Option WindowId) (state : MenuState) (said : List Exchange) : Prop where
  monster : state.portrait.monsterId = state.previousOption + 1
  cursor : state.previousOption = (said.filterMap hovered?).getLastD 0
  boxes : said.filterMap boxOpened? = [box]
  shown : said.filterMap shown? =
    if box.isSome then 1 :: (moved 0 (said.filterMap hovered?)).map (· + 1) else []

/-- Between two frames, the box is in its slot. -/
def Drawn (state : MenuState) (said : List Exchange) : Prop :=
  Draws (state.windows.get portraitSlot) state said

section Drawn

variable {state after : MenuState} {said more : List Exchange}

/-- As long as nothing is said about the portrait, nothing new has been shown. -/
theorem Draws.undrawn {box : Option WindowId} (draws : Draws box state said)
    (undrawn : Undrawn state after more) : Draws box after (said ++ more) := by
  obtain ⟨portrait, cursor, aside⟩ := undrawn
  constructor
  · rw [portrait, cursor, draws.monster]
  · rw [cursor, List.filterMap_append, aside.hovered, List.append_nil, draws.cursor]
  · rw [List.filterMap_append, aside.boxes, List.append_nil, draws.boxes]
  · simp only [List.filterMap_append, aside.hovered, aside.shown, List.append_nil, draws.shown]

/-- Nor has it if the box stays in its slot. -/
theorem Drawn.resting (drawn : Drawn state said) (resting : Resting state after more) :
    Drawn after (said ++ more) := by
  rw [Drawn, resting.box]
  exact Draws.undrawn drawn resting.toUndrawn

/-- The option that the cursor is seen on is shown if it is another one than before. -/
theorem Drawn.hovering {option : Int32} (drawn : Drawn state said)
    (seen : more.filterMap hovered? = [option]) (unopened : more.filterMap boxOpened? = [])
    (shown : more.filterMap shown? =
      if (state.windows.get portraitSlot).isSome ∧ option ≠ state.previousOption then [option + 1]
      else [])
    (monster : after.portrait.monsterId = option + 1) (cursor : after.previousOption = option)
    (windows : after.windows = state.windows) : Drawn after (said ++ more) where
  monster := by rw [monster, cursor]
  cursor := by rw [cursor, List.filterMap_append, seen, List.getLastD_concat]
  boxes := by rw [List.filterMap_append, unopened, List.append_nil, drawn.boxes, windows]
  shown := by
    -- The cursor was last on the previous option, which the new one is compared with.
    rw [List.filterMap_append, List.filterMap_append, seen, moved_concat, ← drawn.cursor, shown,
      drawn.shown, windows]
    cases state.windows.get portraitSlot with
    | none => simp
    | some box => by_cases same : option = state.previousOption <;> simp [same]

/-- Following the cursor shows the portrait whenever the cursor has moved. -/
theorem follow_drawn (list : WindowId) (drawn : Drawn state said) :
    (follow list state).Always fun after more =>
      Drawn after (said ++ (⟨.advancedMenuActive list, true⟩ :: more)) := by
  simp only [follow, Talk.bind_eq, Talk.pure_eq_done, Talk.request, Talk.bind, Talk.always_ask]
  intro hovered
  split
  case isTrue same =>
    have same : hovered = state.previousOption := beq_iff_eq.mp same
    refine drawn.hovering rfl rfl ?_ ?_ same.symm rfl
    · exact (if_neg fun moved => moved.2 same).symm
    · rw [same, drawn.monster]
  case isFalse other =>
    have other : hovered ≠ state.previousOption := fun same => other (beq_iff_eq.mpr same)
    simp only [Talk.always_bind, Talk.always_done]
    refine (showPortrait_shows _).mono fun _ more shows => ?_
    obtain ⟨unseen, unopened, shown⟩ := shows
    rw [List.append_nil]
    refine drawn.hovering ?_ unopened (shown.trans ?_) rfl rfl rfl
    · exact congrArg (hovered :: ·) unseen
    · simp [other]

/-- A frame of the list follows the cursor, or leaves the portrait as it is. -/
theorem browse_drawn (drawn : Drawn state said) :
    (browse state).Always fun after more => Drawn after (said ++ more) := by
  unfold browse
  cases state.windows.get listSlot with
  | none => exact fun _ => drawn.resting ⟨⟨rfl, rfl, by simp [concerns]⟩, rfl⟩
  | some list =>
    intro active
    cases active with
    | true => exact follow_drawn list drawn
    | false =>
      have asked : Aside [⟨.advancedMenuActive list, false⟩] := by simp [concerns]
      exact (pick_resting state list).mono fun _ _ resting =>
        drawn.resting (resting.after_aside asked)

/-- Every stage but the last keeps what is drawn. -/
theorem going_drawn (drawn : Drawn state said) {talk : Talk MenuState} (stage : Going state talk) :
    talk.Always fun after more => Drawn after (said ++ more) := by
  cases stage with
  | browse => exact browse_drawn drawn
  | chooseForm => exact (chooseForm_resting state).mono fun _ _ => drawn.resting
  | awaitGender => exact (awaitGender_resting state).mono fun _ _ => drawn.resting
  | commit => exact (commit_resting state).mono fun _ _ => drawn.resting

/-- A frame keeps what is drawn, and the last one gives up no more than the box. -/
theorem frame_drawn (id : Int32) (drawn : Drawn state said) :
    (TalkingMenu.recruit.frame id state).Always fun ended more =>
      (ended.1 = false → Drawn ended.2 (said ++ more)) ∧
        (ended.1 = true → Draws (state.windows.get portraitSlot) ended.2 (said ++ more)) := by
  -- Only the stage that closes the session takes the box out of its slot.
  refine always_recruit_frame (fun talk stage => ?_) fun _ => ?_
  · exact (going_drawn drawn stage).mono fun after more drawn => ⟨fun _ => drawn, nofun⟩
  · exact (close_undrawn state).mono fun after more undrawn =>
      ⟨nofun, fun _ => Draws.undrawn drawn undrawn⟩

/-- A session begins with the first species in its box, if it gets one, and the cursor before it. -/
theorem create_drawn (id : Int32) : (create { activeMenu := some id }).Always Drawn := by
  simp only [create, Talk.bind_eq, Talk.pure_eq_done, Talk.request, Talk.bind, Talk.always_ask,
    Talk.always_bind, Talk.always_done]
  intro list portrait
  refine (showPortrait_shows _).mono fun _ more shows => ?_
  obtain ⟨unseen, unopened, shown⟩ := shows
  let listed : WindowSlots := WindowSlots.put {} listSlot list
  have box : (listed.put portraitSlot portrait).get portraitSlot = portrait :=
    (WindowSlots.get_put ..).trans (if_pos rfl)
  rw [List.append_nil]
  -- Whatever was said before the portrait was shown, the cursor was not looked for.
  refine ⟨rfl, ?_, ?_, shown.trans (if_congr Iff.rfl (congrArg (1 :: ·) ?_) rfl)⟩
  · exact congrArg (List.getLastD · 0) unseen.symm
  · exact (congrArg (portrait :: ·) unopened).trans (congrArg (fun window => [window]) box.symm)
  · exact congrArg (fun options => (moved 0 options).map (· + 1)) unseen.symm

end Drawn

section Browsed

variable {σ : Type} [Host σ]

/-- The option that the cursor is on in a frame in which the list is open and active; there is none in any other frame. -/
def browsed (state : MenuState) (host : σ) : List Int32 :=
  match Stage.ofProgress state.progress, state.windows.get listSlot with
  | .browse, some list =>
    if Host.advancedMenuActive host list then [Host.advancedMenuOption host list] else []
  | _, _ => []

/-- Following the cursor looks for it once. -/
theorem follow_hovered (list : WindowId) (state : MenuState) (cx : Context σ) :
    ((follow list state).hold cx).transcript.filterMap hovered? =
      [Host.advancedMenuOption cx.host list] := by
  have sees : ((follow list state).hold cx).transcript.filterMap hovered? =
      Host.advancedMenuOption cx.host list :: _ := List.filterMap_cons_some rfl
  rw [sees, List.cons_inj_right]
  dsimp only [Talk.request, Talk.bind, Request.serve]
  split
  case isTrue => rfl
  case isFalse =>
    -- Showing the portrait is all that follows.
    rw [Talk.bind_eq, Talk.hold_bind, List.filterMap_append, ((showPortrait_shows _).hold cx).1]
    rfl

/-- A frame looks for the cursor if the list is active, and then once. -/
theorem frame_hovered (id : Int32) (state : MenuState) (cx : Context σ) :
    ((TalkingMenu.recruit.frame id state).hold cx).transcript.filterMap hovered? =
      browsed state cx.host := by
  by_cases stage : Stage.ofProgress state.progress = .browse
  · have browsing : ((TalkingMenu.recruit.frame id state).hold cx).transcript =
        ((browse state).hold cx).transcript := by
      simp [TalkingMenu.frame, TalkingMenu.recruit, update, stage, goingOn, Talk.hold_bind]
    rw [browsing]
    simp only [browsed, stage]
    unfold browse
    cases state.windows.get listSlot with
    | none => rfl
    | some list =>
      -- Whether the list is active is asked first.
      refine (List.filterMap_cons_none rfl).trans ?_
      dsimp only [Talk.request, Talk.bind, Request.serve]
      split
      case isTrue => exact follow_hovered list state cx
      case isFalse => exact ((pick_resting state list).hold cx).aside.hovered
  · have none : browsed state cx.host = [] := by
      unfold browsed
      split
      case h_1 browsing _ => exact absurd browsing stage
      case h_2 => rfl
    rw [none]
    exact ((frame_undrawn state id stage).hold cx).aside.hovered

end Browsed

/-- The first species was shown, and then that of each option that the cursor moved to, never one twice in a row, up to the one it is on. -/
structure Redrawn (state : MenuState) (said : List Exchange) : Prop where
  shown : (said.filterMap shown?).map Int32.toInt =
    1 :: (moved 0 (said.filterMap hovered?)).map (·.toInt + 1)
  changing : (said.filterMap shown?).IsChain (· ≠ ·)
  last : (said.filterMap shown?).getLast? = some state.portrait.monsterId

/-- The portrait is that of the option that the cursor is on, and a box, if the session got one, was shown it whenever it changed. -/
structure FollowsCursor (state : MenuState) (said : List Exchange) : Prop where
  monster : state.portrait.monsterId.toInt = state.previousOption.toInt + 1
  boxed : ∀ box, some box ∈ said.filterMap boxOpened? → Redrawn state said
  boxless : none ∈ said.filterMap boxOpened? → said.filterMap shown? = []

section Follows

variable {box : Option WindowId} {state : MenuState} {said : List Exchange}

/-- What is shown in a box are the options that the cursor moved to, each with its species. -/
theorem Draws.redrawn (draws : Draws box state said) (opened : box.isSome = true)
    (small : ∀ option ∈ 0 :: said.filterMap hovered?, option < Int32.maxValue) :
    Redrawn state said := by
  have shown : said.filterMap shown? = (0 :: moved 0 (said.filterMap hovered?)).map (· + 1) :=
    draws.shown.trans (if_pos opened)
  -- What the cursor moved to is some of what it was seen on, without repetitions in a row.
  constructor
  · have seen (option : Int32) (member : option ∈ 0 :: moved 0 (said.filterMap hovered?)) :
        option < Int32.maxValue := by
      rw [cons_moved] at member
      exact small option ((List.destutter'_sublist ..).subset member)
    rw [shown, List.map_map]
    exact List.map_congr_left fun option member => toInt_add_one (seen option member)
  · rw [shown, cons_moved, List.isChain_map]
    refine (List.isChain_destutter' _ _ _).imp fun first second other same => ?_
    exact other ((Int32.add_left_inj 1).mp same)
  · rw [shown, List.getLast?_map, getLast?_moved, ← draws.cursor, draws.monster]
    rfl

/-- With options that have a species, what is drawn follows the cursor. -/
theorem Draws.followsCursor (draws : Draws box state said)
    (small : ∀ option ∈ said.filterMap hovered?, option < Int32.maxValue) :
    FollowsCursor state said := by
  -- The cursor starts on an option that has a species as well.
  have small : ∀ option ∈ 0 :: said.filterMap hovered?, option < Int32.maxValue :=
    List.forall_mem_cons.mpr ⟨by decide, small⟩
  constructor
  · rw [draws.monster]
    refine toInt_add_one (small _ ?_)
    rw [draws.cursor]
    exact List.getLastD_mem_cons ..
  · intro window opened
    rw [draws.boxes, List.mem_singleton] at opened
    exact draws.redrawn (by rw [← opened]; rfl) small
  · intro refused
    rw [draws.boxes, List.mem_singleton] at refused
    rw [draws.shown, ← refused]
    rfl

end Follows

/-- Through all frames of a recruit session the portrait follows the cursor, which is looked for in the frames of an active list; all other frames leave the portrait alone. -/
theorem portrait_follows_cursor {σ : Type} [Host σ] {machine : MenuMachine σ} {id : Int32}
    {said : List Exchange} (session : TalkingMenu.recruit.Session id machine said)
    (small : ∀ option ∈ said.filterMap hovered?, option < Int32.maxValue) (cx : Context σ) :
    let after := (machine.step id cx).machine.state
    let more := TalkingMenu.recruit.polling id machine cx
    FollowsCursor machine.state said ∧
      more.filterMap hovered? = browsed machine.state cx.host ∧
      (Stage.ofProgress machine.state.progress ≠ .browse → Undrawn machine.state after more) ∧
      ((∀ option ∈ more.filterMap hovered?, option < Int32.maxValue) →
        FollowsCursor after (said ++ more)) := by
  intro after more
  obtain ⟨running, drawn⟩ := session.invariant recruit_steady (create_drawn id)
    fun _ _ drawn => (frame_drawn id drawn).mono fun _ _ kept => kept.1
  let held := (TalkingMenu.recruit.frame id machine.state).hold cx
  -- The state is that of the frame, but for the mark that a session loses when it ends.
  have settled : Undrawn held.value.2 after [] := by
    have stepped := congrArg MenuMachine.state (MenuMachine.step_running running cx).2.1
    dsimp only at stepped
    split at stepped
    · exact ⟨congrArg (·.portrait) stepped, congrArg (·.previousOption) stepped, aside_nil⟩
    · exact ⟨congrArg (·.portrait) stepped, congrArg (·.previousOption) stepped, aside_nil⟩
  refine ⟨drawn.followsCursor small, frame_hovered id machine.state cx, ?_, ?_⟩
  · intro elsewhere
    have undrawn := (frame_undrawn machine.state id elsewhere).hold cx
    exact ⟨settled.portrait.trans undrawn.portrait, settled.cursor.trans undrawn.cursor,
      undrawn.aside⟩
  · intro small'
    have draws : ∃ box, Draws box held.value.2 (said ++ more) := by
      obtain ⟨goes, ends⟩ := (frame_drawn id drawn).hold cx
      cases ended : held.value.1 with
      | false => exact ⟨_, goes ended⟩
      | true => exact ⟨_, ends ended⟩
    obtain ⟨box, draws⟩ := draws
    have draws := draws.undrawn settled
    rw [List.append_nil] at draws
    refine draws.followsCursor ?_
    rw [List.filterMap_append]
    exact List.forall_mem_append.mpr ⟨small, small'⟩

/-- A frame in which the cursor is on an option of the list. -/
private def hovering (option : Int32) : Context ScriptedHost :=
  { host := { windows := [(⟨0⟩, { option })] } }

/-- A frame in which a window has been left with a result. -/
private def leaving (window result : Int32) : Context ScriptedHost :=
  { host := { windows := [(⟨window⟩, { active := false, result })] } }

/-- The cursor stays where it was while a gender menu is backed out of, and nothing is shown again. -/
theorem backed_out_followed :
    ∃ (machine : MenuMachine ScriptedHost) (said : List Exchange) (cx : Context ScriptedHost),
      TalkingMenu.recruit.Session 80 machine said ∧
        said.filterMap hovered? = [4, 4, 4, 0] ∧ said.filterMap shown? = [1, 5, 1] ∧
        FollowsCursor machine.state said ∧
        FollowsCursor (machine.step 80 cx).machine.state
          (said ++ TalkingMenu.recruit.polling 80 machine cx) := by
  -- Options are looked at one by one, as there are too many to decide about all of them.
  have small {options : List Int32} (each : options.all (· < Int32.maxValue) = true) :
      ∀ option ∈ options, option < Int32.maxValue := by
    simpa only [List.all_eq_true, decide_eq_true_eq] using each
  have opened : TalkingMenu.recruit.Session 80 ((MenuMachine.builtin 80).start 80 _).machine _ :=
    .started rfl rfl { host := ({} : ScriptedHost) }
  have came := opened.polled (hovering 4) (by decide +kernel)
  have stayed := came.polled (hovering 4) (by decide +kernel)
  -- The species is picked, and its gender menu is closed with a cancel.
  have picked := stayed.polled (leaving 0 4) (by decide +kernel)
  have asked := picked.polled { host := { genders := [(605, .female)], nextWindow := 2 } }
    (by decide +kernel)
  have backedOut := asked.polled (leaving 2 (-1)) (by decide +kernel)
  have found := backedOut.polled (hovering 4) (by decide +kernel)
  have returned := found.polled (hovering 0) (by decide +kernel)
  obtain ⟨follows, -, -, later⟩ :=
    portrait_follows_cursor returned (small (by decide +kernel)) (hovering 7)
  exact ⟨_, _, hovering 7, returned, by decide +kernel, by decide +kernel, follows,
    later (small (by decide +kernel))⟩

end RecruitMenu

end DungeonHooks
