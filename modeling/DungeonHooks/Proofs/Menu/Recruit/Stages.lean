import DungeonHooks.Proofs.Menu.Recruit.Words
import DungeonHooks.Proofs.Menu.Session

/-! Every stage of a recruit session keeps what the session stands on. -/

namespace DungeonHooks.RecruitMenu

open Exchange

/-- Going on to a stage marks the state with it. -/
@[simp] theorem stage_enter (stage : Stage) (state : MenuState) :
    Stage.ofProgress (enter stage state).progress = stage := by
  cases stage <;> rfl

/-- Showing the portrait bears on nothing. -/
theorem showPortrait_passing (state : MenuState) :
    (showPortrait state).Always fun _ more => Passing more := by
  -- The portrait is shown only if its box could be opened.
  unfold showPortrait
  cases state.windows.get portraitSlot with
  | none => simp [Passing]
  | some box => simp [Talk.request, Passing, bears]

/-- A session begins at the list, with nothing decided. -/
theorem create_stands (id : Int32) :
    (create { activeMenu := some id }).Always Stands := by
  simp only [create, Talk.bind_eq, Talk.pure_eq_done, Talk.request, Talk.bind, Talk.always_ask,
    Talk.always_bind, Talk.always_done]
  intro list portrait
  -- List and box may be refused; only a refused list is told by the slots.
  refine (showPortrait_passing _).mono fun _ more shown => ?_
  have passing : Passing (⟨.createPortraitBox 0 3 true, portrait⟩ :: (more ++ [])) := by
    simpa [Passing, bears] using shown
  have unpicked : lastPick (⟨.createAdvancedMenu speciesList, list⟩ ::
      ⟨.createPortraitBox 0 3 true, portrait⟩ :: (more ++ [])) = none := by
    rw [lastPick_eq_none_iff, List.filterMap_cons, passing.picks]; rfl
  have undecided := passing.undecided
  refine ⟨?_, ?_, ⟨undecided.searched, undecided.recruited, undecided.joined⟩⟩
  · rw [ListRefused, List.filterMap_cons, passing.lists]
    simp [setWindow, WindowSlots.get_put, listSlot, portraitSlot, listOpened?, eq_comm]
  · rw [unpicked]
    simp

/-- The stages that are not the last, each with its talk. -/
inductive Going (state : MenuState) : Talk MenuState → Prop where
  | browse (stage : Stage.ofProgress state.progress = .browse) : Going state (browse state)
  | chooseForm (stage : Stage.ofProgress state.progress = .chooseForm) :
      Going state (chooseForm state)
  | awaitGender (stage : Stage.ofProgress state.progress = .awaitGender) :
      Going state (awaitGender state)
  | commit (stage : Stage.ofProgress state.progress = .commit) : Going state (commit state)

/-- A frame runs a stage that goes on, or it closes the session. -/
theorem always_recruit_frame {id : Int32} {state : MenuState}
    {post : Bool × MenuState → List Exchange → Prop}
    (going : ∀ talk, Going state talk → talk.Always fun after said => post (false, after) said)
    (closing : Stage.ofProgress state.progress = .done →
      (close state).Always fun after said => post (true, after) said) :
    (TalkingMenu.recruit.frame id state).Always post := by
  rw [TalkingMenu.always_frame]
  simp only [TalkingMenu.recruit, update]
  -- One case for each stage; all of them but the last are taken alike.
  cases stage : Stage.ofProgress state.progress with
  | browse => simpa [goingOn] using going _ (.browse stage)
  | chooseForm => simpa [goingOn] using going _ (.chooseForm stage)
  | awaitGender => simpa [goingOn] using going _ (.awaitGender stage)
  | commit => simpa [goingOn] using going _ (.commit stage)
  | done => simpa using closing stage

section Stages

variable {state : MenuState} {said : List Exchange}

/-- Following the cursor changes nothing that a session stands on. -/
theorem follow_stands (before : List Exchange) (list : WindowId) (stands : Stands state said)
    (browsing : Stage.ofProgress state.progress = .browse) (passing : Passing before) :
    (follow list state).Always fun after more => Stands after (said ++ (before ++ more)) := by
  -- The cursor is read, and the portrait is shown if it has moved.
  have kept (hovered : Int32) {more : List Exchange} (quiet : Passing more) (portrait : Portrait) :
      Stands { state with previousOption := hovered, portrait } (said ++ (before ++ more)) := by
    have quiet : Passing (before ++ more) := List.forall_mem_append.mpr ⟨passing, quiet⟩
    refine stands.later rfl quiet.unrefused ?_ ?_
    · simp [lastPick_eq_none_iff.mpr quiet.picks]
    · have told := stands.told
      simp only [Told, browsing] at told ⊢
      exact told.passing quiet
  simp only [follow, Talk.bind_eq, Talk.pure_eq_done, Talk.request, Talk.bind, Talk.always_ask]
  intro hovered
  split
  · exact kept state.previousOption (by simp [Passing, bears]) state.portrait
  · simp only [Talk.always_bind, Talk.always_done]
    refine (showPortrait_passing _).mono fun _ more shown => ?_
    exact kept hovered (by simpa [Passing, bears] using shown) _

/-- Taking the result of the list either chooses a species or cancels the session. -/
theorem pick_stands (before : List Exchange) (list : WindowId) (stands : Stands state said)
    (opened : state.windows.get listSlot = some list)
    (browsing : Stage.ofProgress state.progress = .browse) (passing : Passing before) :
    (pick list state).Always fun after more => Stands after (said ++ (before ++ more)) := by
  have told : Undecided said := by simpa only [Told, browsing] using stands.told
  have accepted : ¬ ListRefused said := by simp [← stands.list, opened]
  simp only [pick, Talk.bind_eq, Talk.pure_eq_done, Talk.request, Talk.bind, Talk.always_ask,
    Talk.always_done]
  intro choice
  -- The result that is read becomes the last pick, with nothing said since.
  have undecided : Undecided (said ++ (before ++ [⟨.advancedMenuResult list, choice⟩])) :=
    undecided_append.mpr ⟨told, undecided_append.mpr ⟨passing.undecided, ⟨rfl, rfl, rfl⟩⟩⟩
  have last : lastPick (said ++ (before ++ [⟨.advancedMenuResult list, choice⟩])) =
      some (choice, []) := by
    simp [lastPick_append, lastPick, picked?]
  have unrefused : ¬ ListRefused (before ++ [⟨.advancedMenuResult list, choice⟩]) := by
    rw [listRefused_append, or_iff_right passing.unrefused]
    simp [ListRefused, listOpened?]
  have result : (enter .chooseForm (state.setResult speciesResult choice)).result speciesResult =
      choice :=
    (MenuState.result_setResult ..).trans (if_pos rfl)
  split
  case isTrue negative =>
    refine stands.later rfl unrefused (fun _ => accepted) ?_
    exact .cancelled undecided (.inr ⟨choice, [], last, negative⟩)
  case isFalse taken =>
    refine stands.later rfl unrefused (fun _ => accepted) ?_
    refine ⟨undecided, [], ⟨?_, ?_, rfl⟩, rfl⟩
    · rw [result, last]
    · rw [result]
      exact Int32.not_lt.mp taken

/-- A frame of the list keeps what a session stands on. -/
theorem browse_stands (stands : Stands state said)
    (browsing : Stage.ofProgress state.progress = .browse) :
    (browse state).Always fun after more => Stands after (said ++ more) := by
  unfold browse
  cases opened : state.windows.get listSlot with
  | none =>
    -- Only the opening of the session can have failed to open the list.
    intro _
    have told : Undecided said := by simpa only [Told, browsing] using stands.told
    refine stands.later rfl (by simp [ListRefused, listOpened?]) (by simp [lastPick, picked?]) ?_
    refine .cancelled (undecided_append.mpr ⟨told, ⟨rfl, rfl, rfl⟩⟩) ?_
    exact .inl (listRefused_append.mpr (.inl (stands.list.mp opened)))
  | some list =>
    intro active
    cases active with
    | true =>
      exact follow_stands [⟨.advancedMenuActive list, true⟩] list stands browsing
        (by simp [Passing, bears])
    | false =>
      exact pick_stands [⟨.advancedMenuActive list, false⟩] list stands opened browsing
        (by simp [Passing, bears])

/-- Without a gender, the species that was picked is the one that joins. -/
theorem commit_stands {more : List Exchange} (stands : Stands state said)
    (choosing : Stage.ofProgress state.progress = .chooseForm) (passing : Passing more) :
    Stands (enter .commit state) (said ++ more) := by
  -- The stage before knows that no gender was asked for since the pick.
  have told := stands.told
  simp only [Told, choosing] at told
  obtain ⟨undecided, since, picked, -⟩ := told
  refine stands.later rfl passing.unrefused (by simp [lastPick_eq_none_iff.mpr passing.picks]) ?_
  have picked := picked.passing passing
  exact ⟨undecided.passing passing, _, _, picked.last, picked.taken, picked.selects⟩

/-- Choosing a form asks for a gender, or goes on with the species that was picked. -/
theorem chooseForm_stands (stands : Stands state said)
    (choosing : Stage.ofProgress state.progress = .chooseForm) :
    (chooseForm state).Always fun after more => Stands after (said ++ more) := by
  have told := stands.told
  simp only [Told, choosing] at told
  obtain ⟨undecided, since, picked, unasked⟩ := told
  simp only [chooseForm, askGender, Talk.bind_eq, Talk.pure_eq_done, Talk.request, Talk.bind,
    Talk.always_ask]
  intro gender
  -- An invalid gender means that the species has one form only.
  split
  · exact commit_stands stands choosing (by simp [Passing, bears])
  · intro window
    cases window with
    | none =>
      intro _
      exact commit_stands stands choosing (by simp [Passing, bears])
    | some window =>
      -- The menu that was opened is the one that was asked since the pick.
      refine stands.later ?_ (by simp [ListRefused, listOpened?]) (by simp [lastPick, picked?]) ?_
      · simp [enter, setWindow, WindowSlots.get_put, genderSlot, listSlot]
      · refine ⟨undecided_append.mpr ⟨undecided, ⟨rfl, rfl, rfl⟩⟩, _, window,
          picked.later rfl rfl, ?_, ?_⟩
        · simp [enter, setWindow, WindowSlots.get_put]
        · rw [List.filterMap_append, unasked]; rfl

/-- Closing the gender menu bears on nothing. -/
theorem closeGender_passing (state : MenuState) :
    (closeGender state).Always fun _ more => Passing more := by
  -- There is a request only if the menu is open.
  unfold closeGender
  cases state.windows.get genderSlot with
  | none => simp [Passing]
  | some window => simp [Talk.request, Passing, bears]

/-- Letting the list wait for input again bears on nothing. -/
theorem resumeList_passing (state : MenuState) :
    (resumeList state).Always fun _ more => Passing more := by
  -- There is a request only if the list is open.
  unfold resumeList
  cases state.windows.get listSlot with
  | none => simp [Passing]
  | some list => simp [Talk.request, Passing, bears]

/-- Going back to the list leaves the session undecided, whatever was picked and answered. -/
theorem backOut_stands {before : List Exchange} (stands : Stands state said)
    (undecided : Undecided (said ++ before)) (unrefused : ¬ ListRefused before)
    (unpicked : lastPick before = none) (answer : Int32) :
    (backOut (state.setResult genderResult answer)).Always fun after more =>
      Stands after (said ++ (before ++ more)) := by
  simp only [backOut, Talk.bind_eq, Talk.pure_eq_done, Talk.always_bind, Talk.always_done]
  refine (closeGender_passing _).mono fun _ closing closed => ?_
  refine (resumeList_passing _).mono fun _ resuming resumed => ?_
  -- Both talks are in passing, so the answer is the last that bears on anything.
  have passing : Passing (closing ++ (resuming ++ [])) := by
    rw [List.append_nil]
    exact List.forall_mem_append.mpr ⟨closed, resumed⟩
  refine stands.later ?_ ?_ ?_ ?_
  · simp [enter, setWindow, WindowSlots.get_put, genderSlot, listSlot, MenuState.setResult]
  · rw [listRefused_append, or_iff_left passing.unrefused]
    exact unrefused
  · rw [lastPick_passing passing, unpicked]
    simp
  · rw [← List.append_assoc]
    exact undecided.passing passing

/-- An answer of the gender menu selects a form of the last pick, or goes back to the list. -/
theorem answered_stands (before : List Exchange) {window : WindowId} {answer : Int32}
    (stands : Stands state said) (waiting : Stage.ofProgress state.progress = .awaitGender)
    (opened : state.windows.get genderSlot = some window) (passing : Passing before)
    {asked : List Exchange} (asking : asked = before ++ [⟨.simpleMenuResult window, answer⟩]) :
    (answered answer state).Always fun after more => Stands after (said ++ (asked ++ more)) := by
  have told := stands.told
  simp only [Told, waiting] at told
  obtain ⟨undecided, since, same, picked, found, shown⟩ := told
  obtain rfl : window = same := Option.some.inj (opened.symm.trans found)
  have undecided : Undecided (said ++ asked) := by
    subst asking
    have more : Undecided (before ++ [⟨.simpleMenuResult window, answer⟩]) :=
      undecided_append.mpr ⟨passing.undecided, ⟨rfl, rfl, rfl⟩⟩
    exact undecided_append.mpr ⟨undecided, more⟩
  have unrefused : ¬ ListRefused asked := by
    rw [asking, listRefused_append, or_iff_right passing.unrefused]
    simp [ListRefused, listOpened?]
  have unpicked : lastPick asked = none := by
    rw [asking, lastPick_append]
    simp [lastPick, picked?, lastPick_eq_none_iff.mpr passing.picks]
  have last : lastPick (said ++ asked) = some (state.result speciesResult, since ++ asked) := by
    simp only [lastPick_append, unpicked, picked.last, Option.map_some]
  have chosen_iff : SecondFormChosen (since ++ asked) ↔ answer = 2 := by
    simp [SecondFormChosen, asking, shown, picked.unanswered, passing.asked, passing.answered,
      genderAsked?, genderAnswered?, eq_comm]
  unfold answered
  split
  case isTrue => exact backOut_stands stands undecided unrefused unpicked answer
  case isFalse =>
    have kept : (state.setResult genderResult answer).result speciesResult =
        state.result speciesResult :=
      (MenuState.result_setResult ..).trans (if_neg (by decide))
    split
    case isTrue second =>
      simp only [Talk.pure_eq_done, Talk.always_done, List.append_nil]
      refine stands.later rfl unrefused (by simp [unpicked]) ?_
      have secondary : SecondFormChosen (since ++ asked) := chosen_iff.mpr (by simpa using second)
      refine ⟨undecided, _, _, last, picked.taken, .inl ⟨secondary, ?_⟩⟩
      -- The marker of the second form is added below the option's own offset.
      have added : chosen (enter .commit ((state.setResult genderResult answer).setResult
          speciesResult (state.result speciesResult + secondFormOffset))) =
          state.result speciesResult + secondFormOffset + 1 :=
        congrArg (· + 1) ((MenuState.result_setResult ..).trans (if_pos rfl))
      rw [kept, added, Int32.add_assoc, Int32.add_comm secondFormOffset, ← Int32.add_assoc]
    case isFalse first =>
      simp only [Talk.pure_eq_done, Talk.always_done, List.append_nil]
      refine stands.later rfl unrefused (by simp [unpicked]) ?_
      refine ⟨undecided, _, _, last, picked.taken, .inr ⟨?_, congrArg (· + 1) kept⟩⟩
      rw [chosen_iff]
      simpa using first

/-- Waiting for a gender ends in a form of the pick, or in going back to the list. -/
theorem awaitGender_stands (stands : Stands state said)
    (waiting : Stage.ofProgress state.progress = .awaitGender) :
    (awaitGender state).Always fun after more => Stands after (said ++ more) := by
  have told := stands.told
  simp only [Told, waiting] at told
  obtain ⟨undecided, since, window, picked, opened, asked⟩ := told
  simp only [awaitGender, opened, Talk.bind_eq, Talk.pure_eq_done, Talk.request, Talk.bind,
    Talk.always_ask]
  -- While the menu is active, asking about it is all that is done.
  intro active
  cases active with
  | true => exact stands.passing (by simp [Passing, bears])
  | false =>
    intro answer
    exact answered_stands [⟨.simpleMenuActive window, false⟩] stands waiting opened
      (by simp [Passing, bears]) rfl

/-- The commit recruits the species that was chosen, or nobody if there is no slot. -/
theorem commit_ends (stands : Stands state said)
    (committing : Stage.ofProgress state.progress = .commit) :
    (commit state).Always fun after more => Stands after (said ++ more) := by
  have told := stands.told
  simp only [Told, committing] at told
  obtain ⟨⟨unsearched, nobody, nothing⟩, choice, since, last, taken, selected⟩ := told
  -- None of the requests of a commit is a pick or an answer of a gender menu.
  have later {more : List Exchange} (unpicked : lastPick more = none) :
      lastPick (said ++ more) = some (choice, since ++ more) := by
    simp only [lastPick_append, unpicked, last, Option.map_some]
  have selects {more : List Exchange} (asked : more.filterMap genderAsked? = [])
      (answered : more.filterMap genderAnswered? = []) :
      Selects choice (since ++ more) (chosen state) := by
    simpa only [Selects, SecondFormChosen, List.filterMap_append, asked, answered,
      List.append_nil] using selected
  have opened {more : List Exchange} (unrefused : ¬ ListRefused more) :
      ¬ ListRefused (said ++ more) := by
    rw [listRefused_append, or_iff_left unrefused]
    exact stands.picks (by rw [last]; rfl)
  simp only [commit, Talk.bind_eq, Talk.pure_eq_done, Talk.request, Talk.bind, Talk.always_ask]
  -- The answer to the search decides how the session ends.
  intro free
  cases free with
  | none =>
    intro _
    refine stands.later rfl (by simp [ListRefused, listOpened?]) (by simp [lastPick, picked?]) ?_
    refine .full (opened (by simp [ListRefused, listOpened?])) (later rfl) taken ?_ ?_ ?_
    · rw [List.filterMap_append, unsearched]; rfl
    · rw [List.filterMap_append, nobody]; rfl
    · rw [List.filterMap_append, nothing]; rfl
  | some slot =>
    intro name _ _ _
    refine stands.later rfl (by simp [ListRefused, listOpened?]) (by simp [lastPick, picked?]) ?_
    refine @Ended.recruited _ _ _ slot (newcomer (chosen state) (Text.cut nameLength name)) name
      (opened (by simp [ListRefused, listOpened?])) (later rfl) taken (selects rfl rfl)
      ?searched ?named rfl ?recruits ?joins
    case searched => rw [List.filterMap_append, unsearched]; rfl
    case recruits => rw [List.filterMap_append, nobody]; rfl
    case joins => rw [List.filterMap_append, nothing]; rfl
    case named => simp [named?, newcomer]

/-- Closing a window bears on nothing, and keeps the mark and the value of the session. -/
theorem closeSlot_passing {slot : Fin menuSlots} {closing : WindowId → Talk Unit}
    (quiet : ∀ window, (closing window).Always fun _ more => Passing more) (state : MenuState) :
    (closeSlot slot closing state).Always fun after more =>
      after.returnValue = state.returnValue ∧ after.activeMenu = state.activeMenu ∧
        Passing more := by
  -- An empty slot is left alone.
  unfold closeSlot
  cases state.windows.get slot with
  | none => simp [Passing]
  | some window =>
    simp only [Talk.bind_eq, Talk.always_bind, Talk.pure_eq_done, Talk.always_done]
    exact (quiet window).mono fun _ more passing => ⟨rfl, rfl, by simpa using passing⟩

/-- Closing the windows bears on nothing, and keeps the mark and the value of the session. -/
theorem close_passing (state : MenuState) :
    (close state).Always fun after more =>
      after.returnValue = state.returnValue ∧ after.activeMenu = state.activeMenu ∧
        Passing more := by
  simp only [close, Talk.bind_eq, Talk.always_bind]
  refine (closeSlot_passing ?_ state).mono fun first list kept => ?_
  · simp [Talk.request, Passing, bears]
  refine (closeSlot_passing ?_ first).mono fun second portrait kept' => ?_
  · simp [Talk.request, Passing, bears]
  refine (closeSlot_passing ?_ second).mono fun third gender kept'' => ?_
  · simp [Talk.request, Passing, bears]
  -- Each of the three keeps what the one before it kept.
  obtain ⟨value, active, quiet⟩ := kept
  obtain ⟨value', active', quiet'⟩ := kept'
  obtain ⟨value'', active'', quiet''⟩ := kept''
  refine ⟨value''.trans (value'.trans value), active''.trans (active'.trans active), ?_⟩
  exact List.forall_mem_append.mpr ⟨quiet, List.forall_mem_append.mpr ⟨quiet', quiet''⟩⟩

/-- Every stage but the last keeps what a session stands on. -/
theorem going_stands (stands : Stands state said) {talk : Talk MenuState}
    (stage : Going state talk) : talk.Always fun after more => Stands after (said ++ more) := by
  -- Each stage has its own lemma.
  cases stage with
  | browse stage => exact browse_stands stands stage
  | chooseForm stage => exact chooseForm_stands stands stage
  | awaitGender stage => exact awaitGender_stands stands stage
  | commit stage => exact commit_ends stands stage

end Stages

/-- A frame keeps what a session stands on, and the last one keeps how it ended. -/
theorem frame_stands (id : Int32) {state : MenuState} {said : List Exchange}
    (stands : Stands state said) :
    (TalkingMenu.recruit.frame id state).Always fun ended more =>
      (ended.1 = false → Stands ended.2 (said ++ more)) ∧
        (ended.1 = true → Ended (said ++ more) ended.2.returnValue) := by
  -- The stages that go on keep the session standing; only the last one is followed by `close`.
  refine always_recruit_frame ?_ ?_
  · intro talk stage
    refine (going_stands stands stage).mono fun after more stands => ⟨fun _ => stands, nofun⟩
  · intro last
    have told := stands.told
    simp only [Told, last] at told
    refine (close_passing state).mono fun after more ⟨kept, _, passing⟩ => ⟨nofun, fun _ => ?_⟩
    rw [kept]
    exact Ended.passing told passing

section Steady

variable (state : MenuState)

/-- Showing the portrait opens and closes no window. -/
theorem showPortrait_quiet : (showPortrait state).Always fun _ said => Quiet said := by
  unfold showPortrait
  cases state.windows.get portraitSlot with
  | none => simp [Quiet]
  | some box => simp [Talk.request, Quiet, Request.windowless]

/-- The list is watched without a change to the session's mark or to its windows. -/
theorem browse_unmoved : (browse state).Always (Unmoved state) := by
  simp only [browse, follow, pick, Talk.bind_eq, Talk.pure_eq_done, Talk.request, Talk.bind]
  -- Without a list, the session is cancelled with an entry in the journal.
  cases state.windows.get listSlot with
  | none => exact fun _ => ⟨rfl, rfl, by simp [Quiet, Request.windowless]⟩
  | some list =>
    intro active
    cases active with
    | true =>
      intro hovered
      dsimp only
      split
      · exact ⟨rfl, rfl, by simp [Quiet, Request.windowless]⟩
      · simp only [Talk.always_bind, Talk.always_done]
        refine (showPortrait_quiet _).mono fun _ said quiet => ⟨rfl, rfl, ?_⟩
        simpa [Quiet, Request.windowless] using quiet
    | false =>
      intro choice
      dsimp only
      split <;> exact ⟨rfl, rfl, by simp [Quiet, Request.windowless]⟩

/-- Choosing a form leaves the mark of the session as it is, whether a gender is asked for or not. -/
theorem chooseForm_steady : (chooseForm state).Always fun after _ =>
    after.activeMenu = state.activeMenu := by
  simp only [chooseForm, askGender, Talk.bind_eq, Talk.pure_eq_done, Talk.request, Talk.bind]
  intro gender
  dsimp only
  split
  -- A menu is opened only for a species of which the host knows a second form.
  · rfl
  · rintro (_ | window)
    · exact fun _ => rfl
    · rfl

/-- An answer of the gender menu leaves the mark of the session as it is. -/
theorem answered_steady (choice : Int32) : (answered choice state).Always fun after _ =>
    after.activeMenu = state.activeMenu := by
  unfold answered
  -- Only a cancel is followed by more requests.
  split
  · simp only [backOut, Talk.bind_eq, Talk.pure_eq_done, Talk.always_bind, Talk.always_done]
    refine (closeGender_passing _).mono fun _ _ _ => ?_
    exact (resumeList_passing _).mono fun _ _ _ => rfl
  · split <;> rfl

/-- Waiting for a gender leaves the mark of the session as it is. -/
theorem awaitGender_steady : (awaitGender state).Always fun after _ =>
    after.activeMenu = state.activeMenu := by
  -- Without a gender menu, the wait is over with a cancel.
  unfold awaitGender
  cases state.windows.get genderSlot with
  | none => exact answered_steady state 0
  | some window =>
    rintro (_ | _)
    · exact fun choice => answered_steady state choice
    · rfl

/-- The commit is the last of a session, and changes neither its mark nor its windows. -/
theorem commit_unmoved : (commit state).Always fun after said =>
    Unmoved state after said ∧ Stage.ofProgress after.progress = .done := by
  have last : Stage.ofProgress Stage.done.progress = .done := by decide
  -- With and without a free slot, all that is said goes to the roster and to the journal.
  rintro (_ | slot)
  · exact fun _ => ⟨⟨rfl, rfl, by simp [Quiet, Request.windowless]⟩, last⟩
  · exact fun _ _ _ _ => ⟨⟨rfl, rfl, by simp [Quiet, Request.windowless]⟩, last⟩

/-- Every stage but the last leaves the mark of the session as it is. -/
theorem going_steady {talk : Talk MenuState} (stage : Going state talk) :
    talk.Always fun after _ => after.activeMenu = state.activeMenu := by
  -- The list and the commit leave the windows as they are too.
  cases stage with
  | browse stage => exact (browse_unmoved state).mono fun _ _ unmoved => unmoved.active
  | chooseForm stage => exact chooseForm_steady state
  | awaitGender stage => exact awaitGender_steady state
  | commit stage => exact (commit_unmoved state).mono fun _ _ unmoved => unmoved.1.active

/-- An update leaves the mark of the session as it is. -/
theorem update_steady : (update state).Always fun ended _ =>
    ended.2.activeMenu = state.activeMenu := by
  unfold update
  cases stage : Stage.ofProgress state.progress with
  | browse => simpa [goingOn] using going_steady state (.browse stage)
  | chooseForm => simpa [goingOn] using going_steady state (.chooseForm stage)
  | awaitGender => simpa [goingOn] using going_steady state (.awaitGender stage)
  | commit => simpa [goingOn] using going_steady state (.commit stage)
  | done => rfl

/-- The opening of a session leaves its mark as it is. -/
theorem create_steady : (create state).Always fun after _ =>
    after.activeMenu = state.activeMenu := by
  simp only [create, Talk.bind_eq, Talk.pure_eq_done, Talk.request,
    Talk.bind, Talk.always_ask, Talk.always_bind]
  intro list portrait
  exact (showPortrait_passing _).mono fun _ _ _ => rfl

end Steady

/-- No callback of a recruit session touches the mark of the session. -/
theorem recruit_steady : TalkingMenu.recruit.Steady where
  create _ := create_steady
  frame _ state :=
    -- The closing talk only empties slots.
    always_recruit_frame (fun _ stage => going_steady state stage)
      fun _ => (close_passing state).mono fun _ _ kept => kept.2.1

end DungeonHooks.RecruitMenu
