import DungeonHooks.Proofs.Menu.Talks

/-! The requests that the built-in menus make: only a commit changes the roster, and none warns of a special process. -/

namespace DungeonHooks

/-- The request changes the roster, or what is known of who joined. -/
def Request.enlists : Request → Bool
  | .recruit .. | .setJoined _ => true
  | _ => false

/-- The request asks for the gender of a monster. -/
def Request.asksGender : Request → Bool
  | .monsterGender _ => true
  | _ => false

namespace Talk

variable {allowed : Request → Prop} {α : Type}

/-- A talk of allowed requests is one of requests that are allowed for a weaker reason. -/
theorem Uses.mono {weaker : Request → Prop} {talk : Talk α} (uses : talk.Uses allowed)
    (weaken : ∀ request, allowed request → weaker request) : talk.Uses weaker := by
  induction talk with
  | done value => trivial
  | ask request next ih => exact ⟨weaken _ uses.1, fun answer => ih answer (uses.2 answer)⟩

/-- A talk of one request makes no other. -/
theorem uses_request {asked : Request} (permitted : allowed asked) :
    (request asked).Uses allowed :=
  ⟨permitted, fun _ => trivial⟩

/-- A request comes before the rest of a talk. -/
theorem uses_asking {asked : Request} {next : asked.Answer → Talk α} (permitted : allowed asked)
    (rest : ∀ answer, (next answer).Uses allowed) : ((request asked).bind next).Uses allowed :=
  (uses_request permitted).bind rest

end Talk

section Menus

variable {allowed : Request → Prop}
  (plain : ∀ request : Request, request.alarms = false → request.enlists = false →
    request.asksGender = false → allowed request)

include plain

namespace RecruitMenu

open Talk

variable (state : MenuState)

/-- Showing the portrait makes only plain requests. -/
theorem showPortrait_uses : (showPortrait state).Uses allowed := by
  unfold showPortrait
  split
  · exact uses_request (plain _ rfl rfl rfl)
  · trivial

/-- So does opening the windows. -/
theorem create_uses : (create state).Uses allowed :=
  uses_asking (plain _ rfl rfl rfl) fun _ => uses_asking (plain _ rfl rfl rfl) fun _ =>
    (showPortrait_uses plain _).bind fun _ => trivial

/-- So does following the cursor. -/
theorem follow_uses (list : WindowId) : (follow list state).Uses allowed := by
  refine uses_asking (plain _ rfl rfl rfl) fun hovered => ?_
  split
  · trivial
  · exact (showPortrait_uses plain _).bind fun _ => trivial

/-- So does taking a choice. -/
theorem pick_uses (list : WindowId) : (pick list state).Uses allowed :=
  uses_asking (plain _ rfl rfl rfl) fun _ => trivial

/-- So does waiting for a choice. -/
theorem browse_uses : (browse state).Uses allowed := by
  unfold browse
  split
  · exact uses_asking (plain _ rfl rfl rfl) fun _ => trivial
  · refine uses_asking (plain _ rfl rfl rfl) fun active => ?_
    split
    · exact follow_uses plain state _
    · exact pick_uses plain state _

/-- Choosing a form asks for a gender besides. -/
theorem chooseForm_uses (genders : ∀ monster, allowed (.monsterGender monster)) :
    (chooseForm state).Uses allowed := by
  refine uses_asking (genders _) fun gender => ?_
  split
  · trivial
  · -- Without a gender menu there is an error, which is not about a special process.
    refine uses_asking (plain _ rfl rfl rfl) fun window => ?_
    cases window with
    | none => exact uses_asking (plain _ rfl rfl rfl) fun _ => trivial
    | some window => trivial

/-- Going back to the list makes only plain requests again. -/
theorem backOut_uses : (backOut state).Uses allowed := by
  have closes : (closeGender state).Uses allowed := by
    unfold closeGender
    split
    · exact uses_request (plain _ rfl rfl rfl)
    · trivial
  have resumes : (resumeList state).Uses allowed := by
    unfold resumeList
    split
    · exact uses_request (plain _ rfl rfl rfl)
    · trivial
  exact closes.bind fun _ => resumes.bind fun _ => trivial

/-- So does acting on an answer. -/
theorem answered_uses (choice : Int32) : (answered choice state).Uses allowed := by
  unfold answered
  dsimp only
  split
  · exact backOut_uses plain _
  · split <;> trivial

/-- So does waiting for an answer. -/
theorem awaitGender_uses : (awaitGender state).Uses allowed := by
  unfold awaitGender
  split
  · exact answered_uses plain state 0
  · refine uses_asking (plain _ rfl rfl rfl) fun active => ?_
    split
    · trivial
    · exact uses_asking (plain _ rfl rfl rfl) fun choice => answered_uses plain state choice

/-- So does closing the windows. -/
theorem close_uses : (close state).Uses allowed := by
  have closes (slot : Fin menuSlots) (way : WindowId → Talk Unit)
      (uses : ∀ window, (way window).Uses allowed) (state : MenuState) :
      (closeSlot slot way state).Uses allowed := by
    unfold closeSlot
    split
    · exact (uses _).bind fun _ => trivial
    · trivial
  exact (closes _ _ (fun _ => uses_request (plain _ rfl rfl rfl)) state).bind fun state =>
    (closes _ _ (fun _ => uses_request (plain _ rfl rfl rfl)) state).bind fun state =>
      closes _ _ (fun _ => uses_request (plain _ rfl rfl rfl)) state

section Commit

variable (recruits : ∀ slot member, allowed (.recruit slot member))
  (joins : ∀ monster, allowed (.setJoined monster))

include recruits joins

/-- Besides these, a commit writes the roster; that it is full is a warning of the menu. -/
theorem commit_uses : (commit state).Uses allowed := by
  refine uses_asking (plain _ rfl rfl rfl) fun free => ?_
  cases free with
  | some slot =>
    exact uses_asking (plain _ rfl rfl rfl) fun _ => uses_asking (recruits _ _) fun _ =>
      uses_asking (joins _) fun _ => uses_asking (plain _ rfl rfl rfl) fun _ => trivial
  | none => exact uses_asking (plain _ rfl rfl rfl) fun _ => trivial

/-- So does an update, if it is the commit. -/
theorem update_uses (genders : ∀ monster, allowed (.monsterGender monster)) :
    (update state).Uses allowed := by
  have goes {talk : Talk MenuState} (uses : talk.Uses allowed) : (goingOn talk).Uses allowed :=
    uses.bind fun _ => trivial
  unfold update
  cases Stage.ofProgress state.progress with
  | browse => exact goes (browse_uses plain state)
  | chooseForm => exact goes (chooseForm_uses plain state genders)
  | awaitGender => exact goes (awaitGender_uses plain state)
  | commit => exact goes (commit_uses plain state recruits joins)
  | done => trivial

end Commit

end RecruitMenu

/-- The recruit menu makes no other requests than plain ones, for a gender, and those of a commit. -/
theorem TalkingMenu.recruit_uses (genders : ∀ monster, allowed (.monsterGender monster))
    (recruits : ∀ slot member, allowed (.recruit slot member))
    (joins : ∀ monster, allowed (.setJoined monster)) : TalkingMenu.recruit.Uses allowed where
  create _ := RecruitMenu.create_uses plain
  update _ state := RecruitMenu.update_uses plain state recruits joins genders
  close _ := RecruitMenu.close_uses plain

/-- A keyboard menu makes only plain requests, if acting on the text does. -/
theorem TalkingMenu.keyboard_uses {act : String → MenuState → Talk MenuState}
    (acts : ∀ typed state, (act typed state).Uses allowed) :
    (TalkingMenu.keyboard act).Uses allowed where
  create _ _ := Talk.uses_asking (plain _ rfl rfl rfl) fun _ => trivial
  update _ _ := Talk.uses_asking (plain _ rfl rfl rfl) fun _ => trivial
  close _ state := Talk.uses_asking (plain _ rfl rfl rfl) fun typed => acts typed state

/-- So does the password menu. -/
theorem TalkingMenu.password_uses (password : String) :
    (TalkingMenu.password password).Uses allowed :=
  keyboard_uses plain fun _ _ => trivial

/-- So does the rename menu: it tells host and journal about the partner. -/
theorem TalkingMenu.partnerName_uses : TalkingMenu.partnerName.Uses allowed :=
  keyboard_uses plain fun _ _ => Talk.uses_asking (plain _ rfl rfl rfl) fun _ =>
    Talk.uses_asking (plain _ rfl rfl rfl) fun _ =>
      Talk.uses_asking (plain _ rfl rfl rfl) fun _ => trivial

/-- The built-in menus make no other requests than plain ones, for a gender, and those of a commit. -/
theorem MenuMachine.builtin_uses {σ : Type} [Host σ]
    (genders : ∀ monster, allowed (.monsterGender monster))
    (recruits : ∀ slot member, allowed (.recruit slot member))
    (joins : ∀ monster, allowed (.setJoined monster)) (first : Int32) :
    (MenuMachine.builtin first : MenuMachine σ).Talks allowed := by
  intro descriptor member
  simp only [builtin, new, List.mem_cons, List.not_mem_nil, or_false] at member
  rcases member with rfl | rfl | rfl
  · exact (TalkingMenu.recruit_uses plain genders recruits joins).talks
  · exact (TalkingMenu.password_uses plain _).talks
  · exact (TalkingMenu.partnerName_uses plain).talks

end Menus

end DungeonHooks
