import DungeonHooks.Proofs.Menu.Recruit.Stages
import DungeonHooks.Proofs.Menu.Requests
import DungeonHooks.Proofs.Replay.Recruit.Roster
import DungeonHooks.Proofs.Text.Cut

/-! What a frame of the recruit menu makes of the roster: nothing, unless it is the commit. -/

namespace DungeonHooks.Replay

open RecruitMenu

/-- The roster is the same, who joined is the same, and there is room for as many. -/
structure SameRoster (before after : SimulatedHost) : Prop where
  members : SameMembers before after
  capacity : after.rosterCapacity = before.rosterCapacity

namespace SameRoster

/-- A roster is the same as itself. -/
theorem refl (host : SimulatedHost) : SameRoster host host :=
  ⟨⟨rfl, rfl⟩, rfl⟩

/-- What stays the same twice stays the same. -/
theorem trans {before mid after : SimulatedHost} (first : SameRoster before mid)
    (second : SameRoster mid after) : SameRoster before after :=
  ⟨first.members.trans second.members, second.capacity.trans first.capacity⟩

/-- Only the requests of a commit change the roster. -/
theorem serve {request : Request} (other : request.enlists = false) (cx : Context SimulatedHost) :
    SameRoster cx.host (request.serve cx).2.host := by
  have closes (kind : WindowKind) (id : WindowId) :
      SameRoster cx.host (SimulatedHost.closeWindow kind id cx.host).host := by
    unfold SimulatedHost.closeWindow
    split <;> exact ⟨⟨rfl, rfl⟩, rfl⟩
  have draws (low high : Int32) : SameRoster cx.host (cx.host.draw low high).2 := by
    unfold SimulatedHost.draw
    cases cx.host.random <;> exact ⟨⟨rfl, rfl⟩, rfl⟩
  cases request with
  | recruit slot member => cases other
  | setJoined monster => cases other
  | closeAdvancedMenu id => exact closes .advanced id
  | closeSimpleMenu id => exact closes .simple id
  | closePortraitBox id => exact closes .portrait id
  | randRange low high => exact draws low high
  | _ => exact ⟨⟨rfl, rfl⟩, rfl⟩

/-- So a talk without those requests keeps the roster. -/
theorem kept : Kept (fun request => request.enlists = false) SameRoster where
  refl := refl
  trans := trans
  serve _ other cx := serve other cx

end SameRoster

/-- A talk of such requests keeps the roster. -/
theorem hold_roster {α : Type} {talk : Talk α}
    (uses : talk.Uses fun request => request.enlists = false) (cx : Context SimulatedHost) :
    SameRoster cx.host (talk.hold cx).context.host :=
  uses.hold_keeps SameRoster.kept cx

/-- A commit enlists the chosen species, or nobody. -/
theorem commit_enlists (state : MenuState) (cx : Context SimulatedHost) :
    let held := (commit state).hold cx
    Stage.ofProgress held.value.progress = .done ∧
      Enlists (chosen state) cx.host held.context.host held.value.returnValue := by
  have finished : Stage.ofProgress Stage.done.progress = .done := by decide
  simp only [commit, Talk.bind_eq, Talk.request, Talk.bind, Talk.hold_ask]
  -- What the host finds decides whether anything is written.
  cases found : ((Request.firstEmptySlot rosterLimit).serve cx).1 with
  | some slot =>
    obtain ⟨below, free, taken⟩ := firstFree_found found
    rw [Nat.zero_add] at below
    have first : FirstFree cx.host slot :=
      ⟨below, free, fun lower less => taken lower (Nat.zero_le _) less⟩
    exact ⟨finished, .joined first rfl rfl⟩
  | none =>
    have full := firstFree_full found
    refine ⟨finished, .full (fun slot below => ?_) ⟨rfl, rfl⟩⟩
    exact full slot (Nat.zero_le _) (by rwa [Nat.zero_add])

/-- What a commit makes of the roster, whatever the species and its name: a member with a short name in the first free slot, or none. -/
inductive Enlisted (before after : SimulatedHost) : Int32 → Prop where
  | joined {slot : Nat} {member : Recruit} (free : FirstFree before slot)
      (short : (Text.utf8 member.name).length ≤ nameLength)
      (roster : after.roster = before.roster.insert slot member)
      (marked : after.joined = before.joined ++ [member.species]) :
      Enlisted before after (Int32.ofNat slot)
  | full (full : Full before) (same : SameMembers before after) : Enlisted before after (-2)

/-- Enlisting a species is enlisting a member with a short name. -/
theorem Enlists.enlisted {species value : Int32} {before after : SimulatedHost}
    (enlists : Enlists species before after value) : Enlisted before after value := by
  cases enlists with
  | joined free roster marked =>
    -- The name is the one that the host knows, cut to its bytes.
    refine .joined free ?_ roster marked
    exact Text.length_utf8_cut nameLength _
  | full full same => exact .full full same

namespace Enlisted

variable {value : Int32} {before mid after : SimulatedHost}

/-- It takes no more than that the roster was the same before it. -/
theorem since (same : SameRoster before mid) (enlisted : Enlisted mid after value) :
    Enlisted before after value := by
  obtain ⟨⟨roster, joined⟩, capacity⟩ := same
  cases enlisted with
  | joined free short written marked =>
    refine .joined ⟨?_, ?_, ?_⟩ short (roster ▸ written) (joined ▸ marked)
    · exact capacity ▸ free.searched
    · exact roster ▸ free.free
    · exact roster ▸ free.taken
  | full full same =>
    refine .full (fun slot below => ?_) (SameMembers.trans ⟨roster, joined⟩ same)
    exact roster ▸ full slot (capacity.symm ▸ below)

/-- It takes no more than that the roster is the same after it. -/
theorem till (enlisted : Enlisted before mid value) (same : SameMembers mid after) :
    Enlisted before after value := by
  cases enlisted with
  | joined free short roster marked =>
    exact .joined free short (same.roster.trans roster) (same.joined.trans marked)
  | full full unchanged => exact .full full (unchanged.trans same)

end Enlisted

/-- If the session is over, it was cancelled. -/
def Onward (state : MenuState) : Prop :=
  Stage.ofProgress state.progress = .done → state.returnValue = -1

/-- A state in another stage goes on. -/
theorem onward_enter (stage : Stage) (going : stage ≠ .done) (state : MenuState) :
    Onward (enter stage state) :=
  fun finished => absurd ((stage_enter stage state).symm.trans finished) going

/-- Watching the list goes on, or cancels the session. -/
theorem browse_onward {state : MenuState} (browsing : Stage.ofProgress state.progress = .browse) :
    (browse state).Always fun after _ => Onward after := by
  have stays {after : MenuState} (same : after.progress = state.progress) : Onward after :=
    fun finished => by rw [same, browsing] at finished; contradiction
  simp only [browse, follow, pick, Talk.bind_eq, Talk.pure_eq_done, Talk.request, Talk.bind]
  cases state.windows.get listSlot with
  | none => exact fun _ _ => rfl
  | some list =>
    intro active
    cases active with
    | true =>
      intro hovered
      dsimp only
      split
      · exact stays rfl
      · -- The portrait is shown with the state that is handed on.
        simp only [Talk.always_bind, Talk.always_done]
        exact (showPortrait_passing _).mono fun _ _ _ => stays rfl
    | false =>
      intro choice
      dsimp only
      split
      · exact fun _ => rfl
      · exact onward_enter .chooseForm (by decide) _

/-- Choosing a form goes on. -/
theorem chooseForm_onward (state : MenuState) :
    (chooseForm state).Always fun after _ => Onward after := by
  simp only [chooseForm, askGender, Talk.bind_eq, Talk.pure_eq_done, Talk.request, Talk.bind]
  intro gender
  dsimp only
  split
  · exact onward_enter .commit (by decide) _
  · rintro (_ | window)
    · exact fun _ => onward_enter .commit (by decide) _
    · exact onward_enter .awaitGender (by decide) _

/-- An answer of the gender menu goes on. -/
theorem answered_onward (choice : Int32) (state : MenuState) :
    (answered choice state).Always fun after _ => Onward after := by
  unfold answered
  dsimp only
  split
  · simp only [backOut, Talk.bind_eq, Talk.pure_eq_done, Talk.always_bind, Talk.always_done]
    refine (closeGender_passing _).mono fun _ _ _ => ?_
    exact (resumeList_passing _).mono fun _ _ _ => onward_enter .browse (by decide) _
  · split <;> exact onward_enter .commit (by decide) _

/-- Waiting for an answer goes on. -/
theorem awaitGender_onward {state : MenuState}
    (waiting : Stage.ofProgress state.progress = .awaitGender) :
    (awaitGender state).Always fun after _ => Onward after := by
  unfold awaitGender
  cases state.windows.get genderSlot with
  | none => exact answered_onward 0 state
  | some window =>
    rintro (_ | _)
    · exact fun choice => answered_onward choice state
    · exact fun finished => absurd (waiting.symm.trans finished) (by decide)

/-- What a frame of the recruit menu makes of state and host, and whether it is the last one. -/
inductive Makes (state : MenuState) (before : SimulatedHost) :
    Bool → MenuState → SimulatedHost → Prop where
  /-- Up to the commit, the roster stays as it is. -/
  | onward {after : MenuState} {host : SimulatedHost}
      (early : Stage.ofProgress state.progress ≠ .commit)
      (going : Stage.ofProgress state.progress ≠ .done) (same : SameRoster before host)
      (onward : Onward after) : Makes state before false after host
  /-- The commit enlists a species, or nobody. -/
  | enlisted {after : MenuState} {host : SimulatedHost}
      (commits : Stage.ofProgress state.progress = .commit)
      (finished : Stage.ofProgress after.progress = .done)
      (enlisted : Enlisted before host after.returnValue) : Makes state before false after host
  /-- The last frame only closes windows. -/
  | closed {after : MenuState} {host : SimulatedHost}
      (finished : Stage.ofProgress state.progress = .done) (same : SameRoster before host)
      (value : after.returnValue = state.returnValue) : Makes state before true after host

/-- A stage that goes on is the whole frame. -/
theorem frame_of_stage {id : Int32} {state : MenuState} {talk : Talk MenuState}
    (runs : update state = goingOn talk) (cx : Context SimulatedHost) :
    let held := (TalkingMenu.recruit.frame id state).hold cx
    held.value = (false, (talk.hold cx).value) ∧
      held.context.host = (talk.hold cx).context.host := by
  -- A frame that does not end the session closes nothing.
  simp only [TalkingMenu.frame, TalkingMenu.recruit, runs, goingOn, Talk.bind_eq,
    Talk.pure_eq_done, Talk.hold_bind, Talk.hold_done, Bool.false_eq_true, if_false]
  exact ⟨trivial, trivial⟩

/-- Every frame of the recruit menu makes one of these of the host. -/
theorem frame_makes (id : Int32) (state : MenuState) (cx : Context SimulatedHost) :
    let held := (TalkingMenu.recruit.frame id state).hold cx
    Makes state cx.host held.value.1 held.value.2 held.context.host := by
  have onward {talk : Talk MenuState} (runs : update state = goingOn talk)
      (early : Stage.ofProgress state.progress ≠ .commit)
      (going : Stage.ofProgress state.progress ≠ .done)
      (uses : talk.Uses fun request => request.enlists = false)
      (always : talk.Always fun after _ => Onward after) :
      let held := (TalkingMenu.recruit.frame id state).hold cx
      Makes state cx.host held.value.1 held.value.2 held.context.host := by
    obtain ⟨value, host⟩ := @frame_of_stage id _ _ runs cx
    simp only [value, host]
    exact .onward early going (hold_roster uses cx) (always.hold cx)
  cases stage : Stage.ofProgress state.progress with
  | browse =>
    exact onward (by rw [update, stage]) (by rw [stage]; decide) (by rw [stage]; decide)
      (browse_uses (fun _ _ other _ => other) state) (browse_onward stage)
  | chooseForm =>
    exact onward (by rw [update, stage]) (by rw [stage]; decide) (by rw [stage]; decide)
      (chooseForm_uses (fun _ _ other _ => other) state fun _ => rfl) (chooseForm_onward state)
  | awaitGender =>
    exact onward (by rw [update, stage]) (by rw [stage]; decide) (by rw [stage]; decide)
      (awaitGender_uses (fun _ _ other _ => other) state) (awaitGender_onward stage)
  | commit =>
    obtain ⟨finished, enlists⟩ := commit_enlists state cx
    obtain ⟨value, host⟩ := @frame_of_stage id state (commit state) (by rw [update, stage]) cx
    simp only [value, host]
    exact .enlisted stage finished enlists.enlisted
  | done =>
    have last : (TalkingMenu.recruit.frame id state) =
        (close state).bind fun after => .done (true, after) := by
      simp only [TalkingMenu.frame, TalkingMenu.recruit, update, stage]
      rfl
    rw [last, Talk.hold_bind]
    exact .closed stage (hold_roster (close_uses (fun _ _ other _ => other) state) cx)
      ((close_passing state).hold cx).1

end DungeonHooks.Replay
