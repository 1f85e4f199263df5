import DungeonHooks.Proofs.Replay.Recruit.Sessions

/-! The roster only grows: no session overwrites a member, and each adds at most one. -/

namespace DungeonHooks.Replay

open RecruitMenu

/-- Every member stays where it was, and whoever is new has a short name. -/
structure Extends (before after : SimulatedHost) : Prop where
  kept : ∀ (slot : Nat) (member : Recruit),
    before.roster[slot]? = some member → after.roster[slot]? = some member
  added : ∀ (slot : Nat) (member : Recruit), after.roster[slot]? = some member →
    before.roster[slot]? = some member ∨ (Text.utf8 member.name).length ≤ nameLength

namespace Extends

variable {before mid after : SimulatedHost}

/-- Rosters that are extended twice are extended. -/
theorem trans (first : Extends before mid) (second : Extends mid after) : Extends before after where
  kept slot member there := second.kept slot member (first.kept slot member there)
  added slot member there := (second.added slot member there).elim (first.added slot member) .inr

/-- A roster that stays the same is extended by nobody. -/
theorem of_same (same : SameRoster before after) : Extends before after where
  kept _ _ there := same.members.roster ▸ there
  added _ _ there := .inl (same.members.roster ▸ there)

/-- A commit extends the roster, if only by nobody. -/
theorem of_enlisted {value : Int32} (enlisted : Enlisted before after value) :
    Extends before after := by
  cases enlisted with
  | full full same =>
    exact ⟨fun _ _ there => same.roster ▸ there, fun _ _ there => .inl (same.roster ▸ there)⟩
  | @joined slot newcomer free short roster marked =>
    have reads (other : Nat) : after.roster[other]? =
        if slot = other then some newcomer else before.roster[other]? := by
      rw [roster, Std.TreeMap.getElem?_insert]
      simp
    refine ⟨fun other member there => ?_, fun other member there => ?_⟩
    · -- The slot of the newcomer was free, so nobody is overwritten.
      have unlike : slot ≠ other := by
        rintro rfl
        exact free.free (Std.TreeMap.mem_iff_isSome_getElem?.mpr (by rw [there]; rfl))
      rw [reads, if_neg unlike, there]
    · rw [reads] at there
      split at there
      · obtain rfl := Option.some.inj there
        exact .inr short
      · exact .inl there

/-- Every turn of the built-in menus extends the roster. -/
theorem of_sound {first : Int32} {turn : MenuTurn SimulatedHost} (sound : Sound first turn) :
    Extends turn.context.host turn.reply.context.host := by
  cases sound.acts with
  | still unopened same state => exact of_same same
  | opened opens same browsing => exact of_same same
  | recruiting event active makes answer state =>
    cases makes with
    | onward early going same onward => exact of_same same
    | enlisted commits finished enlisted => exact of_enlisted enlisted
    | closed finished same value => exact of_same same

end Extends

/-- The hosts along a run: what each turn comes upon, and what the last one leaves. -/
def hosts (run : MenuRun SimulatedHost) : List SimulatedHost :=
  run.turns.map (·.context.host) ++ [run.context.host]

/-- Along sound turns, every later host has an extended roster. -/
theorem hosts_extend {first : Int32} (events : List (MenuEvent SimulatedHost))
    (machine : MenuMachine SimulatedHost) (cx : Context SimulatedHost)
    (sound : ∀ turn ∈ (machine.run cx events).turns, Sound first turn) :
    (hosts (machine.run cx events)).Pairwise Extends ∧
      ∀ host ∈ hosts (machine.run cx events), Extends cx.host host := by
  have ends (machine : MenuMachine SimulatedHost) (cx : Context SimulatedHost) :
      (hosts (machine.run cx [])).Pairwise Extends ∧
        ∀ host ∈ hosts (machine.run cx []), Extends cx.host host :=
    ⟨List.pairwise_singleton _ _, List.forall_mem_singleton.mpr (.of_same (.refl _))⟩
  -- What the first turn leaves is extended by all that come behind it.
  have goesOn {machine : MenuMachine SimulatedHost} {cx : Context SimulatedHost}
      {event : MenuEvent SimulatedHost} {run : MenuRun SimulatedHost}
      (sound : Sound first { machine, context := cx, event })
      (rest : (hosts run).Pairwise Extends ∧ ∀ host ∈ hosts run,
        Extends (MenuTurn.reply { machine, context := cx, event }).context.host host) :
      (hosts (run.after { machine, context := cx, event })).Pairwise Extends ∧
        ∀ host ∈ hosts (run.after { machine, context := cx, event }), Extends cx.host host := by
    have step : Extends cx.host _ := .of_sound sound
    have all := fun host member => step.trans (rest.2 host member)
    exact ⟨List.pairwise_cons.mpr ⟨all, rest.1⟩,
      List.forall_mem_cons.mpr ⟨.of_same (.refl _), all⟩⟩
  induction events generalizing machine cx with
  | nil => exact ends machine cx
  | cons event events ih =>
    cases comes : (MenuTurn.reply { machine, context := cx, event }).answer with
    | error halt =>
      rw [MenuMachine.run_halted comes] at sound ⊢
      exact goesOn (List.forall_mem_cons.mp sound).1 (ends _ _)
    | ok answer =>
      rw [MenuMachine.run_answered comes] at sound ⊢
      obtain ⟨here, later⟩ := List.forall_mem_cons.mp sound
      exact goesOn here (ih _ _ later)

/-- Where a recruit session stands that was opened on a host, and whether it has made its commit. -/
inductive Standing (opened : SimulatedHost) : Bool → MenuState → SimulatedHost → Prop where
  | undecided {state : MenuState} {host : SimulatedHost} (same : SameRoster opened host)
      (onward : Onward state) : Standing opened false state host
  | decided {state : MenuState} {host : SimulatedHost}
      (finished : Stage.ofProgress state.progress = .done)
      (enlisted : Enlisted opened host state.returnValue) : Standing opened true state host

/-- How a recruit session ends that was opened on a host, whether it has made its commit or not. -/
inductive Settles (opened : SimulatedHost) : Bool → SimulatedHost → Int32 → Prop where
  | cancelled {host : SimulatedHost} (same : SameRoster opened host) :
      Settles opened false host (-1)
  | decided {host : SimulatedHost} {value : Int32} (enlisted : Enlisted opened host value) :
      Settles opened true host value

namespace Standing

variable {opened before host : SimulatedHost} {committed : Bool} {state after : MenuState}

/-- It takes no more than that the roster is the same. -/
theorem same (standing : Standing opened committed state before) (same : SameRoster before host) :
    Standing opened committed state host := by
  cases standing with
  | undecided unchanged onward => exact .undecided (unchanged.trans same) onward
  | decided finished enlisted => exact .decided finished (enlisted.till same.members)

/-- A frame that is not the last one leaves the session standing, with its commit made if it was the commit. -/
theorem going (standing : Standing opened committed state before)
    (makes : Makes state before false after host) :
    ∃ later, (committed = true ∨ Stage.ofProgress state.progress = .commit → later = true) ∧
      Standing opened later after host := by
  cases standing with
  | undecided same onward =>
    cases makes with
    | onward early going unchanged onward =>
      exact ⟨false, fun commits => commits.elim nofun fun commits => absurd commits early,
        .undecided (same.trans unchanged) onward⟩
    | enlisted commits finished enlisted =>
      exact ⟨true, fun _ => rfl, .decided finished (enlisted.since same)⟩
  | decided finished enlisted =>
    -- A session whose commit is made has only its last frame left.
    cases makes with
    | onward early going unchanged onward => exact absurd finished going
    | enlisted commits => exact absurd (commits.symm.trans finished) (by decide)

/-- The last frame settles the session. -/
theorem ending (standing : Standing opened committed state before)
    (makes : Makes state before true after host) :
    Settles opened committed host after.returnValue := by
  cases makes with
  | closed finished same value =>
    rw [value]
    cases standing with
    | undecided unchanged onward =>
      rw [onward finished]
      exact .cancelled (unchanged.trans same)
    | decided _ enlisted => exact .decided (enlisted.till same.members)

end Standing

section

variable {first : Int32} {opened : SimulatedHost} {committed : Bool}
  {turn : MenuTurn SimulatedHost}

/-- If the recruit menu is running, its session stands. -/
def Sits (first : Int32) (opened : SimulatedHost) (committed : Bool)
    (machine : MenuMachine SimulatedHost) (cx : Context SimulatedHost) : Prop :=
  machine.state.activeMenu = some first → Standing opened committed machine.state cx.host

/-- The same, whether the session has made its commit or not. -/
def Stands (first : Int32) (opened : SimulatedHost) (machine : MenuMachine SimulatedHost)
    (cx : Context SimulatedHost) : Prop :=
  ∃ committed, Sits first opened committed machine cx

/-- A turn that starts no menu leaves none running that was not running before. -/
theorem Sound.running {menu : Int32} (sound : Sound first turn) (unopened : turn.opens? = none)
    (active : turn.reply.machine.state.activeMenu = some menu) :
    turn.machine.state.activeMenu = some menu := by
  rw [turn.active_next sound.ready, MenuTurn.next, unopened] at active
  dsimp only at active
  split at active
  · contradiction
  · exact active

/-- A turn that starts no menu leaves the session standing. -/
theorem Sound.sits (sound : Sound first turn) (unopened : turn.opens? = none)
    (sits : Sits first opened committed turn.machine turn.context) :
    ∃ later, (committed = true ∨ Commits first turn → later = true) ∧
      Sits first opened later turn.reply.machine turn.reply.context := by
  by_cases active : turn.machine.state.activeMenu = some first
  case neg =>
    exact ⟨true, fun _ => rfl, fun after => absurd (sound.running unopened after) active⟩
  have standing := sits active
  cases sound.acts with
  | still _ same state =>
    -- Polls of other menus are rejected as long as this one is running.
    obtain ⟨state, idle⟩ := state active
    refine ⟨committed, ?_, fun _ => state ▸ standing.same same⟩
    rintro (rfl | commits)
    · rfl
    · rcases idle with rejected | unasked
      · simp [MenuTurn.rejected, commits.event, active, Option.isNone_iff_eq_none] at rejected
        have known := sound.ready.known first active
        rw [rejected] at known
        contradiction
      · have polled : turn.reply = (turn.machine.act (.step first) turn.context) :=
          congrArg (turn.machine.act · turn.context) commits.event
        rw [polled] at unasked
        cases answer : (turn.machine.step first turn.context).answer <;>
          simp [MenuMachine.act, MenuReply.map, answer, Except.map] at unasked
  | opened opens => exact absurd (opens.symm.trans unopened) (Option.some_ne_none _)
  | @recruiting ended after _ _ makes _ state =>
    cases ended with
    | true =>
      exact ⟨true, fun _ => rfl, fun going => by rw [state] at going; contradiction⟩
    | false =>
      obtain ⟨later, commits, stands⟩ := standing.going makes
      refine ⟨later, fun given => commits (given.imp_right Commits.stage), fun _ => ?_⟩
      rw [state]
      exact stands

/-- The turn polls the recruit menu for the last time, which answers with a value. -/
structure Finishes (first : Int32) (turn : MenuTurn SimulatedHost) (value : Int32) : Prop where
  event : turn.event = .step first
  accepted : turn.rejected = false
  answer : turn.reply.answer = .ok (.polled (.done value))

/-- The last poll settles the session. -/
theorem Sound.settles {value : Int32} (sound : Sound first turn)
    (sits : Sits first opened committed turn.machine turn.context)
    (finishes : Finishes first turn value) :
    Settles opened committed turn.reply.context.host value := by
  obtain ⟨event, accepted, answer⟩ := finishes
  have active : turn.machine.state.activeMenu = some first := by
    simp only [MenuTurn.rejected, event, Bool.or_eq_false_iff, decide_eq_false_iff_not,
      not_not] at accepted
    exact accepted.2
  cases sound.acts with
  | still _ _ state =>
    obtain ⟨-, rejected | unasked⟩ := state active
    · exact absurd (accepted.symm.trans rejected) (by decide)
    · exact absurd (answer.symm.trans unasked) (by simp)
  | opened opens =>
    rw [MenuTurn.opens?, event] at opens
    contradiction
  | @recruiting ended after _ _ makes polled state =>
    rw [polled] at answer
    -- Only a frame that ends the session answers with a value.
    cases ended with
    | false => cases answer
    | true =>
      obtain rfl : after.returnValue = value := by injections
      exact (sits active).ending makes

/-- A turn that starts the recruit menu opens a session on the host that it comes upon. -/
theorem Sound.opens (sound : Sound first turn) (opens : turn.opens? = some first) :
    Sits first turn.context.host false turn.reply.machine turn.reply.context := by
  intro _
  cases sound.acts with
  | still unopened => exact absurd (opens.symm.trans unopened) (Option.some_ne_none _)
  | @opened menu started same browsing =>
    obtain rfl := Option.some.inj (opens.symm.trans started)
    exact .undecided same fun finished => absurd ((browsing rfl).symm.trans finished) (by decide)
  | recruiting event =>
    rw [MenuTurn.opens?, event] at opens
    contradiction

/-- A keyboard session keeps the roster that it was opened with. -/
def Types (first : Int32) (opened : SimulatedHost) (machine : MenuMachine SimulatedHost)
    (cx : Context SimulatedHost) : Prop :=
  machine.state.activeMenu ≠ some first ∧ SameRoster opened cx.host

/-- A turn that starts no menu keeps the roster unless the recruit menu is running. -/
theorem Sound.types (sound : Sound first turn) (unopened : turn.opens? = none)
    (types : Types first opened turn.machine turn.context) :
    Types first opened turn.reply.machine turn.reply.context := by
  refine ⟨fun active => types.1 (sound.running unopened active), ?_⟩
  cases sound.acts with
  | still _ same => exact types.2.trans same
  | opened opens => exact absurd (opens.symm.trans unopened) (Option.some_ne_none _)
  | recruiting _ active => exact absurd active types.1

/-- A turn that starts a keyboard menu opens such a session. -/
theorem Sound.opensKeyboard {menu : Int32} (sound : Sound first turn)
    (opens : turn.opens? = some menu) (other : menu ≠ first) :
    Types first turn.context.host turn.reply.machine turn.reply.context := by
  constructor
  · rw [turn.active_next sound.ready, MenuTurn.next, opens]
    exact fun same => other (Option.some.inj same)
  · cases sound.acts with
    | still unopened => exact absurd (opens.symm.trans unopened) (Option.some_ne_none _)
    | opened _ same => exact same
    | recruiting event =>
      rw [MenuTurn.opens?, event] at opens
      contradiction

end

/-- Exactly one member is new: it has a short name, and it is in the first free slot, which is the value. -/
def Joins (before after : SimulatedHost) (value : Int32) : Prop :=
  ∃ (slot : Nat) (member : Recruit), value.toInt = slot ∧ FirstFree before slot ∧
    (Text.utf8 member.name).length ≤ nameLength ∧
    after.roster = before.roster.insert slot member ∧
    after.joined = before.joined ++ [member.species]

/-- A slot that is searched is a word. -/
theorem FirstFree.toInt_slot {host : SimulatedHost} {slot : Nat} (free : FirstFree host slot) :
    (Int32.ofNat slot).toInt = slot := by
  have below := free.searched
  rw [Nat.lt_min, rosterLimit] at below
  exact Int32.toInt_ofNat_of_lt (Nat.lt_trans below.1 (by decide))

namespace Enlisted

variable {before after : SimulatedHost} {value : Int32} (enlisted : Enlisted before after value)

include enlisted

/-- Somebody joins exactly if the value is a slot. -/
theorem joins (slot : 0 ≤ value) : Joins before after value := by
  cases enlisted with
  | joined free short roster marked => exact ⟨_, _, free.toInt_slot, free, short, roster, marked⟩
  | full => contradiction

/-- Otherwise the roster is full, and stays as it is. -/
theorem stays (none : value < 0) : value = -2 ∧ SameMembers before after := by
  cases enlisted with
  | joined free =>
    rw [Int32.lt_iff_toInt_lt, free.toInt_slot, Int32.toInt_zero] at none
    omega
  | full _ same => exact ⟨rfl, same⟩

/-- The value that tells of a full roster tells the truth. -/
theorem full_iff : value = -2 ↔ Full before := by
  cases enlisted with
  | joined free =>
    refine iff_of_false (fun same => ?_) fun full => free.free (full _ free.searched)
    -- A slot is not negative.
    have slot := free.toInt_slot
    rw [same, show (-2 : Int32).toInt = -2 from rfl] at slot
    omega
  | full full => exact iff_of_true rfl full

end Enlisted

/-- Rosters that are the same are full together. -/
theorem SameRoster.full_iff {before after : SimulatedHost} (same : SameRoster before after) :
    Full before ↔ Full after := by
  rw [Full, Full, same.members.roster, same.capacity]

/-- What becomes of the roster along a run of the built-in menus, of which the first recruits. -/
structure RosterGrows (first : Int32) (run : MenuRun SimulatedHost) : Prop where
  /-- Whoever is in the roster stays there unchanged, and whoever is added has a short name. -/
  kept : (hosts run).Pairwise Extends
  /-- A recruit session that finishes adds the one member that its value tells, or nobody; it tells of a full roster exactly if the roster was full when it made its commit. -/
  recruits : ∀ past opening between last future value,
    run.turns = past ++ (opening :: (between ++ [last]) ++ future) →
    opening.opens? = some first → (∀ turn ∈ between, turn.opens? = none) →
    Finishes first last value →
      (0 ≤ value → Joins opening.context.host last.reply.context.host value) ∧
      (value < 0 → (value = -1 ∨ value = -2) ∧
        SameMembers opening.context.host last.reply.context.host) ∧
      ∀ turn ∈ between, Commits first turn → (value = -2 ↔ Full turn.context.host)
  /-- A keyboard session adds nobody, in none of its turns. -/
  keyboards : ∀ past opening between last future menu,
    run.turns = past ++ (opening :: (between ++ [last]) ++ future) →
    opening.opens? = some menu → menu ≠ first → (∀ turn ∈ between, turn.opens? = none) →
      last.opens? = none →
      SameMembers opening.context.host opening.reply.context.host ∧
        SameMembers opening.context.host last.reply.context.host

section

variable {first : Int32} {run : MenuRun SimulatedHost}
  (sound : ∀ turn ∈ run.turns, Sound first turn)
  {past between future : List (MenuTurn SimulatedHost)} {opening last : MenuTurn SimulatedHost}
  (happened : run.turns = past ++ (opening :: (between ++ [last]) ++ future))

include sound happened

/-- All turns of a session are sound. -/
theorem session_sound : ∀ turn ∈ opening :: (between ++ [last]), Sound first turn := by
  intro turn member
  refine sound turn ?_
  rw [happened]
  exact List.mem_append_right _ (List.mem_append_left _ member)

/-- A commit in the middle of a session decides how it ends. -/
theorem session_committed {opened : SimulatedHost} {value : Int32} {turn : MenuTurn SimulatedHost}
    (chain : (opening :: (between ++ [last])).IsChain MenuTurn.Follows)
    (unopened : ∀ turn ∈ between, turn.opens? = none) (finishes : Finishes first last value)
    (member : turn ∈ between) (commits : Commits first turn)
    (stands : Stands first opened turn.machine turn.context) :
    value = -2 ↔ Full turn.context.host := by
  have all := session_sound sound happened
  obtain ⟨earlier, later, rfl⟩ := List.append_of_mem member
  obtain ⟨committed, sits⟩ := stands
  have here : Sound first turn := all turn (by simp)
  -- From the commit on, the session stands decided.
  obtain ⟨decided, done, after⟩ := here.sits (unopened turn member) sits
  obtain rfl := done (.inr commits)
  have rest : (turn :: (later ++ [last])).IsChain MenuTurn.Follows := by
    rw [List.append_assoc, ← List.cons_append] at chain
    exact chain.right_of_append
  have decided := (MenuTurn.follows_invariant rest after fun next member sits => by
    obtain ⟨decided, done, after⟩ := (all next (by simp [member])).sits
      (unopened next (by simp [member])) sits
    exact done (.inl rfl) ▸ after).1
  have settled := (all last (by simp)).settles decided finishes
  have same : SameRoster opened turn.context.host := by
    cases sits commits.active with
    | undecided same => exact same
    | decided finished => exact absurd (commits.stage.symm.trans finished) (by decide)
  cases settled with
  | decided enlisted => exact enlisted.full_iff.trans same.full_iff

/-- A session of the recruit menu stands whenever it is polled. -/
theorem session_stands (chain : (opening :: (between ++ [last])).IsChain MenuTurn.Follows)
    (opens : opening.opens? = some first) (unopened : ∀ turn ∈ between, turn.opens? = none) :
    Stands first opening.context.host last.machine last.context ∧
      ∀ turn ∈ between, Stands first opening.context.host turn.machine turn.context := by
  have all := session_sound sound happened
  have started : Stands first opening.context.host opening.reply.machine opening.reply.context :=
    ⟨false, (all opening (by simp)).opens opens⟩
  refine MenuTurn.follows_invariant chain started fun turn member ⟨_, sits⟩ => ?_
  obtain ⟨later, -, after⟩ := (all turn (by simp [member])).sits (unopened turn member) sits
  exact ⟨later, after⟩

/-- A session of a keyboard menu keeps the roster in each of its turns. -/
theorem session_types {menu : Int32}
    (chain : (opening :: (between ++ [last])).IsChain MenuTurn.Follows)
    (opens : opening.opens? = some menu) (other : menu ≠ first)
    (unopened : ∀ turn ∈ between, turn.opens? = none) (closing : last.opens? = none) :
    SameRoster opening.context.host opening.reply.context.host ∧
      SameRoster opening.context.host last.reply.context.host := by
  have all := session_sound sound happened
  have started := (all opening (by simp)).opensKeyboard opens other
  obtain ⟨stands, -⟩ := MenuTurn.follows_invariant chain started fun turn member =>
    (all turn (by simp [member])).types (unopened turn member)
  exact ⟨started.2, ((all last (by simp)).types closing stands).2⟩

omit sound

/-- The turns of a session follow on each other if those of the whole run do. -/
theorem session_chain (chain : run.turns.IsChain MenuTurn.Follows) :
    (opening :: (between ++ [last])).IsChain MenuTurn.Follows := by
  rw [happened] at chain
  exact chain.right_of_append.left_of_append

end

/-- The roster only grows along a run of the built-in menus, if nothing but the menus changes it: no member is overwritten, and each session adds at most the one that its value tells. -/
theorem roster_only_grows (first : Int32) {events : List (MenuEvent SimulatedHost)}
    (calm : ∀ change, .meanwhile change ∈ events → ∀ host, SameRoster host (change host))
    (cx : Context SimulatedHost) :
    RosterGrows first ((MenuMachine.builtin first).run cx events) := by
  have sound := run_sound calm rfl ⟨builtin_steady first, nofun⟩ cx
  have follows := MenuMachine.run_follows events (MenuMachine.builtin first) cx
  refine ⟨(hosts_extend events _ cx sound).1, ?recruits, ?keyboards⟩
  case recruits =>
    intro past opening between last future value happened opens unopened finishes
    have chain := session_chain happened follows
    obtain ⟨⟨committed, sits⟩, stands⟩ := session_stands sound happened chain opens unopened
    have ending := (session_sound sound happened last (by simp)).settles sits finishes
    refine ⟨fun slot => ?_, fun none => ?_, fun turn member commits =>
      session_committed sound happened chain unopened finishes member commits (stands turn member)⟩
    · -- A session that is cancelled does not finish with a slot.
      cases ending with
      | cancelled => contradiction
      | decided enlisted => exact enlisted.joins slot
    · cases ending with
      | cancelled same => exact ⟨.inl rfl, same.members⟩
      | decided enlisted => exact (enlisted.stays none).imp_left .inr
  case keyboards =>
    intro past opening between last future menu happened opens other unopened closing
    exact (session_types sound happened (session_chain happened follows) opens other unopened
      closing).imp SameRoster.members SameRoster.members

/-- The first slot is taken, the second is free, and a member is in a slot that is not searched. -/
private def oneFreeSlot : SimulatedHost where
  roster := .ofList [(0, newcomer 1 "Bulbasaur"), (5, newcomer 4 "Charmander")]
  rosterCapacity := 2
  monsterNames := .ofList [((25 : Int32), "Paperclipper")]
  input := { advanced := [{ result := 24 }, { result := 24 }] }

/-- Starts the recruit menu, and polls it in four frames. -/
private def fourFrames : List (MenuEvent SimulatedHost) :=
  .start 80 :: (List.replicate 4 [.meanwhile SimulatedHost.advanceFrame, .step 80]).flatten

/-- Two visits, of which only the first finds a free slot. -/
private def twoVisits : MenuRun SimulatedHost :=
  (MenuMachine.builtin 80).run { host := oneFreeSlot } (fourFrames ++ fourFrames)

/-- The answers to a visit that finishes with a value. -/
private def visitAnswers (value : Int32) : List (Except Halt MenuAnswer) :=
  .ok .started :: ([.pending, .pending, .pending, .done value].map fun step : MenuStep =>
    [.ok .unasked, .ok (.polled step)]).flatten

/-- The first visit adds a member with a cut name in the second slot, and the second one finds the roster full. -/
theorem oneFreeSlot_grows :
    twoVisits.turns.map (fun turn => turn.reply.answer) = visitAnswers 1 ++ visitAnswers (-2) ∧
      twoVisits.context.host.roster.toList.map (fun entry => (entry.1, entry.2.name)) =
        [(0, "Bulbasaur"), (1, "Paperclipp"), (5, "Charmander")] ∧
      RosterGrows 80 twoVisits := by
  refine ⟨by decide +kernel, by decide +kernel,
    roster_only_grows 80 (fun change member host => ?_) _⟩
  -- All that happens between the polls is a frame of input.
  obtain rfl : change = SimulatedHost.advanceFrame := by
    simpa [fourFrames] using member
  refine ⟨.advanceFrame host, ?_⟩
  unfold SimulatedHost.advanceFrame
  cases host.keyboard <;> rfl

end DungeonHooks.Replay
