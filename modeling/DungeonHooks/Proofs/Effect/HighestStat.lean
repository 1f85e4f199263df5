import DungeonHooks.Host.Recorder
import DungeonHooks.Proofs.Effect.Ties
import DungeonHooks.Proofs.Replay.BeastBoost
import DungeonHooks.Proofs.Replay.Draw

/-! Beast Boost raises a highest stat, and a draw of the host decides which one if there are several. -/

namespace DungeonHooks

/-- The command by which a host raises a stat of an entity by one stage. -/
def Stat.boostCall (stat : Stat) (user : Entity) : HostCall :=
  match stat with
  | .attack => .boostOffensiveStat user .physical 1
  | .defense => .boostDefensiveStat user .physical 1
  | .specialAttack => .boostOffensiveStat user .special 1
  | .specialDefense => .boostDefensiveStat user .special 1

/-- The note that the simulated host keeps of a raised stat. -/
def Stat.boostNote : Stat → String
  | .attack => "offensive physical +1"
  | .defense => "defensive physical +1"
  | .specialAttack => "offensive special +1"
  | .specialDefense => "defensive special +1"

section

variable {σ : Type}

/-- The context on a host that keeps all commands, and was given none yet. -/
def Context.recorded (cx : Context σ) : Context (Recorder σ Unit) :=
  { host := { host := cx.host }, journal := cx.journal, log := cx.log }

/-- The context without the record of its host. -/
def Context.unrecorded (cx : Context (Recorder σ Unit)) : Context σ :=
  { host := cx.host.host, journal := cx.journal, log := cx.log }

variable [Host σ] (cx : Context σ) (user target : Entity)

/-- All that the check of the ability commands its host. -/
def boostCommands : List (HostEvent Unit) :=
  (checkBeastBoost cx.recorded user target).2.2.host.events

/-- What the check of the ability comes to, on any host. -/
structure BoostSettled : Prop where
  /-- A host is served alike, whether its commands are kept or not. -/
  recorded : checkBeastBoost cx user target =
    let checked := checkBeastBoost cx.recorded user target
    (checked.1, checked.2.1, checked.2.2.unrecorded)
  acts : (checkBeastBoost cx user target).1 = true ↔ target.valid = false ∧
    ∃ monster, user.monster = some monster ∧
      (monster.abilities.first = 0x74 ∨ monster.abilities.second = 0x74)
  /-- An ability that does not act leaves everything alone. -/
  still : (checkBeastBoost cx user target).1 = false →
    checkBeastBoost cx user target = (false, user, cx) ∧ boostCommands cx user target = []
  /-- One that acts shows its message, draws among the highest stats, and raises the one chosen. -/
  boosts : ∀ monster, user.monster = some monster → (checkBeastBoost cx user target).1 = true →
    ∃ draw stat, monster.Chooses draw stat ∧
      boostCommands cx user target =
        [.call (.logMessage user beastBoostMessage),
          .call (.randRange 0 (Int32.ofNat monster.topStats.length) draw),
          .call (stat.boostCall user)] ∧
      (checkBeastBoost cx user target).2.2.journal = cx.journal.keep
        { category := .effects, severity := .info
          message := s!"Beast Boost raised {stat.describe} ({monster.topStats.length} tied)" }

/-- The same command raises a stat on a host whose commands are kept. -/
theorem boost_recorded (stat : Stat) (host : Recorder σ Unit) :
    stat.boost user host =
      let reply := stat.boost user host.host
      { value := reply.value, said := reply.said
        host := { host := reply.host, events := host.events ++ [.call (stat.boostCall user)] } } := by
  cases stat <;> rfl

variable {user target}

/-- Unless the user has the ability and the target is gone, the check leaves everything alone. -/
theorem checkBeastBoost_still
    (still : ¬ (target.valid = false ∧
      ∃ monster, user.monster = some monster ∧ monster.hasAbility beastBoost = true)) :
    checkBeastBoost cx user target = (false, user, cx) := by
  unfold checkBeastBoost
  cases has : user.monster with
  | none => rfl
  | some monster =>
    cases able : monster.hasAbility beastBoost with
    | false => simp [able]
    | true =>
      cases gone : target.valid with
      | true => simp [able]
      -- Of the four cases, this is the one that is left out.
      | false => exact absurd ⟨gone, monster, has, able⟩ still

/-- Otherwise the check shows its message, draws, raises a stat and tells the journal. -/
theorem checkBeastBoost_acting {monster : Monster} (gone : target.valid = false)
    (has : user.monster = some monster) (able : monster.hasAbility beastBoost = true) :
    checkBeastBoost cx user target =
      let shown := cx.tell (Host.logMessage user beastBoostMessage)
      let drawn := shown.call (Host.randRange 0 (Int32.ofNat monster.topStats.length))
      let stat := Stat.select monster.tiedStats drawn.1
      let raised := drawn.2.call (stat.boost user)
      (true, raised.1, raised.2.info .effects
        s!"Beast Boost raised {stat.describe} ({monster.topStats.length} tied)") := by
  rw [← tiedStats_eq]
  simp only [checkBeastBoost, has, able, gone, Bool.not_true, Bool.or_self, Bool.false_eq_true,
    if_false]

variable (user target)

/-- Whatever the host is and answers, the check comes to what it should. -/
theorem boost_settled : BoostSettled cx user target := by
  have acts : (checkBeastBoost cx user target).1 = true ↔ target.valid = false ∧
      ∃ monster, user.monster = some monster ∧ monster.hasAbility beastBoost = true :=
    Replay.checkBeastBoost_acts_iff
  by_cases acting : target.valid = false ∧
    ∃ monster, user.monster = some monster ∧ monster.hasAbility beastBoost = true
  case neg =>
    -- Neither host is commanded anything.
    have plain := checkBeastBoost_still cx acting
    have kept := checkBeastBoost_still cx.recorded acting
    refine ⟨?_, ?_, ?_, ?_⟩
    · rw [plain, kept]
      rfl
    · simpa [Monster.hasAbility, beastBoost] using acts
    · intro _
      exact ⟨plain, congrArg (·.2.2.host.events) kept⟩
    · intro monster has acted
      exact absurd (acts.mp acted) acting
  case pos =>
    obtain ⟨gone, monster, has, able⟩ := id acting
    -- Both hosts go through the same commands, and one of them keeps each.
    have plain := checkBeastBoost_acting cx gone has able
    have kept := checkBeastBoost_acting cx.recorded gone has able
    refine ⟨?_, ?_, ?_, ?_⟩
    · rw [plain, kept]
      simp only [Context.tell, Context.call, boost_recorded]
      rfl
    · simpa [Monster.hasAbility, beastBoost] using acts
    · intro still
      rw [acts.mpr acting] at still
      contradiction
    · intro other has' _
      obtain rfl : monster = other := Option.some.inj (has.symm.trans has')
      -- What the host draws is up to it, and the stat follows from it.
      let shown := cx.tell (Host.logMessage user beastBoostMessage)
      let draw := (shown.call (Host.randRange 0 (Int32.ofNat monster.topStats.length))).1
      refine ⟨draw, Stat.select monster.tiedStats draw, chooses_select draw, ?_, ?_⟩
      · rw [boostCommands, kept]
        simp only [Context.tell, Context.call, boost_recorded]
        rfl
      · rw [plain]
        rfl

end

namespace Replay

/-- The simulated host after an ability has acted: the message is shown, a value is taken, and the boost is noted. -/
def SimulatedHost.afterBoost (host : SimulatedHost) (stat : Stat) : SimulatedHost :=
  { host with
    messages := host.messages ++ [beastBoostMessage]
    statBoosts := host.statBoosts ++ [stat.boostNote]
    random := host.random.tail }

/-- The simulated host with a value in front of its queue. -/
def SimulatedHost.queueFirst (host : SimulatedHost) (value : Int32) : SimulatedHost :=
  { host with random := value :: host.random }

/-- How the simulated host decides between the highest stats of a user whose ability acts. -/
structure BoostsByRemainder (cx : Context SimulatedHost) (user target : Entity) : Prop where
  /-- The next value of the queue chooses by its remainder; without any, the first stat is chosen. -/
  chosen : ∀ monster, user.monster = some monster → (checkBeastBoost cx user target).1 = true →
    ∃ stat, monster.topStats[((cx.host.random.headD 0).toInt % monster.topStats.length).toNat]? =
        some stat ∧
      (checkBeastBoost cx user target).2.1 = user ∧
      (checkBeastBoost cx user target).2.2.host = cx.host.afterBoost stat
  /-- Every highest stat is chosen by some value. -/
  reached : ∀ monster stat, user.monster = some monster →
    (checkBeastBoost cx user target).1 = true → monster.Tops stat →
      ∃ value, (checkBeastBoost { cx with host := cx.host.queueFirst value } user target).2.2.host =
        (cx.host.queueFirst value).afterBoost stat

/-- The stat that is raised is noted under its own name. -/
theorem boost_noted (stat : Stat) (user : Entity) (host : SimulatedHost) :
    stat.boost user host =
      .still { host with statBoosts := host.statBoosts ++ [stat.boostNote] } user := by
  cases stat <;> rfl

/-- A draw from 0 on is the remainder of the next value. -/
theorem toInt_draw_zero {count : Nat} (positive : 0 < count) (few : count ≤ 4) (host : SimulatedHost) :
    (host.draw 0 (Int32.ofNat count)).1.toInt = (host.random.headD 0).toInt % count := by
  have counts : (Int32.ofNat count).toInt = count := Int32.toInt_ofNat_of_lt (by omega)
  have room : 0 < Int32.ofNat count := by
    rw [Int32.lt_iff_toInt_lt, counts, Int32.toInt_zero]
    omega
  have span : (saturatingSub (Int32.ofNat count) 0).toInt = count := by
    rw [SimulatedHost.toInt_span room, counts, Int32.toInt_zero, Int32.toInt_maxValue]
    omega
  cases queued : host.random with
  | nil =>
    -- Nothing is queued, so that the lower bound is drawn.
    rw [SimulatedHost.draw_unqueued (by rw [queued, List.head?_nil])]
    simp
  | cons value later =>
    rw [SimulatedHost.toInt_draw room (by rw [queued, List.head?_cons]), span, Int32.toInt_zero,
      Int.zero_add, List.headD_cons]

/-- The ability raises the stat at the place that the remainder of the next value counts to. -/
theorem boost_chosen (cx : Context SimulatedHost) {user target : Entity} {monster : Monster}
    (has : user.monster = some monster) (acts : (checkBeastBoost cx user target).1 = true) :
    ∃ stat, monster.topStats[((cx.host.random.headD 0).toInt % monster.topStats.length).toNat]? =
        some stat ∧
      (checkBeastBoost cx user target).2.1 = user ∧
      (checkBeastBoost cx user target).2.2.host = cx.host.afterBoost stat := by
  obtain ⟨gone, same, found, able⟩ := checkBeastBoost_acts_iff.mp acts
  obtain rfl : monster = same := Option.some.inj (has.symm.trans found)
  obtain ⟨positive, few⟩ := topStats_length monster
  -- The message comes first, and has nothing to do with the queue.
  let shown : SimulatedHost := { cx.host with messages := cx.host.messages ++ [beastBoostMessage] }
  let draw := (shown.draw 0 (Int32.ofNat monster.topStats.length)).1
  have drawn : draw.toInt = (cx.host.random.headD 0).toInt % monster.topStats.length :=
    toInt_draw_zero positive few shown
  have natural := Int.emod_nonneg (cx.host.random.headD 0).toInt
    (show (monster.topStats.length : Int) ≠ 0 by omega)
  have below := Int.emod_lt_of_pos (cx.host.random.headD 0).toInt
    (show 0 < (monster.topStats.length : Int) by omega)
  refine ⟨Stat.select monster.tiedStats draw, ?_, ?_⟩
  · exact (chooses_select draw).inside _ (by omega) (by omega)
  · rw [checkBeastBoost_acting cx gone has able]
    simp only [Context.tell, Context.call, boost_noted]
    refine ⟨rfl, ?_⟩
    -- Drawing takes a value from the queue, and the note of the boost comes after.
    have left := SimulatedHost.draw_host 0 (Int32.ofNat monster.topStats.length) shown
    exact congrArg (fun after : SimulatedHost => { after with
      statBoosts := after.statBoosts ++ [(Stat.select monster.tiedStats draw).boostNote] }) left

/-- For every highest stat there is a value that chooses it: its own place. -/
theorem boost_reached (cx : Context SimulatedHost) {user target : Entity} {monster : Monster}
    {stat : Stat} (has : user.monster = some monster)
    (acts : (checkBeastBoost cx user target).1 = true) (tops : monster.Tops stat) :
    ∃ value, (checkBeastBoost { cx with host := cx.host.queueFirst value } user target).2.2.host =
      (cx.host.queueFirst value).afterBoost stat := by
  have member : stat ∈ monster.topStats :=
    List.mem_filter.mpr ⟨stat.mem_all, decide_eq_true tops⟩
  obtain ⟨place, there, found⟩ := List.mem_iff_getElem.mp member
  obtain ⟨-, few⟩ := topStats_length monster
  refine ⟨Int32.ofNat place, ?_⟩
  let queued : Context SimulatedHost := { cx with host := cx.host.queueFirst (Int32.ofNat place) }
  -- Whether the ability acts is not up to the host.
  have again : (checkBeastBoost queued user target).1 = true :=
    checkBeastBoost_acts_iff.mpr (checkBeastBoost_acts_iff.mp acts)
  obtain ⟨chosen, counted, -, left⟩ := boost_chosen queued has again
  -- A place is less than the number of places, and so is its own remainder.
  have counts : ((queued.host.random.headD 0).toInt % monster.topStats.length).toNat = place := by
    have exact : (Int32.ofNat place).toInt = place := Int32.toInt_ofNat_of_lt (by omega)
    show ((Int32.ofNat place).toInt % monster.topStats.length).toNat = place
    rw [exact, Int.emod_eq_of_lt (by omega) (by omega), Int.toNat_natCast]
  rw [counts, List.getElem?_eq_getElem there, found] at counted
  obtain rfl : stat = chosen := Option.some.inj counted
  exact left

end Replay

open Replay in
/-- The ability raises one of the highest stats: which one is up to a single draw, on any host. -/
theorem highest_stat_boosted {σ : Type} [Host σ] (cx : Context σ) (simulated : Context SimulatedHost)
    (user target : Entity) :
    BoostSettled cx user target ∧ BoostsByRemainder simulated user target := by
  constructor
  · exact boost_settled cx user target
  · constructor
    · intro monster has acts
      exact boost_chosen simulated has acts
    · intro monster stat has acts tops
      exact boost_reached simulated has acts tops

/-- Of three highest stats below zero, the value -1 chooses the last. -/
example :
    let user := Entity.ofMonster
      { attack := -3, defense := -7, specialAttack := -3, specialDefense := -3
        abilities := { second := beastBoost } }
    let cx : Context Replay.SimulatedHost := { host := { random := [-1, 6] } }
    (checkBeastBoost cx user { valid := false }).2.2.host.statBoosts = ["defensive special +1"] := by
  decide

end DungeonHooks
