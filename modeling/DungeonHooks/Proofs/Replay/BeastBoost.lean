import DungeonHooks.Proofs.Replay.History

/-! Beast boosts and faints: what a reported boost tells about the target of the move. -/

namespace DungeonHooks.Replay

/-- The report tells of a beast boost. -/
def StepReport.boosted (report : StepReport) : Bool :=
  report.detail.any (·.endsWith "beast boost")

/-- Whether a named entity is valid, if there is one. -/
def Session.standing (session : Session) (name : String) : Option Bool :=
  session.entities[name]?.map (·.valid)

/-- A move of the turn reports a beast boost against a named entity. -/
def Turn.boostsAgainst (turn : Turn) (name : String) : Bool :=
  match turn.step with
  | .useMove step => step.target == name && turn.report.boosted
  | _ => false

/-- A named entity is valid before the turn and not after it. -/
def Turn.fells (turn : Turn) (name : String) : Bool :=
  turn.before.standing name == some true && turn.after.standing name == some false

/-- The move strikes a target that is then gone, and its user has the ability. -/
def MoveStep.Downs (step : MoveStep) (session : Session) : Prop :=
  -- The user is looked at as the strike left it, not as it was before.
  ∃ pair monster, session.pair step.user step.target = .ok pair ∧
    (strike step pair session).hit = true ∧ (strike step pair session).target.valid = false ∧
    (strike step pair session).user.monster = some monster ∧ monster.hasAbility beastBoost = true

/-- A text ends with another exactly if the letters of the other are its last ones. -/
theorem endsWith_iff_suffix {text ending : String} :
    text.endsWith ending = true ↔ ending.toList <:+ text.toList := by
  rw [String.endsWith_eq_endsWith_toSlice, String.Slice.endsWith_string_iff, String.copy_toSlice]

/-- No number is written with a letter that is neither a digit nor the sign. -/
theorem not_mem_toString_int {letter : Char} (digit : letter.isDigit = false) (sign : letter ≠ '-')
    (number : Int) : letter ∉ (toString number).toList := by
  -- The digits of a natural number are all there is to it.
  have natural (n : Nat) : letter ∉ n.repr.toList := by
    rw [Nat.toList_repr]
    intro member
    have isDigit := Nat.isDigit_of_mem_toDigits (by decide) (by decide) member
    rw [digit] at isDigit
    contradiction
  cases number with
  | ofNat n => exact natural n
  | negSucc n =>
    -- A negative number has its sign in front of them.
    change letter ∉ ("-" ++ (n + 1).repr).toList
    rw [String.toList_append, List.mem_append]
    rintro (isSign | isDigit)
    · exact sign (by simpa using isSign)
    · exact natural (n + 1) isDigit

/-- The host's own damage is never reported as a beast boost. -/
theorem native_not_boost (power : Int) :
    (s!"native damage {power}").endsWith "beast boost" = false := by
  rw [Bool.eq_false_iff, ne_eq, endsWith_iff_suffix]
  intro ends
  -- The first letter of the ability is found nowhere in the text.
  have member : 'b' ∈ ("native damage " ++ toString power).toList :=
    ends.subset (show 'b' ∈ "beast boost".toList by decide)
  rw [String.toList_append, List.mem_append] at member
  rcases member with words | number
  · exact absurd words (by decide)
  · exact not_mem_toString_int (by decide) (by decide) power number

/-- A move is reported with a boost exactly if there was one. -/
theorem detail_boosted (step : MoveStep) (handled boosted : Bool) :
    (step.detail handled boosted).any (·.endsWith "beast boost") = boosted := by
  cases handled <;> cases boosted
  case false.false => exact native_not_boost _
  case false.true =>
    rw [MoveStep.detail, Option.any_some, endsWith_iff_suffix, String.toList_append]
    -- The name of the ability ends what is added to the damage.
    exact (show "beast boost".toList <:+ ", beast boost".toList by decide).trans
      (List.suffix_append _ _)
  case true.false => rfl
  case true.true => exact show "beast boost".endsWith "beast boost" = true by decide +kernel

/-- The ability acts exactly if the user has it and the target is gone. -/
theorem checkBeastBoost_acts_iff {σ : Type} [Host σ] {cx : Context σ} {user target : Entity} :
    (checkBeastBoost cx user target).1 = true ↔ target.valid = false ∧
      ∃ monster, user.monster = some monster ∧ monster.hasAbility beastBoost = true := by
  unfold checkBeastBoost
  cases user.monster with
  -- Without a monster there is nobody to have the ability.
  | none => simp
  | some monster =>
    cases able : monster.hasAbility beastBoost <;> cases target.valid <;> simp [able]

/-- A move reports a boost exactly if it downs its target, and the target stays as it was struck. -/
theorem runMove_boosted_iff {step : MoveStep} {session : Session} {pair : Entity × Entity}
    {report : StepReport} (found : session.pair step.user step.target = .ok pair) :
    (runMove step report pair session).1.boosted = true ↔ step.Downs session := by
  -- The report is read back: it tells of a boost if the move hit and the check acted.
  have reported : (runMove step report pair session).1.boosted =
      ((strike step pair session).hit && (checkBeastBoost (strike step pair session).context
        (strike step pair session).user (strike step pair session).target).1) := by
    simp only [runMove, Struck.check, StepReport.boosted, detail_boosted]
    cases (strike step pair session).hit <;> rfl
  rw [reported, Bool.and_eq_true, checkBeastBoost_acts_iff]
  constructor
  · rintro ⟨hit, gone, monster, has, able⟩
    exact ⟨pair, monster, found, hit, gone, has, able⟩
  · rintro ⟨same, monster, found', hit, gone, has, able⟩
    -- The pair is the one that the step names, in whichever way it was found.
    cases found.symm.trans found'
    exact ⟨hit, gone, monster, has, able⟩

/-- After a move the target stands as the strike left it. -/
theorem standing_runMove (step : MoveStep) (report : StepReport) (pair : Entity × Entity)
    (session : Session) :
    (runMove step report pair session).2.standing step.target =
      some (strike step pair session).target.valid := by
  -- The target is written last, under its own name.
  simp [runMove, Session.standing, Session.putPair]

/-- A turn with a move is the move's own, on the two entities that it names. -/
theorem Turn.Taken.move {turn : Turn} (taken : turn.Taken) {step : MoveStep}
    (moves : turn.step = .useMove step) :
    ∃ index pair, turn.before.pair step.user step.target = .ok pair ∧
      turn.report = (runMove step { index, kind := "use_move" } pair turn.before).1 ∧
      turn.after.entities =
        (runMove step { index, kind := "use_move" } pair turn.before).2.entities := by
  obtain ⟨index, after, ran, logged⟩ := taken
  rw [moves] at ran
  obtain ⟨pair, found, left⟩ := runStep_useMove ran
  -- That the step is over is told to the log, and to nothing else.
  rw [logged]
  exact ⟨index, pair, found, congrArg Prod.fst left, congrArg (·.2.entities) left⟩

/-- What a boost that a turn reports tells about the target of the move. -/
structure Turn.Accounted (turn : Turn) (step : MoveStep) : Prop where
  exact : turn.report.boosted = true ↔ step.Downs turn.before
  gone : turn.report.boosted = true → turn.after.standing step.target = some false
  fell : turn.report.boosted = true → turn.before.standing step.target ≠ some false →
    turn.fells step.target = true

/-- Two entities that a step names are there. -/
theorem Session.standing_pair {session : Session} {user target : String} {pair : Entity × Entity}
    (found : session.pair user target = .ok pair) :
    session.standing target = some pair.2.valid := by
  unfold Session.pair at found
  split at found
  -- Nobody is paired with itself.
  · cases found
  · cases there : session.entities[target]? with
    | none => simp [there] at found
    | some targetEntity =>
      cases here : session.entities[user]? with
      | none => simp [there, here] at found
      | some userEntity =>
        simp only [there, here, Except.ok.injEq] at found
        simp [standing, there, ← found]

/-- Every turn with a move accounts for its boost. -/
theorem Turn.Taken.accounted {turn : Turn} (taken : turn.Taken) {step : MoveStep}
    (moves : turn.step = .useMove step) : turn.Accounted step := by
  obtain ⟨index, pair, found, report, entities⟩ := taken.move moves
  have exact : turn.report.boosted = true ↔ step.Downs turn.before := by
    rw [report, runMove_boosted_iff found]
  -- The target stays as the strike left it, which is gone.
  have gone (boosted : turn.report.boosted = true) :
      turn.after.standing step.target = some false := by
    obtain ⟨same, monster, found', hit, gone, has, able⟩ := exact.mp boosted
    cases found.symm.trans found'
    have stands := standing_runMove step { index, kind := "use_move" } pair turn.before
    rw [Session.standing, entities]
    rw [Session.standing, gone] at stands
    exact stands
  refine ⟨exact, gone, ?_⟩
  intro boosted stood
  -- It was either gone or valid before, and the second is what is left.
  have before := Session.standing_pair found
  rw [before] at stood
  have valid : pair.2.valid = true := by simpa using stood
  rw [fells, before, valid, gone boosted]
  rfl

/-- The move of a turn is used on a target that is still valid, if the turn is a move at all. -/
def Turn.OnValidTarget (turn : Turn) : Prop :=
  ∀ step, turn.step = .useMove step → turn.before.standing step.target ≠ some false

/-- What the boosts of a whole history tell: each of its own target, and all of them together. -/
structure BoostsAccounted (history : List Turn) : Prop where
  each : ∀ turn ∈ history, ∀ step, turn.step = .useMove step → turn.Accounted step
  /-- Boosts against an entity that was valid until then are at most as many as its faints. -/
  once : ∀ name, history.countP (fun turn =>
      turn.boostsAgainst name && turn.before.standing name != some false) ≤
    history.countP (·.fells name)
  /-- So are all boosts, as long as no move is used on an entity that is gone already. -/
  all : (∀ turn ∈ history, turn.OnValidTarget) → ∀ name,
    history.countP (·.boostsAgainst name) ≤ history.countP (·.fells name)

/-- A boost against an entity that was valid until then marks its faint. -/
theorem Turn.Taken.fells_of_boost {turn : Turn} (taken : turn.Taken) {name : String}
    (boosts : turn.boostsAgainst name = true)
    (stood : turn.before.standing name ≠ some false) : turn.fells name = true := by
  unfold boostsAgainst at boosts
  split at boosts
  case h_1 step moves =>
    simp only [Bool.and_eq_true, beq_iff_eq] at boosts
    obtain ⟨rfl, boosted⟩ := boosts
    exact (taken.accounted moves).fell boosted stood
  -- Only moves report boosts.
  case h_2 => simp at boosts

/-- In every replay, a reported boost has a target that is gone, and that fell then if it was valid. -/
theorem boosts_mark_faints (scenario : Scenario) (engine : Engine SimulatedHost)
    (context : Context SimulatedHost) : BoostsAccounted (scenario.turns engine context) where
  each turn member step moves := (turns_taken member).accounted moves
  once name := by
    -- Every turn that counts as a boost also counts as a faint.
    refine List.countP_mono_left fun turn member boosts => ?_
    simp only [Bool.and_eq_true, bne_iff_ne, ne_eq] at boosts
    exact (turns_taken member).fells_of_boost boosts.1 boosts.2
  all valid name := by
    refine List.countP_mono_left fun turn member boosts => ?_
    have taken := turns_taken member
    refine taken.fells_of_boost boosts ?_
    -- The boost belongs to a move, which is not used on an entity that is gone.
    unfold Turn.boostsAgainst at boosts
    split at boosts
    case h_1 step moves =>
      simp only [Bool.and_eq_true, beq_iff_eq] at boosts
      exact boosts.1 ▸ valid turn member step moves
    case h_2 => simp at boosts

/-- A foe that is struck again after it has fallen. -/
def struckTwice : Scenario where
  name := "struck twice"
  world :=
    { entities := Std.TreeMap.ofList
        [("hero", Entity.ofMonster { attack := 90, abilities := { first := beastBoost } }),
          ("foe", Entity.ofMonster { hp := 5, maxHp := 5 })] }
  steps :=
    let strike : Step :=
      .useMove { user := "hero", target := "foe", moveId := 33, power := 12 }
    [strike, strike]

/-- The second strike is reported with a boost too, though the foe is gone before it. -/
theorem two_boosts_for_one_faint :
    let history := struckTwice.turns (Engine.new {}) { host := struckTwice.world.host }
    (∃ turn ∈ history, turn.boostsAgainst "foe" = true ∧
        turn.before.standing "foe" = some false) ∧
      history.countP (·.fells "foe") < history.countP (·.boostsAgainst "foe") := by
  decide +kernel

end DungeonHooks.Replay
