import DungeonHooks.Effect.Event
import DungeonHooks.Host.Basic

/-! Beast Boost: who strikes down a target raises its own highest stat. -/

namespace DungeonHooks

/-- The ability slot that Beast Boost takes over. -/
def beastBoost : UInt8 := 0x74

/-- The four stats that may be raised, in the order that settles ties. -/
inductive Stat where
  | attack
  | defense
  | specialAttack
  | specialDefense
  deriving DecidableEq, Inhabited

/-- The display text of a stat. -/
def Stat.describe : Stat → String
  | .attack => "Attack"
  | .defense => "Defense"
  | .specialAttack => "SpecialAttack"
  | .specialDefense => "SpecialDefense"

/-- The four stats in order. -/
def Stat.all : List Stat :=
  [.attack, .defense, .specialAttack, .specialDefense]

/-- A monster's value of a stat. -/
def Monster.stat (monster : Monster) : Stat → Int32
  | .attack => monster.attack
  | .defense => monster.defense
  | .specialAttack => monster.specialAttack
  | .specialDefense => monster.specialDefense

/-- The largest of a monster's four stats. -/
def Monster.highestStat (monster : Monster) : Int32 :=
  max (max (monster.stat .attack) (monster.stat .defense))
    (max (monster.stat .specialAttack) (monster.stat .specialDefense))

/-- The stats that have the largest value, in order. -/
def Monster.tiedStats (monster : Monster) : List Stat :=
  Stat.all.filter fun stat => monster.stat stat == monster.highestStat

/-- The stat a draw selects; a draw outside the list selects the first. -/
def Stat.select (tied : List Stat) (draw : Int32) : Stat :=
  let index := if draw < 0 then none else tied[draw.toInt.toNat]?
  index.getD (tied.headD .attack)

/-- Raises a stat of an entity by one stage. -/
def Stat.boost {σ : Type} [Host σ] (stat : Stat) (user : Entity) : σ → Reply σ Entity :=
  match stat with
  | .attack => Host.boostOffensiveStat user .physical 1
  | .defense => Host.boostDefensiveStat user .physical 1
  | .specialAttack => Host.boostOffensiveStat user .special 1
  | .specialDefense => Host.boostDefensiveStat user .special 1

/-- The message shown when the ability acts. -/
def beastBoostMessage : String :=
  "[string:0]'s [CS:G]Beast Boost[CR] activated!"

/-- Runs after a hit: if the user has the ability and the target is gone, one tied stat is drawn and raised. -/
def checkBeastBoost {σ : Type} [Host σ] (cx : Context σ) (user target : Entity) :
    Bool × Entity × Context σ :=
  match user.monster with
  | none => (false, user, cx)
  | some monster =>
    if !monster.hasAbility beastBoost || target.valid then (false, user, cx) else
      let tied := monster.tiedStats
      let cx := cx.tell (Host.logMessage user beastBoostMessage)
      -- The message is shown before the draw is made.
      let (draw, cx) := cx.call (Host.randRange 0 (Int32.ofNat tied.length))
      let stat := Stat.select tied draw
      let (user, cx) := cx.call (stat.boost user)
      (true, user, cx.info .effects s!"Beast Boost raised {stat.describe} ({tied.length} tied)")

end DungeonHooks
