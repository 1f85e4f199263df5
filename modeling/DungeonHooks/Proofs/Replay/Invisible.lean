import DungeonHooks.Proofs.Engine.Program
import DungeonHooks.Proofs.Replay.Bystander
import DungeonHooks.Proofs.Script.Abstains
import DungeonHooks.Proofs.Script.Undisturbed

/-! Replays of the program with and without a script that never claims. -/

namespace DungeonHooks.Replay

section Fading

open Script

/-- Registers a handler that takes away the hit points that it is shown, and one that always fails. -/
def fadingText : String :=
  "item_effects[#\"sleep seed\"] = error " ++
    "move_effects[#\"pound\"] = function(user) user.hp = nil end"

/-- The name of the hit points. -/
def hpName : List UInt8 := [104, 112]

/-- The function that takes away hit points. -/
def fadingBody : FunctionBody :=
  .mk ["user"] false [.assign [.index (.name "user") (.text hpName) 0] [.nil] 1]

/-- What the script keeps: two handlers, one in each of two tables. -/
structure Fading (store : Store) : Prop where
  size : store.tables.size = 5
  items : store.global Registry.items.name = .table 2
  moves : store.global Registry.moves.name = .table 3
  processes : store.global Registry.processes.name = .table 4
  item : (store.table 2).entries = [(.whole 10, .builtin .error)]
  move : (store.table 3).entries = [(.whole 5, .closure 1)]
  process : (store.table 4).entries = []
  closures : store.closures.size = 2
  body : store.closures[1]? = some { body := fadingBody, captured := [] }

namespace Fading

/-- The value is a table with a number. -/
def isTable (id : Nat) : Value → Bool
  | .table other => other == id
  | _ => false

/-- The only entry is the handler that fails. -/
def isItem : List (Key × Value) → Bool
  | [(key, .builtin .error)] => key == .whole 10
  | _ => false

/-- The only entry is the handler that takes away hit points. -/
def isMove : List (Key × Value) → Bool
  | [(key, .closure id)] => key == .whole 5 && id == 1
  | _ => false

/-- The function is the one that takes away hit points. -/
def isBody : Option Closure → Bool
  | some ⟨.mk params variadic [.assign [.index (.name owner) (.text key) line] [.nil] last],
      captured⟩ =>
    params == ["user"] && !variadic && owner == "user" && key == hpName && line == 0 && last == 1
      && captured.isEmpty
  | _ => false

/-- The store is what the text leaves when it is loaded. -/
def recognize (store : Store) : Bool :=
  store.tables.size == 5 && isTable 2 (store.global Registry.items.name) &&
    isTable 3 (store.global Registry.moves.name) &&
    isTable 4 (store.global Registry.processes.name) && isItem (store.table 2).entries &&
    isMove (store.table 3).entries && (store.table 4).entries.isEmpty &&
    store.closures.size == 2 && isBody store.closures[1]?

/-- A table is recognized by its number. -/
theorem eq_of_isTable {id : Nat} {value : Value} (known : isTable id value = true) :
    value = .table id := by
  unfold isTable at known
  split at known
  · simpa using known
  · contradiction

/-- So is the entry for items. -/
theorem eq_of_isItem {entries : List (Key × Value)} (known : isItem entries = true) :
    entries = [(.whole 10, .builtin .error)] := by
  unfold isItem at known
  split at known
  · simpa using known
  · contradiction

/-- So is the entry for moves. -/
theorem eq_of_isMove {entries : List (Key × Value)} (known : isMove entries = true) :
    entries = [(.whole 5, .closure 1)] := by
  unfold isMove at known
  split at known
  · simpa using known
  · contradiction

/-- So is the function. -/
theorem eq_of_isBody {closure : Option Closure} (known : isBody closure = true) :
    closure = some { body := fadingBody, captured := [] } := by
  unfold isBody at known
  split at known
  · simp only [Bool.and_eq_true, beq_iff_eq, Bool.not_eq_true', List.isEmpty_iff] at known
    obtain ⟨⟨⟨⟨⟨⟨rfl, rfl⟩, rfl⟩, rfl⟩, rfl⟩, rfl⟩, rfl⟩ := known
    rfl
  · contradiction

/-- The store is recognized by what it keeps. -/
theorem of_recognize {store : Store} (known : recognize store = true) : Fading store := by
  simp only [recognize, Bool.and_eq_true, beq_iff_eq, List.isEmpty_iff] at known
  obtain ⟨⟨⟨⟨⟨⟨⟨⟨size, items⟩, moves⟩, processes⟩, item⟩, move⟩, process⟩, closures⟩, body⟩ := known
  exact ⟨size, eq_of_isTable items, eq_of_isTable moves, eq_of_isTable processes,
    eq_of_isItem item, eq_of_isMove move, process, closures, eq_of_isBody body⟩

/-- The handler of moves takes a few steps, and ends without a value. -/
theorem call_move {store : Store}
    (body : store.closures[1]? = some { body := fadingBody, captured := [] }) (user : Nat)
    (rest : List Value) :
    call maxSteps .outermost 0 (.closure 1) (.table user :: rest) store =
      .done (.ok [], (store.addCell (.table user)).2.set user (.text hpName) .nil) := by
  obtain ⟨fuel, steps⟩ : ∃ fuel, maxSteps = fuel + 6 := ⟨maxSteps - 6, by decide⟩
  -- The user is the only local variable, and its hit points are the only target.
  simp [steps, call, execute, executeOne, evaluateSlots, evaluate, evaluateList, evaluateMany,
    Run.bind_apply, Run.pure_apply, Run.store, Run.add, Run.update, Dialogue.bind, maxCalls,
    Site.outermost, fadingBody, Array.getD_eq_getD_getElem?, body, FunctionBody.params,
    FunctionBody.variadic, FunctionBody.statements, Frame.declare, Frame.variable, adjusted, putAll,
    Slot.put, putEntry, Store.addCell, Store.cell, Value.key?]

/-- The handler of items is given a target where it takes a number, and fails. -/
theorem call_item (store : Store) (user target : Nat) (rest : List Value) :
    ∃ raise, call maxSteps .outermost 0 (.builtin .error) (.table user :: .table target :: rest)
      store = .done (.error raise, store) := by
  obtain ⟨fuel, steps⟩ : ∃ fuel, maxSteps = fuel + 1 := ⟨maxSteps - 1, by decide⟩
  simp [steps, call, callSimple, throwFirst, Site.number, Site.refuse, Run.fail, Run.bind_apply,
    Run.pure_apply, Run.store, Dialogue.bind, maxCalls, Site.outermost, Value.toNumber?, Run.throw,
    Run.raise]

section

variable {store later : Store} (fading : Fading store) (kept : Undisturbed store later)

include fading kept

/-- One item has a handler. -/
theorem handler_items (id : Nat) :
    later.handler .items id = .ok (if (id : Int) = 10 then some (.builtin .error) else none) := by
  rw [kept.handler .items id fading.items (by decide) (by simp [fading.size])]
  exact Store.handler_of_single fading.items fading.item rfl id

/-- One move has a handler. -/
theorem handler_moves (id : Nat) :
    later.handler .moves id = .ok (if (id : Int) = 5 then some (.closure 1) else none) := by
  rw [kept.handler .moves id fading.moves (by decide) (by simp [fading.size])]
  exact Store.handler_of_single fading.moves fading.move rfl id

/-- No special process has one. -/
theorem handler_processes (id : Nat) : later.handler .processes id = .ok none := by
  rw [kept.handler .processes id fading.processes (by decide) (by simp [fading.size]),
    Store.handler_eq fading.processes, Store.get, Table.get, fading.process]
  rfl

end

section

variable {σ : Type} [Host σ] {script later : Script} (fading : Fading script.store)
  (kept : Undisturbed script.store later.store) (cx : Context σ)

include fading kept

/-- Every use of an item is declined or fails, and leaves what the script keeps. -/
theorem item_idle (thrown : Bool) (use : ItemUse) :
    (itemMatter thrown use).Idle later cx ∧
      Undisturbed script.store ((itemMatter thrown use).handle later cx use).memory.store := by
  have handler := fading.handler_items kept use.item.id.toNat
  split at handler
  case isTrue =>
    obtain ⟨raise, ran⟩ := call_item (offerItem thrown use later.store.offer).store _ _ _
    obtain ⟨idle, left⟩ := (itemMatter thrown use).idle_of_done handler ran nofun cx use
    rw [left]
    exact ⟨idle, (kept.offer.offerItem thrown use).withdraw⟩
  case isFalse =>
    obtain ⟨idle, same⟩ := (itemMatter thrown use).idle_of_unregistered handler cx use
    rw [same]
    exact ⟨idle, kept⟩

/-- Every use of a move is declined, whatever was taken away of the user. -/
theorem move_idle (use : MoveUse) :
    (moveMatter use).Idle later cx ∧
      Undisturbed script.store ((moveMatter use).handle later cx use).memory.store := by
  have handler := fading.handler_moves kept use.input.moveId.toNat
  split at handler
  case isTrue =>
    let user := (later.store.offer.addEntity use.user).1
    have offered := kept.offer.offerMove use
    have body := (offered.closures 1 (by simp [fading.closures])).trans fading.body
    -- It returns no value at all, which is no claim.
    have declines (values : List Value) (returned : Except.ok [] = (.ok values : Except Raise _)) :
        ¬ (moveMatter use).claims values := by
      cases returned
      simp [moveMatter, Value.isTrue]
    obtain ⟨idle, left⟩ :=
      (moveMatter use).idle_of_done handler (call_move body user _) declines cx use
    rw [left]
    -- The table that was written to is the user's, which is a new one.
    exact ⟨idle, ((offered.addCell (.table user)).set (kept.offer.addEntity use.user).2
      (.text hpName) .nil).withdraw⟩
  case isFalse =>
    obtain ⟨idle, same⟩ := (moveMatter use).idle_of_unregistered handler cx use
    rw [same]
    exact ⟨idle, kept⟩

/-- Every special process is declined. -/
theorem process_idle (call : ProcessCall) (value : Int32) :
    (processMatter call).Idle later cx ∧
      Undisturbed script.store ((processMatter call).handle later cx value).memory.store := by
  obtain ⟨idle, same⟩ := (processMatter call).idle_of_unregistered
    (fading.handler_processes kept call.id.toNat) cx value
  rw [same]
  exact ⟨idle, kept⟩

end

/-- Whatever it has handled, the script keeps what it kept at the start. -/
theorem kept_of_later {σ : Type} [Host σ] {script later : Script} (fading : Fading script.store)
    (reached : Later σ script later) : Undisturbed script.store later.store := by
  induction reached with
  | now => exact .refl (by simp [fading.size])
  | item thrown cx use _ kept => exact (fading.item_idle kept cx thrown use).2
  | move cx use _ kept => exact (fading.move_idle kept cx use).2
  | process call cx value _ kept => exact (fading.process_idle kept cx call value).2

/-- So it always abstains. -/
theorem abstains {σ : Type} [Host σ] {script : Script} (fading : Fading script.store) :
    script.Abstains σ where
  item _ reached thrown use cx := (fading.item_idle (fading.kept_of_later reached) cx thrown use).1
  move _ reached use cx := (fading.move_idle (fading.kept_of_later reached) cx use).1
  process _ reached call cx := (fading.process_idle (fading.kept_of_later reached) cx call 0).1

end Fading

/-- A move and an item are used for which the script has handlers. -/
def handledTwice : Scenario where
  name := "handled twice"
  world :=
    { entities := Std.TreeMap.ofList
        [("hero", Entity.ofMonster { hp := 20, maxHp := 20 }),
          ("foe", Entity.ofMonster { hp := 15, maxHp := 15 })]
      items := Std.TreeMap.ofList [("seed", ({ id := 10, quantity := 1 } : Item))] }
  steps :=
    [.useMove { user := "hero", target := "foe", moveId := 5, power := 4 },
      .useItem { user := "hero", target := "foe", item := "seed" }]

end Fading

end DungeonHooks.Replay
