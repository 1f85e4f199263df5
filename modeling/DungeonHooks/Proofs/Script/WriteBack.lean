import DungeonHooks.Proofs.Script.AllOrNothing
import DungeonHooks.Proofs.Script.Shown

/-! What becomes of an event that a handler claims: it is written back field by field from the tables that the handler was given, however it has left them. -/

namespace DungeonHooks.Script

namespace Value

/-- Only nil is nil. -/
theorem isNil_iff {value : Value} : value.isNil = true ↔ value = .nil := by
  cases value <;> simp [isNil]

/-- A whole number that a float can hold is the integer that it is, for every type that it fits. -/
theorem toInteger_ofInt {wanted : Wanted} {n : Int} (small : n.natAbs ≤ Number.exactLimit)
    (fits : wanted.range.1 ≤ n ∧ n ≤ wanted.range.2) : (ofInt n).toInteger wanted = .ok n := by
  -- It is not rounded on its way into the script.
  have whole : ofInt n = .number (.whole n) := by rw [ofInt, Number.ofInt, if_pos small]
  simp only [whole, toInteger, toNumber?, Number.truncated?]
  exact if_pos fits

/-- A byte that was given to a script is taken back as it was. -/
theorem toByte_ofInt (n : UInt8) : (ofInt n.toNat).toByte = .ok n := by
  -- No byte is too large, neither for a float nor for itself.
  have bound := n.toNat_lt
  rw [toByte, toInteger_ofInt]
  · simp [Except.map]
  · simp [Number.exactLimit]; omega
  · simp [Wanted.range]; omega

/-- So is a word of 16 bits. -/
theorem toWord16_ofInt (n : UInt16) : (ofInt n.toNat).toWord16 = .ok n := by
  have bound := n.toNat_lt
  rw [toWord16, toInteger_ofInt]
  · simp [Except.map]
  · simp [Number.exactLimit]; omega
  · simp [Wanted.range]; omega

/-- So is a signed word. -/
theorem toWord_ofInt (n : Int32) : (ofInt n.toInt).toWord = .ok n := by
  have least : -2147483648 ≤ n.toInt := Int32.minValue_le_toInt n
  have greatest : n.toInt ≤ 2147483647 := Int32.toInt_le n
  rw [toWord, toInteger_ofInt]
  · simp [Except.map]
  · simp [Number.exactLimit]; omega
  · exact ⟨least, greatest⟩

end Value

section

variable (left : Store) (table : Nat)

/-- A move written back from a table: its uses are what the table has for them, and its id stays. -/
structure MoveBack (move changed : Move) : Prop where
  id : changed.id = move.id
  pp : (left.read table "pp").toByte = .ok changed.pp
  maxPp : (left.read table "max_pp").toByte = .ok changed.maxPp

/-- An item written back from a table: its quantity is what the table has for it, and its id stays. -/
structure ItemBack (item changed : Item) : Prop where
  id : changed.id = item.id
  quantity : (left.read table "quantity").toWord16 = .ok changed.quantity

end

section

variable (left : Store)

/-- A move of a list, as it is after what its entry held: nil leaves it as it was. -/
inductive EntryBack (move : Move) : Value → Move → Prop where
  | missing : EntryBack move .nil move
  | present {table : Nat} {changed : Move} (back : MoveBack left table move changed) :
    EntryBack move (.table table) changed

/-- A list of moves, as it is after what there was for it: nil leaves it as it was, and in a table each move has its own entry, the first one at 1. -/
inductive MovesBack (moves : List Move) : Value → List Move → Prop where
  | missing : MovesBack moves .nil moves
  | present {table : Nat} {changed : List Move} (count : changed.length = moves.length)
    (entries : ∀ slot move after, moves[slot]? = some move → changed[slot]? = some after →
      EntryBack left move (left.get table (.whole (slot + 1 : Nat))) after) :
    MovesBack moves (.table table) changed

/-- A monster written back from a table: hit points and stats are what the table has for them, species and abilities stay, and there are as many moves with the same ids. -/
structure MonsterBack (table : Nat) (monster changed : Monster) : Prop where
  species : changed.species = monster.species
  abilities : changed.abilities = monster.abilities
  ids : changed.moves.map (·.id) = monster.moves.map (·.id)
  hp : (left.read table "hp").toWord = .ok changed.hp
  maxHp : (left.read table "max_hp").toWord = .ok changed.maxHp
  attack : (left.read table "atk").toWord = .ok changed.attack
  defense : (left.read table "def").toWord = .ok changed.defense
  specialAttack : (left.read table "sp_atk").toWord = .ok changed.specialAttack
  specialDefense : (left.read table "sp_def").toWord = .ok changed.specialDefense
  moves : MovesBack left monster.moves (left.read table "moves") changed.moves

/-- An entity written back from a table, with a monster if it had one. -/
structure EntityBack (table : Nat) (entity changed : Entity) : Prop where
  valid : changed.valid = (left.read table "valid").isTrue
  presence : changed.monster.isSome = entity.monster.isSome
  monster : ∀ monster after, entity.monster = some monster → changed.monster = some after →
    MonsterBack left table monster after

/-- The use of an item written back from three tables. -/
structure ItemUseBack (user target item : Nat) (use changed : ItemUse) : Prop where
  user : EntityBack left user use.user changed.user
  target : EntityBack left target use.target changed.target
  item : ItemBack left item use.item changed.item

/-- The use of a move written back from three tables. The second value that the handler returned tells whether damage was dealt, unless it is nil. -/
structure MoveUseBack (user target move : Nat) (dealt : Value) (use changed : MoveUse) : Prop where
  user : EntityBack left user use.user changed.user
  target : EntityBack left target use.target changed.target
  used : MoveBack left move use.used changed.used
  silent : dealt = .nil → changed.input = use.input
  told : dealt ≠ .nil → changed.input = { use.input with dealtDamage := dealt.isTrue }

end

section

variable {left : Store} {table : Nat}

/-- What may be taken for a table is one, or nil. -/
theorem readTable_ok {value : Value} {id : Option Nat} (taken : Store.readTable value = .ok id) :
    value = (id.map Value.table).getD .nil := by
  unfold Store.readTable at taken
  split at taken
  case h_1 => rw [← Except.ok.inj taken]; rfl
  case h_2 => rw [← Except.ok.inj taken]; rfl
  case h_3 => contradiction

/-- A move is written back from what was read. -/
theorem readMove_back {move changed : Move} (taken : left.readMove table move = .ok changed) :
    MoveBack left table move changed := by
  obtain ⟨pp, readPp, taken⟩ := bind_eq_ok.mp taken
  obtain ⟨maxPp, readMax, taken⟩ := bind_eq_ok.mp taken
  obtain rfl := Except.ok.inj taken
  exact ⟨rfl, readPp, readMax⟩

/-- So is an item. -/
theorem readItem_back {item changed : Item} (taken : left.readItem table item = .ok changed) :
    ItemBack left table item changed := by
  obtain ⟨quantity, read, taken⟩ := bind_eq_ok.mp taken
  obtain rfl := Except.ok.inj taken
  exact ⟨rfl, read⟩

/-- Whatever its entry held, a move keeps its id. -/
theorem EntryBack.id {move changed : Move} {value : Value}
    (back : EntryBack left move value changed) : changed.id = move.id := by
  cases back with
  | missing => rfl
  | present back => exact back.id

/-- The first move is written back from its own entry, and the others from those behind it. -/
theorem readMoves_cons {first : Nat} {move : Move} {rest changed : List Move}
    (taken : left.readMoves table first (move :: rest) = .ok changed) : ∃ after others,
      changed = after :: others ∧ EntryBack left move (left.get table (.whole first)) after ∧
        left.readMoves table (first + 1) rest = .ok others := by
  obtain ⟨entry, read, taken⟩ := bind_eq_ok.mp taken
  rw [readTable_ok read]
  -- A move without a table goes into the list as it was.
  cases entry with
  | none =>
    obtain ⟨after, kept, taken⟩ := bind_eq_ok.mp taken
    obtain ⟨others, later, taken⟩ := bind_eq_ok.mp taken
    obtain rfl := Except.ok.inj kept
    exact ⟨move, others, (Except.ok.inj taken).symm, .missing, later⟩
  | some entry =>
    obtain ⟨after, readEntry, taken⟩ := bind_eq_ok.mp taken
    obtain ⟨others, later, taken⟩ := bind_eq_ok.mp taken
    exact ⟨after, others, (Except.ok.inj taken).symm, .present (readMove_back readEntry), later⟩

/-- Each move is written back from its own entry, counted from that of the first. -/
theorem readMoves_entries {first : Nat} {moves changed : List Move}
    (taken : left.readMoves table first moves = .ok changed) {slot : Nat} {move after : Move}
    (known : moves[slot]? = some move) (became : changed[slot]? = some after) :
    EntryBack left move (left.get table (.whole (first + slot : Nat))) after := by
  -- With each move that is read, the entries go on by one.
  induction moves generalizing first slot changed with
  | nil => simp at known
  | cons head rest ih =>
    obtain ⟨head', others, rfl, back, later⟩ := readMoves_cons taken
    cases slot with
    | zero =>
      obtain rfl := Option.some.inj known
      obtain rfl := Option.some.inj became
      exact back
    | succ slot =>
      rw [Nat.add_comm slot 1, ← Nat.add_assoc]
      exact ih later known became

/-- The moves keep their ids, and there are as many. -/
theorem readMoves_ids {first : Nat} {moves changed : List Move}
    (taken : left.readMoves table first moves = .ok changed) :
    changed.map (·.id) = moves.map (·.id) := by
  induction moves generalizing first changed with
  | nil => rw [← Except.ok.inj taken]
  | cons head rest ih =>
    obtain ⟨head', others, rfl, back, later⟩ := readMoves_cons taken
    rw [List.map_cons, List.map_cons, back.id, ih later]

/-- A monster is written back from what was read. -/
theorem readMonster_back {monster changed : Monster}
    (taken : left.readMonster table monster = .ok changed) :
    MonsterBack left table monster changed := by
  obtain ⟨hp, readHp, taken⟩ := bind_eq_ok.mp taken
  obtain ⟨maxHp, readMaxHp, taken⟩ := bind_eq_ok.mp taken
  obtain ⟨attack, readAttack, taken⟩ := bind_eq_ok.mp taken
  obtain ⟨defense, readDefense, taken⟩ := bind_eq_ok.mp taken
  obtain ⟨specialAttack, readSpecialAttack, taken⟩ := bind_eq_ok.mp taken
  obtain ⟨specialDefense, readSpecialDefense, taken⟩ := bind_eq_ok.mp taken
  obtain ⟨list, readList, taken⟩ := bind_eq_ok.mp taken
  have listed := readTable_ok readList
  -- The moves are left alone if there is no table of them.
  cases list with
  | none =>
    obtain rfl := Except.ok.inj taken
    exact ⟨rfl, rfl, rfl, readHp, readMaxHp, readAttack, readDefense, readSpecialAttack,
      readSpecialDefense, listed ▸ .missing⟩
  | some list =>
    obtain ⟨moves, readMoves, taken⟩ := bind_eq_ok.mp taken
    obtain rfl := Except.ok.inj taken
    refine ⟨rfl, rfl, readMoves_ids readMoves, readHp, readMaxHp, readAttack, readDefense,
      readSpecialAttack, readSpecialDefense, ?_⟩
    rw [listed]
    refine .present ?_ fun slot move after known became => ?_
    · simpa using congrArg List.length (readMoves_ids readMoves)
    · rw [Nat.add_comm]
      exact readMoves_entries readMoves known became

/-- An entity is written back from what was read, and its monster from the same table. -/
theorem readEntity_back {entity changed : Entity}
    (taken : left.readEntity table entity = .ok changed) :
    EntityBack left table entity changed := by
  obtain ⟨valid, monster⟩ := entity
  cases monster with
  | none =>
    obtain rfl := Except.ok.inj taken
    exact ⟨rfl, rfl, nofun⟩
  | some monster =>
    cases reads : left.readMonster table monster with
    | error error =>
      simp only [Store.readEntity, reads] at taken
      contradiction
    | ok after =>
      simp only [Store.readEntity, reads] at taken
      obtain rfl := Except.ok.inj taken
      refine ⟨rfl, rfl, ?_⟩
      rintro _ _ ⟨⟩ ⟨⟩
      exact readMonster_back reads

section

variable {base : Nat}

/-- A move whose table still shows it is as it was. -/
theorem MoveBack.unchanged {move changed : Move} (back : MoveBack left table move changed)
    (shows : ShowsMove base left table move) : changed = move := by
  obtain ⟨id, pp, maxPp⟩ := back
  rw [shows.pp, Value.toByte_ofInt] at pp
  rw [shows.maxPp, Value.toByte_ofInt] at maxPp
  cases changed
  exact Move.mk.injEq .. ▸ ⟨id, (Except.ok.inj pp).symm, (Except.ok.inj maxPp).symm⟩

/-- So is an item. -/
theorem ItemBack.unchanged {item changed : Item} (back : ItemBack left table item changed)
    (shows : ShowsItem base left table item) : changed = item := by
  obtain ⟨id, quantity⟩ := back
  rw [shows.quantity, Value.toWord16_ofInt] at quantity
  cases changed
  exact Item.mk.injEq .. ▸ ⟨id, (Except.ok.inj quantity).symm⟩

/-- So are moves, as each has an entry. -/
theorem MovesBack.unchanged {moves changed : List Move}
    (back : MovesBack left moves (.table table) changed)
    (shows : ShowsMoves base left table moves) : changed = moves := by
  cases back with
  | present count entries =>
    refine List.ext_getElem count fun slot became known => ?_
    obtain ⟨entry, listed, shown⟩ := shows.moves slot _ (List.getElem?_eq_getElem known)
    have back := entries slot _ _ (List.getElem?_eq_getElem known) (List.getElem?_eq_getElem became)
    rw [listed] at back
    cases back with
    | present back => exact back.unchanged shown

/-- So is a monster. -/
theorem MonsterBack.unchanged {monster changed : Monster}
    (back : MonsterBack left table monster changed)
    (shows : ShowsMonster base left table monster) : changed = monster := by
  have word {value : Value} {n m : Int32} (shown : value = .ofInt n.toInt)
      (taken : value.toWord = .ok m) : m = n := by
    rw [shown, Value.toWord_ofInt] at taken
    exact (Except.ok.inj taken).symm
  have moves : changed.moves = monster.moves := by
    obtain ⟨list, listed, shown⟩ := shows.moves
    exact (listed ▸ back.moves).unchanged shown
  cases changed
  exact Monster.mk.injEq .. ▸ ⟨back.species, word shows.hp back.hp, word shows.maxHp back.maxHp,
    word shows.attack back.attack, word shows.defense back.defense,
    word shows.specialAttack back.specialAttack, word shows.specialDefense back.specialDefense,
    back.abilities, moves⟩

/-- So is an entity. -/
theorem EntityBack.unchanged {entity changed : Entity}
    (back : EntityBack left table entity changed)
    (shows : ShowsEntity base left table entity) : changed = entity := by
  have valid : changed.valid = entity.valid := by rw [back.valid, shows.valid]; rfl
  obtain ⟨_, monster⟩ := entity
  obtain ⟨_, after⟩ := changed
  obtain rfl := valid
  have presence := back.presence
  -- There is a monster on both sides, or on neither.
  cases monster <;> cases after
  case none.none => rfl
  case none.some => contradiction
  case some.none => contradiction
  case some.some monster after =>
    rw [(back.monster monster after rfl rfl).unchanged (shows.monster monster rfl)]

/-- The use of an item is as it was if its tables still show it. -/
theorem ItemUseBack.unchanged {user target item : Nat} {use changed : ItemUse}
    (back : ItemUseBack left user target item use changed)
    (shows : ShowsItemUse base left user target item use) : changed = use := by
  have newUser := back.user.unchanged shows.user
  have newTarget := back.target.unchanged shows.target
  have newItem := back.item.unchanged shows.item
  cases changed
  exact ItemUse.mk.injEq .. ▸ ⟨newUser, newTarget, newItem⟩

/-- The use of a move is as it was if its tables still show it, but for what is said of damage. -/
theorem MoveUseBack.unchanged {user target move : Nat} {dealt : Value} {use changed : MoveUse}
    (back : MoveUseBack left user target move dealt use changed)
    (shows : ShowsMoveUse base left user target move use) :
    changed = { use with input := changed.input } := by
  have newUser := back.user.unchanged shows.user
  have newTarget := back.target.unchanged shows.target
  have newMove := back.used.unchanged shows.used
  cases changed
  exact MoveUse.mk.injEq .. ▸ ⟨rfl, newUser, newTarget, newMove⟩

end

end

section

variable {σ ε : Type} [Host σ]

/-- A handler that returned was given what it was offered. -/
theorem Matter.account_args {matter : Matter ε} {script : Script} {cx : Context σ}
    {values : List Value} {left : Store}
    (ended : (matter.account script cx).ending = .returned values left) :
    (matter.account script cx).args = (matter.offer script.store.offer).args := by
  unfold account at ended ⊢
  split at ended
  case h_1 => contradiction
  case h_2 => contradiction
  case h_3 => rfl

/-- A claimed event is what was taken back of the arguments when the handler had returned. -/
theorem Matter.claimed_back {matter : Matter ε} {script : Script} {cx : Context σ} {event : ε}
    (claimed : (matter.handle script cx event).claimed = true) : ∃ values left,
      (matter.account script cx).ending = .returned values left ∧
        matter.back (matter.offer script.store.offer).args values left
          (matter.handle script cx event).event := by
  -- A claim is all there is to a handler: what it says is what becomes of the event.
  have whole := matter.allOrNothing script cx event
  obtain ⟨changed, claims⟩ := whole.claimed_iff.mp claimed
  rw [(whole.all changed claims).1]
  obtain ⟨values, left, ended, -, back⟩ := claims
  exact ⟨values, left, ended, Matter.account_args ended ▸ back⟩

/-- With the services of the host, there is more than the globals. -/
theorem Store.offer_based (store : Store) : 0 < store.offer.tables.size := by
  simp [offer, addRecord, addTable, setGlobal, set]

/-- The text of a value takes one step, and leaves everything as it is. -/
theorem call_tostring (value : Value) (rest : List Value) (store : Store) :
    call maxSteps .outermost 0 (.builtin .tostring) (value :: rest) store =
      .done (.ok [.text value.display], store) := by
  obtain ⟨fuel, steps⟩ : ∃ fuel, maxSteps = fuel + 1 := ⟨maxSteps - 1, by decide⟩
  simp [steps, call, callSimple, Run.pure_apply, maxCalls, Site.outermost]

/-- So a handler that is this function returns a text, and has done nothing to what it was given. -/
theorem Matter.ending_of_tostring (matter : Matter ε) {script : Script} {value : Value}
    {rest : List Value}
    (registered : script.store.handler matter.registry matter.id = .ok (some (.builtin .tostring)))
    (given : (matter.offer script.store.offer).args = value :: rest) (cx : Context σ) :
    (matter.account script cx).ending =
      .returned [.text value.display] (matter.offer script.store.offer).store := by
  unfold account
  simp only [registered, given, call_tostring, Dialogue.hold]
  rfl

end

/-- Items are claimed with a text, and nothing is done to them. Of a user, the hit points are restored, and the species and a move are taken away. -/
def meddlingText : String :=
  "item_effects[#\"seed\"] = tostring " ++
    "move_effects[#\"pound\"] = function(user) user.hp = user.max_hp " ++
    "user.species = nil user.moves[#\"a\"] = nil return user end"

/-- A move of a user that knows two others. -/
private def meddledMove : MoveUse where
  input := { moveId := 5 }
  user := .ofMonster { species := 25, hp := 9, maxHp := 20, moves := [⟨1, 2, 3⟩, ⟨4, 5, 6⟩] }
  target := .ofMonster { moves := [⟨7, 8, 9⟩] }
  used := ⟨5, 1, 35⟩

/-- An item that is thrown at nobody. -/
private def thrownSeed : ItemUse where
  user := .ofMonster { hp := 9, moves := [⟨1, 2, 3⟩] }
  target := { valid := false }
  item := { id := 4, quantity := 2 }

/-- A value is the function that makes a text of any other. -/
def Value.isTostring : Value → Bool
  | .builtin .tostring => true
  | _ => false

/-- There is only one such function. -/
theorem Value.eq_of_isTostring {value : Value} (makes : value.isTostring = true) :
    value = .builtin .tostring := by
  unfold isTostring at makes
  split at makes
  case h_1 => rfl
  case h_2 => contradiction

/-- The script restores the hit points, and has nothing but a text to say about the item. -/
private structure Meddles (script : Script) : Prop where
  move : (script.onMove ({ host := {} } : Context ScriptedHost) meddledMove).claimed = true
  user : (script.onMove ({ host := {} } : Context ScriptedHost) meddledMove).event.user =
    .ofMonster { species := 25, hp := 20, maxHp := 20, moves := [⟨1, 2, 3⟩, ⟨4, 5, 6⟩] }
  item : (script.onItem true ({ host := {} } : Context ScriptedHost) thrownSeed).claimed = true
  text : script.store.handler .items 4 = .ok (some (.builtin .tostring))

/-- The text can be loaded, and does what it says. -/
private theorem meddling_loaded :
    ∃ script, Script.load "meddling" meddlingText = .ok script ∧ Meddles script := by
  have known : (Script.load "meddling" meddlingText).toOption.any (fun script =>
      let handled := script.onMove ({ host := {} } : Context ScriptedHost) meddledMove
      handled.claimed && handled.event.user ==
        .ofMonster { species := 25, hp := 20, maxHp := 20, moves := [⟨1, 2, 3⟩, ⟨4, 5, 6⟩] } &&
      (script.onItem true ({ host := {} } : Context ScriptedHost) thrownSeed).claimed &&
      (script.store.handler .items 4).toOption.join.any Value.isTostring) = true := by
    decide +kernel
  -- From here on, it does not matter where the script is from.
  generalize Script.load "meddling" meddlingText = loaded at known ⊢
  cases loaded with
  | error error => contradiction
  | ok script =>
    simp only [Except.toOption, Option.any_some, Bool.and_eq_true, beq_iff_eq] at known
    obtain ⟨⟨⟨move, user⟩, item⟩, text⟩ := known
    refine ⟨script, rfl, move, user, item, ?_⟩
    obtain ⟨handler, registered, makes⟩ := (Option.any_eq_true ..).mp text
    obtain rfl := Value.eq_of_isTostring makes
    cases found : script.store.handler .items 4 with
    | error error => simp [found] at registered
    | ok handler => simpa [found] using registered

end DungeonHooks.Script
