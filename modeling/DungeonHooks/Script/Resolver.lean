import DungeonHooks.Effect.Resolver
import DungeonHooks.Script.Exchange
import DungeonHooks.Script.Load

/-! A script as a resolver: its handlers see copies, which are taken back only from one that claims. -/

namespace DungeonHooks.Script

/-- Whether a value can be called. -/
def Value.isFunction : Value → Bool
  | .closure _ => true
  | .builtin _ => true
  | .service .. => true
  | _ => false

namespace Store

/-- The table of a registry, unless the script has taken it away. -/
def registry (store : Store) (registry : Registry) : Except ConversionError (Option Nat) :=
  readTable (store.global registry.name)

/-- The handler that a script has registered for an id. -/
def handler (store : Store) (registry : Registry) (id : Nat) :
    Except ConversionError (Option Value) := do
  match ← store.registry registry with
  | none => return none
  | some table =>
    match store.get table (.whole id) with
    | .nil => return none
    | value =>
      if value.isFunction then return some value
      else throw (value.misfit .function .otherType)

/-- Offers the services of the host to the script, as a global. -/
def offer (store : Store) : Store :=
  let session := store.sessions + 1
  let (host, store) := store.addRecord
    [ ("border_color", .service session .borderColor),
      ("rand", .service session .rand),
      ("log", .service session .log) ]
  { store with sessions := session, serving := true }.setGlobal "host" (.table host)

/-- Takes the services back; whoever has kept one cannot use it. -/
def withdraw (store : Store) : Store :=
  { store with serving := false }.setGlobal "host" .nil

/-- The ids in a table of the script, ascending, whether or not they have functions. -/
def handledIds (store : Store) (table : String) : Except ConversionError (List Int) := do
  match ← readTable (store.global table) with
  | none => return []
  | some id =>
    let ids ← (store.table id).entries.mapM fun entry => (Value.ofKey entry.1).toInteger .wide
    return ids.mergeSort (· ≤ ·)

end Store

/-- How an event is put to a handler: the arguments, the store that holds them, and what becomes of the event once the handler has returned, nothing if it declined. -/
structure Offer (ε : Type) where
  args : List Value
  store : Store
  outcome : List Value → Store → Except ConversionError (Option ε)

/-- Puts the use of an item to a handler. It claims by a first value that counts as true. -/
def offerItem (thrown : Bool) (use : ItemUse) (store : Store) : Offer ItemUse :=
  let (user, store) := store.addEntity use.user
  let (target, store) := store.addEntity use.target
  let (item, store) := store.addItem use.item
  { args := [.table user, .table target, .table item, .bool thrown]
    store
    outcome := fun values store => do
      if (values.headD .nil).isTrue then
        let newUser ← store.readEntity user use.user
        let newTarget ← store.readEntity target use.target
        let newItem ← store.readItem item use.item
        return some { user := newUser, target := newTarget, item := newItem }
      else return none }

/-- Puts the use of a move to a handler. A second value, unless it is nil, says whether damage was dealt. -/
def offerMove (use : MoveUse) (store : Store) : Offer MoveUse :=
  let (user, store) := store.addEntity use.user
  let (target, store) := store.addEntity use.target
  let (move, store) := store.addMove use.used
  { args := [.table user, .table target, .table move]
    store
    outcome := fun values store => do
      if (values.headD .nil).isTrue then
        let newUser ← store.readEntity user use.user
        let newTarget ← store.readEntity target use.target
        let used ← store.readMove move use.used
        let dealt := (values.drop 1).headD .nil
        let input := if dealt.isNil then use.input else { use.input with dealtDamage := dealt.isTrue }
        return some { input, user := newUser, target := newTarget, used }
      else return none }

/-- Puts a special process to a handler, which claims by returning; nil counts as 0. -/
def offerProcess (call : ProcessCall) (store : Store) : Offer Int32 :=
  { args := [.ofInt call.first.toInt, .ofInt call.second.toInt]
    store
    outcome := fun values _ =>
      match values.headD .nil with
      | .nil => .ok (some 0)
      | value => value.toWord.map some }

/-- What becomes of the event after the handler ran. -/
def Offer.concluded {ε : Type} (offer : Offer ε) (store : Store) :
    Except Raise (List Value) → Except ScriptError (Option ε)
  | .error raise => .error (.ofRaise raise)
  | .ok values =>
    match offer.outcome values store with
    | .error mismatch => .error (.mismatch mismatch)
    | .ok claimed => .ok claimed

/-- What a handler made of an event, the colors that it asked for, and everything after it. -/
structure Attended (σ ε : Type) where
  outcome : Except ScriptError (Option ε)
  colors : List Int32
  store : Store
  context : Context σ

section

variable {σ ε : Type} [Host σ]

/-- Runs a handler on an event, with the services of the host. -/
def attend (category : Category) (handler : Value) (offer : Store → Offer ε) (store : Store)
    (cx : Context σ) : Attended σ ε :=
  let offered := offer store.offer
  let run := call maxSteps .outermost 0 handler offered.args offered.store
  let held := run.hold category cx
  let left := held.value.2
  { outcome := offered.concluded left held.value.1
    colors := held.colors
    store := left.withdraw
    context := held.context }

/-- Reports a handler that failed, which declines the event. -/
def failed (script : Script) (category : Category) (what : String) (id : Nat) (error : ScriptError)
    (cx : Context σ) (event : ε) : Handled σ Script ε :=
  let message := s!"Script {script.name} failed in {what} {id}: {error.message}"
  .declined script (cx.error category message) event

/-- Colors the border, once for each color. -/
def recolor (colors : List Int32) (cx : Context σ) : Context σ :=
  colors.foldl (fun cx color => cx.tell (Host.changeBorderColor color)) cx

/-- What is made of an event that a handler has seen; only one that was claimed colors the border. -/
def settle (script : Script) (category : Category) (what : String) (id : Nat) (event : ε)
    (attended : Attended σ ε) : Handled σ Script ε :=
  let script := { script with store := attended.store }
  match attended.outcome with
  | .error error => script.failed category what id error attended.context event
  | .ok none => .declined script attended.context event
  | .ok (some event) =>
    { claimed := true
      event
      memory := script
      context := recolor attended.colors attended.context }

/-- Has a script handle an event. A handler that claims changes the event and colors the border; one that declines or fails leaves nothing but its draws, its lines and what it did to the script. -/
def handle (script : Script) (category : Category) (registry : Registry) (what : String) (id : Nat)
    (offer : Store → Offer ε) (cx : Context σ) (event : ε) : Handled σ Script ε :=
  match script.store.handler registry id with
  | .error error => script.failed category what id (.mismatch error) cx event
  | .ok none => .declined script cx event
  | .ok (some handler) =>
    script.settle category what id event (attend category handler offer script.store cx)

/-- Has a script handle the use of an item. -/
def onItem (thrown : Bool) (script : Script) (cx : Context σ) (use : ItemUse) :
    Handled σ Script ItemUse :=
  script.handle .effects .items "item effect" use.item.id.toNat (offerItem thrown use) cx use

/-- Has a script handle the use of a move. -/
def onMove (script : Script) (cx : Context σ) (use : MoveUse) : Handled σ Script MoveUse :=
  script.handle .effects .moves "move effect" use.input.moveId.toNat (offerMove use) cx use

/-- Has a script handle a special process. -/
def onProcess (call : ProcessCall) (script : Script) (cx : Context σ) (value : Int32) :
    Handled σ Script Int32 :=
  script.handle .specialProcess .processes "special process" call.id.toNat (offerProcess call) cx
    value

/-- A script as a resolver. -/
def resolver (script : Script) : Resolver σ where
  name := script.name
  Memory := Script
  memory := script
  onItem := onItem
  onMove := onMove
  onProcess := onProcess

end

end DungeonHooks.Script
