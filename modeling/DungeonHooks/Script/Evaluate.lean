import DungeonHooks.Script.Builtin
import DungeonHooks.Script.Operation

/-! Running programs. Every run is bounded by a number of nested steps. -/

namespace DungeonHooks.Script

/-- Where a program goes on after a statement. -/
inductive Flow where
  | next
  | leave
  | return (values : List Value)
  deriving Inhabited

/-- The number of calls that may be under way at once. -/
def maxCalls : Nat := 16383

/-- The number of calls by builtin functions that may be under way at once. -/
def maxProtected : Nat := 199

/-- Whether an expression can have any number of values. -/
def Expr.isMany : Expr → Bool
  | .call .. => true
  | .method .. => true
  | .varargs => true
  | _ => false

mutual

/-- The value of an expression; of several it is the first. -/
def evaluate : Nat → Frame → Expr → Run Value
  | 0, _, _ => Run.raise .endless
  | fuel + 1, frame, e =>
    match e with
    | .nil => return .nil
    | .bool value => return .bool value
    | .number n => return .number n
    | .text bytes => return .text bytes
    | .varargs => return frame.varargs.headD .nil
    | .function body => do
      let closure : Closure := { body, captured := frame.locals ++ frame.captured }
      return .closure (← Run.add fun store => store.addClosure closure)
    | .name name => do
      let store ← Run.store
      match frame.variable name with
      | .local cell => return store.cell cell
      | .upvalue cell => return store.cell cell
      | .global => return store.global name
    | .index owner key line => do
      let owned ← evaluate fuel frame owner
      let found ← evaluate fuel frame key
      lookUp line (frame.originOf owner) owned found
    | .call .. => do return (← evaluateMany fuel frame e).headD .nil
    | .method .. => do return (← evaluateMany fuel frame e).headD .nil
    | .single inner => evaluate fuel frame inner
    | .unary op operand line => do
      let value ← evaluate fuel frame operand
      op.apply line (frame.originOf operand) value
    | .arithmetic op left right line => do
      let a ← evaluate fuel frame left
      let b ← evaluate fuel frame right
      arithmetic op line (frame.originOf left) (frame.originOf right) a b
    | .compare op left right line => do
      let a ← evaluate fuel frame left
      let b ← evaluate fuel frame right
      op.apply line a b
    | .concat parts line => do
      let values ← evaluateEach fuel frame parts
      return (← concatenate line (values.zip (parts.map frame.originOf))).1
    | .both left right => do
      let value ← evaluate fuel frame left
      if value.isTrue then evaluate fuel frame right else return value
    | .either left right => do
      let value ← evaluate fuel frame left
      if value.isTrue then return value else evaluate fuel frame right
    | .table fields => do
      let keyed := fields.countP fun | .keyed .. => true | .positional _ => false
      let listed := fields.countP fun | .keyed .. => false | .positional e => !e.isMany
      let id ← Run.add fun store => store.addTable (.withRoom listed keyed)
      let items ← evaluateFields fuel frame id fields
      Run.update fun store => store.setItems id items
      return .table id

/-- All values of an expression. -/
def evaluateMany : Nat → Frame → Expr → Run (List Value)
  | 0, _, _ => Run.raise .endless
  | fuel + 1, frame, e =>
    match e with
    | .varargs => return frame.varargs
    | .call function args line => do
      let value ← evaluate fuel frame function
      let args ← evaluateList fuel frame args
      call fuel (frame.site line (frame.originOf function)) 0 value args
    | .method owner name args nameLine line => do
      let owned ← evaluate fuel frame owner
      let member : Value := .ofString name
      let value ← lookUp nameLine (frame.originOf owner) owned member
      let args ← evaluateList fuel frame args
      let callee : Origin := { kind := .method, name := Text.utf8 name }
      call fuel (frame.site line (some callee)) 0 value (owned :: args)
    | e => do return [← evaluate fuel frame e]

/-- The values of expressions, one of each. -/
def evaluateEach : Nat → Frame → List Expr → Run (List Value)
  | 0, _, _ => Run.raise .endless
  | _, _, [] => return []
  | fuel + 1, frame, first :: rest => do
    let value ← evaluate fuel frame first
    return value :: (← evaluateEach fuel frame rest)

/-- The values of expressions: one of each, and all of the last. -/
def evaluateList : Nat → Frame → List Expr → Run (List Value)
  | 0, _, _ => Run.raise .endless
  | _, _, [] => return []
  | fuel + 1, frame, [last] => evaluateMany fuel frame last
  | fuel + 1, frame, first :: rest => do
    let value ← evaluate fuel frame first
    return value :: (← evaluateList fuel frame rest)

/-- Puts the keyed fields into a table, and gives the values of the others. -/
def evaluateFields : Nat → Frame → Nat → List Field → Run (List Value)
  | 0, _, _, _ => Run.raise .endless
  | _, _, _, [] => return []
  | fuel + 1, frame, _, [.positional last] => evaluateMany fuel frame last
  | fuel + 1, frame, id, .positional first :: rest => do
    let value ← evaluate fuel frame first
    return value :: (← evaluateFields fuel frame id rest)
  | fuel + 1, frame, id, .keyed key value line :: rest => do
    let key ← evaluate fuel frame key
    let value ← evaluate fuel frame value
    putEntry line id key value
    evaluateFields fuel frame id rest

/-- Calls a function in the place of so many earlier calls. -/
def call : Nat → Site → Nat → Value → List Value → Run (List Value)
  | 0, _, _, _, _ => Run.raise .endless
  | fuel + 1, site, tailCalls, function, args => do
    if maxCalls ≤ site.calls.depth then Run.fail site.line .tooManyCalls
    match function with
    | .closure id =>
      let closure := (← Run.store).closures.getD id default
      let params := closure.body.params
      let frame : Frame :=
        { captured := closure.captured
          varargs := if closure.body.variadic then args.drop params.length else []
          calls := site.calls
          tailCalls }
      let frame ← frame.declare (params.zip (adjusted params.length args))
      let (flow, _) ← execute fuel frame closure.body.statements
      match flow with
      | .return values => return values
      | _ => return []
    | .builtin .pcall =>
      match args with
      | [] => Run.throw (.ofString "not enough arguments to pcall")
      | function :: args =>
        let calls := site.calls.push .builtin
        let protectedCall :=
          if maxProtected < calls.callers.countP (· == .builtin) then Run.fail none .tooManyProtected
          else call fuel { calls } 0 function args
        match ← Run.attempt protectedCall with
        | .ok values => return .bool true :: values
        | .error value => return [.bool false, value]
    | .builtin function => callSimple site function args
    | .service session service => callService session service args
    | value => Run.fail site.line (.refused .call site.callee value.typeName)

/-- Executes statements one after another; and the frame with the variables that they declared. -/
def execute : Nat → Frame → List Statement → Run (Flow × Frame)
  | 0, _, _ => Run.raise .endless
  | _, frame, [] => return (.next, frame)
  | fuel + 1, frame, first :: rest => do
    let (flow, frame) ← executeOne fuel frame first
    match flow with
    | .next => execute fuel frame rest
    | flow => return (flow, frame)

/-- Executes a block, whose variables end with it. -/
def executeBlock : Nat → Frame → List Statement → Run Flow
  | 0, _, _ => Run.raise .endless
  | fuel + 1, frame, body => do
    let (flow, _) ← execute fuel frame body
    return flow

/-- Executes a statement. -/
def executeOne : Nat → Frame → Statement → Run (Flow × Frame)
  | 0, _, _ => Run.raise .endless
  | fuel + 1, frame, statement =>
    let block (run : Run Flow) : Run (Flow × Frame) := do return (← run, frame)
    match statement with
    | .assign targets values line => do
      let slots ← evaluateSlots fuel frame targets
      let values ← evaluateList fuel frame values
      putAll line (slots.zip (adjusted slots.length values))
      return (.next, frame)
    | .declare names values => do
      let values ← evaluateList fuel frame values
      return (.next, ← frame.declare (names.zip (adjusted names.length values)))
    | .declareFunction name body => do
      let cell ← Run.add fun store => store.addCell .nil
      let frame := { frame with locals := (name, cell) :: frame.locals }
      let value ← evaluate fuel frame (.function body)
      Run.update fun store => store.setCell cell value
      return (.next, frame)
    | .call e => do
      let _ ← evaluateMany fuel frame e
      return (.next, frame)
    | .block body => block (executeBlock fuel frame body)
    | .loopWhile condition body => block (loopWhile fuel frame condition body)
    | .loopUntil body condition => block (loopUntil fuel frame body condition)
    | .branch branches otherwise => block (branch fuel frame branches otherwise)
    | .countLoop name start limit step body line => block do
      let first ← evaluate fuel frame start
      let limit ← evaluate fuel frame limit
      let step ← match step with
        | some step => evaluate fuel frame step
        | none => pure (.ofInt 1)
      match first.toNumber?, limit.toNumber?, step.toNumber? with
      | none, _, _ => Run.fail line .loopStart
      | _, none, _ => Run.fail line .loopLimit
      | _, _, none => Run.fail line .loopStep
      | some first, some limit, some step =>
        countLoop fuel frame name (first.sub step) limit step body
    | .eachLoop names values body line => block do
      let values ← evaluateList fuel frame values
      match adjusted 3 values with
      | [step, subject, control] => eachLoop fuel frame names step subject control body line
      | _ => return .next
    | .return [.call function args line] => do
      let value ← evaluate fuel frame function
      let args ← evaluateList fuel frame args
      match value with
      | .closure _ =>
        return (.return (← call fuel { calls := frame.calls } (frame.tailCalls + 1) value args),
          frame)
      | value =>
        let site := frame.site line (frame.originOf function)
        return (.return (← call fuel site 0 value args), frame)
    | .return values => do return (.return (← evaluateList fuel frame values), frame)
    | .leave => return (.leave, frame)

/-- What the targets of an assignment store to. -/
def evaluateSlots : Nat → Frame → List Expr → Run (List Slot)
  | 0, _, _ => Run.raise .endless
  | _, _, [] => return []
  | fuel + 1, frame, first :: rest => do
    let slot ← match first with
      | .index owner key _ => do
        let owned ← evaluate fuel frame owner
        let found ← evaluate fuel frame key
        pure (.entry owned found (frame.originOf owner))
      | .name name =>
        pure <| match frame.variable name with
          | .local cell => Slot.cell cell
          | .upvalue cell => .cell cell
          | .global => .global name
      | _ => pure (.entry .nil .nil none)
    return slot :: (← evaluateSlots fuel frame rest)

/-- Takes the first branch whose condition holds. -/
def branch : Nat → Frame → List (Expr × List Statement) → List Statement → Run Flow
  | 0, _, _, _ => Run.raise .endless
  | fuel + 1, frame, [], otherwise => executeBlock fuel frame otherwise
  | fuel + 1, frame, (condition, body) :: rest, otherwise => do
    if (← evaluate fuel frame condition).isTrue then executeBlock fuel frame body
    else branch fuel frame rest otherwise

/-- Repeats a block while a condition holds. -/
def loopWhile : Nat → Frame → Expr → List Statement → Run Flow
  | 0, _, _, _ => Run.raise .endless
  | fuel + 1, frame, condition, body => do
    if (← evaluate fuel frame condition).isTrue then
      match ← executeBlock fuel frame body with
      | .next => loopWhile fuel frame condition body
      | .leave => return .next
      | flow => return flow
    else return .next

/-- Repeats a block until a condition holds, which sees the variables of the block. -/
def loopUntil : Nat → Frame → List Statement → Expr → Run Flow
  | 0, _, _, _ => Run.raise .endless
  | fuel + 1, frame, body, condition => do
    let (flow, inside) ← execute fuel frame body
    match flow with
    | .next =>
      if (← evaluate fuel inside condition).isTrue then return .next
      else loopUntil fuel frame body condition
    | .leave => return .next
    | flow => return flow

/-- Repeats a block for numbers a step apart; the first is a step behind the given one. -/
def countLoop : Nat → Frame → String → Number → Number → Number → List Statement → Run Flow
  | 0, _, _, _, _, _, _ => Run.raise .endless
  | fuel + 1, frame, name, last, limit, step, body => do
    let n := last.add step
    let goesOn := if (Number.whole 0).lt step then n.le limit else limit.le n
    if goesOn then
      let inside ← frame.declare [(name, .number n)]
      match ← executeBlock fuel inside body with
      | .next => countLoop fuel frame name n limit step body
      | .leave => return .next
      | flow => return flow
    else return .next

/-- Repeats a block for what a function gives, until its first value is nil. -/
def eachLoop : Nat → Frame → List String → Value → Value → Value → List Statement → Nat → Run Flow
  | 0, _, _, _, _, _, _, _ => Run.raise .endless
  | fuel + 1, frame, names, step, subject, control, body, line => do
    let callee : Option Origin := match step with
      | .builtin _ => some { kind := .local, name := Text.utf8 "(for generator)" }
      | _ => none
    let values ← call fuel (frame.site line callee) 0 step [subject, control]
    let values := adjusted names.length values
    let control := values.headD .nil
    if control.isNil then return .next
    let inside ← frame.declare (names.zip values)
    match ← executeBlock fuel inside body with
    | .next => eachLoop fuel frame names step subject control body line
    | .leave => return .next
    | flow => return flow

end

end DungeonHooks.Script
