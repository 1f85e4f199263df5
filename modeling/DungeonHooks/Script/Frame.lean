import DungeonHooks.Script.Mistake

/-! Functions that run: their variables, and what errors call the operands in them. -/

namespace DungeonHooks.Script

/-- A function that runs: its own variables, those around it, its further arguments, and the calls it is the last of. -/
structure Frame where
  locals : Names := []
  captured : Names := []
  varargs : List Value := []
  calls : Calls := {}
  /-- How many calls had their place taken by this one. -/
  tailCalls : Nat := 0
  deriving Inhabited

/-- What a name stands for. -/
inductive Variable where
  | local (cell : Nat)
  | upvalue (cell : Nat)
  | global

/-- Where a function is called from, and what it is called there. -/
structure Site where
  calls : Calls := {}
  callee : Option Origin := none
  deriving Inhabited

/-- Where a program calls a function of its own accord. -/
def Site.outermost : Site := {}

/-- The line that a function is called from, if it is known. -/
def Site.line (site : Site) : Option Nat :=
  lineOf 0 site.calls.callers

/-- What a name stands for in a frame: the innermost variable of that name, or a global. -/
def Frame.variable (frame : Frame) (name : String) : Variable :=
  match frame.locals.lookup name, frame.captured.lookup name with
  | some cell, _ => .local cell
  | none, some cell => .upvalue cell
  | none, none => .global

/-- Adds variables with their values to a frame. -/
def Frame.declare (frame : Frame) : List (String × Value) → Run Frame
  | [] => return frame
  | (name, value) :: rest => do
    let cell ← Run.add fun store => store.addCell value
    { frame with locals := (name, cell) :: frame.locals }.declare rest

/-- The call of a function from a line of the frame. -/
def Frame.site (frame : Frame) (line : Nat) (callee : Option Origin) : Site :=
  { calls := frame.calls.push (.script line frame.tailCalls), callee }

/-- The origin of what a name stands for. -/
def Frame.nameOrigin (frame : Frame) (name : String) : Origin :=
  let kind := match frame.variable name with
    | .local _ => NameKind.local
    | .upvalue _ => .upvalue
    | .global => .global
  { kind, name := Text.utf8 name }

/-- The origin of what is found by a key; only a constant text names it. -/
def keyOrigin : Expr → Origin
  | .text bytes => { kind := .field, name := bytes }
  | .single inner => keyOrigin inner
  | _ => { kind := .field, name := Text.utf8 "?" }

/-- What happens after an operand has been tested: it is kept as the outcome, or another operand decides. -/
inductive Exit where
  | kept
  | next (origin : Option Origin)

/-- When an operand is tested: never if it comes last, else it leaves the rest out if it is true, or if it is false. -/
inductive Test where
  | last
  | leavesIfTrue
  | leavesIfFalse
  deriving DecidableEq

/-- The origin that an error gives for an operand. Of alternatives it is what is found by leaving out the rest wherever that can be. -/
def Frame.originOf (frame : Frame) (e : Expr) (test : Test := .last) (ifTrue : Exit := .kept)
    (ifFalse : Exit := .kept) : Option Origin :=
  let found (origin : Option Origin) (isConstant : Bool) (isLocal : Bool) : Option Origin :=
    let exit := match test with
      | .last => none
      | .leavesIfTrue => some ifTrue
      | .leavesIfFalse => some ifFalse
    match exit with
    | none => origin
    | some (.next origin) => origin
    | some .kept => if isConstant || isLocal then none else origin
  match e with
  | .name name =>
    let origin := frame.nameOrigin name
    found (some origin) false (origin.kind == .local)
  | .index _ key _ => found (some (keyOrigin key)) false false
  | .single inner => frame.originOf inner test ifTrue ifFalse
  | .both left right =>
    frame.originOf left .leavesIfFalse (.next (frame.originOf right test ifTrue ifFalse)) ifFalse
  | .either left right =>
    frame.originOf left .leavesIfTrue ifTrue (.next (frame.originOf right test ifTrue ifFalse))
  | _ => found none true false

end DungeonHooks.Script
