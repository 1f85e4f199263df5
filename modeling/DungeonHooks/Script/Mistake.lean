import DungeonHooks.Script.Dialogue

/-! The errors that the language itself throws, with the names of what they are about and their positions. -/

namespace DungeonHooks.Script

/-- What a name in an error stands for. -/
inductive NameKind where
  | local
  | upvalue
  | global
  | field
  | method
  deriving DecidableEq, Inhabited

/-- The word for what a name stands for. -/
def NameKind.word : NameKind → String
  | .local => "local"
  | .upvalue => "upvalue"
  | .global => "global"
  | .field => "field"
  | .method => "method"

/-- Where a value was found, as far as an error can name it. -/
structure Origin where
  kind : NameKind
  name : List UInt8
  deriving DecidableEq, Inhabited

/-- What could not be done to a value of its type. -/
inductive Attempt where
  | index
  | call
  | arithmetic
  | concatenate
  | length
  deriving DecidableEq, Inhabited

/-- The words for what was attempted. -/
def Attempt.words : Attempt → String
  | .index => "index"
  | .call => "call"
  | .arithmetic => "perform arithmetic on"
  | .concatenate => "concatenate"
  | .length => "get length of"

/-- What an argument of a builtin function has to be. -/
inductive Expectation where
  | anything
  | type (name : String)
  deriving DecidableEq, Inhabited

/-- An error of a script. -/
inductive Mistake where
  | refused (attempt : Attempt) (origin : Option Origin) (type : String)
  | compared (left right : String)
  | nilKey
  | nanKey
  | loopStart
  | loopLimit
  | loopStep
  | tooManyCalls
  | tooManyProtected
  /-- An argument, counted from 1, that is not what a function takes; the type is missing with the argument. -/
  | argument (position : Nat) (callee : Option Origin) (wanted : Expectation) (type : Option String)
  deriving DecidableEq, Inhabited

/-- A name as an error shows it. -/
def shownName (name : List UInt8) : List UInt8 :=
  Text.utf8 "'" ++ name.takeWhile (· != 0) ++ Text.utf8 "'"

/-- What is wrong with an argument. -/
def Expectation.complaint (wanted : Expectation) (type : Option String) : String :=
  match wanted with
  | .anything => "(value expected)"
  | .type name => s!"({name} expected, got " ++ type.getD "no value" ++ ")"

/-- The text of an error. -/
def Mistake.message : Mistake → List UInt8
  | .refused attempt none type => Text.utf8 s!"attempt to {attempt.words} a {type} value"
  | .refused attempt (some origin) type =>
    Text.utf8 s!"attempt to {attempt.words} {origin.kind.word} " ++ shownName origin.name
      ++ Text.utf8 s!" (a {type} value)"
  | .compared left right =>
    Text.utf8 <|
      if left == right then s!"attempt to compare two {left} values"
      else s!"attempt to compare {left} with {right}"
  | .nilKey => Text.utf8 "table index is nil"
  | .nanKey => Text.utf8 "table index is NaN"
  | .loopStart => Text.utf8 "'for' initial value must be a number"
  | .loopLimit => Text.utf8 "'for' limit must be a number"
  | .loopStep => Text.utf8 "'for' step must be a number"
  | .tooManyCalls => Text.utf8 "stack overflow"
  | .tooManyProtected => Text.utf8 "C stack overflow"
  | .argument position callee wanted type =>
    let complaint := " " ++ wanted.complaint type
    let name := shownName ((callee.map (·.name)).getD (Text.utf8 "?"))
    -- A method is given its owner as an argument that nobody counts.
    if (callee.map (·.kind)) == some .method then
      if position == 1 then Text.utf8 "calling " ++ name ++ Text.utf8 s!" on bad self{complaint}"
      else Text.utf8 s!"bad argument #{position - 1} to " ++ name ++ Text.utf8 complaint
    else Text.utf8 s!"bad argument #{position} to " ++ name ++ Text.utf8 complaint

/-- The name of a script, as positions in it show it within a number of bytes. -/
def chunkName (size : Nat) (name : List UInt8) : List UInt8 :=
  match Text.letters (name.take 1) with
  | ['='] => (name.drop 1).take (size - 1)
  | ['@'] =>
    let path := name.drop 1
    let kept := size - 8
    if kept < path.length then Text.utf8 "..." ++ path.drop (path.length - kept) else path
  | _ =>
    let line := (name.takeWhile fun b => b != 10 && b != 13).take (size - 17)
    let cut := if line.length < name.length then "..." else ""
    Text.utf8 "[string \"" ++ line ++ Text.utf8 (cut ++ "\"]")

/-- The size of a script's name in the errors of a run. -/
def runNameSize : Nat := 60

/-- The size of a script's name in the errors of its text. -/
def syntaxNameSize : Nat := 80

/-- A call under way: from a line of the script, after calls whose place was taken; or from a builtin function. -/
inductive Caller where
  | script (line tailCalls : Nat)
  | builtin
  deriving DecidableEq, Inhabited

/-- The calls that are under way, the innermost first, and how many there are. -/
structure Calls where
  callers : List Caller := []
  depth : Nat := 0
  counted : depth = callers.length := by rfl
  deriving Inhabited

/-- One more call. -/
def Calls.push (calls : Calls) (caller : Caller) : Calls :=
  { callers := caller :: calls.callers, depth := calls.depth + 1, counted := by simp [calls.counted] }

/-- The line of a caller, counted outward from the innermost, if it is known. -/
def lineOf : Nat → List Caller → Option Nat
  | _, [] => none
  | 0, .script line _ :: _ => some line
  | 0, .builtin :: _ => none
  | n + 1, .script _ tailCalls :: rest => if n < tailCalls then none else lineOf (n - tailCalls) rest
  | n + 1, .builtin :: rest => lineOf n rest

/-- A position before an error, nothing if the line is not known. -/
def position (store : Store) (line : Option Nat) : List UInt8 :=
  match line with
  | some line => chunkName runNameSize store.chunk ++ Text.utf8 s!":{line}: "
  | none => []

namespace Run

/-- Throws a value. -/
def throw {α : Type} (value : Value) : Run α :=
  raise (.thrown value)

/-- Throws an error that arose on a line. -/
def fail {α : Type} (line : Option Nat) (mistake : Mistake) : Run α := do
  throw (.text (position (← store) line ++ mistake.message))

end Run

end DungeonHooks.Script
