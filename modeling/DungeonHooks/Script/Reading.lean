import DungeonHooks.Script.Token

/-! Steps of reading tokens. -/

namespace DungeonHooks.Script

/-- Why a text is no program, on which line, and near which token. -/
structure SyntaxError where
  cause : SyntaxCause
  line : Nat
  near : Option (List Char)
  deriving DecidableEq, Inhabited

/-- Where reading stands: the current token and those behind it, and the line of the token before. -/
structure Place where
  lexemes : List Lexeme
  lastLine : Nat := 1

/-- A step of reading. -/
abbrev Reading := StateT Place (Except SyntaxError)

namespace Reading

/-- The current token. -/
def here : Reading Lexeme := do
  return (← get).lexemes.headD (lexeme .finish (← get).lastLine endShown.toList)

/-- The line on which the token before the current one ends. -/
def lastLine : Reading Nat := do
  return (← get).lastLine

/-- Fails at the current token. -/
def complain {α : Type} (cause : SyntaxCause) : Reading α := do
  let { line, shown, .. } ← here
  throw { cause, line, near := some shown }

/-- Fails if the current token is none. -/
def checkToken : Reading Unit := do
  match (← here).token with
  | .fault cause => complain cause
  | _ => pure ()

/-- Goes on to the next token. -/
def advance : Reading Unit := do
  let current ← here
  modify fun place => { lexemes := place.lexemes.drop 1, lastLine := current.line }
  checkToken

/-- Whether the current token is a certain symbol. -/
def at? (text : String) : Reading Bool := do
  match (← here).token with
  | .symbol found => return found == text
  | _ => return false

/-- Takes a symbol if it is the current token. -/
def take? (text : String) : Reading Bool := do
  if ← at? text then
    advance
    return true
  else return false

/-- Takes a symbol that has to be there. -/
def expect (text : String) : Reading Unit := do
  if !(← take? text) then complain (.expected text)

/-- Takes the symbol that closes what was opened on a line. -/
def close (text opener : String) (line : Nat) : Reading Unit := do
  if !(← take? text) then
    if (← here).line == line then complain (.expected text)
    else complain (.unclosed text opener line)

/-- Takes a name. -/
def name : Reading String := do
  match (← here).token with
  | .name found =>
    advance
    return found
  | _ => complain (.expected "<name>")

/-- Takes names after the first one, each behind a comma. -/
def moreNames : Nat → Reading (List String)
  | 0 => return []
  | fuel + 1 => do
    if ← take? "," then
      let next ← name
      return next :: (← moreNames fuel)
    else return []

/-- Whether a block ends at the current token. -/
def blockEnds : Reading Bool := do
  match (← here).token with
  | .symbol text => return ["else", "elseif", "end", "until"].contains text
  | .finish => return true
  | _ => return false

end Reading

/-- What surrounds a piece of program: the function it stands in, whether a loop runs, and the depth. -/
structure Surroundings where
  variadic : Bool
  looping : Bool := false
  depth : Nat := 0
  deriving DecidableEq, Inhabited

/-- The depth to which expressions and blocks may be nested. -/
def maxDepth : Nat := 200

/-- One level further in. -/
def Surroundings.deeper (around : Surroundings) : Reading Surroundings := do
  if around.depth < maxDepth then return { around with depth := around.depth + 1 }
  else throw { cause := .tooManyLevels, line := (← Reading.here).line, near := none }

end DungeonHooks.Script
