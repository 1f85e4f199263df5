import DungeonHooks.Script.Precedence
import DungeonHooks.Script.Reading

/-! From tokens to a program. -/

namespace DungeonHooks.Script

/-- The operator at a token, if there is one. -/
def Lexeme.symbol? {α : Type} (meaning : String → Option α) (lexeme : Lexeme) : Option α :=
  match lexeme.token with
  | .symbol text => meaning text
  | _ => none

/-- Fixes the line of the last expression of a list. -/
def settleLast (line : Nat) : List Expr → List Expr
  | [] => []
  | [e] => [e.settle line]
  | e :: rest => e :: settleLast line rest

/-- Fixes the line of a value that ends a table. -/
def settleField (line : Nat) : List Field → List Field
  | [] => []
  | [.positional e] => [.positional (e.settle line)]
  | field :: rest => field :: settleField line rest

/-- Whether an expression may stand left of an assignment. -/
def Expr.isAssignable : Expr → Bool
  | .name _ => true
  | .index .. => true
  | _ => false

/-- Whether an expression is a call, which may stand as a statement. -/
def Expr.isCall : Expr → Bool
  | .call .. => true
  | .method .. => true
  | _ => false

open Reading

/-- The index by a name. -/
def Expr.member (owner : Expr) (name : String) : Expr :=
  .index owner (.text (Text.utf8 name)) 0

/-- Reads the parameters of a function, and whether it takes more arguments. -/
def readParams : Nat → Reading (List String × Bool)
  | 0 => complain .parameterExpected
  | fuel + 1 => do
    match (← here).token with
    | .name param =>
      advance
      if ← take? "," then
        let (params, variadic) ← readParams fuel
        return (param :: params, variadic)
      else return ([param], false)
    | .symbol "..." =>
      advance
      return ([], true)
    | _ => complain .parameterExpected

/-- Reads the name of a function that is assigned, and whether it is a method. -/
def readTarget : Nat → Expr → Reading (Expr × Bool)
  | 0, target => return (target, false)
  | fuel + 1, target => do
    let dot ← at? "."
    if dot || (← at? ":") then
      let owner := target.settle (← lastLine)
      advance
      let member := owner.member (← name)
      if dot then readTarget fuel member else return (member, true)
    else return (target, false)

mutual

/-- Reads the statements of a block. -/
def readBlock : Nat → Surroundings → Reading (List Statement)
  | 0, _ => complain .tooManyLevels
  | fuel + 1, around => do
    let inside ← around.deeper
    readStatements fuel inside

/-- Reads statements up to the end of their block; nothing follows one that leaves it. -/
def readStatements : Nat → Surroundings → Reading (List Statement)
  | 0, _ => complain .tooManyLevels
  | fuel + 1, around => do
    if ← blockEnds then return []
    let first ← readStatement fuel around
    let _ ← take? ";"
    match first with
    | .return _ => return [first]
    | .leave => return [first]
    | _ => return first :: (← readStatements fuel around)

/-- Reads a statement. -/
def readStatement : Nat → Surroundings → Reading Statement
  | 0, _ => complain .tooManyLevels
  | fuel + 1, around => do
    let { token, line, .. } ← here
    let loop := { around with looping := true }
    match token with
    | .symbol "if" =>
      let (branches, otherwise) ← readBranches fuel around line
      return .branch branches otherwise
    | .symbol "while" =>
      advance
      let condition ← readWhole fuel around
      expect "do"
      let body ← readBlock fuel loop
      close "end" "while" line
      return .loopWhile condition body
    | .symbol "do" =>
      advance
      let body ← readBlock fuel around
      close "end" "do" line
      return .block body
    | .symbol "for" =>
      advance
      readFor fuel loop line
    | .symbol "repeat" =>
      advance
      let body ← readBlock fuel loop
      close "until" "repeat" line
      return .loopUntil body (← readWhole fuel around)
    | .symbol "function" =>
      advance
      let (target, isMethod) ← readTarget fuel (.name (← name))
      let body ← readFunction fuel around isMethod line
      return .assign [target] [.function body] line
    | .symbol "local" =>
      advance
      if ← take? "function" then
        let name ← name
        let line := (← here).line
        return .declareFunction name (← readFunction fuel around false line)
      else
        let first ← name
        let names := first :: (← moreNames fuel)
        let values ← if ← take? "=" then readList fuel around else pure []
        return .declare names (settleLast (← lastLine) values)
    | .symbol "return" =>
      advance
      if (← blockEnds) || (← at? ";") then return .return []
      let values ← readList fuel around
      return .return (settleLast (← lastLine) values)
    | .symbol "break" =>
      advance
      if around.looping then return .leave else complain .noLoop
    | _ =>
      let first ← readPrimary fuel around
      if first.isCall then return .call first
      let targets ← readTargets fuel around first
      expect "="
      let values ← readList fuel around
      let line ← lastLine
      return .assign targets (settleLast line values) line

/-- Reads the targets of an assignment, the first of which has been read. -/
def readTargets : Nat → Surroundings → Expr → Reading (List Expr)
  | 0, _, _ => complain .tooManyLevels
  | fuel + 1, around, first => do
    if !first.isAssignable then complain .notAssignable
    if ← take? "," then
      let next ← readPrimary fuel around
      return first :: (← readTargets fuel around next)
    else return [first]

/-- Reads the branches of a conditional statement, from one of the words that open them. -/
def readBranches : Nat → Surroundings → Nat → Reading (List (Expr × List Statement) × List Statement)
  | 0, _, _ => complain .tooManyLevels
  | fuel + 1, around, line => do
    advance
    let condition ← readWhole fuel around
    expect "then"
    let body ← readBlock fuel around
    if ← at? "elseif" then
      let (branches, otherwise) ← readBranches fuel around line
      return ((condition, body) :: branches, otherwise)
    let otherwise ← if ← take? "else" then readBlock fuel around else pure []
    close "end" "if" line
    return ([(condition, body)], otherwise)

/-- Reads a loop behind its first word. -/
def readFor : Nat → Surroundings → Nat → Reading Statement
  | 0, _, _ => complain .tooManyLevels
  | fuel + 1, loop, line => do
    let around := loop
    let first ← name
    if ← take? "=" then
      let start ← readWhole fuel around
      expect ","
      let limit ← readWhole fuel around
      let step ← if ← take? "," then some <$> readWhole fuel around else pure none
      expect "do"
      let doLine ← lastLine
      let body ← readBlock fuel loop
      close "end" "for" line
      return .countLoop first start limit step body doLine
    else if (← at? ",") || (← at? "in") then
      let names := first :: (← moreNames fuel)
      expect "in"
      let values ← readList fuel around
      let values := settleLast (← lastLine) values
      expect "do"
      let body ← readBlock fuel loop
      close "end" "for" line
      return .eachLoop names values body line
    else complain .loopExpected

/-- Reads parameters and body of a function that began on a line; a method has one parameter more. -/
def readFunction : Nat → Surroundings → Bool → Nat → Reading FunctionBody
  | 0, _, _, _ => complain .tooManyLevels
  | fuel + 1, around, isMethod, line => do
    expect "("
    let (params, variadic) ← if ← at? ")" then pure ([], false) else readParams fuel
    expect ")"
    let body ← readBlock fuel { variadic, depth := around.depth }
    close "end" "function" line
    return .mk (if isMethod then "self" :: params else params) variadic body

/-- Reads an expression that nothing follows. -/
def readWhole : Nat → Surroundings → Reading Expr
  | 0, _ => complain .tooManyLevels
  | fuel + 1, around => do
    let e ← readExpr fuel around 0
    return e.settle (← lastLine)

/-- Reads expressions with commas between them; the line of the last one stays open. -/
def readList : Nat → Surroundings → Reading (List Expr)
  | 0, _ => complain .tooManyLevels
  | fuel + 1, around => do
    let first ← readExpr fuel around 0
    if ← take? "," then
      let first := first.settle (← lastLine)
      return first :: (← readList fuel around)
    else return [first]

/-- Reads an expression whose operators all bind more strongly than a limit. -/
def readExpr : Nat → Surroundings → Nat → Reading Expr
  | 0, _, _ => complain .tooManyLevels
  | fuel + 1, around, limit => do
    let around ← around.deeper
    match (← here).symbol? unaryOp? with
    | some op =>
      advance
      let operand ← readExpr fuel around unaryStrength
      let line ← lastLine
      readOperators fuel around limit (.unary op (operand.settle line) line)
    | none =>
      let first ← readSimple fuel around
      readOperators fuel around limit first

/-- Reads the operators behind an operand, as far as they bind more strongly than a limit. -/
def readOperators : Nat → Surroundings → Nat → Expr → Reading Expr
  | 0, _, _, _ => complain .tooManyLevels
  | fuel + 1, around, limit, left => do
    match (← here).symbol? binaryOp? with
    | some (op, leftStrength, rightStrength) =>
      if leftStrength ≤ limit then return left
      advance
      let left := left.settle (← lastLine)
      let right ← readExpr fuel around rightStrength
      let line ← lastLine
      readOperators fuel around limit (op.apply left (right.settle line) line)
    | none => return left

/-- Reads an operand. -/
def readSimple : Nat → Surroundings → Reading Expr
  | 0, _ => complain .tooManyLevels
  | fuel + 1, around => do
    let constant (e : Expr) : Reading Expr := do
      advance
      return e
    match (← here).token with
    | .number value => constant (.number value)
    | .text value => constant (.text value)
    | .symbol "nil" => constant .nil
    | .symbol "true" => constant (.bool true)
    | .symbol "false" => constant (.bool false)
    | .symbol "..." => if around.variadic then constant .varargs else complain .noVarargs
    | .symbol "\x7b" => readTable fuel around
    | .symbol "function" =>
      advance
      let line := (← here).line
      return .function (← readFunction fuel around false line)
    | _ => readPrimary fuel around

/-- Reads a name or an expression in parentheses, with all indices and calls behind it. -/
def readPrimary : Nat → Surroundings → Reading Expr
  | 0, _ => complain .tooManyLevels
  | fuel + 1, around => do
    let { token, line, .. } ← here
    match token with
    | .name found =>
      advance
      readSuffixes fuel around (.name found)
    | .symbol "(" =>
      advance
      let inner ← readExpr fuel around 0
      close ")" "(" line
      let inner := inner.settle (← lastLine)
      readSuffixes fuel around inner.cut
    | _ => complain .unexpectedSymbol

/-- Reads the indices and calls behind an expression. -/
def readSuffixes : Nat → Surroundings → Expr → Reading Expr
  | 0, _, _ => complain .tooManyLevels
  | fuel + 1, around, owner => do
    let before ← lastLine
    let call : Reading Expr := do
      let (args, line) ← readArgs fuel around
      readSuffixes fuel around (.call (owner.settle before) args line)
    match (← here).token with
    | .symbol "." =>
      advance
      let member ← name
      readSuffixes fuel around ((owner.settle before).member member)
    | .symbol "[" =>
      advance
      let key ← readWhole fuel around
      expect "]"
      readSuffixes fuel around (.index (owner.settle before) key 0)
    | .symbol ":" =>
      advance
      let member ← name
      let nameLine ← lastLine
      let (args, line) ← readArgs fuel around
      readSuffixes fuel around (.method (owner.settle nameLine) member args nameLine line)
    | .symbol "(" => call
    | .symbol "\x7b" => call
    | .text _ => call
    | _ => return owner

/-- Reads the arguments of a call, and the line on which they begin. -/
def readArgs : Nat → Surroundings → Reading (List Expr × Nat)
  | 0, _ => complain .tooManyLevels
  | fuel + 1, around => do
    let { token, line, .. } ← here
    match token with
    | .symbol "(" =>
      if line != (← lastLine) then complain .ambiguousCall
      advance
      let args ← if ← at? ")" then pure [] else readList fuel around
      close ")" "(" line
      return (settleLast (← lastLine) args, line)
    | .symbol "\x7b" => return ([← readTable fuel around], line)
    | .text value =>
      advance
      return ([.text value], line)
    | _ => complain .argumentsExpected

/-- Reads a table. -/
def readTable : Nat → Surroundings → Reading Expr
  | 0, _ => complain .tooManyLevels
  | fuel + 1, around => do
    let line := (← here).line
    expect "\x7b"
    let fields ← readFields fuel around
    close "\x7d" "\x7b" line
    return .table (settleField (← lastLine) fields)

/-- Reads the fields of a table. -/
def readFields : Nat → Surroundings → Reading (List Field)
  | 0, _ => complain .tooManyLevels
  | fuel + 1, around => do
    if ← at? "\x7d" then return []
    let field ← readField fuel around
    if (← take? ",") || (← take? ";") then
      if ← at? "\x7d" then return [field]
      let line ← lastLine
      return settleField line [field] ++ (← readFields fuel around)
    else return [field]

/-- Reads a field of a table. -/
def readField : Nat → Surroundings → Reading Field
  | 0, _ => complain .tooManyLevels
  | fuel + 1, around => do
    let key : Option Expr ← match (← get).lexemes with
      | { token := .name found, .. } :: { token := .symbol "=", .. } :: _ =>
        advance
        pure (some (.text (Text.utf8 found)))
      | { token := .symbol "[", .. } :: _ =>
        advance
        let key ← readWhole fuel around
        expect "]"
        pure (some key)
      | _ => pure none
    match key with
    | none => return .positional (← readExpr fuel around 0)
    | some key =>
      expect "="
      let value ← readWhole fuel around
      return .keyed key value (← lastLine)

end

/-- Reads a program from its tokens. -/
def readProgram (fuel : Nat) : Reading FunctionBody := do
  checkToken
  let body ← readBlock fuel { variadic := true }
  match (← here).token with
  | .finish => return .mk [] true body
  | _ => complain (.expected endShown)

/-- No token takes part in more steps than this. -/
def stepsPerToken : Nat := 16

/-- The program that some bytes are the text of. -/
def parse (source : List UInt8) : Except SyntaxError FunctionBody :=
  let lexemes := tokens source
  (readProgram (stepsPerToken * (lexemes.length + 1))).run' { lexemes }

end DungeonHooks.Script
