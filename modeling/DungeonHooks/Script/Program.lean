import DungeonHooks.Script.Number

/-! Programs of the Lua 5.1 language, with the lines at which their parts can fail. -/

namespace DungeonHooks.Script

/-- The operations on one number, truth value or length. -/
inductive UnaryOp where
  | minus
  | negation
  | length
  deriving DecidableEq, Inhabited

/-- The operations on two numbers. -/
inductive ArithmeticOp where
  | add
  | sub
  | mul
  | div
  | mod
  | pow
  deriving DecidableEq, Inhabited

/-- The comparisons. -/
inductive Comparison where
  | eq
  | ne
  | lt
  | le
  | gt
  | ge
  deriving DecidableEq, Inhabited

mutual

/-- An expression. -/
inductive Expr where
  | nil
  | bool (value : Bool)
  | number (value : Number)
  | text (value : List UInt8)
  /-- The arguments beyond the named ones. -/
  | varargs
  | function (body : FunctionBody)
  /-- A local of this function or of one around it, or a global. -/
  | name (name : String)
  | index (table key : Expr) (line : Nat)
  | call (function : Expr) (args : List Expr) (line : Nat)
  /-- A call of a member with its owner as the first argument. -/
  | method (owner : Expr) (name : String) (args : List Expr) (nameLine line : Nat)
  /-- An expression in parentheses, which cut it to one value. -/
  | single (inner : Expr)
  | unary (op : UnaryOp) (operand : Expr) (line : Nat)
  | arithmetic (op : ArithmeticOp) (left right : Expr) (line : Nat)
  | compare (op : Comparison) (left right : Expr) (line : Nat)
  /-- Two or more texts put together. -/
  | concat (parts : List Expr) (line : Nat)
  | both (left right : Expr)
  | either (left right : Expr)
  | table (fields : List Field)

/-- A field of a table that is being made. -/
inductive Field where
  | positional (value : Expr)
  | keyed (key value : Expr) (line : Nat)

/-- A statement. -/
inductive Statement where
  | assign (targets values : List Expr) (line : Nat)
  | declare (names : List String) (values : List Expr)
  /-- A local function, which can call itself. -/
  | declareFunction (name : String) (body : FunctionBody)
  | call (call : Expr)
  | block (body : List Statement)
  | loopWhile (condition : Expr) (body : List Statement)
  | loopUntil (body : List Statement) (condition : Expr)
  /-- The first branch whose condition holds is taken, else the last block. -/
  | branch (branches : List (Expr × List Statement)) (otherwise : List Statement)
  | countLoop (name : String) (start limit : Expr) (step : Option Expr) (body : List Statement)
      (line : Nat)
  | eachLoop (names : List String) (values : List Expr) (body : List Statement) (line : Nat)
  | return (values : List Expr)
  /-- Leaves the innermost loop. -/
  | leave

/-- A function: its parameters, whether it takes more arguments than those, and what it does. -/
inductive FunctionBody where
  | mk (params : List String) (variadic : Bool) (body : List Statement)

end

instance : Inhabited Expr := ⟨.nil⟩

instance : Inhabited FunctionBody := ⟨.mk [] false []⟩

/-- The parameters of a function. -/
def FunctionBody.params : FunctionBody → List String
  | mk params _ _ => params

/-- Whether a function takes more arguments than its parameters. -/
def FunctionBody.variadic : FunctionBody → Bool
  | mk _ variadic _ => variadic

/-- What a function does. -/
def FunctionBody.statements : FunctionBody → List Statement
  | mk _ _ body => body

/-- An expression cut to one value; a second cut changes nothing. -/
def Expr.cut : Expr → Expr
  | .single inner => .single inner
  | e => .single e

/-- Puts a text before another part, which may itself be made of parts. -/
def Expr.join (left right : Expr) (line : Nat) : Expr :=
  match right with
  | .concat parts _ => .concat (left :: parts) line
  | .single (.concat parts _) => .concat (left :: parts) line
  | right => .concat [left, right] line

/-- Fixes the line at which an index takes place, if it is still open. -/
def Expr.settle (line : Nat) : Expr → Expr
  | .index owner key 0 => .index owner key line
  | e => e

end DungeonHooks.Script
