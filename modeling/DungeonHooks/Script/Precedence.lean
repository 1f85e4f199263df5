import DungeonHooks.Script.Program

/-! The operators of expressions, and how strongly they bind. -/

namespace DungeonHooks.Script

/-- A symbol between two operands. -/
inductive BinaryOp where
  | arithmetic (op : ArithmeticOp)
  | compare (op : Comparison)
  | concat
  | both
  | either
  deriving DecidableEq, Inhabited

/-- The operator that a symbol stands for between operands, and how strongly it binds on both sides. -/
def binaryOp? : String → Option (BinaryOp × Nat × Nat)
  | "+" => some (.arithmetic .add, 6, 6)
  | "-" => some (.arithmetic .sub, 6, 6)
  | "*" => some (.arithmetic .mul, 7, 7)
  | "/" => some (.arithmetic .div, 7, 7)
  | "%" => some (.arithmetic .mod, 7, 7)
  | "^" => some (.arithmetic .pow, 10, 9)
  | ".." => some (.concat, 5, 4)
  | "==" => some (.compare .eq, 3, 3)
  | "~=" => some (.compare .ne, 3, 3)
  | "<" => some (.compare .lt, 3, 3)
  | "<=" => some (.compare .le, 3, 3)
  | ">" => some (.compare .gt, 3, 3)
  | ">=" => some (.compare .ge, 3, 3)
  | "and" => some (.both, 2, 2)
  | "or" => some (.either, 1, 1)
  | _ => none

/-- The operator that a symbol stands for before an operand. -/
def unaryOp? : String → Option UnaryOp
  | "-" => some .minus
  | "not" => some .negation
  | "#" => some .length
  | _ => none

/-- How strongly an operator before an operand binds. -/
def unaryStrength : Nat := 8

/-- The expression that an operator makes of two operands. -/
def BinaryOp.apply (op : BinaryOp) (left right : Expr) (line : Nat) : Expr :=
  match op with
  | .arithmetic op => .arithmetic op left right line
  | .compare op => .compare op left right line
  | .concat => .join left right line
  | .both => .both left right
  | .either => .either left right

end DungeonHooks.Script
