/-
# Operators

The comparison operators and the logical operators, with the symbols by which sources and
messages name them.
-/
namespace TemplateExpr

/-! ## Comparison -/

/-- A comparison operator. -/
inductive Comparison where
  | equal
  | notEqual
  | less
  | greater
  | lessEqual
  | greaterEqual
deriving DecidableEq, Inhabited

namespace Comparison

/-- The symbol of a comparison operator. -/
def symbol : Comparison → String
  | .equal => "=="
  | .notEqual => "!="
  | .less => "<"
  | .greater => ">"
  | .lessEqual => "<="
  | .greaterEqual => ">="

/-- The operator asks whether its operands are equal, and not for their order. -/
def asksEquality : Comparison → Bool
  | .equal => true
  | .notEqual => true
  | _ => false

/-- The operator holds between operands in the given order. -/
def holds : Comparison → Ordering → Bool
  | .equal, o => o.isEq
  | .notEqual, o => o.isNe
  | .less, o => o.isLT
  | .greater, o => o.isGT
  | .lessEqual, o => o.isLE
  | .greaterEqual, o => o.isGE

end Comparison

/-! ## Logic -/

/-- A logical operator. -/
inductive Connective where
  | and
  | or
deriving DecidableEq, Inhabited

namespace Connective

/-- The word that stands for a logical operator. -/
def word : Connective → String
  | .and => "and"
  | .or => "or"

/-- The truth value that settles the operator whatever the other operands are. -/
def decisive : Connective → Bool
  | .and => false
  | .or => true

end Connective

end TemplateExpr
