/-
# Dumps of values

The text by which a value is shown to whoever inspects a context: each value with its kind, and
strings between quotes.
-/
import TemplateExpr.Binary64.Written
import TemplateExpr.Text.Quoted
import TemplateExpr.Value.Basic

namespace TemplateExpr

namespace Value

mutual

/-- The dump of a value. -/
def dump : Value → String
  | .nil => "Nil"
  | .boolean b => "Boolean(" ++ (if b then "true" else "false") ++ ")"
  | .integer n => "Integer(" ++ toString n.toInt ++ ")"
  | .float x => "Float(" ++ x.text .dump ++ ")"
  | .string s => "String(" ++ Text.quoted s ++ ")"
  | .list items => "List([" ++ String.intercalate ", " (dumpItems items) ++ "])"
  | .map fields => "Map(" ++ dumpFields fields ++ ")"

/-- The dumps of the items of a list. -/
def dumpItems : List Value → List String
  | [] => []
  | v :: vs => dump v :: dumpItems vs

/-- The dump of a finite map of values: each name between quotes before its value. -/
def dumpFields : Fields Value → String
  | ⟨keys, _, get⟩ =>
    let entries := List.ofFn fun i : Fin keys.length => Text.quoted keys[i] ++ ": " ++ dump (get i)
    "\x7b" ++ String.intercalate ", " entries ++ "\x7d"

end

end Value

end TemplateExpr
