/-
# Parts of expressions

The expressions that stand directly in an expression, and the list of all its nodes.  The nodes
are listed as they are evaluated: from left to right, and every node behind the nodes of its parts.

Main statements:
* `inductParts`: a property passes to all expressions if it passes from the parts to the whole;
* `nodes_eq`, `filterNodes_eq`: the nodes are those of the parts and then the expression itself;
* `Mentions.of_mem_parts`, `Applies.of_mem_parts`, `IsStraight.of_mem_parts`: what a part and the
  whole have in common.
-/
import TemplateExpr.Expr.Basic

namespace TemplateExpr

namespace Expr

/-! ## Parts -/

/-- The expressions that stand directly in an expression, from left to right. -/
@[simp] def parts : Expr → List Expr
  | .literal _ => []
  | .var _ => []
  | .field object _ => [object]
  | .index object place => [object, place]
  | .group inner => [inner]
  | .compare _ left right => [left, right]
  | .logical _ operands => operands
  | .contains left right => [left, right]
  | .filter input _ args => input :: args

/-- A property of all expressions, passed from the parts of an expression to the whole. -/
@[elab_as_elim] theorem inductParts {motive : Expr → Prop}
    (whole : ∀ e, (∀ d ∈ e.parts, motive d) → motive e) (e : Expr) : motive e := by
  induction e using Expr.induct with
  | literal v => exact whole _ (by simp)
  | var name => exact whole _ (by simp)
  | field object name ih => exact whole _ (by simpa using ih)
  | index object place ih ihplace => exact whole _ (by simpa using ⟨ih, ihplace⟩)
  | group inner ih => exact whole _ (by simpa using ih)
  | compare op l r ihl ihr => exact whole _ (by simpa using ⟨ihl, ihr⟩)
  | logical op es ih => exact whole _ ih
  | contains l r ihl ihr => exact whole _ (by simpa using ⟨ihl, ihr⟩)
  | filter input name args ih ihargs => exact whole _ (by simpa using ⟨ih, ihargs⟩)

/-! ## Nodes -/

mutual

/-- All nodes of an expression in the order of their evaluation. -/
def nodes : Expr → List Expr
  | .literal value => [.literal value]
  | .var name => [.var name]
  | .field object name => nodes object ++ [.field object name]
  | .index object place => nodes object ++ nodes place ++ [.index object place]
  | .group inner => nodes inner ++ [.group inner]
  | .compare op left right => nodes left ++ nodes right ++ [.compare op left right]
  | .logical op operands => nodesOfAll operands ++ [.logical op operands]
  | .contains left right => nodes left ++ nodes right ++ [.contains left right]
  | .filter input name args => nodes input ++ nodesOfAll args ++ [.filter input name args]

/-- All nodes of some expressions, those of the first one first. -/
def nodesOfAll : List Expr → List Expr
  | [] => []
  | e :: es => nodes e ++ nodesOfAll es

end

/-- The nodes of some expressions are those of each, one behind the other. -/
theorem nodesOfAll_eq_flatMap (es : List Expr) : nodesOfAll es = es.flatMap nodes := by
  induction es with
  | nil => rfl
  | cons e es ih => rw [nodesOfAll, ih, List.flatMap_cons]

/-- The nodes of an expression are those of its parts and the expression itself. -/
theorem nodes_eq (e : Expr) : e.nodes = e.parts.flatMap nodes ++ [e] := by
  cases e <;> simp [nodes, nodesOfAll_eq_flatMap]

/-- A node is the expression itself or a node of one of its parts. -/
theorem mem_nodes_iff {e n : Expr} : n ∈ e.nodes ↔ n = e ∨ ∃ d ∈ e.parts, n ∈ d.nodes := by
  rw [nodes_eq, List.mem_append, List.mem_flatMap, List.mem_singleton]
  exact or_comm

/-- An expression is one of its nodes. -/
theorem mem_nodes_self (e : Expr) : e ∈ e.nodes := mem_nodes_iff.2 (.inl rfl)

/-- The nodes of a part are nodes of the whole. -/
theorem mem_nodes_of_mem_parts {e d n : Expr} (hd : d ∈ e.parts) (hn : n ∈ d.nodes) :
    n ∈ e.nodes :=
  mem_nodes_iff.2 (.inr ⟨d, hd, hn⟩)

/-! ## Names and filters -/

/-- The name stands somewhere in the expression. -/
def Mentions (e : Expr) (name : String) : Prop := .var name ∈ e.nodes

/-- A filter of the given name stands somewhere in the expression. -/
def Applies (e : Expr) (name : String) : Prop := ∃ input args, .filter input name args ∈ e.nodes

/-- No connective stands in the expression, so that evaluation has no part to pass over. -/
def IsStraight (e : Expr) : Prop := ∀ op operands, .logical op operands ∉ e.nodes

variable {e d : Expr} {name : String}

/-- What a part mentions the whole mentions. -/
theorem Mentions.of_mem_parts (h : d.Mentions name) (hd : d ∈ e.parts) : e.Mentions name :=
  mem_nodes_of_mem_parts hd h

/-- A filter that a part applies the whole applies. -/
theorem Applies.of_mem_parts (h : d.Applies name) (hd : d ∈ e.parts) : e.Applies name := by
  obtain ⟨input, args, h⟩ := h
  exact ⟨input, args, mem_nodes_of_mem_parts hd h⟩

/-- The parts of a straight expression are straight. -/
theorem IsStraight.of_mem_parts (h : e.IsStraight) (hd : d ∈ e.parts) : d.IsStraight :=
  fun op operands hn => h op operands (mem_nodes_of_mem_parts hd hn)

/-- A variable mentions its name. -/
theorem mentions_var (name : String) : (Expr.var name).Mentions name := mem_nodes_self _

/-- A filter applies what it is called. -/
theorem applies_filter (input : Expr) (name : String) (args : List Expr) :
    (Expr.filter input name args).Applies name :=
  ⟨input, args, mem_nodes_self _⟩

/-- A chain of a connective is not straight. -/
theorem not_isStraight_logical (op : Connective) (operands : List Expr) :
    ¬ (Expr.logical op operands).IsStraight :=
  fun h => h op operands (mem_nodes_self _)

end Expr

/-! ## Filters as nodes -/

/-- A filter where it stands in an expression. -/
structure FilterNode where
  /-- What it is applied to. -/
  input : Expr
  /-- Its name. -/
  name : String
  /-- Its arguments. -/
  args : List Expr

namespace Expr

/-- The expression as a filter. -/
def filterNode? : Expr → Option FilterNode
  | .filter input name args => some ⟨input, name, args⟩
  | _ => none

/-- The filters of an expression in the order of their evaluation. -/
def filterNodes (e : Expr) : List FilterNode := e.nodes.filterMap filterNode?

/-- The filters of an expression are those of its parts and then the one that it is. -/
theorem filterNodes_eq (e : Expr) :
    e.filterNodes = e.parts.flatMap filterNodes ++ e.filterNode?.toList := by
  unfold filterNodes
  rw [nodes_eq, List.filterMap_append, List.filterMap_flatMap]
  cases h : e.filterNode? <;> simp [h]

section Forms

variable (object place inner left right input : Expr) (es : List Expr) (name : String)

/-- A literal has no filters. -/
theorem filterNodes_literal (v : Value) : (literal v).filterNodes = [] := rfl

/-- A variable has no filters. -/
theorem filterNodes_var : (var name).filterNodes = [] := rfl

/-- The filters of an attribute are those of its object. -/
theorem filterNodes_field : (field object name).filterNodes = object.filterNodes := by
  simp [filterNodes_eq (field object name), filterNode?]

/-- The filters of the object come before those of the index. -/
theorem filterNodes_index :
    (index object place).filterNodes = object.filterNodes ++ place.filterNodes := by
  simp [filterNodes_eq (index object place), filterNode?]

/-- A group has the filters of its inside. -/
theorem filterNodes_group : (group inner).filterNodes = inner.filterNodes := by
  simp [filterNodes_eq (group inner), filterNode?]

/-- The filters on the left of a comparison come before those on the right. -/
theorem filterNodes_compare (op : Comparison) :
    (compare op left right).filterNodes = left.filterNodes ++ right.filterNodes := by
  simp [filterNodes_eq (compare op left right), filterNode?]

/-- The filters of a chain are those of its operands, in their order. -/
theorem filterNodes_logical (op : Connective) :
    (logical op es).filterNodes = es.flatMap filterNodes := by
  simp [filterNodes_eq (logical op es), filterNode?]

/-- The filters on the left of `contains` come before those on the right. -/
theorem filterNodes_contains :
    (contains left right).filterNodes = left.filterNodes ++ right.filterNodes := by
  simp [filterNodes_eq (contains left right), filterNode?]

/-- A filter comes behind those of its input and of its arguments. -/
theorem filterNodes_filter : (filter input name es).filterNodes =
    input.filterNodes ++ (es.flatMap filterNodes ++ [⟨input, name, es⟩]) := by
  simp [filterNodes_eq (filter input name es), filterNode?]

end Forms

example : ((Expr.index (.filter (.var "a") "f" [.filter (.var "b") "g" []])
    (.filter (.var "c") "h" [])).filterNodes.map FilterNode.name) = ["g", "f", "h"] := rfl

end Expr

end TemplateExpr
