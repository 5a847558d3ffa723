/-
# Tokens

The units that a source is split into.  A word is a keyword or an identifier; the end of the
source is a token of its own.

Main statements:
* `ofWord_of_lookup_eq_none`: a word that is no keyword is an identifier;
* `word?_of_mem_keywords`: a keyword is the word of its token.
-/
import TemplateExpr.Binary64.Written
import TemplateExpr.Expr.Operator
import TemplateExpr.Text.Quoted
import TemplateExpr.Token.Position

namespace TemplateExpr

/-- A unit of a source. -/
inductive Token where
  | integer (n : Int64)
  | float (x : Binary64)
  | string (s : String)
  | boolean (b : Bool)
  | nil
  /-- The name of a variable, an attribute or a filter. -/
  | identifier (name : String)
  | logical (op : Connective)
  | contains
  | compare (op : Comparison)
  | dot
  | openBracket
  | closeBracket
  | openParen
  | closeParen
  | pipe
  | endOfSource
deriving DecidableEq, Inhabited

namespace Token

/-! ## Words -/

/-- The words that are no identifiers. -/
def keywords : List (String × Token) :=
  [("and", .logical .and), ("or", .logical .or), ("contains", .contains), ("true", .boolean true),
    ("false", .boolean false), ("nil", .nil)]

/-- The token that a word stands for. -/
def ofWord (word : String) : Token := (keywords.lookup word).getD (.identifier word)

theorem ofWord_of_lookup_eq_none {word : String} (h : keywords.lookup word = none) :
    ofWord word = .identifier word := by
  rw [ofWord, h, Option.getD_none]

/-- The word of an identifier or a keyword: after a point each is the name of an attribute. -/
def word? : Token → Option String
  | .identifier name => some name
  | .logical op => some op.word
  | .contains => some "contains"
  | .boolean true => some "true"
  | .boolean false => some "false"
  | .nil => some "nil"
  | _ => none

/-- A keyword is the word of its token. -/
theorem word?_of_mem_keywords {word : String} {t : Token} (h : (word, t) ∈ keywords) :
    t.word? = some word := by
  simp only [keywords, List.mem_cons, Prod.mk.injEq, List.not_mem_nil, or_false] at h
  rcases h with ⟨rfl, rfl⟩ | ⟨rfl, rfl⟩ | ⟨rfl, rfl⟩ | ⟨rfl, rfl⟩ | ⟨rfl, rfl⟩ | ⟨rfl, rfl⟩ <;> rfl

/-! ## Symbols -/

/-- The tokens without letters and digits; a symbol stands before those that it begins with. -/
def symbols : List (List Char × Token) :=
  [(['=', '='], .compare .equal), (['!', '='], .compare .notEqual),
    (['<', '='], .compare .lessEqual), (['>', '='], .compare .greaterEqual),
    (['<'], .compare .less), (['>'], .compare .greater), (['.'], .dot), (['|'], .pipe),
    (['('], .openParen), ([')'], .closeParen), (['['], .openBracket), ([']'], .closeBracket)]

/-! ## Messages -/

/-- A text between backticks. -/
def ticked (s : String) : String := "\x60" ++ s ++ "\x60"

/-- What messages call a token. -/
def label : Token → String
  | .integer n => "integer " ++ ticked (toString n.toInt)
  | .float x => "float " ++ ticked (x.text .plain)
  | .string s => "string " ++ Text.quoted s
  | .boolean true => ticked "true"
  | .boolean false => ticked "false"
  | .nil => ticked "nil"
  | .identifier name => "identifier " ++ ticked name
  | .logical op => ticked op.word
  | .contains => ticked "contains"
  | .compare op => ticked op.symbol
  | .dot => ticked "."
  | .openBracket => ticked "["
  | .closeBracket => ticked "]"
  | .openParen => ticked "("
  | .closeParen => ticked ")"
  | .pipe => ticked "|"
  | .endOfSource => "end of input"

end Token

/-- Something with the place where it begins. -/
structure Located (α : Type) where
  /-- What stands in the source. -/
  item : α
  /-- Where it begins. -/
  position : Position
deriving DecidableEq, Inhabited

end TemplateExpr
