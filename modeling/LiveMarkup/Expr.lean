import LiveMarkup.Position

/-!
# Expressions

The values of properties: literals, composite literals, references, and
operators over them.  Every node knows the stretch of source it was written in.
-/

namespace LiveMarkup

/-- An operator before its operand. -/
inductive PrefixOp where
  | not
  | plus
  | minus
deriving DecidableEq, Repr

/-- An operator between its operands. -/
inductive InfixOp where
  | or
  | and
  | eq
  | notEq
  | greaterEq
  | lessEq
  | greater
  | less
  | add
  | sub
  | mul
  | div
  | rem
deriving DecidableEq, Repr

/-- The kinds of style boxes. -/
inductive StyleBox where
  | empty
  | flat
  | line
  | texture
deriving DecidableEq, Repr

/-- A name, and the properties read off what it names. -/
inductive Reference where
  /-- A global, whose name includes its dollar sign. -/
  | global (name : String) (span : Span)
  /-- A component of the document, by its alias without the sign. -/
  | aliased (name : String) (span : Span)
  /-- A variable of an enclosing loop. -/
  | local (name : String) (span : Span)
  /-- A property of what another reference names. -/
  | property (base : Reference) (name : String) (span : Span)
deriving DecidableEq, Repr

/-- An expression.  Operators remember whether they were written in parentheses. -/
inductive Expr where
  | int (value : Int) (span : Span)
  | float (value : Float) (span : Span)
  | bool (value : Bool) (span : Span)
  | text (value : String) (span : Span)
  | null (span : Span)
  | vec2 (x y : Expr) (span : Span)
  | color (red green blue alpha : Expr) (span : Span)
  | object (entries : List (String × Expr)) (span : Span)
  | resource (path : Expr) (span : Span)
  | style (box : StyleBox) (properties : Option Expr) (span : Span)
  | reference (target : Reference)
  | applyPrefix (op : PrefixOp) (right : Expr) (grouped : Bool) (span : Span)
  | applyInfix (op : InfixOp) (left right : Expr) (grouped : Bool) (span : Span)

namespace PrefixOp

def ofSymbol? : String → Option PrefixOp
  | "!" => some .not
  | "+" => some .plus
  | "-" => some .minus
  | _ => none

def symbol : PrefixOp → String
  | .not => "!"
  | .plus => "+"
  | .minus => "-"

/-- A prefix operator binds tighter than every infix operator. -/
def precedence : Nat := 70

theorem ofSymbol?_symbol (op : PrefixOp) : ofSymbol? op.symbol = some op := by
  cases op <;> rfl

end PrefixOp

namespace InfixOp

def ofSymbol? : String → Option InfixOp
  | "||" => some .or
  | "&&" => some .and
  | "==" => some .eq
  | "!=" => some .notEq
  | ">=" => some .greaterEq
  | "<=" => some .lessEq
  | ">" => some .greater
  | "<" => some .less
  | "+" => some .add
  | "-" => some .sub
  | "*" => some .mul
  | "/" => some .div
  | "%" => some .rem
  | _ => none

def symbol : InfixOp → String
  | .or => "||"
  | .and => "&&"
  | .eq => "=="
  | .notEq => "!="
  | .greaterEq => ">="
  | .lessEq => "<="
  | .greater => ">"
  | .less => "<"
  | .add => "+"
  | .sub => "-"
  | .mul => "*"
  | .div => "/"
  | .rem => "%"

/-- How tightly an operator binds.  Operators of one precedence group to the
left. -/
def precedence : InfixOp → Nat
  | .or | .and => 10
  | .eq | .notEq => 20
  | .greaterEq | .lessEq | .greater | .less => 30
  | .add | .sub => 40
  | .mul | .div | .rem => 50

theorem ofSymbol?_symbol (op : InfixOp) : ofSymbol? op.symbol = some op := by
  cases op <;> rfl

theorem precedence_lt_prefixOp (op : InfixOp) :
    op.precedence < PrefixOp.precedence := by
  cases op <;> decide

end InfixOp

namespace StyleBox

/-- The style box that a constructor builds. -/
def ofConstructor? : String → Option StyleBox
  | "style_empty" => some .empty
  | "style_flat" => some .flat
  | "style_line" => some .line
  | "style_texture" => some .texture
  | _ => none

/-- The name a style box is written with. -/
def constructorName : StyleBox → String
  | .empty => "style_empty"
  | .flat => "style_flat"
  | .line => "style_line"
  | .texture => "style_texture"

theorem ofConstructor?_constructorName (box : StyleBox) :
    ofConstructor? box.constructorName = some box := by
  cases box <;> rfl

end StyleBox

namespace Reference

def span : Reference → Span
  | .global _ span => span
  | .aliased _ span => span
  | .local _ span => span
  | .property _ _ span => span

/-- The name at the end of a reference. -/
def name : Reference → String
  | .global name _ => name
  | .aliased name _ => name
  | .local name _ => name
  | .property _ name _ => name

end Reference

namespace Expr

def span : Expr → Span
  | .int _ span => span
  | .float _ span => span
  | .bool _ span => span
  | .text _ span => span
  | .null span => span
  | .vec2 _ _ span => span
  | .color _ _ _ _ span => span
  | .object _ span => span
  | .resource _ span => span
  | .style _ _ span => span
  | .reference target => target.span
  | .applyPrefix _ _ _ span => span
  | .applyInfix _ _ _ _ span => span

/-- Whether an operator was written in parentheses. -/
def isGrouped : Expr → Bool
  | .applyPrefix _ _ grouped _ => grouped
  | .applyInfix _ _ _ grouped _ => grouped
  | _ => false

/-- The expression in parentheses.  Only operators remember them. -/
def inGroup : Expr → Expr
  | .applyPrefix op right _ span => .applyPrefix op right true span
  | .applyInfix op left right _ span => .applyInfix op left right true span
  | other => other

theorem span_inGroup (expr : Expr) : expr.inGroup.span = expr.span := by
  cases expr <;> rfl

/-- The text of a plain string literal. -/
def literalText? : Expr → Option String
  | .text value _ => some value
  | _ => none

end Expr

end LiveMarkup
