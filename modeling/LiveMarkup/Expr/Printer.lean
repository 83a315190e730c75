import LiveMarkup.Expr
import LiveMarkup.Decimal.Notation
import LiveMarkup.Text.Quoted

/-!
# Printing expressions

The printed form of an expression is source text for it.  Parentheses stand
exactly where the expression remembers them.
-/

namespace LiveMarkup

/-- A text in parentheses, if they are called for. -/
def inParentheses (grouped : Bool) (text : List Char) : List Char :=
  if grouped then '(' :: text ++ [')'] else text

/-- The printed form of a reference. -/
def Reference.chars : Reference → List Char
  | .global name _ => name.toList
  | .aliased name _ => '@' :: name.toList
  | .local name _ => name.toList
  | .property base name _ => base.chars ++ '.' :: name.toList

mutual

/-- The printed form of an expression. -/
def Expr.chars : Expr → List Char
  | .int value _ => Decimal.intChars value
  | .float value _ => (Decimal.Binary.ofFloat value).literalChars
  | .bool value _ => if value then "true".toList else "false".toList
  | .text value _ => Text.quoteChars '"' value.toList
  | .null _ => "null".toList
  | .vec2 x y _ => "vec2(".toList ++ x.chars ++ ", ".toList ++ y.chars ++ [')']
  | .color red green blue alpha _ =>
    "color(".toList ++ red.chars ++ ", ".toList ++ green.chars ++ ", ".toList ++
      blue.chars ++ ", ".toList ++ alpha.chars ++ [')']
  | .object entries _ => "\x7b ".toList ++ Expr.entryChars entries ++ " \x7d".toList
  | .resource path _ => "resource(".toList ++ path.chars ++ [')']
  | .style box none _ => box.constructorName.toList ++ ['(', ')']
  | .style box (some properties) _ =>
    box.constructorName.toList ++ '(' :: properties.chars ++ [')']
  | .reference target => target.chars
  | .applyPrefix op right grouped _ =>
    inParentheses grouped (op.symbol.toList ++ right.chars)
  | .applyInfix op left right grouped _ =>
    inParentheses grouped
      (left.chars ++ ' ' :: op.symbol.toList ++ ' ' :: right.chars)

/-- The printed form of object entries, separated by commas. -/
def Expr.entryChars : List (String × Expr) → List Char
  | [] => []
  | [(key, value)] => key.toList ++ ": ".toList ++ value.chars
  | (key, value) :: rest =>
    key.toList ++ ": ".toList ++ value.chars ++ ", ".toList ++ Expr.entryChars rest

end

/-- The printed form of an expression. -/
def Expr.print (expr : Expr) : String :=
  String.ofList expr.chars

end LiveMarkup
