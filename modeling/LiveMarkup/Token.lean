import LiveMarkup.Position

/-!
# Tokens

A token is a piece of source text with its kind.  Its value is the text itself,
except that a string token carries the text between its quotes.
-/

namespace LiveMarkup

/-- What a token is. -/
inductive TokenKind where
  | text
  | float
  | integer
  | boolean
  | null
  | name
  | component
  | globalRef
  | aliasRef
  | signalName
  | each
  | using
  | importModule
  | importTop
  | resource
  | vec2
  | operator
  | comma
  | dot
  | pipe
  | bindAssign
  | colon
  | leftParen
  | leftBracket
  | leftBrace
  | rightBrace
  | rightBracket
  | rightParen
  | endOfInput
deriving DecidableEq, Repr, Inhabited

/-- How messages call a token kind. -/
def TokenKind.description : TokenKind → String
  | .text => "string"
  | .float => "float"
  | .integer => "integer"
  | .boolean => "boolean"
  | .null => "null"
  | .name => "name"
  | .component => "component"
  | .globalRef => "global_ref"
  | .aliasRef => "alias_ref"
  | .signalName => "signal_name"
  | .each => "each"
  | .using => "using"
  | .importModule => "import"
  | .importTop => "import_top"
  | .resource => "resource"
  | .vec2 => "vec2"
  | .operator => "operator"
  | .comma => "','"
  | .dot => "'.'"
  | .pipe => "'|'"
  | .bindAssign => "':='"
  | .colon => "':'"
  | .leftParen => "'('"
  | .leftBracket => "'['"
  | .leftBrace => "'\x7b'"
  | .rightBrace => "'\x7d'"
  | .rightBracket => "']'"
  | .rightParen => "')'"
  | .endOfInput => "end of input"

/-- A token with its value and its place. -/
structure Token where
  kind : TokenKind
  value : String
  span : Span
deriving DecidableEq, Repr

end LiveMarkup
