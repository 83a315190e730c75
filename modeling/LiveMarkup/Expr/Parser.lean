import LiveMarkup.Token.Stream
import LiveMarkup.Document.Converters
import LiveMarkup.Decimal.Reading

/-!
# Parsing expressions

An expression is read operand by operand.  The operators still waiting for their
right operand form a stack; a new operator first completes all waiting ones that
bind at least as tightly.  A sign is a prefix operator where an operand is due,
and an infix operator after one.
-/

namespace LiveMarkup

/-- An operator that waits for its right operand. -/
inductive Pending where
  | prefixOp (op : PrefixOp) (span : Span)
  | infixOp (op : InfixOp) (left : Expr)

namespace Pending

def precedence : Pending → Nat
  | .prefixOp _ _ => PrefixOp.precedence
  | .infixOp op _ => op.precedence

/-- Complete the operator with its right operand. -/
def complete (right : Expr) : Pending → Expr
  | .prefixOp op span => .applyPrefix op right false (span.through right.span)
  | .infixOp op left =>
    .applyInfix op left right false (left.span.through right.span)

/-- Complete all waiting operators, innermost first. -/
def completeAll : List Pending → Expr → Expr
  | [], operand => operand
  | pending :: rest, operand => completeAll rest (pending.complete operand)

/-- Put an infix operator on the stack, after completing those that bind at
least as tightly. -/
def pushInfix (op : InfixOp) : List Pending → Expr → List Pending
  | [], left => [.infixOp op left]
  | pending :: rest, left =>
    if op.precedence ≤ pending.precedence then
      pushInfix op rest (pending.complete left)
    else .infixOp op left :: pending :: rest

end Pending

/-- The text a string literal stands for: `\n`, `\t`, `\r` and `\0` name
characters, and a backslash before any other character stands for that
character. -/
def unescape : List Char → List Char
  | [] => []
  | ['\\'] => ['\\']
  | '\\' :: char :: rest =>
    let named :=
      if char == 'n' then '\n'
      else if char == 't' then '\t'
      else if char == 'r' then '\r'
      else if char == '0' then '\x00'
      else char
    named :: unescape rest
  | char :: rest => char :: unescape rest

/-- Whether a name followed by a parenthesis begins a composite literal. -/
def isConstructor (name : String) : Bool :=
  name == "color" || (StyleBox.ofConstructor? name).isSome

/-- Whether a token begins an operand other than one in parentheses. -/
def TokenKind.beginsOperand : TokenKind → Bool
  | .text | .integer | .float | .boolean | .null | .resource | .vec2 |
      .leftBrace | .globalRef
  | .aliasRef | .name => true
  | _ => false

/-- A text without its first character. -/
def withoutSign (text : String) : String :=
  String.ofList (text.toList.drop 1)

namespace Parser

/-- The expression of a level: its operand, with all waiting operators completed. -/
def finish (pending : List Pending) : Option Expr → Parser Expr
  | some operand => pure (Pending.completeAll pending operand)
  | none => unexpected "a value"

/-- Read the properties after a reference, at most `bound` of them. -/
def chain (start : Span) : Nat → Reference → Parser Reference
  | 0, base => pure base
  | bound + 1, base => do
    if (← peek).kind == .dot then
      let _ ← next
      let name ← expect .name
      chain start bound (.property base name.value (start.through name.span))
    else pure base

/-- Read a reference after its first token. -/
def reference (head : Token) : Parser Reference := fun stream =>
  let target := match head.kind with
    | .globalRef => Reference.global head.value head.span
    | .aliasRef => .aliased (withoutSign head.value) head.span
    | _ => .local head.value head.span
  chain head.span stream.upcoming.length target stream

mutual

/-- Read operators and operands up to the first token that cannot continue an
expression. -/
def level (converters : Converters) : Nat → List Pending → Option Expr →
    Parser (List Pending × Option Expr)
  | 0, _, _ => failHere fun _ => .nestedTooDeep
  | depth + 1, pending, operand => do
    let token ← peek
    match token.kind, operand with
    | .operator, none =>
      let _ ← next
      match PrefixOp.ofSymbol? token.value with
      | some op => level converters depth (.prefixOp op token.span :: pending) none
      | none => fail (.operandMissing token.value) token.span.position
    | .operator, some left =>
      let _ ← next
      match InfixOp.ofSymbol? token.value with
      | some op => level converters depth (Pending.pushInfix op pending left) none
      | none => fail (.unsupportedOperator token.value) token.span.position
    | .leftParen, some _ => unexpected "an operator"
    | .leftParen, none =>
      let opening ← next
      let inner ← level converters depth [] none
      if (← peek).kind == .rightParen then
        let expr ← finish inner.1 inner.2
        let _ ← next
        level converters depth pending (some expr.inGroup)
      else failHere (.unclosedParenthesis opening.span.position)
    | kind, none =>
      if kind.beginsOperand then
        let operand ← operandAt converters depth
        level converters depth pending (some operand)
      else pure (pending, none)
    | _, some operand => pure (pending, some operand)

/-- Read an expression. -/
def expression (converters : Converters) : Nat → Parser Expr
  | 0 => failHere fun _ => .nestedTooDeep
  | depth + 1 => do
    let (pending, operand) ← level converters depth [] none
    finish pending operand

/-- Read an operand. -/
def operandAt (converters : Converters) : Nat → Parser Expr
  | 0 => failHere fun _ => .nestedTooDeep
  | depth + 1 => do
    let token ← next
    let span := token.span
    match token.kind with
    | .text => pure (.text (String.ofList (unescape token.value.toList)) span)
    | .integer =>
      match Decimal.readInt? token.value.toList with
      | some value => pure (.int value span)
      | none => fail (.integerOutOfRange token.value) span.position
    | .float =>
      match Decimal.readFloat? token.value.toList with
      | some value => pure (.float value span)
      | none => fail (.invalidFloat token.value) span.position
    | .boolean => pure (.bool (token.value == "true") span)
    | .null => pure (.null span)
    | .resource =>
      let _ ← expect .leftParen
      let path ← expression converters depth
      let _ ← expect .rightParen
      pure (.resource path { span with stop := ← lastStop })
    | .vec2 =>
      let _ ← expect .leftParen
      let x ← expression converters depth
      let _ ← expect .comma
      let y ← expression converters depth
      let _ ← expect .rightParen
      pure (.vec2 x y { span with stop := ← lastStop })
    | .leftBrace =>
      let entries ← objectEntries converters depth []
      pure (.object entries { span with stop := ← lastStop })
    | .name =>
      if (← peek).kind == .leftParen && isConstructor token.value then
        construct converters depth token
      else
        pure (.reference (← reference token))
    | _ => pure (.reference (← reference token))

/-- Read the rest of an object literal after its opening brace and the entries
so far. -/
def objectEntries (converters : Converters) : Nat → List (String × Expr) →
    Parser (List (String × Expr))
  | 0, _ => failHere fun _ => .nestedTooDeep
  | depth + 1, entries => do
    let token ← peek
    match token.kind with
    | .rightBrace =>
      let _ ← next
      pure entries
    | .name | .component | .text =>
      let _ ← next
      let _ ← expect .colon
      let key := converters.key token.value
      let value ← converters.value <$> expression converters depth
      if entries.any (·.1 == key) then
        fail (.duplicateObjectKey key) token.span.position
      else
        let entries := entries ++ [(key, value)]
        if (← peek).kind == .comma then
          let _ ← next
          objectEntries converters depth entries
        else
          let _ ← expect .rightBrace
          pure entries
    | _ => unexpected "an object key"

/-- Read the arguments of a color or a style box.  A color without opacity is
opaque. -/
def construct (converters : Converters) : Nat → Token → Parser Expr
  | 0, _ => failHere fun _ => .nestedTooDeep
  | depth + 1, name => do
    let _ ← expect .leftParen
    match StyleBox.ofConstructor? name.value with
    | some box =>
      if (← peek).kind == .rightParen then
        let _ ← next
        pure (.style box none { name.span with stop := ← lastStop })
      else
        let properties ← expression converters depth
        let _ ← expect .rightParen
        pure (.style box (some properties) { name.span with stop := ← lastStop })
    | none =>
      let red ← expression converters depth
      let _ ← expect .comma
      let green ← expression converters depth
      let _ ← expect .comma
      let blue ← expression converters depth
      if (← peek).kind == .comma then
        let _ ← next
        let alpha ← expression converters depth
        let _ ← expect .rightParen
        pure (.color red green blue alpha { name.span with stop := ← lastStop })
      else
        let _ ← expect .rightParen
        pure (.color red green blue (.float 1.0 name.span)
          { name.span with stop := ← lastStop })

end

/-- A bound on how deeply the steps of a parser nest on a token list. -/
def depthFor (tokenCount : Nat) : Nat := 8 * (tokenCount + 1)

/-- Run a parser, given its bound on nesting, on the tokens of a source text. -/
def run (converters : Converters) (source : String) (parser : Nat → Parser α) :
    Except ParseError (α × TokenStream) :=
  match tokenize markupRules source with
  | .error error => .error (.ofLexError error)
  | .ok tokens =>
    let tokens := tokens.map converters.token
    parser (depthFor tokens.length) (.ofTokens tokens)

/-- Read the value of a property or an object entry. -/
def value (converters : Converters) (depth : Nat) : Parser Expr :=
  converters.value <$> expression converters depth

end Parser

/-- Read a source text that is one expression. -/
def Expr.read (converters : Converters) (source : String) :
    Except ParseError Expr :=
  (Parser.run converters source fun depth => do
    let expr ← Parser.value converters depth
    if (← Parser.peek).kind == .endOfInput then pure expr
    else Parser.unexpected "end of expression").map Prod.fst

end LiveMarkup
