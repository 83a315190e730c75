import LiveMarkup.Expr.Parser

/-!
# The grammar of expressions

An expression is written in layers.  The loosest layer holds `||` and `&&`,
then come equality, the relations, sums and products; the operators of one
layer group to the left.  Prefix operators are tighter than all of them and
stand before operands: literals, references, composite literals and
expressions in parentheses.

The grammar is a relation between the tokens of an expression and its tree.
It knows nothing of stacks, of pending operators or of the order in which a
parser looks at tokens.
-/

namespace LiveMarkup.Grammar

/-! ## Layers -/

/-- The layer of an infix operator, the loosest one first. -/
def layerOf : InfixOp → Nat
  | .or | .and => 0
  | .eq | .notEq => 1
  | .greaterEq | .lessEq | .greater | .less => 2
  | .add | .sub => 3
  | .mul | .div | .rem => 4

/-- The layer of prefix operators and operands. -/
def prefixLayer : Nat := 5

theorem layerOf_lt_prefixLayer (op : InfixOp) : layerOf op < prefixLayer := by
  cases op <;> decide

/-- The precedences of the infix operators are ordered like their layers. -/
theorem precedence_le_iff (first second : InfixOp) :
    first.precedence ≤ second.precedence ↔ layerOf first ≤ layerOf second := by
  cases first <;> cases second <;> decide

theorem precedence_lt_iff (first second : InfixOp) :
    first.precedence < second.precedence ↔ layerOf first < layerOf second := by
  rw [← Nat.not_le, ← Nat.not_le, precedence_le_iff]

/-! ## Derivations -/

/-- The tokens of a reference: a name and the properties read off it. -/
inductive DerivesReference : List Token → Reference → Prop where
  | global (head : Token) (kind : head.kind = .globalRef) :
      DerivesReference [head] (.global head.value head.span)
  | aliased (head : Token) (kind : head.kind = .aliasRef) :
      DerivesReference [head] (.aliased (withoutSign head.value) head.span)
  | local (head : Token) (kind : head.kind = .name) :
      DerivesReference [head] (.local head.value head.span)
  | property {tokens : List Token} {base : Reference}
      (derived : DerivesReference tokens base) (dot name : Token)
      (dotKind : dot.kind = .dot) (nameKind : name.kind = .name) :
      DerivesReference (tokens ++ [dot, name])
        (.property base name.value (base.span.through name.span))

mutual

/--
The tokens of an expression in a layer: outside of parentheses its operators
are of that layer or of a tighter one.
-/
inductive Derives : Nat → List Token → Expr → Prop where
  | infixOp {leftTokens rightTokens : List Token} {left right : Expr}
      (operator : Token) (op : InfixOp)
      (kind : operator.kind = .operator)
      (symbol : InfixOp.ofSymbol? operator.value = some op)
      (leftDerived : Derives (layerOf op) leftTokens left)
      (rightDerived : Derives (layerOf op + 1) rightTokens right) :
      Derives (layerOf op) (leftTokens ++ operator :: rightTokens)
        (.applyInfix op left right false (left.span.through right.span))
  | tighter {layer : Nat} {tokens : List Token} {expr : Expr}
      (below : layer < prefixLayer)
      (derived : Derives (layer + 1) tokens expr) :
      Derives layer tokens expr
  | prefixOp {tokens : List Token} {right : Expr}
      (operator : Token) (op : PrefixOp)
      (kind : operator.kind = .operator)
      (symbol : PrefixOp.ofSymbol? operator.value = some op)
      (derived : Derives prefixLayer tokens right) :
      Derives prefixLayer (operator :: tokens)
        (.applyPrefix op right false (operator.span.through right.span))
  | group {tokens : List Token} {expr : Expr} (opening closing : Token)
      (openingKind : opening.kind = .leftParen)
      (closingKind : closing.kind = .rightParen)
      (derived : Derives 0 tokens expr) :
      Derives prefixLayer (opening :: tokens ++ [closing]) expr.inGroup
  | atom {tokens : List Token} {expr : Expr}
      (derived : DerivesAtom tokens expr) :
      Derives prefixLayer tokens expr

/-- The tokens of an operand other than one in parentheses. -/
inductive DerivesAtom : List Token → Expr → Prop where
  | text (token : Token) (kind : token.kind = .text) :
      DerivesAtom [token]
        (.text (String.ofList (unescape token.value.toList)) token.span)
  | integer (token : Token) (value : Int) (kind : token.kind = .integer)
      (reads : Decimal.readInt? token.value.toList = some value) :
      DerivesAtom [token] (.int value token.span)
  | float (token : Token) (value : Float) (kind : token.kind = .float)
      (reads : Decimal.readFloat? token.value.toList = some value) :
      DerivesAtom [token] (.float value token.span)
  | boolean (token : Token) (kind : token.kind = .boolean) :
      DerivesAtom [token] (.bool (token.value == "true") token.span)
  | null (token : Token) (kind : token.kind = .null) :
      DerivesAtom [token] (.null token.span)
  | reference {tokens : List Token} {target : Reference}
      (derived : DerivesReference tokens target) :
      DerivesAtom tokens (.reference target)
  | resource {tokens : List Token} {path : Expr} (head opening closing : Token)
      (headKind : head.kind = .resource)
      (openingKind : opening.kind = .leftParen)
      (closingKind : closing.kind = .rightParen)
      (derived : Derives 0 tokens path) :
      DerivesAtom (head :: opening :: tokens ++ [closing])
        (.resource path (head.span.through closing.span))
  | vec2 {xTokens yTokens : List Token} {x y : Expr}
      (head opening comma closing : Token) (headKind : head.kind = .vec2)
      (openingKind : opening.kind = .leftParen)
      (commaKind : comma.kind = .comma)
      (closingKind : closing.kind = .rightParen)
      (xDerived : Derives 0 xTokens x) (yDerived : Derives 0 yTokens y) :
      DerivesAtom (head :: opening :: xTokens ++ comma :: yTokens ++ [closing])
        (.vec2 x y (head.span.through closing.span))
  | solidColor {redTokens greenTokens blueTokens : List Token}
      {red green blue : Expr} (head opening firstComma secondComma closing :
        Token) (headKind : head.kind = .name) (headValue : head.value = "color")
      (openingKind : opening.kind = .leftParen)
      (firstKind : firstComma.kind = .comma)
      (secondKind : secondComma.kind = .comma)
      (closingKind : closing.kind = .rightParen)
      (redDerived : Derives 0 redTokens red)
      (greenDerived : Derives 0 greenTokens green)
      (blueDerived : Derives 0 blueTokens blue) :
      DerivesAtom (head :: opening :: redTokens ++ firstComma :: greenTokens ++
        secondComma :: blueTokens ++ [closing])
        (.color red green blue (.float 1.0 head.span)
          (head.span.through closing.span))
  | color {redTokens greenTokens blueTokens alphaTokens : List Token}
      {red green blue alpha : Expr}
      (head opening firstComma secondComma thirdComma closing : Token)
      (headKind : head.kind = .name) (headValue : head.value = "color")
      (openingKind : opening.kind = .leftParen)
      (firstKind : firstComma.kind = .comma)
      (secondKind : secondComma.kind = .comma)
      (thirdKind : thirdComma.kind = .comma)
      (closingKind : closing.kind = .rightParen)
      (redDerived : Derives 0 redTokens red)
      (greenDerived : Derives 0 greenTokens green)
      (blueDerived : Derives 0 blueTokens blue)
      (alphaDerived : Derives 0 alphaTokens alpha) :
      DerivesAtom (head :: opening :: redTokens ++ firstComma :: greenTokens ++
        secondComma :: blueTokens ++ thirdComma :: alphaTokens ++ [closing])
        (.color red green blue alpha (head.span.through closing.span))
  | plainStyle (box : StyleBox) (head opening closing : Token)
      (headKind : head.kind = .name)
      (headValue : StyleBox.ofConstructor? head.value = some box)
      (openingKind : opening.kind = .leftParen)
      (closingKind : closing.kind = .rightParen) :
      DerivesAtom [head, opening, closing]
        (.style box none (head.span.through closing.span))
  | style {tokens : List Token} {properties : Expr} (box : StyleBox)
      (head opening closing : Token)
      (headKind : head.kind = .name)
      (headValue : StyleBox.ofConstructor? head.value = some box)
      (openingKind : opening.kind = .leftParen)
      (closingKind : closing.kind = .rightParen)
      (derived : Derives 0 tokens properties) :
      DerivesAtom (head :: opening :: tokens ++ [closing])
        (.style box (some properties) (head.span.through closing.span))
  | object {tokens : List Token} {entries : List (String × Expr)}
      (opening closing : Token) (openingKind : opening.kind = .leftBrace)
      (closingKind : closing.kind = .rightBrace)
      (derived : DerivesEntries tokens entries)
      (distinct : (entries.map Prod.fst).Nodup) :
      DerivesAtom (opening :: tokens ++ [closing])
        (.object entries (opening.span.through closing.span))

/-- The tokens between the braces of an object literal. -/
inductive DerivesEntries : List Token → List (String × Expr) → Prop where
  | nil : DerivesEntries [] []
  | last {tokens : List Token} {value : Expr} (key colon : Token)
      (keyKind : key.kind = .name ∨ key.kind = .component ∨ key.kind = .text)
      (colonKind : colon.kind = .colon)
      (derived : Derives 0 tokens value) :
      DerivesEntries (key :: colon :: tokens) [(key.value, value)]
  | cons {tokens otherTokens : List Token} {value : Expr}
      {others : List (String × Expr)} (key colon comma : Token)
      (keyKind : key.kind = .name ∨ key.kind = .component ∨ key.kind = .text)
      (colonKind : colon.kind = .colon) (commaKind : comma.kind = .comma)
      (derived : Derives 0 tokens value)
      (othersDerived : DerivesEntries otherTokens others) :
      DerivesEntries (key :: colon :: tokens ++ comma :: otherTokens)
        ((key.value, value) :: others)

end

/-- An expression of a layer is one of every looser layer. -/
theorem Derives.loosen {layer looser : Nat} {tokens : List Token} {expr : Expr}
    (derived : Derives layer tokens expr) (le : looser ≤ layer)
    (bounded : layer ≤ prefixLayer) :
    Derives looser tokens expr := by
  induction le with
  | refl => exact derived
  | @step middle le induction =>
      exact induction (.tighter bounded derived) (Nat.le_of_succ_le bounded)

/-- An operand is an expression by itself. -/
theorem Derives.of_atom {tokens : List Token} {expr : Expr}
    (derived : DerivesAtom tokens expr) : Derives 0 tokens expr :=
  (Derives.atom derived).loosen (Nat.zero_le _) (Nat.le_refl _)

/-! ## What may follow an expression -/

/-- Whether the last token is the end of a reference. -/
def endsInReference (tokens : List Token) : Bool :=
  tokens.getLast?.any fun token =>
    token.kind == .globalRef || token.kind == .aliasRef || token.kind == .name

/-- A token that cannot extend an expression written in some tokens. -/
structure CannotExtend (tokens : List Token) (next : Token) : Prop where
  notOperator : next.kind ≠ .operator
  notOpening : next.kind ≠ .leftParen
  notDot : endsInReference tokens → next.kind ≠ .dot

/-! ## Right operands -/

/-- The precedence of an operator that is not in parentheses. -/
def openPrecedence? : Expr → Option Nat
  | .applyPrefix _ _ false _ => some PrefixOp.precedence
  | .applyInfix op _ _ false _ => some op.precedence
  | _ => none

/--
The right operand of an infix operator binds tighter than the operator, and
the operand of a prefix operator at least as tightly, unless it is in
parentheses.
-/
def RightOperandBinds : Expr → Prop
  | .applyPrefix _ right _ _ =>
      ∀ precedence ∈ openPrecedence? right, PrefixOp.precedence ≤ precedence
  | .applyInfix op _ right _ _ =>
      ∀ precedence ∈ openPrecedence? right, op.precedence < precedence
  | _ => True

mutual

/-- A condition holds at every node of an expression. -/
def Everywhere (condition : Expr → Prop) : Expr → Prop
  | .int value span => condition (.int value span)
  | .float value span => condition (.float value span)
  | .bool value span => condition (.bool value span)
  | .text value span => condition (.text value span)
  | .null span => condition (.null span)
  | .vec2 x y span =>
    condition (.vec2 x y span) ∧ Everywhere condition x ∧ Everywhere condition y
  | .color red green blue alpha span =>
      condition (.color red green blue alpha span) ∧
      Everywhere condition red ∧ Everywhere condition green ∧
      Everywhere condition blue ∧ Everywhere condition alpha
  | .object entries span =>
    condition (.object entries span) ∧ EverywhereIn condition entries
  | .resource path span =>
    condition (.resource path span) ∧ Everywhere condition path
  | .style box none span => condition (.style box none span)
  | .style box (some properties) span =>
      condition (.style box (some properties) span) ∧
      Everywhere condition properties
  | .reference target => condition (.reference target)
  | .applyPrefix op right grouped span =>
      condition (.applyPrefix op right grouped span) ∧ Everywhere condition right
  | .applyInfix op left right grouped span =>
      condition (.applyInfix op left right grouped span) ∧
      Everywhere condition left ∧ Everywhere condition right

/-- A condition holds at every node of the values of an object literal. -/
def EverywhereIn (condition : Expr → Prop) : List (String × Expr) → Prop
  | [] => True
  | (_, value) :: others =>
    Everywhere condition value ∧ EverywhereIn condition others

end

mutual

/-- What holds everywhere in a tree has everywhere the consequences that it has
in one place. -/
theorem Everywhere.imp {first second : Expr → Prop}
    (implies : ∀ expr, first expr → second expr) :
    ∀ {expr : Expr}, Everywhere first expr → Everywhere second expr
  | .int _ _, holds => implies _ holds
  | .float _ _, holds => implies _ holds
  | .bool _ _, holds => implies _ holds
  | .text _ _, holds => implies _ holds
  | .null _, holds => implies _ holds
  | .vec2 _ _ _, ⟨here, x, y⟩ => ⟨implies _ here, x.imp implies, y.imp implies⟩
  | .color _ _ _ _ _, ⟨here, red, green, blue, alpha⟩ =>
      ⟨implies _ here, red.imp implies, green.imp implies, blue.imp implies,
        alpha.imp implies⟩
  | .object _ _, ⟨here, entries⟩ => ⟨implies _ here, entries.imp implies⟩
  | .resource _ _, ⟨here, path⟩ => ⟨implies _ here, path.imp implies⟩
  | .style _ none _, holds => implies _ holds
  | .style _ (some _) _, ⟨here, properties⟩ =>
    ⟨implies _ here, properties.imp implies⟩
  | .reference _, holds => implies _ holds
  | .applyPrefix _ _ _ _, ⟨here, right⟩ => ⟨implies _ here, right.imp implies⟩
  | .applyInfix _ _ _ _ _, ⟨here, left, right⟩ =>
      ⟨implies _ here, left.imp implies, right.imp implies⟩

theorem EverywhereIn.imp {first second : Expr → Prop}
    (implies : ∀ expr, first expr → second expr) :
    ∀ {entries : List (String × Expr)},
      EverywhereIn first entries → EverywhereIn second entries
  | [], _ => trivial
  | (_, _) :: _, ⟨value, others⟩ => ⟨value.imp implies, others.imp implies⟩

end

end LiveMarkup.Grammar
