import LiveMarkup.Proofs.Grammar.ExpressionExactness
import LiveMarkup.Proofs.Places.Bare
import LiveMarkup.Proofs.Printing.Numerals
import LiveMarkup.Proofs.Printing.Texts

/-!
# Printing an expression keeps its tree

The printed form of a parsed expression parses again, and gives the same tree
but for the places in the source.  Parentheses are printed only where the tree
remembers them; no others are needed, because the grammar builds only trees
whose operators bind as their layers say.

Two things do not come back.  A character that is shown by its code point is
read as the characters that show it, and a key is printed without quotes, so
that only names are read back as keys.
-/

namespace LiveMarkup

/-! ## Trees that come back -/

mutual

/-- An expression with its texts as reading its printed form gives them. -/
def Expr.respelled : Expr → Expr
  | .int value span => .int value span
  | .float value span => .float value span
  | .bool value span => .bool value span
  | .text value span => .text (String.ofList (respell value.toList)) span
  | .null span => .null span
  | .vec2 x y span => .vec2 x.respelled y.respelled span
  | .color red green blue alpha span =>
    .color red.respelled green.respelled blue.respelled alpha.respelled span
  | .object entries span => .object (Expr.respelledEntries entries) span
  | .resource path span => .resource path.respelled span
  | .style box none span => .style box none span
  | .style box (some properties) span => .style box (some properties.respelled) span
  | .reference target => .reference target
  | .applyPrefix op right grouped span =>
    .applyPrefix op right.respelled grouped span
  | .applyInfix op left right grouped span =>
    .applyInfix op left.respelled right.respelled grouped span

/-- The entries of an object literal with the texts of their values respelled. -/
def Expr.respelledEntries : List (String × Expr) → List (String × Expr)
  | [] => []
  | (key, value) :: others => (key, value.respelled) :: Expr.respelledEntries others

end

/-- Grouping commutes with respelling. -/
theorem Expr.respelled_inGroup (expr : Expr) :
    expr.inGroup.respelled = expr.respelled.inGroup := by
  cases expr with
  | style box properties span =>
    cases properties <;> simp [Expr.inGroup, Expr.respelled]
  | _ => simp [Expr.inGroup, Expr.respelled]

namespace Grammar

open Decimal

/-! ## What is printed faithfully -/

/-- A floating-point number whose notation reads back: it is finite, has no
sign, as no number that is read off digits has one, and printing it in decimals
gives a text that is read as the number. -/
structure ReadsBack (value : Float) : Prop where
  finite : ∃ mantissa exponent halved,
    Binary.ofFloat value = .finite false mantissa exponent halved
  reads : readFloat? (Binary.ofFloat value).literalChars = some value

/-- The values of an expression that are printed faithfully at a node. -/
def PrintsFaithfully : Expr → Prop
  | .text value _ => ∀ char ∈ value.toList, ShownPlainly char
  | .float value _ => ReadsBack value
  | _ => True

/-- If a node is a floating-point number, it reads back. -/
def FloatReadsBack : Expr → Prop
  | .float value _ => ReadsBack value
  | _ => True

theorem PrintsFaithfully.floatReadsBack {expr : Expr}
    (faithful : PrintsFaithfully expr) : FloatReadsBack expr := by
  cases expr with
  | float value span => exact faithful
  | _ => trivial

mutual

/-- A tree that is printed faithfully comes back as it is. -/
theorem Everywhere.respelled : ∀ {expr : Expr}, Everywhere PrintsFaithfully expr →
    expr.respelled = expr
  | .int _ _, _ => rfl
  | .float _ _, _ => rfl
  | .bool _ _, _ => rfl
  | .text _ _, plain => by
    rw [Expr.respelled, respell_eq_self_iff.mpr plain, String.ofList_toList]
  | .null _, _ => rfl
  | .vec2 _ _ _, ⟨_, x, y⟩ => by rw [Expr.respelled, x.respelled, y.respelled]
  | .color _ _ _ _ _, ⟨_, red, green, blue, alpha⟩ => by
    rw [Expr.respelled, red.respelled, green.respelled, blue.respelled,
      alpha.respelled]
  | .object _ _, ⟨_, entries⟩ => by rw [Expr.respelled, entries.respelledEntries]
  | .resource _ _, ⟨_, path⟩ => by rw [Expr.respelled, path.respelled]
  | .style _ none _, _ => rfl
  | .style _ (some _) _, ⟨_, properties⟩ => by
      rw [Expr.respelled, properties.respelled]
  | .reference _, _ => rfl
  | .applyPrefix _ _ _ _, ⟨_, right⟩ => by rw [Expr.respelled, right.respelled]
  | .applyInfix _ _ _ _ _, ⟨_, left, right⟩ => by
    rw [Expr.respelled, left.respelled, right.respelled]

theorem EverywhereIn.respelledEntries : ∀ {entries : List (String × Expr)},
    EverywhereIn PrintsFaithfully entries → Expr.respelledEntries entries = entries
  | [], _ => rfl
  | (_, _) :: _, ⟨value, others⟩ => by
    rw [Expr.respelledEntries, value.respelled, others.respelledEntries]

end

/-- A text that is read back as a key when it stands without quotes. -/
structure NamesKey (key : String) : Prop where
  word : IsWord key.toList
  kind :
      kindOfName key.toList none = .name ∨
      kindOfName key.toList none = .component

/-- Every string that stands before a colon is read back as a key without its
quotes. -/
def KeysNamed (tokens : List Token) : Prop :=
  tokens.IsChain fun key next => key.kind = .text → next.kind = .colon →
    NamesKey key.value

theorem KeysNamed.left {first second : List Token}
    (named : KeysNamed (first ++ second)) : KeysNamed first :=
  List.IsChain.left_of_append named

theorem KeysNamed.right {first second : List Token}
    (named : KeysNamed (first ++ second)) : KeysNamed second :=
  List.IsChain.right_of_append named

theorem KeysNamed.tail {token : Token} {tokens : List Token}
    (named : KeysNamed (token :: tokens)) : KeysNamed tokens :=
  List.IsChain.tail named

/-- The layer of a tree: the layer of an operator outside of parentheses. -/
def layerOfTree : Expr → Nat
  | .applyInfix op _ _ false _ => layerOf op
  | _ => prefixLayer

/-- A text prints a tree: it lexes to tokens from which a tree derives that
differs only in its places, and in texts with characters that are not shown
plainly. -/
structure Prints (expr : Expr) (pieces : List (TokenKind × String)) : Prop where
  lexes : ∀ before tail others, before ≠ some '.' → Goes tail others →
    Lexes markupRules before (expr.chars ++ tail) (pieces ++ others)
  begins : ∃ first rest, expr.chars = first :: rest ∧ first ≠ '='
  derives : ∀ tokens,
      tokens.map Token.piece = pieces →
      ∃ other,
        Derives (layerOfTree expr) tokens other ∧
        other.bare = expr.respelled.bare

/-- No tree binds tighter than a prefixed operand. -/
theorem layerOfTree_le (expr : Expr) : layerOfTree expr ≤ prefixLayer := by
  unfold layerOfTree
  split
  · exact Nat.le_of_lt (layerOf_lt_prefixLayer _)
  · exact Nat.le_refl _

/-- A printed tree derives in every layer that is not tighter than its own. -/
theorem Prints.derivesIn {expr : Expr} {pieces : List (TokenKind × String)}
    (prints : Prints expr pieces) {layer : Nat}
    (le : layer ≤ layerOfTree expr) {tokens : List Token}
    (same : tokens.map Token.piece = pieces) :
    ∃ other, Derives layer tokens other ∧ other.bare = expr.respelled.bare := by
  obtain ⟨other, derived, bare⟩ := prints.derives tokens same
  exact ⟨other, derived.loosen le (layerOfTree_le expr), bare⟩

/-! ## Tokens with given kinds and values -/

/-- Tokens whose pieces begin with a given one begin with a token of that piece.
-/
theorem map_piece_cons {tokens : List Token} {kind : TokenKind}
    {value : String} {pieces : List (TokenKind × String)}
    (same : tokens.map Token.piece = (kind, value) :: pieces) :
    ∃ token others,
      tokens = token :: others ∧ token.kind = kind ∧ token.value = value ∧
      others.map Token.piece = pieces := by
  obtain ⟨token, others, rfl, piece, rest⟩ := List.map_eq_cons_iff.mp same
  cases piece
  exact ⟨token, others, rfl, rfl, rfl, rest⟩

/-- Tokens whose pieces are two lists together split where the pieces do. -/
theorem map_piece_append {tokens : List Token}
    {first second : List (TokenKind × String)}
    (same : tokens.map Token.piece = first ++ second) :
    ∃ before after,
      tokens = before ++ after ∧ before.map Token.piece = first ∧
      after.map Token.piece = second :=
  List.map_eq_append_iff.mp same

theorem map_piece_nil {tokens : List Token}
    (same : tokens.map Token.piece = []) : tokens = [] :=
  List.map_eq_nil_iff.mp same

/-! ## References -/

/-- A text prints a reference. -/
structure PrintsReference (target : Reference)
    (pieces : List (TokenKind × String)) : Prop where
  lexes : ∀ before tail others, before ≠ some '.' → Ends tail others →
    Lexes markupRules before (target.chars ++ tail) (pieces ++ others)
  begins : ∃ first rest, target.chars = first :: rest ∧ first ≠ '='
  derives : ∀ tokens, tokens.map Token.piece = pieces →
    ∃ other, DerivesReference tokens other ∧ other.bare = target.bare

theorem begins_word {text : List Char} (word : IsWord text) :
    ∃ first rest, text = first :: rest ∧ first ≠ '=' := by
  obtain ⟨first, rest, same, begins, -⟩ := word.parts
  refine ⟨first, rest, same, ?_⟩
  rintro rfl
  exact absurd begins (by decide)

/-- A name lexes to itself where it does not stand behind a dot. -/
theorem lexes_name {previous : Option TokenKind} {head : Token}
    {before : Option Char} {tail : List Char}
    {others : List (TokenKind × String)}
    (spelling : Spelling previous head.piece) (named : head.kind ∈ nameKinds)
    (apart : previous ≠ some .dot) (here : before ≠ some '.')
    (ends : Ends tail others) :
    Lexes markupRules before (head.value.toList ++ tail)
      (head.piece :: others) := by
  obtain ⟨other, spelled, dotted⟩ := spelling.kind named
  have lexes := lexes_word (spelling.word named)
    ((kindOfName_congr here fun dot => apart (dotted dot)).trans spelled) ends
  rwa [String.ofList_toList] at lexes

/-- The printed form of a derived reference. -/
theorem DerivesReference.prints {tokens : List Token} {target : Reference}
    {previous : Option TokenKind} (apart : previous ≠ some .dot)
    (spelled : Spelled previous (tokens.map Token.piece))
    (derived : DerivesReference tokens target) :
    ∃ pieces, PrintsReference target pieces := by
  induction derived with
  | global head kind =>
    have named : head.kind ∈ nameKinds := by rw [kind]; decide
    have spelling := (chained_cons.mp spelled).1
    refine ⟨[head.piece], fun before tail others here ends => ?_, ?_, ?_⟩
    · exact lexes_name spelling named apart here ends
    · exact begins_word (spelling.word named)
    · intro tokens same
      obtain ⟨token, rest, rfl, isGlobal, value, nothing⟩ := map_piece_cons same
      cases map_piece_nil nothing
      exact ⟨_, .global token (isGlobal.trans kind),
        by rw [Reference.bare, value]; rfl⟩
  | aliased head kind =>
    have named : head.kind ∈ nameKinds := by rw [kind]; decide
    have spelling := (chained_cons.mp spelled).1
    obtain ⟨other, isAlias, -⟩ := spelling.kind named
    have text : (Reference.aliased (withoutSign head.value) head.span).chars =
          head.value.toList := by
      rw [Reference.chars, withoutSign, String.toList_ofList]
      exact (eq_sign_of_aliasRef (isAlias.trans kind)).symm
    refine ⟨[head.piece], fun before tail others here ends => ?_, ?_, ?_⟩
    · rw [text]
      exact lexes_name spelling named apart here ends
    · rw [text]
      exact begins_word (spelling.word named)
    · intro tokens same
      obtain ⟨token, rest, rfl, isAlias, value, nothing⟩ := map_piece_cons same
      cases map_piece_nil nothing
      exact ⟨_, .aliased token (isAlias.trans kind),
        by rw [Reference.bare, value]; rfl⟩
  | «local» head kind =>
    have named : head.kind ∈ nameKinds := by rw [kind]; decide
    have spelling := (chained_cons.mp spelled).1
    refine ⟨[head.piece], fun before tail others here ends => ?_, ?_, ?_⟩
    · exact lexes_name spelling named apart here ends
    · exact begins_word (spelling.word named)
    · intro tokens same
      obtain ⟨token, rest, rfl, isName, value, nothing⟩ := map_piece_cons same
      cases map_piece_nil nothing
      exact ⟨_, .local token (isName.trans kind),
        by rw [Reference.bare, value]; rfl⟩
  | property derived dot name dotKind nameKind hypothesis =>
    rw [List.map_append] at spelled
    obtain ⟨baseSpelled, -, nameSpelled, -⟩ := chained_append.mp spelled
    obtain ⟨pieces, base⟩ := hypothesis baseSpelled
    have named : name.kind ∈ nameKinds := by rw [nameKind]; decide
    obtain ⟨other, isName, -⟩ := nameSpelled.kind named
    refine ⟨pieces ++ [(.dot, "."), name.piece],
      fun before tail others here ends => ?_, ?_, ?_⟩
    · have behindDot := lexes_word (nameSpelled.word named)
        (kindOfName_dot (isName.trans nameKind)) ends
      rw [String.ofList_toList, ← nameKind] at behindDot
      have member : ('.', TokenKind.dot) ∈ singleMarks := by decide
      have fromDot : Ends ('.' :: (name.value.toList ++ tail))
          ((.dot, ".") :: name.piece :: others) :=
        ⟨rfl, fun _ => lexes_mark member behindDot⟩
      rw [Reference.chars, List.append_assoc, List.append_assoc]
      exact base.lexes before _ _ here fromDot
    · obtain ⟨first, rest, begins, different⟩ := base.begins
      exact ⟨first, _, by rw [Reference.chars, begins]; rfl, different⟩
    · intro tokens same
      obtain ⟨before, after, rfl, first, second⟩ := map_piece_append same
      obtain ⟨dotToken, behind, rfl, isDot, -, last⟩ := map_piece_cons second
      obtain ⟨nameToken, rest, rfl, isName, value, nothing⟩ := map_piece_cons last
      cases map_piece_nil nothing
      obtain ⟨other, baseDerived, bare⟩ := base.derives before first
      refine ⟨_, .property baseDerived dotToken nameToken isDot
        (isName.trans nameKind), ?_⟩
      rw [Reference.bare, Reference.bare, bare, value]

/-! ## Literals -/

theorem notDigit_of_notWord {tail : List Char}
    (stops : tail.head?.any Text.isWordChar = false) :
    tail.head?.any Text.isDigit = false := by
  cases tail with
  | nil => rfl
  | cons char tail =>
    refine Bool.eq_false_iff.mpr fun digit => ?_
    rw [List.head?_cons, Option.any_some, Text.isWordChar_of_isDigit digit] at stops
    cases stops

variable {pieces : List (TokenKind × String)} {span : Span}

/-- A tree that is one token. -/
theorem prints_token {expr : Expr} {kind : TokenKind} {value : String}
    (lexes : ∀ before tail others, Goes tail others →
      Lexes markupRules before (expr.chars ++ tail) ((kind, value) :: others))
    (begins : ∃ first rest, expr.chars = first :: rest ∧ first ≠ '=')
    (derives : ∀ token : Token, token.kind = kind → token.value = value →
      ∃ other, DerivesAtom [token] other ∧ other.bare = expr.respelled.bare)
    (tightest : layerOfTree expr = prefixLayer) : Prints expr [(kind, value)] where
  lexes before tail others _ goes := lexes before tail others goes
  begins := begins
  derives tokens same := by
    obtain ⟨token, rest, rfl, kind, value, nothing⟩ := map_piece_cons same
    cases map_piece_nil nothing
    obtain ⟨other, derived, bare⟩ := derives token kind value
    exact ⟨other, tightest ▸ .atom derived, bare⟩

/-- A whole number prints as one token that reads back. -/
theorem prints_int {value : Int} (digits : IsDigits (intChars value))
    (reads : readInt? (intChars value) = some value) :
    Prints (.int value span) [(.integer, String.ofList (intChars value))] := by
  refine prints_token (fun before tail others goes => ?_) ?_
    (fun token kind text => ?_) rfl
  · have stops : tail.head?.any Text.isDigit = false :=
      notDigit_of_notWord goes.stops
    exact lexes_fixed (cutFirst_integer digits stops goes.undotted) digits.some
      (goes.lexes _)
  · obtain ⟨first, rest, same, digit⟩ := digits.parts
    refine ⟨first, rest, same, ?_⟩
    rintro rfl
    cases digit
  · refine ⟨_, .integer token value kind ?_, rfl⟩
    rw [text, String.toList_ofList, reads]

/-- A float prints as one token, if its decimal digits read back. -/
theorem prints_float {value : Float} (back : ReadsBack value) :
    Prints (.float value span)
      [(.float, String.ofList (Binary.ofFloat value).literalChars)] := by
  obtain ⟨mantissa, exponent, halved, finite⟩ := back.finite
  obtain ⟨whole, fraction, isWhole, isFraction, same⟩ := literalChars_parts finite
  have chars : (Expr.float value span).chars = whole ++ '.' :: fraction := same
  have reads := back.reads
  rw [same] at reads ⊢
  refine prints_token ?_ ?_ ?_ rfl
  · intro before tail others goes
    have stops : tail.head?.any Text.isDigit = false :=
      notDigit_of_notWord goes.stops
    rw [chars]
    exact lexes_fixed (cutFirst_float isWhole isFraction stops) (by simp)
      (goes.lexes _)
  · obtain ⟨first, rest, parts, digit⟩ := isWhole.parts
    refine ⟨first, rest ++ '.' :: fraction, by rw [chars, parts]; rfl, ?_⟩
    rintro rfl
    cases digit
  · intro token kind text
    refine ⟨_, .float token value kind ?_, rfl⟩
    rw [text, String.toList_ofList, reads]

/-- A text prints as one token, with its characters escaped. -/
theorem prints_text {value : String} :
    Prints (.text value span)
      [(.text, String.ofList (value.toList.flatMap (Text.escapeChar '"')))] := by
  refine prints_token (fun before tail others goes => ?_) ⟨'"', _, rfl, by decide⟩
    (fun token kind text => ⟨_, .text token kind, ?_⟩) rfl
  · have some : Text.quoteChars '"' value.toList ≠ [] := List.cons_ne_nil _ _
    exact .token .text (cutFirst_text value.toList tail) rfl some rfl (goes.lexes _)
  · rw [Expr.respelled, Expr.bare, text, String.toList_ofList, unescape_escaped]
    rfl

/-- A truth value prints as its keyword. -/
theorem prints_bool {value : Bool} :
    Prints (.bool value span) [(.boolean, if value then "true" else "false")] := by
  refine prints_token (fun before tail others goes => ?_) ?_
    (fun token kind text => ⟨_, .boolean token kind, ?_⟩) rfl
  · cases value with
    | false =>
      have member : ("false".toList, TokenKind.boolean) ∈ printedLiterals := by
        decide
      exact lexes_fixed (cutFirst_literal member goes.stops)
        (List.cons_ne_nil _ _) (goes.lexes _)
    | true =>
      have member : ("true".toList, TokenKind.boolean) ∈ printedLiterals := by
        decide
      exact lexes_fixed (cutFirst_literal member goes.stops)
        (List.cons_ne_nil _ _) (goes.lexes _)
  · cases value
    · exact ⟨'f', _, rfl, by decide⟩
    · exact ⟨'t', _, rfl, by decide⟩
  · rw [Expr.respelled, Expr.bare, Expr.bare, text]
    cases value <;> rfl

theorem prints_null : Prints (.null span) [(.null, "null")] := by
  refine prints_token (fun before tail others goes => ?_) ⟨'n', _, rfl, by decide⟩
    (fun token kind _ => ⟨_, .null token kind, rfl⟩) rfl
  have member : ("null".toList, TokenKind.null) ∈ printedLiterals := by decide
  exact lexes_fixed (cutFirst_literal member goes.stops) (List.cons_ne_nil _ _)
    (goes.lexes _)

theorem PrintsReference.prints {target : Reference}
    (prints : PrintsReference target pieces) :
    Prints (.reference target) pieces where
  lexes before tail others here goes :=
    prints.lexes before tail others here goes.toEnds
  begins := prints.begins
  derives tokens same := by
    obtain ⟨other, derived, bare⟩ := prints.derives tokens same
    refine ⟨_, .atom (.reference derived), ?_⟩
    rw [Expr.respelled, Expr.bare, Expr.bare, bare]

/-! ## Composite literals -/

variable {x y path properties red green blue alpha left right : Expr}
  {xPieces yPieces redPieces greenPieces bluePieces alphaPieces :
    List (TokenKind × String)}
  {tail : List Char} {others : List (TokenKind × String)} {before : Option Char}

/-- A last argument and the parenthesis behind it. -/
theorem Prints.lastArgument (prints : Prints x xPieces)
    (here : before ≠ some '.') (goes : Goes tail others) :
    Lexes markupRules before (x.chars ++ ')' :: tail)
      (xPieces ++ (.rightParen, ")") :: others) :=
  prints.lexes before _ _ here (goes_closing goes)

/-- An argument and the comma behind it. -/
theorem Prints.argument (prints : Prints x xPieces) (here : before ≠ some '.')
    (lexes : Lexes markupRules (some ' ') tail others) :
    Lexes markupRules before (x.chars ++ ',' :: ' ' :: tail)
      (xPieces ++ (.comma, ",") :: others) :=
  prints.lexes before _ _ here (goes_comma lexes)

theorem behindOpening : some '(' ≠ some '.' := by decide

theorem behindBlank : some ' ' ≠ some '.' := by decide

theorem isWord_constructorName (box : StyleBox) :
    IsWord box.constructorName.toList := by
  cases box <;> exact ⟨by decide, by decide, by decide⟩

theorem kindOfName_constructorName (box : StyleBox) (before : Option Char) :
    kindOfName box.constructorName.toList before = .name := by
  cases box <;> rfl

/-- A resource prints as its keyword around the printed path. -/
theorem prints_resource (prints : Prints path pieces) :
    Prints (.resource path span)
      ((.resource, "resource") :: (.leftParen, "(") :: pieces ++
        [(.rightParen, ")")]) where
  lexes before tail others here goes := by
    have word : IsWord "resource".toList := ⟨by decide, by decide, by decide⟩
    have spelled : kindOfName "resource".toList before = .resource := rfl
    have argument := prints.lastArgument behindOpening goes
    have lexes := lexes_call word spelled argument
    have chars : (Expr.resource path span).chars =
        "resource".toList ++ '(' :: (path.chars ++ [')']) := rfl
    rw [chars]
    simpa using lexes
  begins := ⟨'r', _, rfl, by decide⟩
  derives tokens same := by
    obtain ⟨head, rest, rfl, headKind, -, same⟩ := map_piece_cons same
    obtain ⟨opening, rest, rfl, openingKind, -, same⟩ := map_piece_cons same
    obtain ⟨inner, rest, rfl, first, same⟩ := map_piece_append same
    obtain ⟨closing, rest, rfl, closingKind, -, nothing⟩ := map_piece_cons same
    cases map_piece_nil nothing
    obtain ⟨other, derived, bare⟩ := prints.derivesIn (Nat.zero_le _) first
    refine ⟨_, .atom (.resource head opening closing headKind openingKind
      closingKind derived), ?_⟩
    rw [Expr.respelled, Expr.bare, Expr.bare, bare]

/-- A vector prints as its keyword around its printed coordinates. -/
theorem prints_vec2 (xPrints : Prints x xPieces) (yPrints : Prints y yPieces) :
    Prints (.vec2 x y span) ((.vec2, "vec2") :: (.leftParen, "(") :: xPieces ++
      (.comma, ",") :: yPieces ++ [(.rightParen, ")")]) where
  lexes before tail others here goes := by
    have word : IsWord "vec2".toList := ⟨by decide, by decide, by decide⟩
    have spelled : kindOfName "vec2".toList before = .vec2 := rfl
    have lexes := lexes_call word spelled
      (xPrints.argument behindOpening (yPrints.lastArgument behindBlank goes))
    have chars : (Expr.vec2 x y span).chars = "vec2".toList ++
        '(' :: (x.chars ++ ',' :: ' ' :: (y.chars ++ [')'])) := by
      change "vec2(".toList ++ x.chars ++ ", ".toList ++ y.chars ++ [')'] = _
      simp
    rw [chars]
    simpa using lexes
  begins := ⟨'v', _, rfl, by decide⟩
  derives tokens same := by
    rw [List.append_assoc, List.cons_append, List.cons_append] at same
    obtain ⟨head, rest, rfl, headKind, -, same⟩ := map_piece_cons same
    obtain ⟨opening, rest, rfl, openingKind, -, same⟩ := map_piece_cons same
    obtain ⟨xTokens, rest, rfl, first, same⟩ := map_piece_append same
    obtain ⟨comma, rest, rfl, commaKind, -, same⟩ := map_piece_cons same
    obtain ⟨yTokens, rest, rfl, second, same⟩ := map_piece_append same
    obtain ⟨closing, rest, rfl, closingKind, -, nothing⟩ := map_piece_cons same
    cases map_piece_nil nothing
    obtain ⟨otherX, xDerived, xBare⟩ := xPrints.derivesIn (Nat.zero_le _) first
    obtain ⟨otherY, yDerived, yBare⟩ := yPrints.derivesIn (Nat.zero_le _) second
    refine ⟨.vec2 otherX otherY (head.span.through closing.span), .atom ?_,
      by rw [Expr.respelled, Expr.bare, Expr.bare, xBare, yBare]⟩
    have derived :=
      DerivesAtom.vec2 head opening comma closing headKind openingKind commaKind
        closingKind xDerived yDerived
    simpa using derived

/-- A color prints as a call with all four of its printed parts. -/
theorem prints_color (redPrints : Prints red redPieces)
    (greenPrints : Prints green greenPieces)
    (bluePrints : Prints blue bluePieces)
    (alphaPrints : Prints alpha alphaPieces) :
    Prints (.color red green blue alpha span)
      ((.name, "color") :: (.leftParen, "(") :: redPieces ++ (.comma, ",") ::
        greenPieces ++ (.comma, ",") :: bluePieces ++ (.comma, ",") ::
        alphaPieces ++ [(.rightParen, ")")]) where
  lexes before tail others here goes := by
    have word : IsWord "color".toList := ⟨by decide, by decide, by decide⟩
    have spelled : kindOfName "color".toList before = .name := rfl
    have lexes :=
      lexes_call word spelled
        (redPrints.argument behindOpening
          (greenPrints.argument behindBlank
            (bluePrints.argument behindBlank
              (alphaPrints.lastArgument behindBlank goes))))
    have chars : (Expr.color red green blue alpha span).chars =
          "color".toList ++ '(' ::
            (red.chars ++ ',' :: ' ' ::
              (green.chars ++ ',' :: ' ' ::
                (blue.chars ++ ',' :: ' ' :: (alpha.chars ++ [')'])))) := by
      change "color(".toList ++ red.chars ++ ", ".toList ++ green.chars ++
        ", ".toList ++ blue.chars ++ ", ".toList ++ alpha.chars ++ [')'] = _
      simp
    rw [chars]
    simpa using lexes
  begins := ⟨'c', _, rfl, by decide⟩
  derives tokens same := by
    simp only [List.append_assoc, List.cons_append] at same
    obtain ⟨head, rest, rfl, headKind, headValue, same⟩ := map_piece_cons same
    obtain ⟨opening, rest, rfl, openingKind, -, same⟩ := map_piece_cons same
    obtain ⟨redTokens, rest, rfl, first, same⟩ := map_piece_append same
    obtain ⟨firstComma, rest, rfl, firstKind, -, same⟩ := map_piece_cons same
    obtain ⟨greenTokens, rest, rfl, second, same⟩ := map_piece_append same
    obtain ⟨secondComma, rest, rfl, secondKind, -, same⟩ := map_piece_cons same
    obtain ⟨blueTokens, rest, rfl, third, same⟩ := map_piece_append same
    obtain ⟨thirdComma, rest, rfl, thirdKind, -, same⟩ := map_piece_cons same
    obtain ⟨alphaTokens, rest, rfl, fourth, same⟩ := map_piece_append same
    obtain ⟨closing, rest, rfl, closingKind, -, nothing⟩ := map_piece_cons same
    cases map_piece_nil nothing
    obtain ⟨otherRed, redDerived, redBare⟩ :=
      redPrints.derivesIn (Nat.zero_le _) first
    obtain ⟨otherGreen, greenDerived, greenBare⟩ :=
      greenPrints.derivesIn (Nat.zero_le _) second
    obtain ⟨otherBlue, blueDerived, blueBare⟩ :=
      bluePrints.derivesIn (Nat.zero_le _) third
    obtain ⟨otherAlpha, alphaDerived, alphaBare⟩ :=
      alphaPrints.derivesIn (Nat.zero_le _) fourth
    refine ⟨.color otherRed otherGreen otherBlue otherAlpha
      (head.span.through closing.span), .atom ?_, by
        rw [Expr.respelled, Expr.bare, Expr.bare, redBare, greenBare,
          blueBare, alphaBare]⟩
    have derived :=
      DerivesAtom.color head opening firstComma secondComma thirdComma closing
        headKind headValue openingKind firstKind secondKind thirdKind
        closingKind redDerived greenDerived blueDerived alphaDerived
    simpa using derived

/-- A style box without properties prints as an empty call. -/
theorem prints_plainStyle (box : StyleBox) :
    Prints (.style box none span)
      [(.name, box.constructorName), (.leftParen, "("), (.rightParen, ")")] where
  lexes before tail others here goes := by
    have lexes :=
      lexes_call (isWord_constructorName box)
        (kindOfName_constructorName box before) ((goes_closing goes).lexes _)
    have chars : (Expr.style box none span).chars =
          box.constructorName.toList ++ ['(', ')'] :=
      rfl
    rw [chars]
    simpa using lexes
  begins := by
    obtain ⟨first, rest, same, different⟩ :=
      begins_word (isWord_constructorName box)
    have chars : (Expr.style box none span).chars =
          box.constructorName.toList ++ ['(', ')'] :=
      rfl
    exact ⟨first, rest ++ ['(', ')'], by rw [chars, same]; rfl, different⟩
  derives tokens same := by
    obtain ⟨head, rest, rfl, headKind, headValue, same⟩ := map_piece_cons same
    obtain ⟨opening, rest, rfl, openingKind, -, same⟩ := map_piece_cons same
    obtain ⟨closing, rest, rfl, closingKind, -, nothing⟩ := map_piece_cons same
    cases map_piece_nil nothing
    have isBox : StyleBox.ofConstructor? head.value = some box := by
      rw [headValue, StyleBox.ofConstructor?_constructorName]
    exact ⟨_, .atom (.plainStyle box head opening closing headKind isBox
      openingKind closingKind), rfl⟩

/-- A style box prints as a call around its printed properties. -/
theorem prints_style (box : StyleBox) (prints : Prints properties pieces) :
    Prints (.style box (some properties) span)
      ((.name, box.constructorName) :: (.leftParen, "(") :: pieces ++
        [(.rightParen, ")")]) where
  lexes before tail others here goes := by
    have lexes :=
      lexes_call (isWord_constructorName box)
        (kindOfName_constructorName box before)
        (prints.lastArgument behindOpening goes)
    have chars : (Expr.style box (some properties) span).chars =
        box.constructorName.toList ++ '(' :: properties.chars ++ [')'] := rfl
    rw [chars]
    simpa using lexes
  begins := by
    obtain ⟨first, rest, same, different⟩ :=
      begins_word (isWord_constructorName box)
    have chars : (Expr.style box (some properties) span).chars =
        box.constructorName.toList ++ '(' :: properties.chars ++ [')'] := rfl
    exact ⟨first, rest ++ '(' :: properties.chars ++ [')'],
      by rw [chars, same]; rfl, different⟩
  derives tokens same := by
    obtain ⟨head, rest, rfl, headKind, headValue, same⟩ := map_piece_cons same
    obtain ⟨opening, rest, rfl, openingKind, -, same⟩ := map_piece_cons same
    obtain ⟨inner, rest, rfl, first, same⟩ := map_piece_append same
    obtain ⟨closing, rest, rfl, closingKind, -, nothing⟩ := map_piece_cons same
    cases map_piece_nil nothing
    have isBox : StyleBox.ofConstructor? head.value = some box := by
      rw [headValue, StyleBox.ofConstructor?_constructorName]
    obtain ⟨other, derived, bare⟩ := prints.derivesIn (Nat.zero_le _) first
    refine ⟨_, .atom (.style box head opening closing headKind isBox openingKind
      closingKind derived), ?_⟩
    rw [Expr.respelled, Expr.bare, Expr.bare, bare]

/-! ## Operators and parentheses -/

theorem prefixSymbol_ne_nil (op : PrefixOp) : op.symbol.toList ≠ [] := by
  cases op <;> decide

theorem infixSymbol_ne_nil (op : InfixOp) : op.symbol.toList ≠ [] := by
  cases op <;> decide

/-- No operator ends in a dot. -/
theorem getLast?_prefixSymbol (op : PrefixOp) :
    op.symbol.toList.getLast? ≠ some '.' := by
  cases op <;> decide

/-- A prefixed operand prints without parentheses when it binds tightly enough.
-/
theorem prints_applyPrefix (op : PrefixOp) (prints : Prints right pieces)
    (tightest : prefixLayer ≤ layerOfTree right) :
    Prints (.applyPrefix op right false span)
      ((.operator, op.symbol) :: pieces) where
  lexes before tail others here goes := by
    obtain ⟨first, rest, begins, different⟩ := prints.begins
    have operand :=
      prints.lexes op.symbol.toList.getLast? tail others
        (getLast?_prefixSymbol op) goes
    have next : (right.chars ++ tail).head? ≠ some '=' := by
      rw [begins]
      exact fun same => different (Option.some.inj same)
    have lexes :
        Lexes markupRules before (op.symbol.toList ++ (right.chars ++ tail))
          ((.operator, String.ofList op.symbol.toList) :: (pieces ++ others)) :=
      lexes_fixed (cutFirst_prefixOp op next) (prefixSymbol_ne_nil op) operand
    have chars : (Expr.applyPrefix op right false span).chars =
          op.symbol.toList ++ right.chars :=
      rfl
    rw [chars]
    simpa using lexes
  begins := by
    have chars : (Expr.applyPrefix op right false span).chars =
          op.symbol.toList ++ right.chars :=
      rfl
    rw [chars]
    cases op
    · exact ⟨'!', _, rfl, by decide⟩
    · exact ⟨'+', _, rfl, by decide⟩
    · exact ⟨'-', _, rfl, by decide⟩
  derives tokens same := by
    obtain ⟨operator, rest, rfl, kind, value, same⟩ := map_piece_cons same
    obtain ⟨other, derived, bare⟩ := prints.derivesIn tightest same
    have symbol : PrefixOp.ofSymbol? operator.value = some op := by
      rw [value, PrefixOp.ofSymbol?_symbol]
    refine ⟨_, .prefixOp operator op kind symbol derived, ?_⟩
    rw [Expr.respelled, Expr.bare, Expr.bare, bare]

/-- Two joined operands print without parentheses when each of them binds
tightly enough. -/
theorem prints_applyInfix (op : InfixOp)
    {leftPieces rightPieces : List (TokenKind × String)}
    (leftPrints : Prints left leftPieces)
    (rightPrints : Prints right rightPieces)
    (leftBinds : layerOf op ≤ layerOfTree left)
    (rightBinds : layerOf op + 1 ≤ layerOfTree right) :
    Prints (.applyInfix op left right false span)
      (leftPieces ++ (.operator, op.symbol) :: rightPieces) where
  lexes before tail others here goes := by
    have operand := rightPrints.lexes (some ' ') tail others behindBlank goes
    have spaced := (goes_blank operand).lexes op.symbol.toList.getLast?
    have operator : Lexes markupRules (some ' ')
        (op.symbol.toList ++ ' ' :: (right.chars ++ tail))
        ((.operator, String.ofList op.symbol.toList) :: (rightPieces ++ others)) :=
      lexes_fixed (cutFirst_infixOp op _) (infixSymbol_ne_nil op) spaced
    have lexes := leftPrints.lexes before _ _ here (goes_blank operator)
    have chars : (Expr.applyInfix op left right false span).chars =
        left.chars ++ ' ' :: op.symbol.toList ++ ' ' :: right.chars := rfl
    rw [chars]
    simpa using lexes
  begins := by
    obtain ⟨first, rest, begins, different⟩ := leftPrints.begins
    have chars : (Expr.applyInfix op left right false span).chars =
        left.chars ++ ' ' :: op.symbol.toList ++ ' ' :: right.chars := rfl
    exact ⟨first, _, by rw [chars, begins]; rfl, different⟩
  derives tokens same := by
    obtain ⟨leftTokens, rest, rfl, first, same⟩ := map_piece_append same
    obtain ⟨operator, rightTokens, rfl, kind, value, second⟩ := map_piece_cons same
    obtain ⟨otherLeft, leftDerived, leftBare⟩ :=
      leftPrints.derivesIn leftBinds first
    obtain ⟨otherRight, rightDerived, rightBare⟩ :=
      rightPrints.derivesIn rightBinds second
    have symbol : InfixOp.ofSymbol? operator.value = some op := by
      rw [value, InfixOp.ofSymbol?_symbol]
    refine ⟨_, .infixOp operator op kind symbol leftDerived rightDerived, ?_⟩
    rw [Expr.respelled, Expr.bare, Expr.bare, leftBare, rightBare]

/-- An operator that is put in parentheses. -/
theorem prints_group {expr : Expr} (prints : Prints expr pieces)
    (chars : expr.inGroup.chars = '(' :: expr.chars ++ [')'])
    (tightest : layerOfTree expr.inGroup = prefixLayer) :
    Prints expr.inGroup ((.leftParen, "(") :: pieces ++ [(.rightParen, ")")]) where
  lexes before tail others here goes := by
    have member : ('(', TokenKind.leftParen) ∈ singleMarks := by decide
    have lexes :
        Lexes markupRules before ('(' :: (expr.chars ++ ')' :: tail))
          ((.leftParen, String.ofList ['(']) ::
            (pieces ++ (.rightParen, ")") :: others)) :=
      lexes_mark member (prints.lastArgument behindOpening goes)
    rw [chars]
    simpa using lexes
  begins := ⟨'(', _, chars, by decide⟩
  derives tokens same := by
    obtain ⟨opening, rest, rfl, openingKind, -, same⟩ := map_piece_cons same
    obtain ⟨inner, rest, rfl, first, same⟩ := map_piece_append same
    obtain ⟨closing, rest, rfl, closingKind, -, nothing⟩ := map_piece_cons same
    cases map_piece_nil nothing
    obtain ⟨other, derived, bare⟩ := prints.derivesIn (Nat.zero_le _) first
    rw [tightest]
    refine ⟨_, .group opening closing openingKind closingKind derived, ?_⟩
    rw [Expr.bare_inGroup, bare, ← Expr.bare_inGroup, Expr.respelled_inGroup]

theorem layerOfTree_inGroup (expr : Expr) :
    layerOfTree expr.inGroup = prefixLayer := by
  cases expr <;> rfl

/-- An expression in parentheses prints with them if it is an operator, and else
without. -/
theorem Prints.inGroup {expr : Expr} (prints : Prints expr pieces) :
    ∃ others, Prints expr.inGroup others := by
  cases expr with
  | applyPrefix op right grouped span =>
    cases grouped with
    | false => exact ⟨_, prints_group prints rfl rfl⟩
    | true => exact ⟨_, prints⟩
  | applyInfix op left right grouped span =>
    cases grouped with
    | false => exact ⟨_, prints_group prints rfl rfl⟩
    | true => exact ⟨_, prints⟩
  | _ => exact ⟨_, prints⟩

/-! ## Object literals -/

/-- A text prints the entries of an object literal. -/
structure PrintsEntries (entries : List (String × Expr))
    (pieces : List (TokenKind × String)) : Prop where
  lexes : ∀ tail others,
      Goes tail others →
      Lexes markupRules (some ' ') (Expr.entryChars entries ++ tail)
        (pieces ++ others)
  derives : ∀ tokens, tokens.map Token.piece = pieces →
    ∃ others, DerivesEntries tokens others ∧
      Expr.bareEntries others = Expr.bareEntries (Expr.respelledEntries entries)

theorem printsEntries_nil : PrintsEntries [] [] where
  lexes _ _ goes := goes.lexes _
  derives tokens same := by
    cases map_piece_nil same
    exact ⟨[], .nil, rfl⟩

theorem NamesKey.lexes {key : String} (names : NamesKey key)
    (lexes : Lexes markupRules (some ' ') tail others) :
    Lexes markupRules (some ' ') (key.toList ++ ':' :: ' ' :: tail)
      ((kindOfName key.toList none, key) :: (.colon, ":") :: others) := by
  have taken : ':' :: ' ' :: tail = [':'] ++ ' ' :: tail := rfl
  have colon : Ends (':' :: ' ' :: tail) ((.colon, ":") :: others) :=
    ⟨rfl, fun _ => .token .colon (cutFirst_colon tail) taken
      (List.cons_ne_nil _ _) rfl ((goes_blank lexes).lexes _)⟩
  have spelled : kindOfName key.toList (some ' ') = kindOfName key.toList none :=
    kindOfName_congr behindBlank nofun
  have lexesKey := lexes_word names.word spelled colon
  rwa [String.ofList_toList] at lexesKey

/-- The last entry of an object prints without a comma after it. -/
theorem printsEntries_last {key : String} {value : Expr} (names : NamesKey key)
    (prints : Prints value pieces) :
    PrintsEntries [(key, value)]
      ((kindOfName key.toList none, key) :: (.colon, ":") :: pieces) where
  lexes tail others goes := by
    have lexes := names.lexes (prints.lexes (some ' ') tail others behindBlank goes)
    have chars : Expr.entryChars [(key, value)] =
          key.toList ++ ": ".toList ++ value.chars :=
      rfl
    rw [chars]
    simpa using lexes
  derives tokens same := by
    obtain ⟨other, rest, rfl, keyKind, keyValue, same⟩ := map_piece_cons same
    obtain ⟨colon, rest, rfl, colonKind, -, same⟩ := map_piece_cons same
    obtain ⟨otherValue, derived, bare⟩ := prints.derivesIn (Nat.zero_le _) same
    have isKey :
        other.kind = .name ∨ other.kind = .component ∨ other.kind = .text := by
      rw [keyKind]
      exact names.kind.imp_right .inl
    refine ⟨_, .last other colon isKey colonKind derived, ?_⟩
    rw [Expr.respelledEntries, Expr.bareEntries, Expr.bareEntries, bare, keyValue]
    rfl

/-- An entry with others after it prints with a comma between them. -/
theorem printsEntries_cons {key : String} {value : Expr}
    {entries : List (String × Expr)} {entryPieces : List (TokenKind × String)}
    (names : NamesKey key) (prints : Prints value pieces)
    (printsOthers : PrintsEntries entries entryPieces) (some : entries ≠ []) :
    PrintsEntries ((key, value) :: entries)
      ((kindOfName key.toList none, key) :: (.colon, ":") :: pieces ++
        (.comma, ",") :: entryPieces) where
  lexes tail others goes := by
    have lexes :=
      names.lexes (prints.argument behindBlank
        (printsOthers.lexes tail others goes))
    have chars : Expr.entryChars ((key, value) :: entries) =
          key.toList ++ ": ".toList ++ value.chars ++ ", ".toList ++
            Expr.entryChars entries := by
      cases entries with
      | nil => exact absurd rfl some
      | cons entry entries => rfl
    rw [chars]
    simpa using lexes
  derives tokens same := by
    obtain ⟨other, rest, rfl, keyKind, keyValue, same⟩ := map_piece_cons same
    obtain ⟨colon, rest, rfl, colonKind, -, same⟩ := map_piece_cons same
    obtain ⟨valueTokens, rest, rfl, first, same⟩ := map_piece_append same
    obtain ⟨comma, rest, rfl, commaKind, -, second⟩ := map_piece_cons same
    obtain ⟨otherValue, derived, bare⟩ := prints.derivesIn (Nat.zero_le _) first
    obtain ⟨otherEntries, derivedEntries, bareEntries⟩ :=
      printsOthers.derives rest second
    have isKey :
        other.kind = .name ∨ other.kind = .component ∨ other.kind = .text := by
      rw [keyKind]
      exact names.kind.imp_right .inl
    refine ⟨_, .cons other colon comma isKey colonKind commaKind derived
      derivedEntries, ?_⟩
    rw [Expr.respelledEntries, Expr.bareEntries, Expr.bareEntries, bare,
      bareEntries, keyValue]

theorem keys_respelledEntries (entries : List (String × Expr)) :
    (Expr.respelledEntries entries).map Prod.fst = entries.map Prod.fst := by
  induction entries with
  | nil => rfl
  | cons entry entries hypothesis =>
    rw [Expr.respelledEntries, List.map_cons, List.map_cons, hypothesis]

theorem keys_bareEntries (entries : List (String × Expr)) :
    (Expr.bareEntries entries).map Prod.fst = entries.map Prod.fst := by
  induction entries with
  | nil => rfl
  | cons entry entries hypothesis =>
    rw [Expr.bareEntries, List.map_cons, List.map_cons, hypothesis]

/-- An object prints as its entries between braces, if no key comes twice. -/
theorem prints_object {entries : List (String × Expr)}
    (prints : PrintsEntries entries pieces)
    (distinct : (entries.map Prod.fst).Nodup) :
    Prints (.object entries span)
      ((.leftBrace, "\x7b") :: pieces ++ [(.rightBrace, "\x7d")]) where
  lexes before tail others here goes := by
    have closing : ('\x7d', TokenKind.rightBrace) ∈ singleMarks := by decide
    have opening : ('\x7b', TokenKind.leftBrace) ∈ singleMarks := by decide
    have inside := prints.lexes _ _ (goes_blank (lexes_mark closing (goes.lexes _)))
    have lexes : Lexes markupRules before
        ('\x7b' :: ' ' :: (Expr.entryChars entries ++ ' ' :: '\x7d' :: tail)) _ :=
      lexes_mark opening ((goes_blank inside).lexes _)
    have chars : (Expr.object entries span).chars =
        "\x7b ".toList ++ Expr.entryChars entries ++ " \x7d".toList := rfl
    rw [chars]
    simpa using lexes
  begins := ⟨'\x7b', _, rfl, by decide⟩
  derives tokens same := by
    obtain ⟨opening, rest, rfl, openingKind, -, same⟩ := map_piece_cons same
    obtain ⟨inner, rest, rfl, first, same⟩ := map_piece_append same
    obtain ⟨closing, rest, rfl, closingKind, -, nothing⟩ := map_piece_cons same
    cases map_piece_nil nothing
    obtain ⟨others, derived, bare⟩ := prints.derives inner first
    have keys : (others.map Prod.fst).Nodup := by
      rw [← keys_bareEntries, bare, keys_bareEntries, keys_respelledEntries]
      exact distinct
    refine ⟨_, .atom (.object opening closing openingKind closingKind
      derived keys), ?_⟩
    rw [Expr.respelled, Expr.bare, Expr.bare, bare]

/-! ## Derived expressions -/

theorem Everywhere.ofInGroup {expr : Expr}
    (floats : Everywhere FloatReadsBack expr.inGroup) :
    Everywhere FloatReadsBack expr := by
  cases expr <;> exact floats

/-- A key token whose text was spelled out names that key. -/
theorem namesKey_of_spelling {key : Token} {previous : Option TokenKind}
    (kind : key.kind = .name ∨ key.kind = .component) (apart : previous ≠ some .dot)
    (spelling : Spelling previous key.piece) : NamesKey key.value := by
  have named : key.kind ∈ nameKinds := by
    rcases kind with same | same <;> rw [same] <;> decide
  obtain ⟨before, spelled, dotted⟩ := spelling.kind named
  have alone :
      kindOfName key.value.toList none = kindOfName key.value.toList before :=
    kindOfName_congr nofun fun dot => apart (dotted dot)
  have same : kindOfName key.value.toList none = key.kind := alone.trans spelled
  exact ⟨spelling.word named, by rwa [same]⟩

theorem namesKey_of_spelled {key colon : Token} {previous : Option TokenKind}
    {tokens : List Token}
    (kind : key.kind = .name ∨ key.kind = .component ∨ key.kind = .text)
    (colonKind : colon.kind = .colon) (apart : previous ≠ some .dot)
    (spelling : Spelling previous key.piece)
    (named : KeysNamed (key :: colon :: tokens)) : NamesKey key.value := by
  rcases kind with name | component | text
  · exact namesKey_of_spelling (.inl name) apart spelling
  · exact namesKey_of_spelling (.inr component) apart spelling
  · exact (List.isChain_cons_cons.mp named).1 text colonKind

theorem apart_of_kind {token : Token} {kind : TokenKind} (same : token.kind = kind)
    (other : kind ≠ .dot) : some token.piece.1 ≠ some .dot := by
  rw [Token.piece, same]
  exact fun dot => other (Option.some.inj dot)

mutual

/-- The printed form of a derived expression.  The induction is on the
derivation; it carries that the expression does not stand behind a dot, where
capitalised names are spelled differently. -/
theorem Derives.prints {layer : Nat} {tokens : List Token} {expr : Expr}
    {previous : Option TokenKind} (apart : previous ≠ some .dot)
    (spelled : Spelled previous (tokens.map Token.piece))
    (named : KeysNamed tokens) (floats : Everywhere FloatReadsBack expr) :
    Derives layer tokens expr →
    layer ≤ layerOfTree expr ∧ ∃ pieces, Prints expr pieces
  | .infixOp operator op kind symbol leftDerived rightDerived => by
    simp only [List.map_append, List.map_cons, chained_append, chained_cons]
      at spelled
    obtain ⟨leftSpelled, -, rightSpelled⟩ := spelled
    obtain ⟨leftBinds, leftPieces, leftPrints⟩ :=
      leftDerived.prints apart leftSpelled named.left floats.2.1
    obtain ⟨rightBinds, rightPieces, rightPrints⟩ :=
      rightDerived.prints (apart_of_kind kind nofun) rightSpelled
        named.right.tail floats.2.2
    exact ⟨Nat.le_refl _, _,
      prints_applyInfix op leftPrints rightPrints leftBinds rightBinds⟩
  | .tighter below derived => by
    obtain ⟨le, prints⟩ := derived.prints apart spelled named floats
    exact ⟨Nat.le_of_succ_le le, prints⟩
  | .prefixOp operator op kind symbol derived => by
    simp only [List.map_cons, chained_cons] at spelled
    obtain ⟨binds, pieces, prints⟩ :=
      derived.prints (apart_of_kind kind nofun) spelled.2 named.tail floats.2
    exact ⟨Nat.le_refl _, _, prints_applyPrefix op prints binds⟩
  | .group opening closing openingKind closingKind derived => by
    simp only [List.map_append, List.map_cons, List.map_nil, chained_append,
      chained_cons] at spelled
    obtain ⟨-, pieces, prints⟩ :=
      derived.prints (apart_of_kind openingKind nofun) spelled.1.2 named.left.tail
        floats.ofInGroup
    exact ⟨Nat.le_of_eq (layerOfTree_inGroup _).symm, prints.inGroup⟩
  | .atom derived => by
    have tightest : layerOfTree expr = prefixLayer := by cases derived <;> rfl
    exact ⟨Nat.le_of_eq tightest.symm, derived.prints apart spelled named floats⟩

/-- Every atom that the grammar derives prints to pieces that are read back. -/
theorem DerivesAtom.prints {tokens : List Token} {expr : Expr}
    {previous : Option TokenKind} (apart : previous ≠ some .dot)
    (spelled : Spelled previous (tokens.map Token.piece))
    (named : KeysNamed tokens) (floats : Everywhere FloatReadsBack expr) :
    DerivesAtom tokens expr → ∃ pieces, Prints expr pieces
  | .text token kind => ⟨_, prints_text⟩
  | .integer token value kind reads => by
    have digits := (chained_cons.mp spelled).1.digits kind
    obtain ⟨printed, readsBack⟩ := intChars_readInt? digits reads
    exact ⟨_, prints_int printed readsBack⟩
  | .float token value kind reads => ⟨_, prints_float floats⟩
  | .boolean token kind => ⟨_, prints_bool⟩
  | .null token kind => ⟨_, prints_null⟩
  | .reference derived => by
    obtain ⟨pieces, prints⟩ := derived.prints apart spelled
    exact ⟨pieces, prints.prints⟩
  | .resource head opening closing headKind openingKind closingKind derived => by
    simp only [List.map_append, List.map_cons, List.map_nil, chained_append,
      chained_cons] at spelled
    obtain ⟨-, pieces, prints⟩ :=
      derived.prints (apart_of_kind openingKind nofun) spelled.1.2.2
        named.left.tail.tail floats.2
    exact ⟨_, prints_resource prints⟩
  | .vec2 head opening comma closing headKind openingKind commaKind closingKind
      xDerived yDerived => by
    simp only [List.map_append, List.map_cons, List.map_nil, chained_append,
      chained_cons] at spelled
    obtain ⟨⟨⟨-, -, xSpelled⟩, -, ySpelled⟩, -⟩ := spelled
    obtain ⟨-, xPieces, xPrints⟩ :=
      xDerived.prints (apart_of_kind openingKind nofun) xSpelled
        named.left.left.tail.tail floats.2.1
    obtain ⟨-, yPieces, yPrints⟩ :=
      yDerived.prints (apart_of_kind commaKind nofun) ySpelled
        named.left.right.tail floats.2.2
    exact ⟨_, prints_vec2 xPrints yPrints⟩
  | .solidColor head opening firstComma secondComma closing headKind headValue
      openingKind firstKind secondKind closingKind redDerived greenDerived
      blueDerived => by
    simp only [List.map_append, List.map_cons, List.map_nil, chained_append,
      chained_cons] at spelled
    obtain ⟨⟨⟨⟨-, -, redSpelled⟩, -, greenSpelled⟩, -, blueSpelled⟩, -⟩ := spelled
    obtain ⟨-, redPieces, redPrints⟩ :=
      redDerived.prints (apart_of_kind openingKind nofun) redSpelled
        named.left.left.left.tail.tail floats.2.1
    obtain ⟨-, greenPieces, greenPrints⟩ :=
      greenDerived.prints (apart_of_kind firstKind nofun) greenSpelled
        named.left.left.right.tail floats.2.2.1
    obtain ⟨-, bluePieces, bluePrints⟩ :=
      blueDerived.prints (apart_of_kind secondKind nofun) blueSpelled
        named.left.right.tail floats.2.2.2.1
    exact ⟨_, prints_color redPrints greenPrints bluePrints
      (prints_float floats.2.2.2.2)⟩
  | .color head opening firstComma secondComma thirdComma closing headKind
      headValue openingKind firstKind secondKind thirdKind closingKind
      redDerived greenDerived blueDerived alphaDerived => by
    simp only [List.map_append, List.map_cons, List.map_nil, chained_append,
      chained_cons] at spelled
    obtain ⟨⟨⟨⟨⟨-, -, redSpelled⟩, -, greenSpelled⟩, -, blueSpelled⟩, -,
        alphaSpelled⟩, -⟩ :=
      spelled
    obtain ⟨-, redPieces, redPrints⟩ :=
      redDerived.prints (apart_of_kind openingKind nofun) redSpelled
        named.left.left.left.left.tail.tail floats.2.1
    obtain ⟨-, greenPieces, greenPrints⟩ :=
      greenDerived.prints (apart_of_kind firstKind nofun) greenSpelled
        named.left.left.left.right.tail floats.2.2.1
    obtain ⟨-, bluePieces, bluePrints⟩ :=
      blueDerived.prints (apart_of_kind secondKind nofun) blueSpelled
        named.left.left.right.tail floats.2.2.2.1
    obtain ⟨-, alphaPieces, alphaPrints⟩ :=
      alphaDerived.prints (apart_of_kind thirdKind nofun) alphaSpelled
        named.left.right.tail floats.2.2.2.2
    exact ⟨_, prints_color redPrints greenPrints bluePrints alphaPrints⟩
  | .plainStyle box head opening closing headKind headValue openingKind
      closingKind =>
    ⟨_, prints_plainStyle box⟩
  | .style box head opening closing headKind headValue openingKind
      closingKind derived => by
    simp only [List.map_append, List.map_cons, List.map_nil, chained_append,
      chained_cons] at spelled
    obtain ⟨-, pieces, prints⟩ :=
      derived.prints (apart_of_kind openingKind nofun) spelled.1.2.2
        named.left.tail.tail floats.2
    exact ⟨_, prints_style box prints⟩
  | .object opening closing openingKind closingKind derived distinct => by
    simp only [List.map_append, List.map_cons, List.map_nil, chained_append,
      chained_cons] at spelled
    obtain ⟨pieces, prints⟩ :=
      derived.prints (apart_of_kind openingKind nofun) spelled.1.2
        named.left.tail floats.2
    exact ⟨_, prints_object prints distinct⟩

/-- The entries of an object that the grammar derives print to pieces that are
read back. -/
theorem DerivesEntries.prints {tokens : List Token} {entries : List (String × Expr)}
    {previous : Option TokenKind} (apart : previous ≠ some .dot)
    (spelled : Spelled previous (tokens.map Token.piece)) (named : KeysNamed tokens)
    (floats : EverywhereIn FloatReadsBack entries) :
    DerivesEntries tokens entries → ∃ pieces, PrintsEntries entries pieces
  | .nil => ⟨_, printsEntries_nil⟩
  | .last key colon keyKind colonKind derived => by
    have names := namesKey_of_spelled keyKind colonKind apart spelled.1 named
    obtain ⟨-, pieces, prints⟩ :=
      derived.prints (apart_of_kind colonKind nofun) spelled.2.2
        named.tail.tail floats.1
    exact ⟨_, printsEntries_last names prints⟩
  | @DerivesEntries.cons _ _ _ others key colon comma keyKind colonKind
      commaKind derived othersDerived => by
    simp only [List.map_append, List.map_cons, chained_append] at spelled
    obtain ⟨valueSpelled, -, othersSpelled⟩ := spelled
    have names :=
      namesKey_of_spelled keyKind colonKind apart valueSpelled.1 named.left
    obtain ⟨-, pieces, prints⟩ :=
      derived.prints (apart_of_kind colonKind nofun) valueSpelled.2.2
        named.left.tail.tail floats.1
    obtain ⟨othersPieces, othersPrints⟩ :=
      othersDerived.prints (apart_of_kind commaKind nofun) othersSpelled
        named.right.tail floats.2
    -- A comma behind the last entry is not printed.
    by_cases nothing : others = []
    · subst nothing
      exact ⟨_, printsEntries_last names prints⟩
    · exact ⟨_, printsEntries_cons names prints othersPrints nothing⟩

end

end Grammar

end LiveMarkup
