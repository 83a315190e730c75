import LiveMarkup.Proofs.Naming.ExpressionKeys
import LiveMarkup.Proofs.Printing.Reprinting
import LiveMarkup.Proofs.Spacing.Outcomes

/-!
# Expressions on tokens that stand elsewhere

The parsers of expressions mirror themselves: on tokens of the same kinds and
values they read the same expression up to places, or fail for a cause of one
kind.  What they hold while they read is compared without places, too.
-/

namespace LiveMarkup

/-! ## What is being read -/

/-- Two expressions that differ in their places only. -/
def Expr.Alike (first second : Expr) : Prop := first.bare = second.bare

/-- Two references that differ in their places only. -/
def Reference.Alike (first second : Reference) : Prop := first.bare = second.bare

/-- Two lists of object entries that differ in their places only. -/
def Expr.AlikeEntries (first second : List (String × Expr)) : Prop :=
  Expr.bareEntries first = Expr.bareEntries second

theorem Expr.bareEntries_eq_map (entries : List (String × Expr)) :
    Expr.bareEntries entries =
      entries.map fun entry => (entry.1, entry.2.bare) := by
  induction entries with
  | nil => rfl
  | cons entry entries induction => rw [Expr.bareEntries, induction, List.map_cons]

theorem Expr.Alike.inGroup {first second : Expr} (alike : first.Alike second) :
    first.inGroup.Alike second.inGroup := by
  unfold Expr.Alike at alike ⊢
  rw [Expr.bare_inGroup, Expr.bare_inGroup, alike]

theorem Expr.AlikeEntries.keys {first second : List (String × Expr)}
    (alike : Expr.AlikeEntries first second) :
    first.map Prod.fst = second.map Prod.fst := by
  have keys := congrArg (List.map Prod.fst) alike
  simpa [Expr.bareEntries_eq_map, Function.comp_def] using keys

theorem Expr.AlikeEntries.add {first second : List (String × Expr)}
    {value other : Expr} (alike : Expr.AlikeEntries first second)
    (values : value.Alike other) (key : String) :
    Expr.AlikeEntries (first ++ [(key, value)]) (second ++ [(key, other)]) := by
  unfold Expr.AlikeEntries Expr.Alike at *
  rw [Expr.bareEntries_eq_map, Expr.bareEntries_eq_map] at *
  simp [alike, values]

namespace Pending

/-- Two waiting operators that differ in their places only. -/
inductive Alike : Pending → Pending → Prop where
  | prefixOp (op : PrefixOp) (span other : Span) :
      Alike (.prefixOp op span) (.prefixOp op other)
  | infixOp (op : InfixOp) {left other : Expr} (lefts : left.Alike other) :
      Alike (.infixOp op left) (.infixOp op other)

/-- Two lists of waiting operators that differ in their places only. -/
abbrev AllAlike (first second : List Pending) : Prop :=
  List.Forall₂ Alike first second

variable {pending other : Pending} {waiting others : List Pending}
  {operand right : Expr}

theorem Alike.precedence (alike : pending.Alike other) :
    pending.precedence = other.precedence := by
  cases alike <;> rfl

theorem Alike.complete (alike : pending.Alike other)
    (operands : operand.Alike right) :
    (pending.complete operand).Alike (other.complete right) := by
  unfold Expr.Alike at *
  cases alike with
  | prefixOp op span other => simp [Pending.complete, Expr.bare, operands]
  | infixOp op lefts =>
      unfold Expr.Alike at lefts
      simp [Pending.complete, Expr.bare, operands, lefts]

theorem AllAlike.completeAll (alike : AllAlike waiting others)
    (operands : operand.Alike right) :
    (Pending.completeAll waiting operand).Alike
      (Pending.completeAll others right) := by
  induction alike generalizing operand right with
  | nil => exact operands
  | cons first rest induction => exact induction (first.complete operands)

theorem AllAlike.pushInfix (alike : AllAlike waiting others) (op : InfixOp)
    (operands : operand.Alike right) :
    AllAlike (Pending.pushInfix op waiting operand)
      (Pending.pushInfix op others right) := by
  induction alike generalizing operand right with
  | nil => exact .cons (.infixOp op operands) .nil
  | cons first rest induction =>
      rw [Pending.pushInfix, Pending.pushInfix, first.precedence]
      split
      · exact induction (first.complete operands)
      · exact .cons (.infixOp op operands) (.cons first rest)

end Pending

/-- Two levels of an expression, waiting operators and an operand, that differ
in their places only. -/
def LevelAlike (first second : List Pending × Option Expr) : Prop :=
  Pending.AllAlike first.1 second.1 ∧ Option.Rel Expr.Alike first.2 second.2

namespace Parser

variable {depth : Nat} {kind : TokenKind} {value : String} {span other : Span}

/-! ## Parts of expressions -/

theorem mirrors_finish {pending others : List Pending}
    {operand right : Option Expr} (alike : Pending.AllAlike pending others)
    (operands : Option.Rel Expr.Alike operand right) :
    Mirrors Expr.Alike (finish pending operand) (finish others right) := by
  cases operands with
  | some operands => exact .pure (alike.completeAll operands)
  | none => exact .unexpected

theorem mirrors_chain (bound : Nat) {base target : Reference}
    (bases : base.Alike target) :
    Mirrors Reference.Alike (chain span bound base)
      (chain other bound target) := by
  induction bound generalizing base target with
  | zero => exact .pure bases
  | succ bound induction =>
      refine .peek fun kind value _ _ => .ifThen (fun _ => ?_) fun _ => .pure bases
      refine .next fun _ _ _ _ => .expect fun name _ _ => induction ?_
      unfold Reference.Alike at bases ⊢
      simp [Reference.bare, bases]

theorem mirrors_reference :
    Mirrors Reference.Alike (reference ⟨kind, value, span⟩)
      (reference ⟨kind, value, other⟩) := by
  intro stream place streams
  have length : stream.upcoming.length = place.upcoming.length := by
    simpa using congrArg List.length streams.upcoming
  unfold reference
  rw [length]
  refine mirrors_chain _ ?_ stream place streams
  cases kind <;> rfl

theorem mirrors_referenceValue :
    Mirrors Expr.Alike
    (do pure (.reference (← reference ⟨kind, value, span⟩)) : Parser Expr)
      (do pure (.reference (← reference ⟨kind, value, other⟩))) := by
  refine .bind mirrors_reference fun target found alike => .pure ?_
  unfold Expr.Alike Reference.Alike at *
  rw [Expr.bare, Expr.bare, alike]

/-! ## The parsers of expressions -/

/-- The parsers of expressions that nest at most `depth` deep mirror themselves. -/
structure MirrorExpressions (depth : Nat) : Prop where
  level : ∀ {pending others : List Pending} {operand right : Option Expr},
      Pending.AllAlike pending others → Option.Rel Expr.Alike operand right →
      Mirrors LevelAlike (level .none depth pending operand)
        (level .none depth others right)
  expression : Mirrors Expr.Alike (expression .none depth) (expression .none depth)
  operandAt : Mirrors Expr.Alike (operandAt .none depth) (operandAt .none depth)
  objectEntries : ∀ {entries others : List (String × Expr)},
      Expr.AlikeEntries entries others →
      Mirrors Expr.AlikeEntries (objectEntries .none depth entries)
        (objectEntries .none depth others)
  construct : ∀ {kind : TokenKind} {value : String} {span other : Span},
    Mirrors Expr.Alike (construct .none depth ⟨kind, value, span⟩)
      (construct .none depth ⟨kind, value, other⟩)

namespace MirrorExpressions

variable (mirror : MirrorExpressions depth)
include mirror

/-- A level that starts alike is read alike with one more turn of fuel. -/
theorem level_succ {pending others : List Pending}
    {operand right : Option Expr} (alike : Pending.AllAlike pending others)
    (operands : Option.Rel Expr.Alike operand right) :
    Mirrors LevelAlike (Parser.level .none (depth + 1) pending operand)
      (Parser.level .none (depth + 1) others right) := by
  rw [Parser.level, Parser.level]
  refine .peek fun kind value span other => ?_
  cases operands with
  | none =>
      have atom : Mirrors LevelAlike
          (if kind.beginsOperand then do
            let operand ← Parser.operandAt .none depth
            Parser.level .none depth pending (some operand)
          else pure (pending, none))
          (if kind.beginsOperand then do
            let operand ← Parser.operandAt .none depth
            Parser.level .none depth others (some operand)
          else pure (others, none)) :=
        .ifThen (fun _ => .bind mirror.operandAt fun _ _ operands =>
          mirror.level alike (.some operands)) fun _ => .pure ⟨alike, .none⟩
      cases kind
      case operator =>
        refine .next fun _ _ _ _ => ?_
        cases PrefixOp.ofSymbol? value with
        | none => exact .fail rfl
        | some op =>
          exact mirror.level (.cons (.prefixOp op span other) alike) .none
      case leftParen =>
        refine .next fun _ _ _ _ =>
          .bind (mirror.level .nil .none) fun inner found inside =>
            .peek fun _ _ _ _ => .ifThen (fun _ => ?_) fun _ =>
              .failHere fun _ _ => rfl
        exact .bind (mirrors_finish inside.1 inside.2) fun expr copy exprs =>
          .next fun _ _ _ _ => mirror.level alike (.some exprs.inGroup)
      all_goals exact atom
  | @some left right operands =>
      cases kind
      case operator =>
        refine .next fun _ _ _ _ => ?_
        cases InfixOp.ofSymbol? value with
        | none => exact .fail rfl
        | some op => exact mirror.level (alike.pushInfix op operands) .none
      case leftParen => exact .unexpected
      all_goals exact .pure ⟨alike, .some operands⟩

theorem expression_succ :
    Mirrors Expr.Alike (Parser.expression .none (depth + 1))
      (Parser.expression .none (depth + 1)) := by
  rw [Parser.expression]
  refine .bind (mirror.level .nil .none) ?_
  intro _ _ inside
  exact mirrors_finish inside.1 inside.2

/-- Behind an expression comes what does not look at its places. -/
theorem moreEntries {entries others : List (String × Expr)}
    (alike : Expr.AlikeEntries entries others) :
    Mirrors Expr.AlikeEntries (Parser.moreEntries .none depth entries)
      (Parser.moreEntries .none depth others) := by
  refine .peek ?_
  intro _ _ _ _
  refine .ifThen ?_ ?_
  · intro _
    exact .next fun _ _ _ _ => mirror.objectEntries alike
  · intro _
    exact .expect fun _ _ _ => .pure alike

theorem furtherEntry {entries others : List (String × Expr)}
    (alike : Expr.AlikeEntries entries others) :
    Mirrors Expr.AlikeEntries
      (Parser.furtherEntry .none depth entries ⟨kind, value, span⟩)
      (Parser.furtherEntry .none depth others ⟨kind, value, other⟩) := by
  rw [furtherEntry_none, furtherEntry_none, alike.keys]
  exact .next fun _ _ _ _ => .expect fun _ _ _ =>
    .bind mirror.expression fun value copy values =>
      .ifThen (fun _ => .fail rfl) fun _ => mirror.moreEntries (alike.add values _)

theorem objectEntries_succ {entries others : List (String × Expr)}
    (alike : Expr.AlikeEntries entries others) :
    Mirrors Expr.AlikeEntries (Parser.objectEntries .none (depth + 1) entries)
      (Parser.objectEntries .none (depth + 1) others) := by
  rw [objectEntries_eq, objectEntries_eq]
  refine .peek fun kind value span other => ?_
  cases kind
  case rightBrace => exact .next fun _ _ _ _ => .pure alike
  case name => exact mirror.furtherEntry alike
  case component => exact mirror.furtherEntry alike
  case text => exact mirror.furtherEntry alike
  all_goals exact .unexpected

theorem colorEnd (name copy : Token)
    {red green blue alsoRed alsoGreen alsoBlue : Expr}
    (reds : red.Alike alsoRed) (greens : green.Alike alsoGreen)
    (blues : blue.Alike alsoBlue) :
    Mirrors Expr.Alike (Parser.colorEnd .none depth name red green blue)
      (Parser.colorEnd .none depth copy alsoRed alsoGreen alsoBlue) := by
  unfold Expr.Alike at reds greens blues
  refine .peek fun _ _ _ _ => .ifThen (fun _ => ?_) fun _ => ?_
  · refine .next fun _ _ _ _ => .bind mirror.expression fun alpha copy alphas =>
      .expect fun _ _ _ => .lastStop fun _ _ => .pure ?_
    unfold Expr.Alike at alphas ⊢
    simp [Expr.bare, reds, greens, blues, alphas]
  · refine .expect fun _ _ _ => .lastStop fun _ _ => .pure ?_
    simp [Expr.Alike, Expr.bare, reds, greens, blues]

theorem construct_succ :
    Mirrors Expr.Alike (Parser.construct .none (depth + 1) ⟨kind, value, span⟩)
      (Parser.construct .none (depth + 1) ⟨kind, value, other⟩) := by
  rw [Parser.construct, Parser.construct]
  refine .expect fun _ _ _ => ?_
  dsimp only
  cases StyleBox.ofConstructor? value with
  | some box =>
      refine .peek fun _ _ _ _ => .ifThen (fun _ => ?_) fun _ => ?_
      · refine .next fun _ _ _ _ => .lastStop fun _ _ => .pure ?_
        simp [Expr.Alike, Expr.bare]
      · refine .bind mirror.expression fun properties copy alike =>
          .expect fun _ _ _ =>
            .lastStop fun _ _ => .pure ?_
        unfold Expr.Alike at alike ⊢
        simp [Expr.bare, alike]
  | none =>
      exact .bind mirror.expression fun red copy reds => .expect fun _ _ _ =>
        .bind mirror.expression fun green copy greens => .expect fun _ _ _ =>
          .bind mirror.expression fun blue copy blues =>
            mirror.colorEnd ⟨kind, value, span⟩ ⟨kind, value, other⟩ reds
              greens blues

/-- Operands are read alike with one more turn of fuel. -/
theorem operandAt_succ :
    Mirrors Expr.Alike (Parser.operandAt .none (depth + 1))
      (Parser.operandAt .none (depth + 1)) := by
  rw [Parser.operandAt]
  refine .next fun kind value span other => ?_
  cases kind
  case text => exact .pure (by simp [Expr.Alike, Expr.bare])
  case integer =>
    dsimp only
    cases Decimal.readInt? value.toList with
    | none => exact .fail rfl
    | some number => exact .pure (by simp [Expr.Alike, Expr.bare])
  case float =>
    dsimp only
    cases Decimal.readFloat? value.toList with
    | none => exact .fail rfl
    | some number => exact .pure (by simp [Expr.Alike, Expr.bare])
  case boolean => exact .pure (by simp [Expr.Alike, Expr.bare])
  case null => exact .pure (by simp [Expr.Alike, Expr.bare])
  case resource =>
    refine .expect fun _ _ _ => .bind mirror.expression fun path copy alike =>
      .expect fun _ _ _ =>
        .lastStop fun _ _ => .pure ?_
    unfold Expr.Alike at alike ⊢
    simp [Expr.bare, alike]
  case vec2 =>
    refine .expect fun _ _ _ => .bind mirror.expression fun x copyX alikeX =>
      .expect fun _ _ _ =>
      .bind mirror.expression fun y copyY alikeY => .expect fun _ _ _ =>
        .lastStop fun _ _ =>
          .pure ?_
    unfold Expr.Alike at *
    simp [Expr.bare, alikeX, alikeY]
  case leftBrace =>
    refine .bind (mirror.objectEntries rfl) fun entries copy alike =>
      .lastStop fun _ _ => .pure ?_
    unfold Expr.Alike Expr.AlikeEntries at *
    rw [Expr.bare, Expr.bare, alike]
  case name =>
    refine .peek ?_
    intro _ _ _ _
    exact .ifThen (fun _ => mirror.construct) fun _ => mirrors_referenceValue
  all_goals exact mirrors_referenceValue

end MirrorExpressions

/-- However deeply they may nest, the parsers of expressions mirror themselves. -/
theorem mirrorExpressions : ∀ depth : Nat, MirrorExpressions depth
  | 0 =>
    { level := fun _ _ => by
        rw [Parser.level, Parser.level]
        exact .failHere fun _ _ => rfl
      expression := by
        rw [Parser.expression]
        exact .failHere fun _ _ => rfl
      operandAt := by
        rw [Parser.operandAt]
        exact .failHere fun _ _ => rfl
      objectEntries := fun _ => by
        rw [Parser.objectEntries, Parser.objectEntries]
        exact .failHere fun _ _ => rfl
      construct := by
        intro kind value span other
        rw [Parser.construct, Parser.construct]
        exact .failHere fun _ _ => rfl }
  | depth + 1 =>
    { level := (mirrorExpressions depth).level_succ
      expression := (mirrorExpressions depth).expression_succ
      operandAt := (mirrorExpressions depth).operandAt_succ
      objectEntries := (mirrorExpressions depth).objectEntries_succ
      construct := (mirrorExpressions depth).construct_succ }

theorem mirrors_expression (depth : Nat) :
    Mirrors Expr.Alike (expression .none depth) (expression .none depth) :=
  (mirrorExpressions depth).expression

end Parser

end LiveMarkup
