import LiveMarkup.Proofs.Naming.Alongside
import LiveMarkup.Proofs.Parsing.ExpressionSteps

/-!
# Expressions with renamed keys

The expression parser with key converters follows the one without.  Of its five
parts only object literals look at keys.  A key is refused there if an earlier
one has got its name; without converters that is an earlier key that equals it,
so that the parser without converters refuses no more.
-/

namespace LiveMarkup

/-- Converters that rename keys and do nothing else. -/
abbrev Converters.ofKeys (keys : List (String → String)) : Converters := { keys }

@[simp]
theorem Converters.ofKeys_component (keys : List (String → String))
    (component : Component) :
    (Converters.ofKeys keys).component component = component :=
  rfl

@[simp]
theorem Converters.ofKeys_value_map (keys : List (String → String))
    (parser : Parser Expr) :
    (Converters.ofKeys keys).value <$> parser = parser :=
  id_map parser

/-! ## Keys of what is being read -/

instance : Keyed Expr := ⟨Expr.keyLists, Expr.rename⟩

/-- The entries of one object literal. -/
instance : Keyed (List (String × Expr)) :=
  ⟨fun entries => entries.map Prod.fst :: Expr.keyListsIn entries, Expr.renameIn⟩

namespace Pending

/-- The lists of keys in an operator that waits for its right operand. -/
def keyLists : Pending → List (List String)
  | .prefixOp _ _ => []
  | .infixOp _ left => left.keyLists

def rename (change : String → String) : Pending → Pending
  | .prefixOp op span => .prefixOp op span
  | .infixOp op left => .infixOp op (left.rename change)

variable (change : String → String)

@[simp]
theorem precedence_rename (pending : Pending) :
    (pending.rename change).precedence = pending.precedence := by
  cases pending <;> rfl

theorem complete_rename (pending : Pending) (right : Expr) :
    (pending.rename change).complete (right.rename change) =
      (pending.complete right).rename change := by
  cases pending <;> simp [rename, complete, Expr.rename]

theorem completeAll_rename (pending : List Pending) (operand : Expr) :
    completeAll (pending.map (rename change)) (operand.rename change) =
      (completeAll pending operand).rename change := by
  induction pending generalizing operand with
  | nil => rfl
  | cons first rest induction =>
      rw [List.map_cons, completeAll, completeAll, complete_rename, induction]

/-- What waits for an operand is completed in the same way with other keys. -/
theorem pushInfix_rename (op : InfixOp) (pending : List Pending) (left : Expr) :
    pushInfix op (pending.map (rename change)) (left.rename change) =
      (pushInfix op pending left).map (rename change) := by
  induction pending generalizing left with
  | nil => rfl
  | cons first rest induction =>
      rw [List.map_cons, pushInfix, pushInfix, precedence_rename,
        complete_rename, induction]
      split <;> rfl

theorem mem_keyLists_complete {pending : Pending} {right : Expr}
    {list : List String} :
    list ∈ (pending.complete right).keyLists ↔
      list ∈ pending.keyLists ∨ list ∈ right.keyLists := by
  cases pending <;> simp [complete, keyLists, Expr.keyLists]

/-- The keys of what was completed are those of what waited and of the operand.
-/
theorem mem_keyLists_completeAll {pending : List Pending} {operand : Expr}
    {list : List String} :
    list ∈ (completeAll pending operand).keyLists ↔
      list ∈ pending.flatMap keyLists ∨ list ∈ operand.keyLists := by
  induction pending generalizing operand with
  | nil => simp [completeAll]
  | cons first rest induction =>
      rw [completeAll, induction, mem_keyLists_complete, List.flatMap_cons,
        List.mem_append, or_left_comm, or_assoc]

/-- The keys of what waits after an infix operator are those from before and
from the left operand. -/
theorem mem_keyLists_pushInfix {op : InfixOp} {pending : List Pending} {left : Expr}
    {list : List String} :
    list ∈ (pushInfix op pending left).flatMap keyLists ↔
      list ∈ pending.flatMap keyLists ∨ list ∈ left.keyLists := by
  induction pending generalizing left with
  | nil => simp [pushInfix, keyLists]
  | cons first rest induction =>
      rw [pushInfix]
      split
      · rw [induction, mem_keyLists_complete, List.flatMap_cons,
          List.mem_append, or_left_comm, or_assoc]
      · rw [List.flatMap_cons, List.mem_append, or_comm]
        rfl

end Pending

/-- A level of an expression: the waiting operators and the operand behind them. -/
instance : Keyed (List Pending × Option Expr) where
  keyLists level :=
    level.1.flatMap Pending.keyLists ++ (level.2.map Expr.keyLists).getD []
  rename change level :=
    (level.1.map (Pending.rename change), level.2.map (Expr.rename change))

/-- Clashes among the first entries of a literal are clashes of the literal. -/
theorem Merges.of_entries {change : String → String} {merged : String}
    {entries all : List (String × Expr)}
    (merges : Merges change merged (Keyed.keyLists entries))
    (begins : entries <+: all) : Merges change merged (Keyed.keyLists all) := by
  obtain ⟨rest, rfl⟩ := begins
  refine merges.of_grows fun list member => ?_
  rcases List.mem_cons.mp member with rfl | inside
  · exact ⟨_, List.mem_cons_self, by simp⟩
  · refine ⟨list, List.mem_cons_of_mem _ ?_, List.Subset.refl _⟩
    rw [Expr.keyListsIn_eq_flatMap, List.flatMap_append, List.mem_append]
    exact .inl (Expr.keyListsIn_eq_flatMap entries ▸ inside)

namespace Parser

variable {keys : List (String → String)} {depth : Nat}

/-! ## What is read is not lost -/

/-- A level keeps the keys of the operators and operands it holds. -/
theorem level_keeps (converters : Converters) (depth : Nat) (pending : List Pending)
    (operand : Option Expr) :
    Yields (fun level => Keyed.keyLists (pending, operand) ⊆ Keyed.keyLists level)
      (level converters depth pending operand) := by
  induction depth generalizing pending operand with
  | zero =>
      rw [level]
      exact .failHere
  | succ depth induction =>
      rw [level]
      refine .bind fun token => ?_
      split
      · refine .bind fun _ => ?_
        split
        · exact (induction _ _).mono fun level kept list member =>
            kept (by simpa [Keyed.keyLists, Pending.keyLists] using member)
        · exact .fail
      · refine .bind fun _ => ?_
        split
        · refine (induction _ _).mono fun level kept list member => kept ?_
          simp only [Keyed.keyLists, Option.map_some, Option.getD_some,
            List.mem_append] at member
          simp only [Keyed.keyLists, Option.map_none, Option.getD_none,
            List.append_nil]
          exact Pending.mem_keyLists_pushInfix.mpr member
        · exact .fail
      · exact .failHere
      · refine .bind fun opening => .bind fun inner => .bind fun _ => ?_
        split
        · exact .bind fun _ => .bind fun _ =>
            (induction _ _).mono fun level kept list member =>
              kept (by
                simp only [Keyed.keyLists, List.mem_append] at member ⊢
                exact member.imp_right fun none => absurd none List.not_mem_nil)
        · exact .failHere
      · split
        · exact .bind fun _ => (induction _ _).mono fun level kept list member =>
            kept (by
              simp only [Keyed.keyLists, List.mem_append] at member ⊢
              exact member.imp_right fun none => absurd none List.not_mem_nil)
        · exact .pure (List.Subset.refl _)
      · exact .pure (List.Subset.refl _)

/-- What is read behind an entry of an object literal. -/
def moreEntries (converters : Converters) (depth : Nat)
    (entries : List (String × Expr)) : Parser (List (String × Expr)) :=
  do
  if (← peek).kind == .comma then
    let _ ← next
    objectEntries converters depth entries
  else
    let _ ← expect .rightBrace
    pure entries

/-- One entry of an object literal with what is read behind it. -/
def furtherEntry (converters : Converters) (depth : Nat)
    (entries : List (String × Expr)) (key : Token) :
    Parser (List (String × Expr)) :=
  do
  let _ ← next
  let _ ← expect .colon
  let value ← converters.value <$> expression converters depth
  if entries.any (·.1 == converters.key key.value) then
    fail (.duplicateObjectKey (converters.key key.value)) key.span.position
  else moreEntries converters depth (entries ++ [(converters.key key.value, value)])

/-- The entries of an object end, or a further one comes. -/
theorem objectEntries_eq (converters : Converters) (depth : Nat)
    (entries : List (String × Expr)) :
    objectEntries converters (depth + 1) entries = (do
      let token ← peek
      match token.kind with
      | .rightBrace =>
        let _ ← next
        pure entries
      | .name | .component | .text => furtherEntry converters depth entries token
      | _ => unexpected "an object key") := by
  rw [objectEntries]
  rfl

/-- A further entry is read as it is written, and its key must be new. -/
theorem furtherEntry_none (depth : Nat) (entries : List (String × Expr))
    (key : Token) :
    furtherEntry .none depth entries key = (do
      let _ ← next
      let _ ← expect .colon
      let value ← expression .none depth
      if (entries.map Prod.fst).any (· == key.value) then
        fail (.duplicateObjectKey key.value) key.span.position
      else moreEntries .none depth (entries ++ [(key.value, value)])) := by
  rw [List.any_map, furtherEntry, Converters.none_value_map]
  rfl

/-- With converters its key must be new among the converted keys. -/
theorem furtherEntry_ofKeys (keys : List (String → String)) (depth : Nat)
    (entries : List (String × Expr)) (key : Token) :
    furtherEntry (.ofKeys keys) depth
    (Expr.renameIn (applyAll keys) entries) key = (do
      let _ ← next
      let _ ← expect .colon
      let value ← expression (.ofKeys keys) depth
      if ((entries.map Prod.fst).map (applyAll keys)).any
        (· == applyAll keys key.value) then
        fail (.duplicateObjectKey (applyAll keys key.value)) key.span.position
      else
        moreEntries (.ofKeys keys) depth
          (Expr.renameIn (applyAll keys) entries ++
            [(applyAll keys key.value, value)])) := by
  rw [List.map_map, List.any_map, Expr.renameIn_eq_map, furtherEntry,
    Converters.ofKeys_value_map]
  simp only [List.any_map]
  rfl

/-- An object literal keeps the entries it begins with. -/
theorem objectEntries_keeps (converters : Converters) (depth : Nat)
    (entries : List (String × Expr)) :
    Yields (fun all => entries <+: all)
      (objectEntries converters depth entries) := by
  induction depth generalizing entries with
  | zero =>
      rw [objectEntries]
      exact .failHere
  | succ depth induction =>
      have further (token : Token) :
          Yields (fun all => entries <+: all)
            (furtherEntry converters depth entries token) := by
        refine .bind fun _ => .bind fun _ => .bind fun value => ?_
        split
        · exact .fail
        · refine .bind fun _ => ?_
          split
          · exact .bind fun _ => (induction _).mono fun all grown =>
              (List.prefix_append entries _).trans grown
          · exact .bind fun _ => .pure (List.prefix_append entries _)
      rw [objectEntries_eq]
      refine .bind fun token => ?_
      split
      · exact .bind fun _ => .pure (List.prefix_refl entries)
      · exact further token
      · exact further token
      · exact further token
      · exact .failHere

theorem moreEntries_keeps (converters : Converters) (depth : Nat)
    (entries : List (String × Expr)) :
    Yields (fun all => entries <+: all) (moreEntries converters depth entries) := by
  refine .bind fun _ => ?_
  split
  · exact .bind fun _ => objectEntries_keeps _ _ _
  · exact .bind fun _ => .pure (List.prefix_refl _)

/-- What is read behind the three parts of a color. -/
def colorEnd (converters : Converters) (depth : Nat) (name : Token)
    (red green blue : Expr) : Parser Expr :=
  do
  if (← peek).kind == .comma then
    let _ ← next
    let alpha ← expression converters depth
    let _ ← expect .rightParen
    pure (.color red green blue alpha { name.span with stop := ← lastStop })
  else
    let _ ← expect .rightParen
    pure (.color red green blue (.float 1.0 name.span)
      { name.span with stop := ← lastStop })

/-- A color has the keys of its components. -/
theorem colorEnd_keeps (converters : Converters) (depth : Nat) (name : Token)
    (red green blue : Expr) :
    Yields (fun color => red.keyLists ++ green.keyLists ++ blue.keyLists ⊆
      color.keyLists) (colorEnd converters depth name red green blue) := by
  refine .bind fun _ => ?_
  split
  · exact .bind fun _ => .bind fun _ => .bind fun _ => .bind fun _ =>
      .pure (List.subset_append_left _ _)
  · exact .bind fun _ => .bind fun _ => .pure (List.subset_append_left _ _)

/-! ## The parsers of expressions -/

/-- The parsers of expressions that nest at most `depth` deep follow those
without converters. -/
structure FollowsExpressions (keys : List (String → String)) (depth : Nat) :
    Prop where
  level : ∀ (pending : List Pending) (operand : Option Expr),
    Separates (applyAll keys) (Keyed.keyLists (pending, operand)) →
      Follows (applyAll keys) (level .none depth pending operand)
        (level (.ofKeys keys) depth (pending.map (Pending.rename (applyAll keys)))
          (operand.map (Expr.rename (applyAll keys))))
  expression :
      Follows (applyAll keys) (expression .none depth)
        (expression (.ofKeys keys) depth)
  operandAt :
      Follows (applyAll keys) (operandAt .none depth)
        (operandAt (.ofKeys keys) depth)
  objectEntries : ∀ entries : List (String × Expr),
    Separates (applyAll keys) (Keyed.keyLists entries) →
      Follows (applyAll keys) (objectEntries .none depth entries)
        (objectEntries (.ofKeys keys) depth (Expr.renameIn (applyAll keys) entries))
  construct : ∀ name : Token,
      Follows (applyAll keys) (construct .none depth name)
        (construct (.ofKeys keys) depth name)

namespace FollowsExpressions

variable (follows : FollowsExpressions keys depth)
include follows

/-- What follows an operand is a level that holds it. -/
theorem operand_then (pending : List Pending)
    (separates : Separates (applyAll keys) (pending.flatMap Pending.keyLists)) :
    Follows (applyAll keys)
      (Parser.operandAt .none depth >>= fun operand =>
        Parser.level .none depth pending (some operand))
      (Parser.operandAt (.ofKeys keys) depth >>= fun operand =>
        Parser.level (.ofKeys keys) depth
          (pending.map (Pending.rename (applyAll keys))) (some operand)) :=
  .bind follows.operandAt
    (fun operand apart => follows.level pending (some operand)
      (separates_append.mpr ⟨separates, apart⟩))
    fun _ _ merges => (level_keeps _ _ _ _).mono fun _ kept =>
      merges.of_subset fun _ member => kept (List.mem_append_right _ member)

/-- An expression in parentheses is an operand. -/
theorem group_then (pending : List Pending) (opening : Token)
    (separates : Separates (applyAll keys) (pending.flatMap Pending.keyLists)) :
    Follows (applyAll keys)
      (Parser.level .none depth [] none >>= fun inner => do
        if (← peek).kind == .rightParen then
          let expr ← finish inner.1 inner.2
          let _ ← next
          Parser.level .none depth pending (some expr.inGroup)
        else failHere (.unclosedParenthesis opening.span.position))
      (Parser.level (.ofKeys keys) depth [] none >>= fun inner => do
        if (← peek).kind == .rightParen then
          let expr ← finish inner.1 inner.2
          let _ ← next
          Parser.level (.ofKeys keys) depth
            (pending.map (Pending.rename (applyAll keys)))
            (some expr.inGroup)
        else failHere (.unclosedParenthesis opening.span.position)) := by
  refine .bind (follows.level [] none separates_nil)
    (fun inner apart => .step fun _ => ?_) fun inner merged merges =>
    .bind fun _ => ?_
  · split
    · obtain ⟨waiting, operand⟩ := inner
      cases operand with
      | none => exact .stop
      | some operand =>
          have completed : Separates (applyAll keys)
              (Pending.completeAll waiting operand).keyLists := fun list member =>
                apart list (List.mem_append.mpr
                  (Pending.mem_keyLists_completeAll.mp member))
          have rest :=
            follows.level pending
              (some (Pending.completeAll waiting operand).inGroup)
              (separates_append.mpr ⟨separates, by simpa using completed⟩)
          rw [Option.map_some, ← Expr.inGroup_rename,
            ← Pending.completeAll_rename] at rest
          simp only [Keyed.rename, Option.map_some, finish, pure_bind]
          exact .step fun _ => rest
    · exact .failHere
  · split
    · obtain ⟨waiting, operand⟩ := inner
      cases operand with
      | none => exact .stop
      | some operand =>
          simp only [finish, pure_bind]
          refine .bind fun _ => (level_keeps _ _ _ _).mono fun _ kept =>
            merges.of_subset fun list member => kept (List.mem_append_right _ ?_)
          simp only [Option.map_some, Option.getD_some, Expr.keyLists_inGroup]
          exact Pending.mem_keyLists_completeAll.mpr (List.mem_append.mp member)
    · exact .failHere

/-- A level of operators is read with converted keys as it is without. -/
theorem level_succ (pending : List Pending) (operand : Option Expr)
    (separates : Separates (applyAll keys) (Keyed.keyLists (pending, operand))) :
    Follows (applyAll keys) (Parser.level .none (depth + 1) pending operand)
      (Parser.level (.ofKeys keys) (depth + 1)
        (pending.map (Pending.rename (applyAll keys)))
        (operand.map (Expr.rename (applyAll keys)))) := by
  intro stream
  have waiting := (separates_append.mp separates).1
  cases operand with
  | none =>
      rw [Option.map_none]
      by_cases isOperator : stream.head.kind = .operator
      · cases symbol : PrefixOp.ofSymbol? stream.head.value with
        | none =>
            exact .of_ne_ok (fun _ => level_not_prefixOp isOperator symbol)
              fun _ => level_not_prefixOp isOperator symbol
        | some op =>
            rw [level_prefixOp isOperator symbol, level_prefixOp isOperator symbol]
            exact follows.level (.prefixOp op stream.head.span :: pending)
              none separates _
      by_cases isOpening : stream.head.kind = .leftParen
      · rw [level_opening_none isOpening, level_opening_none isOpening]
        exact follows.group_then pending stream.head waiting _
      cases begins : stream.head.kind.beginsOperand with
      | true =>
          rw [level_atom begins, level_atom begins]
          exact follows.operand_then pending waiting _
      | false =>
          rw [level_stop_none isOperator isOpening begins,
            level_stop_none isOperator isOpening begins]
          exact .read separates
  | some left =>
      rw [Option.map_some]
      by_cases isOperator : stream.head.kind = .operator
      · cases symbol : InfixOp.ofSymbol? stream.head.value with
        | none =>
            exact .of_ne_ok (fun _ => level_not_infixOp isOperator symbol)
              fun _ => level_not_infixOp isOperator symbol
        | some op =>
            rw [level_infixOp isOperator symbol, level_infixOp isOperator symbol,
              Pending.pushInfix_rename]
            refine follows.level (Pending.pushInfix op pending left) none
              (fun list member => ?_) _
            simp only [Keyed.keyLists, Option.map_none, Option.getD_none,
              List.append_nil] at member
            exact separates list
              (List.mem_append.mpr (Pending.mem_keyLists_pushInfix.mp member))
      by_cases isOpening : stream.head.kind = .leftParen
      · exact .of_ne_ok (fun _ => level_opening_some isOpening)
          fun _ => level_opening_some isOpening
      · rw [level_stop_some isOperator isOpening,
          level_stop_some isOperator isOpening]
        exact .read separates

/-- So is an expression. -/
theorem expression_succ :
    Follows (applyAll keys) (Parser.expression .none (depth + 1))
      (Parser.expression (.ofKeys keys) (depth + 1)) := by
  rw [Parser.expression, Parser.expression]
  refine .bind (follows.level [] none separates_nil) ?_ ?_
  · rintro ⟨waiting, operand⟩ apart
    cases operand with
    | none => exact .failHere
    | some operand =>
        refine .pure (fun list member => ?_) (Pending.completeAll_rename _ _ _)
        exact apart list (List.mem_append.mpr
          (Pending.mem_keyLists_completeAll.mp member))
  · rintro ⟨waiting, operand⟩ merged merges
    cases operand with
    | none => exact .failHere
    | some operand =>
        exact .pure (merges.of_subset fun list member =>
          Pending.mem_keyLists_completeAll.mpr (List.mem_append.mp member))

/-- An expression is read as a part of a larger one. -/
theorem expression_then {plain renamer : Expr → Parser Expr}
    (further :
      ∀ value : Expr,
        Separates (applyAll keys) value.keyLists →
        Follows (applyAll keys) (plain value)
          (renamer (value.rename (applyAll keys))))
    (keeps :
      ∀ value : Expr,
        Yields (fun result => value.keyLists ⊆ result.keyLists) (plain value)) :
    Follows (applyAll keys) (Parser.expression .none depth >>= plain)
      (Parser.expression (.ofKeys keys) depth >>= renamer) :=
  .bind follows.expression further fun value _ merges =>
    (keeps value).mono fun _ subset => merges.of_subset subset

/-- So are more entries of an object, or its end. -/
theorem moreEntries_follows (entries : List (String × Expr))
    (separates : Separates (applyAll keys) (Keyed.keyLists entries)) :
    Follows (applyAll keys) (moreEntries .none depth entries)
      (moreEntries (.ofKeys keys) depth
        (Expr.renameIn (applyAll keys) entries)) := by
  refine .step fun _ => ?_
  split
  · exact .step fun _ => follows.objectEntries entries separates
  · exact .step fun _ => .pure separates rfl

/-- A further entry is, unless its key meets another one when converted, and
then that is the error. -/
theorem furtherEntry_follows (entries : List (String × Expr)) (key : Token)
    (separates : Separates (applyAll keys) (Keyed.keyLists entries)) :
    Follows (applyAll keys) (furtherEntry .none depth entries key)
      (furtherEntry (.ofKeys keys) depth
        (Expr.renameIn (applyAll keys) entries) key) := by
  obtain ⟨apart, inside⟩ := separates_cons.mp separates
  rw [furtherEntry_none, furtherEntry_ofKeys]
  refine .step fun _ => .step fun _ =>
    .bind follows.expression (fun value valueApart => ?_)
      fun value merged merges => ?_
  · have grown : Expr.renameIn (applyAll keys) entries ++
          [(applyAll keys key.value, Keyed.rename (applyAll keys) value)] =
        Expr.renameIn (applyAll keys) (entries ++ [(key.value, value)]) := by
      simp [Expr.renameIn_eq_map, Keyed.rename]
    rw [grown]
    refine .ifFresh rfl apart (fun distinct => follows.moreEntries_follows _ ?_)
      fun merged merges => (moreEntries_keeps _ _ _).mono fun all begins =>
        Merges.of_entries (merges.of_grows fun list member => ?_) begins
    · refine separates_cons.mpr ⟨by simpa using distinct, ?_⟩
      rw [Expr.keyListsIn_eq_flatMap, List.flatMap_append, separates_append,
        ← Expr.keyListsIn_eq_flatMap]
      exact ⟨inside, by simpa [Keyed.keyLists] using valueApart⟩
    · exact ⟨_, List.mem_cons_self, by simp [List.mem_singleton.mp member]⟩
  · split
    · exact .fail
    · refine (moreEntries_keeps _ _ _).mono fun all begins =>
        Merges.of_entries (merges.of_subset fun list member =>
          List.mem_cons_of_mem _ ?_) begins
      rw [Expr.keyListsIn_eq_flatMap, List.flatMap_append, List.mem_append]
      exact .inr (by simpa [Keyed.keyLists] using member)

/-- So are the entries of an object. -/
theorem objectEntries_succ (entries : List (String × Expr))
    (separates : Separates (applyAll keys) (Keyed.keyLists entries)) :
    Follows (applyAll keys) (Parser.objectEntries .none (depth + 1) entries)
      (Parser.objectEntries (.ofKeys keys) (depth + 1)
        (Expr.renameIn (applyAll keys) entries)) := by
  rw [objectEntries_eq, objectEntries_eq]
  refine .step fun token => ?_
  split
  · exact .step fun _ => .pure separates rfl
  · exact follows.furtherEntry_follows entries token separates
  · exact follows.furtherEntry_follows entries token separates
  · exact follows.furtherEntry_follows entries token separates
  · exact .failHere

/-- The arguments of a color or of a style box. -/
theorem construct_succ (name : Token) :
    Follows (applyAll keys) (Parser.construct .none (depth + 1) name)
      (Parser.construct (.ofKeys keys) (depth + 1) name) := by
  rw [Parser.construct, Parser.construct]
  refine .step fun _ => ?_
  cases StyleBox.ofConstructor? name.value with
  | some box =>
      refine .step fun _ => ?_
      split
      · exact .step fun _ => .step fun _ => .pure separates_nil rfl
      · refine follows.expression_then ?_ ?_
        · intro properties apart
          exact .step fun _ => .step fun _ => .pure apart rfl
        · intro properties
          exact .bind fun _ => .bind fun _ => .pure (List.Subset.refl _)
  | none =>
      refine follows.expression_then (fun red redApart => .step fun _ =>
        follows.expression_then (fun green greenApart => .step fun _ =>
          follows.expression_then (fun blue blueApart => .step fun _ => ?_)
            fun blue => ?_)
            fun green => ?_) fun red => ?_
      · split
        · refine .step fun _ => follows.expression_then
            (fun alpha alphaApart => .step fun _ =>
              .step fun _ => .pure ?_ rfl) fun alpha => .bind fun _ =>
              .bind fun _ => .pure ?_
          · simp only [Keyed.keyLists, Expr.keyLists, separates_append]
            exact ⟨⟨⟨redApart, greenApart⟩, blueApart⟩, alphaApart⟩
          · exact List.subset_append_right _ _
        · refine .step fun _ => .step fun _ => .pure ?_ rfl
          simp only [Keyed.keyLists, Expr.keyLists, separates_append]
          exact ⟨⟨⟨redApart, greenApart⟩, blueApart⟩, separates_nil⟩
      · exact (colorEnd_keeps _ _ _ red green blue).mono fun _ kept _ member =>
          kept (List.mem_append_right _ member)
      · refine .bind ?_
        intro _
        refine .bind ?_
        intro blue
        refine (colorEnd_keeps _ _ _ red green blue).mono ?_
        intro _ kept _ member
        exact kept (List.mem_append_left _ (List.mem_append_right _ member))
      · exact .bind fun _ => .bind fun green => .bind fun _ => .bind fun blue =>
          (colorEnd_keeps _ _ _ red green blue).mono fun _ kept _ member =>
            kept (List.mem_append_left _ (List.mem_append_left _ member))

/-- And so is an operand of any kind. -/
theorem operandAt_succ :
    Follows (applyAll keys) (Parser.operandAt .none (depth + 1))
      (Parser.operandAt (.ofKeys keys) (depth + 1)) := by
  rw [Parser.operandAt, Parser.operandAt]
  refine .step fun token => ?_
  have referred : Follows (applyAll keys)
      (do pure (.reference (← reference token)) : Parser Expr)
      (do pure (.reference (← reference token))) :=
    .step fun _ => .pure separates_nil rfl
  cases token.kind
  case text => exact .pure separates_nil rfl
  case integer =>
    cases Decimal.readInt? token.value.toList with
    | none => exact .fail
    | some value => exact .pure separates_nil rfl
  case float =>
    cases Decimal.readFloat? token.value.toList with
    | none => exact .fail
    | some value => exact .pure separates_nil rfl
  case boolean => exact .pure separates_nil rfl
  case null => exact .pure separates_nil rfl
  case resource =>
    refine .step ?_
    intro _
    refine follows.expression_then ?_ ?_
    · intro path apart
      exact .step fun _ => .step fun _ => .pure apart rfl
    · intro path
      exact .bind fun _ => .bind fun _ => .pure (List.Subset.refl _)
  case vec2 =>
    refine .step fun _ => follows.expression_then (fun x xApart => .step fun _ =>
      follows.expression_then (fun y yApart => .step fun _ => .step fun _ =>
        .pure (separates_append.mpr ⟨xApart, yApart⟩) rfl) fun y => ?_) fun x => ?_
    · exact .bind fun _ => .bind fun _ => .pure (by simp [Expr.keyLists])
    · exact .bind fun _ => .bind fun _ => .bind fun _ => .bind fun _ =>
        .pure (by simp [Expr.keyLists])
  case leftBrace =>
    refine .bind (follows.objectEntries []
      (separates_cons.mpr ⟨by simp, separates_nil⟩)) ?_ ?_
    · intro entries apart
      exact .step fun _ => .pure apart rfl
    · intro entries merged merges
      exact .bind fun _ => .pure merges
  case name =>
    refine .step fun _ => ?_
    split
    · exact follows.construct token
    · exact referred
  all_goals exact referred

end FollowsExpressions

/-- However deeply they may nest, the parsers of expressions follow those
without converters. -/
theorem followsExpressions (keys : List (String → String)) : ∀ depth : Nat,
    FollowsExpressions keys depth
  | 0 =>
    { level := fun _ _ _ => by
        rw [Parser.level, Parser.level]
        exact .failHere
      expression := by
        rw [Parser.expression, Parser.expression]
        exact .failHere
      operandAt := by
        rw [Parser.operandAt, Parser.operandAt]
        exact .failHere
      objectEntries := fun _ _ => by
        rw [Parser.objectEntries, Parser.objectEntries]
        exact .failHere
      construct := fun _ => by
        rw [Parser.construct, Parser.construct]
        exact .failHere }
  | depth + 1 =>
    { level := (followsExpressions keys depth).level_succ
      expression := (followsExpressions keys depth).expression_succ
      operandAt := (followsExpressions keys depth).operandAt_succ
      objectEntries := (followsExpressions keys depth).objectEntries_succ
      construct := (followsExpressions keys depth).construct_succ }

end Parser

end LiveMarkup
