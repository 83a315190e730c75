import LiveMarkup.Proofs.Grammar.Expressions
import LiveMarkup.Proofs.Parsing.ExpressionSteps

/-!
# Parsed expressions are derivable

Whatever the expression parser returns is derived by the grammar from the
tokens that the parser has passed.

The operators that wait for their right operand are described by `Waiting`:
from the innermost one outwards the infix operators get strictly looser, and
prefix operators stand only on top.  Reading one more token keeps this
description, and completing all waiting operators turns it into a derivation.
-/

namespace LiveMarkup.Grammar

open LiveMarkup.Parser

/-! ## Operators that wait for their right operand -/

/--
Tokens read as operators that still wait.  An operand of the given layer, or
of a tighter one, may come next.
-/
inductive Waiting : Nat → List Token → List Pending → Prop where
  | start : Waiting 0 [] []
  | infixOp {layer : Nat} {tokens leftTokens : List Token} {pending : List Pending}
      {left : Expr} (waiting : Waiting layer tokens pending)
      (operator : Token) (op : InfixOp)
      (kind : operator.kind = .operator)
      (symbol : InfixOp.ofSymbol? operator.value = some op)
      (tighter : layer ≤ layerOf op)
      (derived : Derives (layerOf op) leftTokens left) :
      Waiting (layerOf op + 1) (tokens ++ leftTokens ++ [operator])
        (.infixOp op left :: pending)
  | prefixOp {layer : Nat} {tokens : List Token} {pending : List Pending}
      (waiting : Waiting layer tokens pending) (operator : Token)
      (op : PrefixOp) (kind : operator.kind = .operator)
      (symbol : PrefixOp.ofSymbol? operator.value = some op) :
      Waiting prefixLayer (tokens ++ [operator])
        (.prefixOp op operator.span :: pending)

theorem Waiting.bounded {layer : Nat} {tokens : List Token} {pending : List Pending}
    (waiting : Waiting layer tokens pending) : layer ≤ prefixLayer := by
  cases waiting with
  | start => exact Nat.zero_le _
  | infixOp _ _ op => exact layerOf_lt_prefixLayer op
  | prefixOp => exact Nat.le_refl _

/-- Completing all waiting operators derives an expression. -/
theorem Waiting.completeAll {layer : Nat} {tokens : List Token}
    {pending : List Pending} (waiting : Waiting layer tokens pending) :
    ∀ {operandTokens : List Token} {operand : Expr},
      Derives layer operandTokens operand →
      Derives 0 (tokens ++ operandTokens)
        (Pending.completeAll pending operand) := by
  induction waiting with
  | start =>
      intro operandTokens operand derived
      exact derived
  | @infixOp layer tokens leftTokens pending left waiting operator op kind
      symbol tighter leftDerived induction =>
      intro operandTokens operand derived
      have whole :=
        (Derives.infixOp operator op kind symbol leftDerived derived).loosen tighter
          (Nat.le_of_lt (layerOf_lt_prefixLayer op))
      simpa [Pending.completeAll, Pending.complete] using induction whole
  | @prefixOp layer tokens pending waiting operator op kind symbol induction =>
      intro operandTokens operand derived
      have whole :=
        (Derives.prefixOp operator op kind symbol derived).loosen waiting.bounded
          (Nat.le_refl _)
      simpa [Pending.completeAll, Pending.complete] using induction whole

/--
A new infix operator completes the waiting ones that bind at least as tightly
and then waits itself.
-/
theorem Waiting.pushInfix {layer : Nat} {tokens : List Token}
    {pending : List Pending} (waiting : Waiting layer tokens pending)
    (operator : Token) (op : InfixOp) (kind : operator.kind = .operator)
    (symbol : InfixOp.ofSymbol? operator.value = some op) :
    ∀ {operandLayer : Nat} {operandTokens : List Token} {operand : Expr},
      layer ≤ operandLayer → layerOf op ≤ operandLayer →
      operandLayer ≤ prefixLayer →
      Derives operandLayer operandTokens operand →
      Waiting (layerOf op + 1) (tokens ++ operandTokens ++ [operator])
        (Pending.pushInfix op pending operand) := by
  induction waiting with
  | start =>
      intro operandLayer operandTokens operand _ looser bounded derived
      exact .infixOp .start operator op kind symbol (Nat.zero_le _)
        (derived.loosen looser bounded)
  | @infixOp layer tokens leftTokens pending left waiting inner innerOp
      innerKind innerSymbol tighter leftDerived induction =>
      intro operandLayer operandTokens operand follows looser bounded derived
      rw [Pending.pushInfix]
      split
      case isTrue binds =>
        have whole :=
          Derives.infixOp inner innerOp innerKind innerSymbol leftDerived
            (derived.loosen follows bounded)
        have pushed :=
          induction tighter ((precedence_le_iff op innerOp).mp binds)
            (Nat.le_of_lt (layerOf_lt_prefixLayer innerOp)) whole
        simpa [Pending.complete] using pushed
      case isFalse loose =>
        have stacked : layerOf innerOp + 1 ≤ layerOf op :=
          (precedence_lt_iff innerOp op).mp (Nat.not_le.mp loose)
        exact .infixOp
          (.infixOp waiting inner innerOp innerKind innerSymbol tighter leftDerived)
          operator op kind symbol stacked (derived.loosen looser bounded)
  | @prefixOp layer tokens pending waiting inner innerOp innerKind innerSymbol
      induction =>
      intro operandLayer operandTokens operand follows looser bounded derived
      have binds :
          op.precedence ≤ (Pending.prefixOp innerOp inner.span).precedence :=
        Nat.le_of_lt (InfixOp.precedence_lt_prefixOp op)
      rw [Pending.pushInfix, if_pos binds]
      have whole :=
        Derives.prefixOp inner innerOp innerKind innerSymbol
          (derived.loosen follows bounded)
      have pushed :=
        induction waiting.bounded (Nat.le_of_lt (layerOf_lt_prefixLayer op))
          (Nat.le_refl _) whole
      simpa [Pending.complete] using pushed

/-! ## Tokens that end an expression -/

theorem endsInReference_append {before after : List Token} (nonempty : after ≠ []) :
    endsInReference (before ++ after) = endsInReference after := by
  rw [endsInReference, endsInReference, List.getLast?_append]
  cases last : after.getLast? with
  | none => exact absurd (List.getLast?_eq_none_iff.mp last) nonempty
  | some token => rfl

theorem endsInReference_concat (before : List Token) (last : Token) :
    endsInReference (before ++ [last]) =
      (last.kind == .globalRef || last.kind == .aliasRef ||
         last.kind == .name) := by
  rw [endsInReference_append (by simp)]
  rfl

theorem not_endsInReference_of_closing (before : List Token) {last : Token}
    (kind : last.kind = .rightParen ∨ last.kind = .rightBrace) :
    ¬ endsInReference (before ++ [last]) := by
  rcases kind with kind | kind <;> simp [endsInReference_concat, kind]

/-- No expression is derived from no tokens. -/
theorem Derives.tokens_ne_nil {layer : Nat} {tokens : List Token} {expr : Expr} :
    Derives layer tokens expr → tokens ≠ []
  | .infixOp .. => by simp
  | .tighter _ derived => derived.tokens_ne_nil
  | .prefixOp .. => by simp
  | .group .. => by simp
  | .atom derived => by
      cases derived with
      | reference derived => cases derived <;> simp
      | _ => simp

/-! ## Soundness of the parser -/

/--
What a level of the parser has read: operators that wait, and the operand
after them once there is one.  A property may not be read off that operand by
the token to come.
-/
inductive Holding : List Token → List Pending → Option Expr → TokenKind → Prop where
  | awaiting {layer : Nat} {tokens : List Token} {pending : List Pending}
      {next : TokenKind} (waiting : Waiting layer tokens pending) :
      Holding tokens pending none next
  | operand {layer : Nat} {tokens operandTokens : List Token}
      {pending : List Pending} {operand : Expr} {next : TokenKind}
      (waiting : Waiting layer tokens pending)
      (derived : Derives prefixLayer operandTokens operand)
      (stops : endsInReference operandTokens → next ≠ .dot) :
      Holding (tokens ++ operandTokens) pending (some operand) next

/-- Everything held together is an expression. -/
theorem Holding.completeAll {tokens : List Token} {pending : List Pending}
    {operand : Expr} {next : TokenKind}
    (holding : Holding tokens pending (some operand) next) :
    Derives 0 tokens (Pending.completeAll pending operand) ∧
    (endsInReference tokens → next ≠ .dot) := by
  cases holding with
  | operand waiting derived stops =>
      constructor
      · exact waiting.completeAll (derived.loosen waiting.bounded (Nat.le_refl _))
      · rw [endsInReference_append derived.tokens_ne_nil]
        exact stops

/-- The statements of soundness for the parsers that nest at most `depth` deep. -/
structure Sound (depth : Nat) : Prop where
  level : ∀ {tokens : List Token} {pending : List Pending} {operand : Option Expr}
      {stream rest : TokenStream} {result : List Pending × Option Expr},
    stream.final.kind = .endOfInput →
      Holding tokens pending operand stream.head.kind →
        Parser.level .none depth pending operand stream = .ok (result, rest) →
          ∃ passed,
            stream.Passes passed rest ∧
              Holding (tokens ++ passed) result.1 result.2 rest.head.kind ∧
                rest.head.kind ≠ .operator ∧ rest.head.kind ≠ .leftParen
  expression : ∀ {stream rest : TokenStream} {expr : Expr},
      stream.final.kind = .endOfInput →
      Parser.expression .none depth stream = .ok (expr, rest) →
      ∃ passed,
        stream.Passes passed rest ∧ Derives 0 passed expr ∧
        CannotExtend passed rest.head
  operand : ∀ {stream rest : TokenStream} {expr : Expr},
    stream.final.kind = .endOfInput →
      stream.head.kind.beginsOperand = true →
        Parser.operandAt .none depth stream = .ok (expr, rest) →
          ∃ passed,
            stream.Passes passed rest ∧ DerivesAtom passed expr ∧
              (endsInReference passed → rest.head.kind ≠ .dot)
  entries : ∀ {stream rest : TokenStream} {before all : List (String × Expr)},
    stream.final.kind = .endOfInput →
      (before.map Prod.fst).Nodup →
        Parser.objectEntries .none depth before stream = .ok (all, rest) →
          ∃ passed closing entries,
            stream.Passes (passed ++ [closing]) rest ∧ closing.kind = .rightBrace ∧
              DerivesEntries passed entries ∧ all = before ++ entries ∧
                (all.map Prod.fst).Nodup
  construct : ∀ {stream rest : TokenStream} {name : Token} {expr : Expr},
    stream.final.kind = .endOfInput →
      name.kind = .name → isConstructor name.value = true →
        Parser.construct .none depth name stream = .ok (expr, rest) →
          ∃ passed closing,
            stream.Passes (passed ++ [closing]) rest ∧ closing.kind = .rightParen ∧
              DerivesAtom (name :: passed ++ [closing]) expr

/-- A level is read token by token, and what it holds stays described. -/
theorem Sound.level_succ {depth : Nat} (sound : Sound depth)
    {tokens : List Token} {pending : List Pending} {operand : Option Expr}
    {stream rest : TokenStream} {result : List Pending × Option Expr}
    (ends : stream.final.kind = .endOfInput)
    (holding : Holding tokens pending operand stream.head.kind)
    (parsed :
      Parser.level .none (depth + 1) pending operand stream =
        .ok (result, rest)) :
    ∃ passed,
      stream.Passes passed rest ∧
      Holding (tokens ++ passed) result.1 result.2 rest.head.kind ∧
      rest.head.kind ≠ .operator ∧ rest.head.kind ≠ .leftParen := by
  -- One more token has been read, and the rest of the level is read after it.
  have continued {passed : List Token} {pending : List Pending}
      {operand : Option Expr} {middle : TokenStream}
      (passes : stream.Passes passed middle)
      (holding : Holding (tokens ++ passed) pending operand middle.head.kind)
      (parsed : Parser.level .none depth pending operand middle =
        .ok (result, rest)) : ∃ passed,
      stream.Passes passed rest ∧
      Holding (tokens ++ passed) result.1 result.2 rest.head.kind ∧
      rest.head.kind ≠ .operator ∧ rest.head.kind ≠ .leftParen := by
    obtain ⟨further, furtherPasses, held, stops⟩ :=
      sound.level (by rw [passes.final, ends]) holding parsed
    refine ⟨passed ++ further, passes.trans furtherPasses, ?_, stops⟩
    simpa using held
  have stopped (notOperator : stream.head.kind ≠ .operator)
      (notOpening : stream.head.kind ≠ .leftParen)
      (finished : .ok ((pending, operand), stream) =
        (.ok (result, rest) : Except ParseError _)) :
      ∃ passed,
        stream.Passes passed rest ∧
          Holding (tokens ++ passed) result.1 result.2 rest.head.kind ∧
            rest.head.kind ≠ .operator ∧ rest.head.kind ≠ .leftParen := by
    cases finished
    exact ⟨[], .refl stream, by simpa using holding, notOperator, notOpening⟩
  have passesHead (further : stream.head.kind ≠ .endOfInput) :=
    TokenStream.passes_tail ends further
  by_cases isOperator : stream.head.kind = .operator
  · have taken := passesHead (by simp [isOperator])
    cases holding with
    | awaiting waiting =>
        cases symbol : PrefixOp.ofSymbol? stream.head.value with
        | none => exact absurd parsed (level_not_prefixOp isOperator symbol)
        | some op =>
            rw [level_prefixOp isOperator symbol] at parsed
            exact continued taken
              (.awaiting (waiting.prefixOp _ op isOperator symbol)) parsed
    | operand waiting derived stops =>
        cases symbol : InfixOp.ofSymbol? stream.head.value with
        | none => exact absurd parsed (level_not_infixOp isOperator symbol)
        | some op =>
            rw [level_infixOp isOperator symbol] at parsed
            have pushed :=
              waiting.pushInfix _ op isOperator symbol waiting.bounded
                (Nat.le_of_lt (layerOf_lt_prefixLayer op)) (Nat.le_refl _) derived
            exact continued taken (.awaiting pushed) parsed
  by_cases isOpening : stream.head.kind = .leftParen
  · have taken := passesHead (by simp [isOpening])
    cases holding with
    | operand waiting derived stops =>
      exact absurd parsed (level_opening_some isOpening)
    | awaiting waiting =>
        rw [level_opening_none isOpening] at parsed
        obtain ⟨⟨innerPending, innerOperand⟩, middle, inner, parsed⟩ :=
          bind_eq_ok.mp parsed
        obtain ⟨passed, innerPasses, held, -⟩ :=
          sound.level (by rw [taken.final, ends]) (.awaiting .start) inner
        have middleEnds : middle.final.kind = .endOfInput := by
          rw [innerPasses.final, taken.final, ends]
        simp only [bind_apply, peek_apply, beq_iff_eq] at parsed
        split at parsed
        case isFalse => exact absurd parsed failHere_ne_ok
        case isTrue isClosing =>
          cases innerOperand with
          | none =>
            exact absurd parsed
              (by simp [bind_apply, finish, unexpected, failHere])
          | some innerOperand =>
              simp only [bind_apply, finish_some, next_apply] at parsed
              have closes :=
                TokenStream.passes_tail middleEnds (by simp [isClosing])
              have whole :
                  Derives prefixLayer
                    (stream.head :: passed ++ [middle.head]) _ :=
                .group _ _ isOpening isClosing held.completeAll.1
              refine continued ((taken.trans innerPasses).trans closes) ?_ parsed
              have extended : Holding _ _ _ middle.tail.head.kind :=
                .operand waiting whole fun isReference =>
                  absurd isReference
                    (not_endsInReference_of_closing (stream.head :: passed)
                      (.inl isClosing))
              simpa using extended
  cases operand with
  | some operand =>
      rw [level_stop_some isOperator isOpening] at parsed
      exact stopped isOperator isOpening parsed
  | none =>
      cases begins : stream.head.kind.beginsOperand with
      | false =>
          rw [level_stop_none isOperator isOpening begins] at parsed
          exact stopped isOperator isOpening parsed
      | true =>
          rw [level_atom begins] at parsed
          obtain ⟨atom, middle, read, parsed⟩ := bind_eq_ok.mp parsed
          obtain ⟨passed, passes, derived, stops⟩ := sound.operand ends begins read
          cases holding with
          | awaiting waiting =>
              exact continued passes (.operand waiting (.atom derived) stops) parsed

/-- An expression is a level that nothing surrounds. -/
theorem Sound.expression_succ {depth : Nat} (sound : Sound depth)
    {stream rest : TokenStream} {expr : Expr}
    (ends : stream.final.kind = .endOfInput)
    (parsed : Parser.expression .none (depth + 1) stream = .ok (expr, rest)) :
    ∃ passed,
      stream.Passes passed rest ∧ Derives 0 passed expr ∧
      CannotExtend passed rest.head := by
  rw [Parser.expression] at parsed
  obtain ⟨⟨pending, operand⟩, middle, read, finished⟩ := bind_eq_ok.mp parsed
  obtain ⟨passed, passes, held, notOperator, notOpening⟩ :=
    sound.level ends (.awaiting .start) read
  cases operand with
  | none => exact absurd finished finish_none
  | some operand =>
      cases finished
      exact ⟨passed, passes, held.completeAll.1, notOperator, notOpening,
        held.completeAll.2⟩

/-- The properties read off a reference extend its derivation. -/
theorem chain_sound {start : Span} :
    ∀ {bound : Nat} {tokens : List Token} {base target : Reference}
        {stream rest : TokenStream},
      stream.final.kind = .endOfInput → stream.upcoming.length ≤ bound →
      DerivesReference tokens base →
      (∀ last, start.through last = base.span.through last) →
      Parser.chain start bound base stream = .ok (target, rest) →
      ∃ passed,
        stream.Passes passed rest ∧
        DerivesReference (tokens ++ passed) target ∧
        rest.head.kind ≠ .dot := by
  intro bound
  induction bound with
  | zero =>
      intro tokens base target stream rest ends short derived _ parsed
      have empty : stream.upcoming = [] :=
        List.length_eq_zero_iff.mp (Nat.le_zero.mp short)
      rw [Parser.chain] at parsed
      cases parsed
      refine ⟨[], .refl stream, by simpa using derived, ?_⟩
      simp [TokenStream.head, empty, ends]
  | succ bound induction =>
      intro tokens base target stream rest ends short derived starts parsed
      rw [Parser.chain] at parsed
      simp only [bind_apply, peek_apply, beq_iff_eq] at parsed
      split at parsed
      case isFalse notDot =>
        cases parsed
        exact ⟨[], .refl stream, by simpa using derived, notDot⟩
      case isTrue isDot =>
        have dotPasses := TokenStream.passes_tail ends (by simp [isDot])
        have tailEnds : stream.tail.final.kind = .endOfInput := by
          rw [dotPasses.final, ends]
        obtain ⟨dot, afterDot, dotRead, parsed⟩ := bind_eq_ok.mp parsed
        cases dotRead
        obtain ⟨name, afterName, nameRead, parsed⟩ := bind_eq_ok.mp parsed
        obtain ⟨nameKind, namePasses⟩ := expect_eq_ok tailEnds (by simp) nameRead
        have bothPass := dotPasses.trans namePasses
        have shorter : afterName.upcoming.length ≤ bound := by
          have := congrArg List.length bothPass.upcoming
          simp at this
          omega
        obtain ⟨passed, passes, whole, stops⟩ :=
          induction (by rw [bothPass.final, ends]) shorter
            (derived.property stream.head name isDot nameKind)
            (fun last => starts last) (starts name.span ▸ parsed)
        exact ⟨_, bothPass.trans passes, by simpa using whole, stops⟩

/-- A reference that was read is one of the grammar, and no further dot follows.
-/
theorem reference_sound {head : Token} {stream rest : TokenStream}
    {target : Reference} (ends : stream.final.kind = .endOfInput)
    (kind : head.kind = .globalRef ∨ head.kind = .aliasRef ∨ head.kind = .name)
    (parsed : Parser.reference head stream = .ok (target, rest)) :
    ∃ passed,
      stream.Passes passed rest ∧
      DerivesReference (head :: passed) target ∧ rest.head.kind ≠ .dot := by
  have start : ∃ base,
      DerivesReference [head] base ∧
      (∀ last, head.span.through last = base.span.through last) ∧
      Parser.chain head.span stream.upcoming.length base stream =
        .ok (target, rest) := by
    rcases kind with kind | kind | kind
    · refine ⟨_, .global head kind, fun _ => rfl, ?_⟩
      simpa [Parser.reference, kind] using parsed
    · refine ⟨_, .aliased head kind, fun _ => rfl, ?_⟩
      simpa [Parser.reference, kind] using parsed
    · refine ⟨_, .local head kind, fun _ => rfl, ?_⟩
      simpa [Parser.reference, kind] using parsed
  obtain ⟨base, derived, starts, chained⟩ := start
  exact chain_sound ends (Nat.le_refl _) derived starts chained

theorem DerivesReference.starts {tokens : List Token} {target : Reference}
    (derived : DerivesReference tokens target) : tokens ≠ [] := by
  cases derived <;> simp

/-- The stop of the closing token is the end of a composite literal. -/
theorem lastStop_of_closing {stream rest : TokenStream} {passed : List Token}
    {closing : Token} (passes : stream.Passes (passed ++ [closing]) rest) :
    rest.lastStop = closing.span.stop := by
  simp [passes.lastStop]

/-- An expression that a token of a certain kind must follow. -/
theorem Sound.followed {depth : Nat} (sound : Sound depth) {β : Type}
    {stream : TokenStream} {kind : TokenKind} {result : β × TokenStream}
    {further : Expr → Token → Parser β}
    (ends : stream.final.kind = .endOfInput) (notLast : kind ≠ .endOfInput)
    (parsed :
      (Parser.expression .none depth >>= fun expr =>
        expect kind >>= fun token => further expr token) stream = .ok result) :
    ∃ expr token tokens middle,
      stream.Passes (tokens ++ [token]) middle ∧ middle.final.kind = .endOfInput ∧
        Derives 0 tokens expr ∧ token.kind = kind ∧
          further expr token middle = .ok result := by
  obtain ⟨value, rest⟩ := result
  obtain ⟨expr, afterExpr, exprRead, parsed⟩ := bind_eq_ok.mp parsed
  obtain ⟨tokens, exprPasses, derived, -⟩ := sound.expression ends exprRead
  have exprEnds : afterExpr.final.kind = .endOfInput := by
    rw [exprPasses.final, ends]
  obtain ⟨token, middle, tokenRead, parsed⟩ := bind_eq_ok.mp parsed
  obtain ⟨tokenKind, tokenPasses⟩ := expect_eq_ok exprEnds notLast tokenRead
  refine ⟨expr, token, tokens, middle, exprPasses.trans tokenPasses, ?_, derived,
    tokenKind, parsed⟩
  rw [tokenPasses.final, exprEnds]

/-- The arguments of a style box. -/
theorem Sound.style_succ {depth : Nat} (sound : Sound depth)
    {stream rest : TokenStream} {name : Token} {box : StyleBox} {expr : Expr}
    (ends : stream.final.kind = .endOfInput) (nameKind : name.kind = .name)
    (boxName : StyleBox.ofConstructor? name.value = some box)
    (parsed : Parser.construct .none (depth + 1) name stream = .ok (expr, rest)) :
    ∃ passed closing,
      stream.Passes (passed ++ [closing]) rest ∧ closing.kind = .rightParen ∧
      DerivesAtom (name :: passed ++ [closing]) expr := by
  rw [Parser.construct] at parsed
  obtain ⟨opening, afterOpening, openingRead, parsed⟩ := bind_eq_ok.mp parsed
  obtain ⟨openingKind, openingPasses⟩ := expect_eq_ok ends (by simp) openingRead
  have openingEnds : afterOpening.final.kind = .endOfInput := by
    rw [openingPasses.final, ends]
  simp only [boxName, bind_apply peek, peek_apply, beq_iff_eq] at parsed
  split at parsed
  case isTrue closed =>
    have closes := TokenStream.passes_tail openingEnds (by simp [closed])
    simp only [bind_apply, next_apply, lastStop_apply, pure_apply] at parsed
    cases parsed
    refine ⟨[opening], afterOpening.head, openingPasses.trans closes, closed, ?_⟩
    rw [lastStop_of_closing (openingPasses.trans closes)]
    exact .plainStyle box name opening _ nameKind boxName openingKind closed
  case isFalse =>
    obtain ⟨properties, closing, tokens, afterClosing, propertiesPass, -, derived,
      closingKind, parsed⟩ := sound.followed openingEnds (by simp) parsed
    have passes :
        stream.Passes ((opening :: tokens) ++ [closing]) afterClosing := by
      simpa using openingPasses.trans propertiesPass
    simp only [bind_apply, lastStop_apply, pure_apply] at parsed
    cases parsed
    refine ⟨opening :: tokens, closing, passes, closingKind, ?_⟩
    rw [lastStop_of_closing passes]
    exact .style box name opening closing nameKind boxName openingKind
      closingKind derived

/-- The arguments of a color. -/
theorem Sound.color_succ {depth : Nat} (sound : Sound depth)
    {stream rest : TokenStream} {name : Token} {expr : Expr}
    (ends : stream.final.kind = .endOfInput)
    (nameKind : name.kind = .name) (isColor : name.value = "color")
    (parsed : Parser.construct .none (depth + 1) name stream = .ok (expr, rest)) :
    ∃ passed closing,
      stream.Passes (passed ++ [closing]) rest ∧ closing.kind = .rightParen ∧
        DerivesAtom (name :: passed ++ [closing]) expr := by
  have noBox : StyleBox.ofConstructor? name.value = none := by rw [isColor]; rfl
  rw [Parser.construct] at parsed
  obtain ⟨opening, afterOpening, openingRead, parsed⟩ := bind_eq_ok.mp parsed
  obtain ⟨openingKind, openingPasses⟩ := expect_eq_ok ends (by simp) openingRead
  have openingEnds : afterOpening.final.kind = .endOfInput := by
    rw [openingPasses.final, ends]
  simp only [noBox] at parsed
  obtain ⟨red, firstComma, redTokens, afterRed, redPass, redEnds, redDerived,
      firstKind, parsed⟩ :=
    sound.followed openingEnds (by simp) parsed
  obtain ⟨green, secondComma, greenTokens, afterGreen, greenPass, greenEnds,
      greenDerived, secondKind, parsed⟩ :=
    sound.followed redEnds (by simp) parsed
  obtain ⟨blue, afterBlue, blueRead, parsed⟩ := bind_eq_ok.mp parsed
  obtain ⟨blueTokens, bluePass, blueDerived, -⟩ :=
    sound.expression greenEnds blueRead
  have blueEnds : afterBlue.final.kind = .endOfInput := by
    rw [bluePass.final, greenEnds]
  have threePass := ((openingPasses.trans redPass).trans greenPass).trans bluePass
  simp only [bind_apply peek, peek_apply, beq_iff_eq] at parsed
  split at parsed
  case isTrue thirdKind =>
    have thirdPass := TokenStream.passes_tail blueEnds (by simp [thirdKind])
    simp only [bind_apply next, next_apply] at parsed
    obtain ⟨alpha, closing, alphaTokens, afterClosing, alphaPass, -, alphaDerived,
      closingKind, parsed⟩ :=
      sound.followed (by rw [thirdPass.final, blueEnds]) (by simp) parsed
    have derived :=
      DerivesAtom.color name opening firstComma secondComma afterBlue.head
        closing nameKind isColor openingKind firstKind secondKind thirdKind
        closingKind redDerived greenDerived blueDerived alphaDerived
    have passes : stream.Passes ((opening :: redTokens ++ firstComma :: greenTokens
        ++ secondComma :: blueTokens ++ afterBlue.head :: alphaTokens) ++ [closing])
        afterClosing := by
      simpa using (threePass.trans thirdPass).trans alphaPass
    simp only [bind_apply, lastStop_apply, pure_apply] at parsed
    cases parsed
    refine ⟨_, closing, passes, closingKind, ?_⟩
    rw [lastStop_of_closing passes]
    simpa [Span.through] using derived
  case isFalse =>
    obtain ⟨closing, afterClosing, closingRead, parsed⟩ := bind_eq_ok.mp parsed
    obtain ⟨closingKind, closingPass⟩ := expect_eq_ok blueEnds (by simp) closingRead
    simp only [bind_apply, lastStop_apply, pure_apply] at parsed
    cases parsed
    have derived :=
      DerivesAtom.solidColor name opening firstComma secondComma closing
        nameKind isColor openingKind firstKind secondKind closingKind redDerived
        greenDerived blueDerived
    have passes := threePass.trans closingPass
    refine ⟨_, closing, passes, closingKind, ?_⟩
    rw [lastStop_of_closing passes]
    simpa [Span.through] using derived

/-- The entries of an object literal, with those that were read before. -/
theorem Sound.entries_succ {depth : Nat} (sound : Sound depth)
    {stream rest : TokenStream} {before all : List (String × Expr)}
    (ends : stream.final.kind = .endOfInput)
    (distinct : (before.map Prod.fst).Nodup)
    (parsed :
      Parser.objectEntries .none (depth + 1) before stream = .ok (all, rest)) :
    ∃ passed closing entries,
      stream.Passes (passed ++ [closing]) rest ∧ closing.kind = .rightBrace ∧
      DerivesEntries passed entries ∧ all = before ++ entries ∧
      (all.map Prod.fst).Nodup := by
  by_cases closed : stream.head.kind = .rightBrace
  · have closes := TokenStream.passes_tail ends (by simp [closed])
    rw [objectEntries_closing closed] at parsed
    cases parsed
    exact ⟨[], stream.head, [], closes, closed, .nil, by simp, distinct⟩
  by_cases keyKind :
      stream.head.kind = .name ∨ stream.head.kind = .component ∨
      stream.head.kind = .text
  · have keyPasses := TokenStream.passes_tail ends
      (by rcases keyKind with kind | kind | kind <;> simp [kind])
    have keyEnds : stream.tail.final.kind = .endOfInput := by
      rw [keyPasses.final, ends]
    rw [objectEntries_key keyKind] at parsed
    obtain ⟨colon, afterColon, colonRead, parsed⟩ := bind_eq_ok.mp parsed
    obtain ⟨colonKind, colonPasses⟩ := expect_eq_ok keyEnds (by simp) colonRead
    have colonEnds : afterColon.final.kind = .endOfInput := by
      rw [colonPasses.final, keyEnds]
    obtain ⟨written, afterValue, valueRead, parsed⟩ := bind_eq_ok.mp parsed
    obtain ⟨tokens, valuePasses, derived, -⟩ := sound.expression colonEnds valueRead
    have valueEnds : afterValue.final.kind = .endOfInput := by
      rw [valuePasses.final, colonEnds]
    have entryPasses := (keyPasses.trans colonPasses).trans valuePasses
    split at parsed
    case isTrue => exact absurd parsed fail_ne_ok
    case isFalse fresh =>
      have stillDistinct :
          ((before ++ [(stream.head.value, written)]).map Prod.fst).Nodup := by
        rw [List.map_append, List.nodup_append]
        refine ⟨distinct, by simp, ?_⟩
        intro key member other equal
        simp only [List.map_cons, List.map_nil, List.mem_singleton] at equal
        rw [equal]
        intro repeated
        apply fresh
        obtain ⟨entry, entryMember, named⟩ := List.mem_map.mp member
        exact List.any_eq_true.mpr ⟨entry, entryMember, by simp [named, repeated]⟩
      simp only [bind_apply peek, peek_apply, beq_iff_eq] at parsed
      split at parsed
      case isTrue commaKind =>
        have commaPasses := TokenStream.passes_tail valueEnds (by simp [commaKind])
        simp only [bind_apply next, next_apply] at parsed
        obtain ⟨passed, closing, others, othersPass, closingKind, othersDerived,
          equal, allDistinct⟩ :=
          sound.entries (by rw [commaPasses.final, valueEnds]) stillDistinct parsed
        refine ⟨stream.head :: colon :: tokens ++ afterValue.head :: passed,
          closing, (stream.head.value, written) :: others, ?_, closingKind, ?_,
          ?_, allDistinct⟩
        · simpa using (entryPasses.trans commaPasses).trans othersPass
        · exact .cons _ _ _ keyKind colonKind commaKind derived othersDerived
        · simpa using equal
      case isFalse =>
        obtain ⟨closing, afterClosing, closingRead, finished⟩ :=
          bind_eq_ok.mp parsed
        obtain ⟨closingKind, closingPasses⟩ :=
          expect_eq_ok valueEnds (by simp) closingRead
        rw [pure_apply] at finished
        cases finished
        refine ⟨stream.head :: colon :: tokens, closing,
          [(stream.head.value, written)], ?_, closingKind,
          .last _ _ keyKind colonKind derived, rfl, stillDistinct⟩
        simpa using entryPasses.trans closingPasses
  · exact absurd parsed (objectEntries_not_key closed keyKind)

/-- An operand is a literal, a reference or a composite literal. -/
theorem Sound.operand_succ {depth : Nat} (sound : Sound depth)
    {stream rest : TokenStream} {expr : Expr}
    (ends : stream.final.kind = .endOfInput)
    (begins : stream.head.kind.beginsOperand = true)
    (parsed : Parser.operandAt .none (depth + 1) stream = .ok (expr, rest)) :
    ∃ passed,
      stream.Passes passed rest ∧ DerivesAtom passed expr ∧
        (endsInReference passed → rest.head.kind ≠ .dot) := by
  have headPasses := TokenStream.passes_tail ends
    (by intro kind; simp [kind, TokenKind.beginsOperand] at begins)
  have headEnds : stream.tail.final.kind = .endOfInput := by
    rw [headPasses.final, ends]
  have literal (derived : DerivesAtom [stream.head] expr)
      (equal : rest = stream.tail)
      (kind : endsInReference [stream.head] = false) : ∃ passed,
      stream.Passes passed rest ∧ DerivesAtom passed expr ∧
      (endsInReference passed → rest.head.kind ≠ .dot) := by
    subst equal
    exact ⟨_, headPasses, derived, by simp [kind]⟩
  have closed {passed : List Token} {closing : Token}
      (passes : stream.Passes (passed ++ [closing]) rest)
      (kind : closing.kind = .rightParen ∨ closing.kind = .rightBrace)
      (derived : DerivesAtom (passed ++ [closing]) expr) :
      ∃ passed,
        stream.Passes passed rest ∧ DerivesAtom passed expr ∧
          (endsInReference passed → rest.head.kind ≠ .dot) :=
    ⟨_, passes, derived, fun isReference =>
      absurd isReference (not_endsInReference_of_closing passed kind)⟩
  have referred (kind : stream.head.kind = .globalRef ∨
      stream.head.kind = .aliasRef ∨ stream.head.kind = .name)
      {target : Reference}
      (read : Parser.reference stream.head stream.tail = .ok (target, rest))
      (equal : expr = .reference target) : ∃ passed,
      stream.Passes passed rest ∧ DerivesAtom passed expr ∧
      (endsInReference passed → rest.head.kind ≠ .dot) := by
    obtain ⟨passed, passes, derived, stops⟩ := reference_sound headEnds kind read
    subst equal
    exact ⟨_, headPasses.trans passes, .reference derived, fun _ => stops⟩
  rw [Parser.operandAt] at parsed
  simp only [bind_apply next, next_apply] at parsed
  cases kind : stream.head.kind <;> simp only [kind] at parsed <;>
    try simp [kind, TokenKind.beginsOperand] at begins
  case text =>
    cases parsed
    exact literal (.text _ kind) rfl (by simp [endsInReference, kind])
  case float =>
    cases reads : Decimal.readFloat? stream.head.value.toList with
    | none =>
        simp only [reads] at parsed
        exact absurd parsed fail_ne_ok
    | some value =>
        simp only [reads] at parsed
        cases parsed
        exact literal (.float _ value kind reads) rfl
          (by simp [endsInReference, kind])
  case integer =>
    cases reads : Decimal.readInt? stream.head.value.toList with
    | none =>
        simp only [reads] at parsed
        exact absurd parsed fail_ne_ok
    | some value =>
        simp only [reads] at parsed
        cases parsed
        exact literal (.integer _ value kind reads) rfl
          (by simp [endsInReference, kind])
  case boolean =>
    cases parsed
    exact literal (.boolean _ kind) rfl (by simp [endsInReference, kind])
  case null =>
    cases parsed
    exact literal (.null _ kind) rfl (by simp [endsInReference, kind])
  case name =>
    simp only [bind_apply peek, peek_apply] at parsed
    split at parsed
    · next constructs =>
        have isName := constructs
        simp only [Bool.and_eq_true] at isName
        obtain ⟨passed, closing, passes, closingKind, derived⟩ :=
          sound.construct headEnds kind isName.2 parsed
        have whole : stream.Passes ((stream.head :: passed) ++ [closing]) rest := by
          simpa using headPasses.trans passes
        exact closed whole (.inl closingKind) derived
    · obtain ⟨target, afterTarget, read, finished⟩ := bind_eq_ok.mp parsed
      cases finished
      exact referred (.inr (.inr kind)) read rfl
  case globalRef =>
    obtain ⟨target, afterTarget, read, finished⟩ := bind_eq_ok.mp parsed
    cases finished
    exact referred (.inl kind) read rfl
  case aliasRef =>
    obtain ⟨target, afterTarget, read, finished⟩ := bind_eq_ok.mp parsed
    cases finished
    exact referred (.inr (.inl kind)) read rfl
  case resource =>
    obtain ⟨opening, afterOpening, openingRead, parsed⟩ := bind_eq_ok.mp parsed
    obtain ⟨openingKind, openingPasses⟩ :=
      expect_eq_ok headEnds (by simp) openingRead
    obtain ⟨path, closing, tokens, afterClosing, pathPasses, -, derived,
        closingKind, parsed⟩ :=
      sound.followed (by rw [openingPasses.final, headEnds]) (by simp) parsed
    have whole : stream.Passes ((stream.head :: opening :: tokens) ++ [closing])
        afterClosing := by
      simpa using (headPasses.trans openingPasses).trans pathPasses
    simp only [bind_apply, lastStop_apply, pure_apply] at parsed
    cases parsed
    refine closed whole (.inl closingKind) ?_
    rw [lastStop_of_closing whole]
    exact .resource _ opening closing kind openingKind closingKind derived
  case vec2 =>
    obtain ⟨opening, afterOpening, openingRead, parsed⟩ := bind_eq_ok.mp parsed
    obtain ⟨openingKind, openingPasses⟩ :=
      expect_eq_ok headEnds (by simp) openingRead
    obtain ⟨x, comma, xTokens, afterComma, xPasses, commaEnds, xDerived,
        commaKind, parsed⟩ :=
      sound.followed (by rw [openingPasses.final, headEnds]) (by simp) parsed
    obtain ⟨y, closing, yTokens, afterClosing, yPasses, -, yDerived, closingKind,
      parsed⟩ := sound.followed commaEnds (by simp) parsed
    have whole : stream.Passes
        ((stream.head :: opening :: xTokens ++ comma :: yTokens) ++ [closing])
        afterClosing := by
      simpa using ((headPasses.trans openingPasses).trans xPasses).trans yPasses
    simp only [bind_apply, lastStop_apply, pure_apply] at parsed
    cases parsed
    refine closed whole (.inl closingKind) ?_
    rw [lastStop_of_closing whole]
    exact .vec2 _ opening comma closing kind openingKind commaKind closingKind
      xDerived yDerived
  case leftBrace =>
    obtain ⟨entries, afterEntries, entriesRead, parsed⟩ := bind_eq_ok.mp parsed
    obtain ⟨tokens, closing, others, entriesPass, closingKind, derived, equal,
      distinct⟩ :=
      sound.entries headEnds (by simp) entriesRead
    have whole :
        stream.Passes ((stream.head :: tokens) ++ [closing]) afterEntries := by
      simpa using headPasses.trans entriesPass
    simp only [bind_apply, lastStop_apply, pure_apply] at parsed
    cases parsed
    refine closed whole (.inr closingKind) ?_
    rw [lastStop_of_closing whole]
    subst equal
    exact .object _ closing kind closingKind derived distinct

/-- The expression parser is sound however deeply it may nest. -/
theorem sound : ∀ depth : Nat, Sound depth
  | 0 =>
    { level := fun _ _ parsed => by
        rw [Parser.level] at parsed
        exact absurd parsed failHere_ne_ok
      expression := fun _ parsed => by
        rw [Parser.expression] at parsed
        exact absurd parsed failHere_ne_ok
      operand := fun _ _ parsed => by
        rw [Parser.operandAt] at parsed
        exact absurd parsed failHere_ne_ok
      entries := fun _ _ parsed => by
        rw [Parser.objectEntries] at parsed
        exact absurd parsed failHere_ne_ok
      construct := fun _ _ _ parsed => by
        rw [Parser.construct] at parsed
        exact absurd parsed failHere_ne_ok }
  | depth + 1 =>
    { level := (sound depth).level_succ
      expression := (sound depth).expression_succ
      operand := (sound depth).operand_succ
      entries := (sound depth).entries_succ
      construct := fun ends nameKind constructs parsed => by
        cases boxName : StyleBox.ofConstructor? _ with
        | some box => exact (sound depth).style_succ ends nameKind boxName parsed
        | none =>
            have isColor := by simpa [isConstructor, boxName] using constructs
            exact (sound depth).color_succ ends nameKind isColor parsed }

end LiveMarkup.Grammar
