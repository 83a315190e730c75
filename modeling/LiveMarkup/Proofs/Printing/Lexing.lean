import LiveMarkup.Token.Lexer
import LiveMarkup.Proofs.Printing.Scanning

/-!
# Lexing without a cursor

The tokens of a text, as a relation between its characters and the kinds and
values of the tokens: at every place the first rule that cuts off a character
wins.  The character before a place matters, because it may decide the kind of a
name.  `tokenize` succeeds exactly on the texts that lex.
-/

namespace LiveMarkup

/-- A token without its place. -/
def Token.piece (token : Token) : TokenKind × String :=
  (token.kind, token.value)

/-- The label and the text of the first rule that cuts off a character, and what
remains. -/
def cutFirst : List Rule → List Char → Option (RuleLabel × List Char × List Char)
  | [], _ => none
  | rule :: others, chars =>
    match rule.shape.cut? chars with
    | some (text, remaining) =>
      if remaining.length < chars.length then some (rule.label, text, remaining)
      else cutFirst others chars
    | none => cutFirst others chars

/-- The tokens of some characters behind a character. -/
inductive Lexes (rules : List Rule) :
    Option Char → List Char → List (TokenKind × String) → Prop where
  | done (before : Option Char) : Lexes rules before [] []
  | skip {before : Option Char} {chars consumed remaining text : List Char}
      {label : RuleLabel} {pieces : List (TokenKind × String)}
      (cut : cutFirst rules chars = some (label, text, remaining))
      (taken : chars = consumed ++ remaining) (moves : consumed ≠ [])
      (dropped : label.kind? text before = none)
      (others : Lexes rules consumed.getLast? remaining pieces) :
      Lexes rules before chars pieces
  | token {before : Option Char} {chars consumed remaining text : List Char}
      {label : RuleLabel} {pieces : List (TokenKind × String)}
      (kind : TokenKind)
      (cut : cutFirst rules chars = some (label, text, remaining))
      (taken : chars = consumed ++ remaining) (moves : consumed ≠ [])
      (kept : label.kind? text before = some kind)
      (others : Lexes rules consumed.getLast? remaining pieces) :
      Lexes rules before chars ((kind, String.ofList text) :: pieces)

variable {rules : List Rule} {cursor after : Cursor}
  {behind rest consumed remaining text : List Char}
  {label : RuleLabel} {pieces : List (TokenKind × String)}
    {collected tokens : List Token}
  {bound : Nat}

/-! ## The first match -/

theorem Cursor.Splits.charBefore (splits : cursor.Splits behind rest)
    {later : Cursor} (same : later.source = cursor.source) :
    later.charBefore? cursor.index = behind.getLast? := by
  rw [splits.index]
  rcases List.eq_nil_or_concat behind with rfl | ⟨front, last, rfl⟩
  · rfl
  · have source := splits.source
    rw [← same] at source
    simp only [List.concat_eq_append, List.length_append, List.length_singleton,
      charBefore?, List.getLast?_append, List.getLast?_singleton,
      Option.some_or]
    rw [← Array.getElem?_toList, source]
    simp

/-- A rule that cuts off nothing is passed over. -/
theorem firstMatch_pass (splits : cursor.Splits behind rest) {rule : Rule}
    (passes :
      ∀ text remaining,
        rule.shape.cut? rest = some (text, remaining) →
        ¬ remaining.length < rest.length) (others : List Rule) :
    ∃ next : Cursor,
      next.Splits behind rest ∧ next.source = cursor.source ∧
      firstMatch cursor.index (rule :: others) cursor =
        firstMatch next.index others next := by
  have answers := rule.shape.answers splits
  refine ⟨(rule.shape.run cursor).2.moveTo cursor.index,
    splits.moveTo answers.source, answers.source, ?_⟩
  rw [firstMatch, ← Prod.eta (rule.shape.run cursor), answers.text]
  cases cut : rule.shape.cut? rest with
  | none => rfl
  | some taken =>
    obtain ⟨consumed, split, stands⟩ := answers.stands taken.1 taken.2 cut
    have short := passes taken.1 taken.2 cut
    have still : ¬ cursor.index < (rule.shape.run cursor).2.index := by
      rw [stands.index, splits.index, List.length_append]
      rw [split, List.length_append] at short
      omega
    simp only [Option.map_some, if_neg still]
    rfl

/-- A rule that cuts off a character matches. -/
theorem firstMatch_take (splits : cursor.Splits behind rest) {rule : Rule}
    (cut : rule.shape.cut? rest = some (text, remaining))
    (moves : remaining.length < rest.length) (others : List Rule) :
    ∃ after consumed,
      firstMatch cursor.index (rule :: others) cursor =
        .inl ⟨rule.label, text, after⟩ ∧
      rest = consumed ++ remaining ∧ consumed ≠ [] ∧
      after.source = cursor.source ∧
      after.Splits (behind ++ consumed) remaining := by
  have answers := rule.shape.answers splits
  obtain ⟨consumed, split, stands⟩ := answers.stands text remaining cut
  have consumes : consumed ≠ [] := by
    rintro rfl
    rw [split] at moves
    exact Nat.lt_irrefl _ moves
  have moved : cursor.index < (rule.shape.run cursor).2.index := by
    rw [stands.index, splits.index, List.length_append]
    have := List.length_pos_iff.mpr consumes
    omega
  refine ⟨(rule.shape.run cursor).2, consumed, ?_, split, consumes,
    answers.source, stands⟩
  rw [firstMatch, ← Prod.eta (rule.shape.run cursor), answers.text, cut]
  simp only [Option.map_some, if_pos moved]

/-- Where no rule cuts off a character, there is no match. -/
theorem firstMatch_none (splits : cursor.Splits behind rest)
    (cut : cutFirst rules rest = none) :
    ∃ after, firstMatch cursor.index rules cursor = .inr after := by
  induction rules generalizing cursor with
  | nil => exact ⟨cursor, rfl⟩
  | cons rule others hypothesis =>
    have passes : ∀ text remaining, rule.shape.cut? rest = some (text, remaining) →
        ¬ remaining.length < rest.length := by
      intro text remaining found moves
      rw [cutFirst, found] at cut
      simp only [if_pos moves] at cut
      cases cut
    obtain ⟨next, nextSplits, -, same⟩ := firstMatch_pass splits passes others
    rw [same]
    apply hypothesis nextSplits
    rw [cutFirst] at cut
    split at cut
    · next found => rwa [if_neg (passes _ _ found)] at cut
    · exact cut

/-- The first rule that cuts off a character is the first match. -/
theorem firstMatch_some (splits : cursor.Splits behind rest)
    (cut : cutFirst rules rest = some (label, text, remaining)) :
    ∃ after consumed,
      firstMatch cursor.index rules cursor = .inl ⟨label, text, after⟩ ∧
      rest = consumed ++ remaining ∧ consumed ≠ [] ∧
      after.source = cursor.source ∧
      after.Splits (behind ++ consumed) remaining := by
  induction rules generalizing cursor with
  | nil => cases cut
  | cons rule others hypothesis =>
    by_cases takes : ∃ text remaining,
        rule.shape.cut? rest = some (text, remaining) ∧
        remaining.length < rest.length
    · obtain ⟨found, left, cuts, moves⟩ := takes
      rw [cutFirst, cuts] at cut
      simp only [if_pos moves] at cut
      cases cut
      exact firstMatch_take splits cuts moves others
    · have passes : ∀ text remaining,
          rule.shape.cut? rest = some (text, remaining) →
          ¬ remaining.length < rest.length :=
        fun text remaining found moves => takes ⟨text, remaining, found, moves⟩
      obtain ⟨next, nextSplits, source, same⟩ :=
        firstMatch_pass splits passes others
      rw [same, ← source]
      apply hypothesis nextSplits
      rw [cutFirst] at cut
      split at cut
      · next found => rwa [if_neg (passes _ _ found)] at cut
      · exact cut

/-! ## Token lists -/

/-- Once the scan is over, only the end of the input is added. -/
theorem pieces_finish (collected : List Token) (cursor : Cursor) :
    ∃ tokens,
      scanTokens.finish collected cursor = .ok tokens ∧
      tokens.map Token.piece =
        collected.reverse.map Token.piece ++ [(.endOfInput, "")] := by
  refine ⟨_, rfl, ?_⟩
  simp [Token.piece]

/-- A step needs a character, and leaves fewer behind it. -/
theorem exists_bound (taken : rest = consumed ++ remaining)
    (moves : consumed ≠ []) (enough : rest.length ≤ bound) :
    ∃ lower, bound = lower + 1 ∧ remaining.length ≤ lower := by
  have positive := List.length_pos_iff.mpr moves
  rw [taken, List.length_append] at enough
  exact ⟨bound - 1, by omega, by omega⟩

theorem getLast?_behind (moves : consumed ≠ []) :
    (behind ++ consumed).getLast? = consumed.getLast? := by
  rw [List.getLast?_append, List.getLast?_eq_some_getLast moves]
  rfl

/-- A finished scan has no pieces left to read. -/
theorem lexes_of_finish (before : Option Char)
    (finishes : scanTokens.finish collected cursor = .ok tokens) :
    ∃ pieces, Lexes rules before [] pieces ∧ tokens.map Token.piece =
      collected.reverse.map Token.piece ++ pieces ++ [(.endOfInput, "")] := by
  obtain ⟨all, same, pieces⟩ := pieces_finish collected cursor
  cases same.symm.trans finishes
  exact ⟨[], .done before, by rw [pieces, List.append_nil]⟩

/-- One step drops the text of the first match, or makes a token of it. -/
theorem scanTokens_step (splits : cursor.Splits behind rest)
    (cut : cutFirst rules rest = some (label, text, remaining)) (bound : Nat)
    (collected : List Token) :
    ∃ after consumed span,
      after.Splits (behind ++ consumed) remaining ∧
      rest = consumed ++ remaining ∧ consumed ≠ [] ∧
      (label.kind? text behind.getLast? = none →
       scanTokens rules (bound + 1) collected cursor =
         scanTokens rules bound collected after) ∧
      ∀ kind,
        label.kind? text behind.getLast? = some kind →
        scanTokens rules (bound + 1) collected cursor =
          scanTokens rules bound
            (⟨kind, String.ofList text, span⟩ :: collected) after := by
  obtain ⟨after, consumed, first, taken, moves, source, stands⟩ :=
    firstMatch_some splits cut
  have more : rest.isEmpty = false := by
    rw [taken]
    cases consumed with
    | nil => exact absurd rfl moves
    | cons char consumed => rfl
  refine ⟨after, consumed,
    ⟨cursor.index, after.index, after.position cursor.index⟩, stands, taken,
    moves, ?_, ?_⟩
  · intro dropped
    rw [LiveMarkup.scanTokens, splits.atEnd, more, first]
    simp only [Bool.false_eq_true, if_false, splits.charBefore source, dropped]
  · intro kind kept
    rw [LiveMarkup.scanTokens, splits.atEnd, more, first]
    simp only [Bool.false_eq_true, if_false, splits.charBefore source, kept]

/-- A token list that is found consists of the pieces that the characters lex to. -/
theorem lexes_of_scanTokens (splits : cursor.Splits behind rest)
    (enough : rest.length ≤ bound)
    (scanned : scanTokens rules bound collected cursor = .ok tokens) :
    ∃ pieces,
      Lexes rules behind.getLast? rest pieces ∧
      tokens.map Token.piece =
        collected.reverse.map Token.piece ++ pieces ++ [(.endOfInput, "")] := by
  induction bound generalizing cursor behind rest collected with
  | zero =>
    cases List.eq_nil_of_length_eq_zero (Nat.le_zero.mp enough)
    exact lexes_of_finish _ scanned
  | succ bound hypothesis =>
    by_cases empty : rest = []
    · subst empty
      rw [LiveMarkup.scanTokens, splits.atEnd] at scanned
      exact lexes_of_finish _ scanned
    cases cut : cutFirst rules rest with
    | none =>
      have more : rest.isEmpty = false := by simpa using empty
      obtain ⟨after, none⟩ := firstMatch_none splits cut
      rw [LiveMarkup.scanTokens, splits.atEnd, more, none] at scanned
      cases scanned
    | some found =>
      obtain ⟨label, text, remaining⟩ := found
      obtain ⟨after, consumed, span, stands, taken, moves, drops, keeps⟩ :=
        scanTokens_step splits cut bound collected
      obtain ⟨lower, equal, shorter⟩ := exists_bound taken moves enough
      cases Nat.succ.inj equal
      cases kept : label.kind? text behind.getLast? with
      | none =>
        rw [drops kept] at scanned
        obtain ⟨pieces, lexes, same⟩ := hypothesis stands shorter scanned
        rw [getLast?_behind moves] at lexes
        exact ⟨pieces, .skip cut taken moves kept lexes, same⟩
      | some kind =>
        rw [keeps kind kept] at scanned
        obtain ⟨pieces, lexes, same⟩ := hypothesis stands shorter scanned
        rw [getLast?_behind moves] at lexes
        refine ⟨_, .token kind cut taken moves kept lexes, ?_⟩
        rw [same]
        simp [Token.piece]

/-- Characters that lex have the token list of their pieces. -/
theorem Lexes.scanTokens {before : Option Char}
    (lexes : Lexes rules before rest pieces)
    (splits : cursor.Splits behind rest) (same : before = behind.getLast?)
    (enough : rest.length ≤ bound) :
    ∃ tokens,
      LiveMarkup.scanTokens rules bound collected cursor = .ok tokens ∧
      tokens.map Token.piece =
        collected.reverse.map Token.piece ++ pieces ++ [(.endOfInput, "")] := by
  induction lexes generalizing cursor behind collected bound with
  | done before =>
    obtain ⟨tokens, finishes, found⟩ := pieces_finish collected cursor
    refine ⟨tokens, ?_, by rw [found, List.append_nil]⟩
    cases bound with
    | zero => exact finishes
    | succ bound =>
      rw [LiveMarkup.scanTokens, splits.atEnd]
      exact finishes
  | skip cut taken moves dropped others hypothesis =>
    obtain ⟨lower, rfl, shorter⟩ := exists_bound taken moves enough
    obtain ⟨after, consumed, span, stands, takenAgain, -, drops, -⟩ :=
      scanTokens_step splits cut lower collected
    cases List.append_cancel_right (taken.symm.trans takenAgain)
    rw [drops (same ▸ dropped)]
    exact hypothesis stands (getLast?_behind moves).symm shorter
  | token kind cut taken moves kept others hypothesis =>
    obtain ⟨lower, rfl, shorter⟩ := exists_bound taken moves enough
    obtain ⟨after, consumed, span, stands, takenAgain, -, -, keeps⟩ :=
      scanTokens_step splits cut lower collected
    cases List.append_cancel_right (taken.symm.trans takenAgain)
    rw [keeps kind (same ▸ kept)]
    obtain ⟨tokens, scanned, found⟩ :=
      hypothesis stands (getLast?_behind moves).symm shorter
    refine ⟨tokens, scanned, ?_⟩
    rw [found]
    simp [Token.piece]

/-- The token list of a source text consists of the pieces that the text lexes
to. -/
theorem lexes_of_tokenize {source : String}
    (lexed : tokenize rules source = .ok tokens) :
    ∃ pieces,
      Lexes rules none source.toList pieces ∧
      tokens.map Token.piece = pieces ++ [(.endOfInput, "")] := by
  have splits := Cursor.splits_ofString source
  obtain ⟨pieces, lexes, same⟩ := lexes_of_scanTokens splits splits.length_le lexed
  exact ⟨pieces, lexes, same⟩

/-- A source text that lexes has the token list of its pieces. -/
theorem Lexes.tokenize {source : String}
    (lexes : Lexes rules none source.toList pieces) :
    ∃ tokens,
      LiveMarkup.tokenize rules source = .ok tokens ∧
      tokens.map Token.piece = pieces ++ [(.endOfInput, "")] := by
  have splits := Cursor.splits_ofString source
  obtain ⟨tokens, scanned, same⟩ := lexes.scanTokens splits rfl splits.length_le
  exact ⟨tokens, scanned, same⟩

end LiveMarkup
