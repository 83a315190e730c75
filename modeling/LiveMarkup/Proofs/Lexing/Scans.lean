import LiveMarkup.Proofs.Lexing.LineStarts
import LiveMarkup.Proofs.Printing.Lexing

/-!
# Lexing with places

The tokens of a text with their places, as a relation between its characters and
the tokens.  Cutting a text into tokens runs along this relation: it succeeds
exactly where all characters can be cut off, and otherwise fails at the first
place where no rule cuts off a character.
-/

namespace LiveMarkup

/-- The token of a kind that some characters make behind others. -/
def tokenBehind (behind consumed text : List Char) (kind : TokenKind) : Token :=
  ⟨kind, String.ofList text,
    ⟨behind.length, behind.length + consumed.length,
      exactPosition behind behind.length⟩⟩

/-- The token at the end of a text. -/
def endToken (source : List Char) : Token :=
  ⟨.endOfInput, "", ⟨source.length, source.length,
    exactPosition source source.length⟩⟩

/-- The tokens of some characters behind others, and the characters that are
left when those are cut off. -/
inductive Scans (rules : List Rule) :
    List Char → List Char → List Token → List Char → Prop where
  | stop (behind left : List Char) : Scans rules behind left [] left
  | step {behind consumed remaining left text : List Char} {label : RuleLabel}
      {tokens : List Token}
      (cut : cutFirst rules (consumed ++ remaining) =
        some (label, text, remaining)) (moves : consumed ≠ [])
      (others : Scans rules (behind ++ consumed) remaining tokens left) :
      Scans rules behind (consumed ++ remaining)
        (((label.kind? text behind.getLast?).map
          (tokenBehind behind consumed text)).toList ++ tokens) left

variable {rules : List Rule} {cursor : Cursor}
  {behind rest remaining text left : List Char}
  {label : RuleLabel} {tokens collected : List Token} {bound reach : Nat}

/-- What is left stands at the end. -/
theorem Scans.exists_taken (scans : Scans rules behind rest tokens left) :
    ∃ taken, rest = taken ++ left := by
  induction scans with
  | stop behind left => exact ⟨[], rfl⟩
  | @step behind consumed remaining left text label tokens cut moves others
      hypothesis =>
    obtain ⟨taken, same⟩ := hypothesis
    exact ⟨consumed ++ taken, by rw [same, List.append_assoc]⟩

theorem exactPosition_append (behind rest : List Char) :
    exactPosition (behind ++ rest) behind.length =
      exactPosition behind behind.length := by
  simp [exactPosition]

/-- What a cursor has noted gives the exact position of its place. -/
theorem Cursor.Splits.position (splits : cursor.Splits behind rest)
    {later : Cursor} (notes : later.Notes reach)
    (same : later.source = cursor.source) (reached : cursor.index ≤ reach) :
    later.position cursor.index =
      exactPosition (behind ++ rest) behind.length := by
  rw [notes.position reached, same, splits.source, splits.index]

theorem reverse_toList {α : Type} (found : Option α) :
    found.toList.reverse = found.toList := by
  cases found <;> rfl

/-- One step cuts off what the first rule does, and makes a token of it or drops
it. -/
theorem scanTokens_next (splits : cursor.Splits behind rest)
    (notes : cursor.Notes reach)
    (cut : cutFirst rules rest = some (label, text, remaining)) (bound : Nat)
    (collected : List Token) :
    ∃ after consumed further,
      after.Splits (behind ++ consumed) remaining ∧
      Cursor.Notes after further ∧ rest = consumed ++ remaining ∧
      consumed ≠ [] ∧
      scanTokens rules (bound + 1) collected cursor =
        scanTokens rules bound
          (((label.kind? text behind.getLast?).map
            (tokenBehind behind consumed text)).toList ++ collected) after := by
  obtain ⟨after, consumed, first, taken, moves, source, stands⟩ :=
    firstMatch_some splits cut
  obtain ⟨further, longer, noted⟩ :=
    ((goes_firstMatch rules notes notes.index).1 _ first).notes
  have more : rest.isEmpty = false := by
    rw [taken]
    cases consumed with
    | nil => exact absurd rfl moves
    | cons char consumed => rfl
  have place : after.position cursor.index = exactPosition behind behind.length :=
    (splits.position noted source (Nat.le_trans notes.index longer)).trans
      (exactPosition_append behind rest)
  refine ⟨after, consumed, further, stands, noted, taken, moves, ?_⟩
  rw [scanTokens, splits.atEnd, more, first]
  simp only [Bool.false_eq_true, if_false, splits.charBefore source, place]
  simp only [stands.index, splits.index, List.length_append]
  cases label.kind? text behind.getLast? <;> rfl

/-- At the end of the text the token list is closed. -/
theorem finish_eq_ok (splits : cursor.Splits behind [])
    (notes : cursor.Notes reach) (collected : List Token) :
    scanTokens.finish collected cursor =
      .ok (collected.reverse ++ [endToken behind]) := by
  have source : cursor.source.toList = behind := by
    rw [splits.source, List.append_nil]
  have size : cursor.source.size = behind.length := by
    rw [← Array.length_toList, source]
  have reached : behind.length ≤ reach := splits.index ▸ notes.index
  unfold scanTokens.finish
  dsimp only
  rw [size, notes.position reached, source, List.reverse_cons]
  rfl

/-- Where no rule matches, the cursor is back at its place. -/
theorem index_firstMatch {offset : Nat} {after : Cursor}
    (stands : cursor.index = offset)
    (none : firstMatch offset rules cursor = .inr after) :
    after.index = offset := by
  induction rules generalizing cursor with
  | nil =>
    cases none
    exact stands
  | cons rule others hypothesis =>
    rw [firstMatch, ← Prod.eta (rule.shape.run cursor)] at none
    cases run : (rule.shape.run cursor).1 with
    | none =>
      rw [run] at none
      exact hypothesis rfl none
    | some text =>
      rw [run] at none
      dsimp only at none
      split at none
      · cases none
      · exact hypothesis rfl none

/-- Where no rule cuts off a character, lexing fails. -/
theorem scanTokens_stuck {char : Char}
    (splits : cursor.Splits behind (char :: rest))
    (notes : cursor.Notes reach)
    (stuck : cutFirst rules (char :: rest) = none) (bound : Nat)
    (collected : List Token) :
    scanTokens rules (bound + 1) collected cursor =
      .error ⟨char, exactPosition behind behind.length⟩ := by
  obtain ⟨after, none⟩ := firstMatch_none splits stuck
  obtain ⟨source, further, longer, noted⟩ :=
    (goes_firstMatch rules notes notes.index).2 _ none
  have index : after.index = cursor.index := index_firstMatch rfl none
  have here : after.peek? = some char := by
    unfold Cursor.peek?
    rw [index, source]
    exact splits.peek
  have place : after.position cursor.index = exactPosition behind behind.length :=
    (splits.position noted source (Nat.le_trans notes.index longer)).trans
      (exactPosition_append behind (char :: rest))
  rw [scanTokens, splits.atEnd, none]
  simp only [List.isEmpty_cons, Bool.false_eq_true, if_false, here,
    Option.getD_some, place]

/-- A token list that is found is closed behind tokens that make up all the
characters, and otherwise lexing fails at the first place where no rule cuts off
a character. -/
theorem scans_of_scanTokens (splits : cursor.Splits behind rest)
    (notes : cursor.Notes reach) (enough : rest.length ≤ bound) :
    (∃ tokens,
      Scans rules behind rest tokens [] ∧
      scanTokens rules bound collected cursor =
        .ok (collected.reverse ++ tokens ++ [endToken (behind ++ rest)])) ∨
    ∃ tokens taken char left,
      Scans rules behind rest tokens (char :: left) ∧
      rest = taken ++ char :: left ∧ cutFirst rules (char :: left) = none ∧
      scanTokens rules bound collected cursor =
        .error ⟨char, exactPosition (behind ++ taken)
          (behind ++ taken).length⟩ := by
  induction bound generalizing cursor behind rest collected reach with
  | zero =>
    cases List.eq_nil_of_length_eq_zero (Nat.le_zero.mp enough)
    rw [scanTokens]
    exact .inl ⟨[], .stop behind [],
      by simpa using finish_eq_ok splits notes collected⟩
  | succ bound hypothesis =>
    cases rest with
    | nil =>
      refine .inl ⟨[], .stop behind [], ?_⟩
      rw [scanTokens, splits.atEnd]
      simpa using finish_eq_ok splits notes collected
    | cons char rest =>
      cases cut : cutFirst rules (char :: rest) with
      | none =>
        refine .inr ⟨[], [], char, rest, .stop behind _, rfl, cut, ?_⟩
        simpa using scanTokens_stuck splits notes cut bound collected
      | some found =>
        obtain ⟨label, text, remaining⟩ := found
        obtain ⟨after, consumed, further, stands, noted, taken, moves, next⟩ :=
          scanTokens_next splits notes cut bound collected
        obtain ⟨lower, equal, shorter⟩ := exists_bound taken moves enough
        cases Nat.succ.inj equal
        rw [taken] at cut ⊢
        rw [next]
        rcases hypothesis stands noted shorter with ⟨tokens, scans, same⟩ |
          ⟨tokens, passed, stuck, left, scans, parts, none, same⟩
        · exact .inl ⟨_, .step cut moves scans, by rw [same]; simp [reverse_toList]⟩
        · exact .inr ⟨_, consumed ++ passed, stuck, left, .step cut moves scans,
            by rw [parts]; simp,
            none, by rw [same]; simp⟩

/-- Characters that can all be cut off have the token list that they scan to. -/
theorem Scans.scanTokens (scans : Scans rules behind rest tokens left)
    (empty : left = []) (splits : cursor.Splits behind rest)
    (notes : cursor.Notes reach) (enough : rest.length ≤ bound) :
    LiveMarkup.scanTokens rules bound collected cursor =
      .ok (collected.reverse ++ tokens ++ [endToken (behind ++ rest)]) := by
  induction scans generalizing cursor bound reach collected with
  | stop behind left =>
    subst empty
    have closes := finish_eq_ok splits notes collected
    cases bound with
    | zero =>
      rw [LiveMarkup.scanTokens]
      simpa using closes
    | succ bound =>
      rw [LiveMarkup.scanTokens, splits.atEnd]
      simpa using closes
  | step cut moves others hypothesis =>
    obtain ⟨lower, rfl, shorter⟩ := exists_bound rfl moves enough
    obtain ⟨after, consumed, further, stands, noted, taken, -, next⟩ :=
      scanTokens_next splits notes cut lower collected
    cases List.append_cancel_right taken
    rw [next, hypothesis empty stands noted shorter]
    simp [reverse_toList]

/-- Cutting a text into tokens succeeds if all characters can be cut off, and
otherwise fails at the first place where no rule cuts off a character. -/
theorem scans_of_tokenize (rules : List Rule) (source : String) :
    (∃ tokens,
      Scans rules [] source.toList tokens [] ∧
      tokenize rules source = .ok (tokens ++ [endToken source.toList])) ∨
    ∃ tokens taken char left,
      Scans rules [] source.toList tokens (char :: left) ∧
      source.toList = taken ++ char :: left ∧
      cutFirst rules (char :: left) = none ∧
      tokenize rules source =
        .error ⟨char, exactPosition taken taken.length⟩ := by
  have splits := Cursor.splits_ofString source
  exact scans_of_scanTokens splits (Cursor.notes_ofString source) splits.length_le

/-- A text whose characters can all be cut off has the token list that they scan
to. -/
theorem Scans.tokenize {source : String}
    (scans : Scans rules [] source.toList tokens []) :
    LiveMarkup.tokenize rules source =
      .ok (tokens ++ [endToken source.toList]) := by
  have splits := Cursor.splits_ofString source
  exact scans.scanTokens rfl splits (Cursor.notes_ofString source) splits.length_le

end LiveMarkup
