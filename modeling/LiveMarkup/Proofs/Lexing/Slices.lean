import LiveMarkup.Proofs.Lexing.Gaps

/-!
# Lexing a stretch of a text

The characters from the beginning of one token to the end of another lex, on
their own, to the tokens that stand over them.  Only the first token can notice
that something stood before it, and only if that was a dot.  This is the part of
`read_text_of_span` that is about characters.
-/

namespace LiveMarkup

variable {before other : Option Char} {behind rest left chars : List Char}
  {label : RuleLabel}
  {tokens first second earlier core later : List Token}
    {pieces : List (TokenKind × String)}

/-- What scans to tokens lexes to their kinds and values. -/
theorem Scans.lexes (scans : Scans markupRules behind rest tokens left)
    (atEnd : left = []) (same : other = some '.' ↔ behind.getLast? = some '.') :
    Lexes markupRules other rest (tokens.map Token.piece) := by
  induction scans generalizing other with
  | stop behind left =>
      subst atEnd
      exact .done other
  | @step behind consumed remaining left text label tokens cut moves others
      induction =>
      have further :
          Lexes markupRules consumed.getLast? remaining
            (tokens.map Token.piece) :=
        induction atEnd (by rw [getLast?_behind moves])
      cases kept : label.kind? text behind.getLast? with
      | none =>
        exact .skip cut rfl moves
          ((RuleLabel.kind?_congr same).trans kept) further
      | some kind =>
        exact .token kind cut rfl moves
          ((RuleLabel.kind?_congr same).trans kept) further

/-- No text lexes to the end of the input. -/
theorem Lexes.ne_endOfInput (lexes : Lexes markupRules before chars pieces) :
    ∀ piece ∈ pieces, piece.1 ≠ .endOfInput := by
  have fixed : ∀ rule ∈ markupRules, rule.label ≠ .fixed .endOfInput := by decide
  induction lexes with
  | done before => exact nofun
  | skip cut taken moves dropped others induction => exact induction
  | @token before chars consumed remaining text label pieces kind cut taken
      moves kept others induction =>
      refine List.forall_mem_cons.mpr ⟨?_, induction⟩
      rintro (rfl : kind = .endOfInput)
      cases label with
      | skip => cases kept
      | fixed kind =>
          cases kept
          obtain ⟨rule, member, same, -⟩ := rule_of_cutFirst cut
          exact fixed rule member same
      | byName =>
          have word := kindOfName_mem_wordKinds text before
          rw [show kindOfName text before = .endOfInput
            from Option.some.inj kept] at word
          exact absurd word (by decide)

/-- No token begins with a line end. -/
theorem not_line_of_cutFirst {consumed remaining text : List Char}
    {kind : TokenKind}
    (cut :
      cutFirst markupRules (consumed ++ remaining) =
        some (label, text, remaining)) (moves : consumed ≠ [])
    (kept : label.kind? text before = some kind) :
    (consumed ++ remaining).head?.all (· == '\n') = false := by
  obtain ⟨first, consumed, rfl⟩ := List.exists_cons_of_ne_nil moves
  by_contra line
  obtain rfl : first = '\n' := by simpa using line
  rw [List.cons_append, cutFirst_blankChar (by decide)] at cut
  have skips : .skip = label := congrArg Prod.fst (Option.some.inj cut)
  subst skips
  cases kept

/--
A text is cut behind some of its tokens.  A dot stands before what is left only
if the last of these tokens is one, or if a line end follows.
-/
theorem Scans.split (scans : Scans markupRules behind rest tokens left)
    (parts : tokens = first ++ second) (some : first ≠ []) :
    ∃ taken middle last,
      rest = taken ++ middle ∧
      Scans markupRules behind rest first middle ∧
      Scans markupRules (behind ++ taken) middle second left ∧
      first.getLast? = .some last ∧
      last.span.stop = (behind ++ taken).length ∧
      ((behind ++ taken).getLast? = .some '.' →
       last.kind = .dot ∨ middle.head?.all (· == '\n') = true) := by
  induction scans generalizing first with
  | stop behind left => exact absurd (List.append_eq_nil_iff.mp parts.symm).1 some
  | @step behind consumed remaining left text label tokens cut moves others
      induction =>
      cases kept : label.kind? text behind.getLast? with
      | none =>
          rw [kept] at parts
          obtain ⟨taken, middle, last, rfl, scans, further, isLast,
              stop, dotted⟩ :=
            induction parts some
          have step := Scans.step cut moves scans
          rw [kept] at step
          rw [List.append_assoc] at further stop dotted
          exact ⟨consumed ++ taken, middle, last, (List.append_assoc ..).symm,
            step, further, isLast, stop, dotted⟩
      | some kind =>
          rw [kept] at parts
          cases first with
          | nil => exact absurd rfl some
          | cons token first =>
              obtain ⟨rfl, same⟩ := List.cons.inj parts
              cases first with
              | nil =>
                  obtain rfl : tokens = second := same
                  have step :=
                    Scans.step cut moves (.stop (behind ++ consumed) remaining)
                  rw [kept] at step
                  refine ⟨consumed, remaining, _, rfl, step, others, rfl, ?_, ?_⟩
                  · rw [List.length_append]
                    rfl
                  · rw [getLast?_behind moves]
                    intro dotted
                    refine (dot_of_cutFirst cut dotted).imp_left ?_
                    rintro rfl
                    cases kept
                    rfl
              | cons next first =>
                  obtain ⟨taken, middle, last, rfl, scans, further, isLast,
                    stop, dotted⟩ :=
                    induction same (List.cons_ne_nil _ _)
                  have step := Scans.step cut moves scans
                  rw [kept] at step
                  rw [List.append_assoc] at further stop dotted
                  exact ⟨consumed ++ taken, middle, last,
                    (List.append_assoc ..).symm, step, further,
                    (List.getLast?_cons_cons ..).trans isLast, stop, dotted⟩

/-- Tokens whose last one is no dot. -/
def Undotted (tokens : List Token) : Prop :=
  ∀ token ∈ tokens.getLast?, token.kind ≠ .dot

/-- Tokens whose last one is no dot are followed by others of that kind. -/
theorem Undotted.append {tokens others : List Token} (undotted : Undotted tokens)
    (others_undotted : Undotted others) : Undotted (tokens ++ others) := by
  intro token isLast
  rw [List.getLast?_append] at isLast
  cases last : others.getLast? with
  | none =>
      rw [last, Option.none_or] at isLast
      exact undotted token isLast
  | some other =>
      rw [last, Option.some_or] at isLast
      exact others_undotted token (last ▸ isLast)

/-- What stands behind some tokens of a text. -/
theorem Scans.dropTokens (scans : Scans markupRules [] chars (earlier ++ core) [])
    (undotted : Undotted earlier) :
    ∃ passed rest, chars = passed ++ rest ∧ Scans markupRules passed rest core [] ∧
      (passed.getLast? = some '.' → rest.head?.all (· == '\n') = true) := by
  cases earlier with
  | nil => exact ⟨[], chars, rfl, scans, nofun⟩
  | cons token earlier =>
      obtain ⟨taken, middle, last, rfl, -, further, isLast, -, dotted⟩ :=
        scans.split rfl (List.cons_ne_nil _ _)
      exact ⟨taken, middle, rfl, further, fun dot =>
        (dotted dot).resolve_left (undotted last isLast)⟩

/-- The tokens from one on up to another are those of the characters they stand
over. -/
theorem Scans.slice
    (scans : Scans markupRules [] chars (earlier ++ (core ++ later)) [])
    (undotted : Undotted earlier) (some : core ≠ []) :
    ∃ head last,
      core.head? = .some head ∧ core.getLast? = .some last ∧
      Lexes markupRules none (chars.extract head.span.start last.span.stop)
        (core.map Token.piece) := by
  obtain ⟨passed, rest, rfl, standing, dotted⟩ := scans.dropTokens undotted
  obtain ⟨head, others, rfl⟩ := List.exists_cons_of_ne_nil some
  rcases standing.uncons rfl with ⟨found, -⟩ |
    ⟨gap, consumed, remaining, text, label, kind, further, rfl, spacing, cut,
      moves, kept, found, scansOthers⟩
  · cases found
  · obtain ⟨isHead, same⟩ := List.cons.inj found
    have apart : (passed ++ gap).getLast? ≠ .some '.' := by
      cases gap with
      | nil =>
          rw [List.append_nil]
          intro dot
          have line := dotted dot
          rw [List.nil_append, not_line_of_cutFirst cut moves kept] at line
          cases line
      | cons blank gap =>
          rw [List.getLast?_append]
          exact spacing.undotted (List.cons_ne_nil _ _)
    have step := Scans.step cut moves scansOthers
    rw [kept] at step
    obtain ⟨taken, middle, last, parts, scansCore, -, isLast, stop, -⟩ :=
      step.split (show _ = head :: others ++ later from found.symm) some
    refine ⟨head, last, rfl, isLast, ?_⟩
    have slice :
        (passed ++ (gap ++ (consumed ++ remaining))).extract head.span.start
          last.span.stop = taken := by
      rw [parts, stop, isHead, ← List.append_assoc, List.length_append]
      exact extract_consumed _ _ _
    rw [slice]
    exact (scansCore.cutShort parts).lexes rfl (iff_of_false nofun apart)

end LiveMarkup
