import LiveMarkup.Proofs.Lexing.Following
import LiveMarkup.Proofs.Printing.Texts

/-!
# Other gaps between tokens

What stands between two tokens is dropped, so that it may be replaced.  A gap
that was not empty may become any other one that begins with a blank: a blank
ends the token before it, whatever that is, and a gap ends in a blank, so that
no dot comes to stand before the token behind it.

`Relays` says which texts come from a source text in this way.  They lex to
tokens of the same kinds and values.
-/

namespace LiveMarkup

/-- Blanks and line comments, each comment ended by a line end. -/
inductive Spacing : List Char → Prop where
  | nil : Spacing []
  | blank {char : Char} {rest : List Char} (isBlank : char ∈ blankChars)
      (others : Spacing rest) :
      Spacing (char :: rest)
  | comment {line rest : List Char} (inLine : '\n' ∉ line) (others : Spacing rest) :
      Spacing ('/' :: '/' :: (line ++ '\n' :: rest))

/-- Spacing that may stand behind any token. -/
structure Gap (chars : List Char) : Prop where
  spacing : Spacing chars
  begins : chars.head?.any (blankChars.contains ·) = true

/-- What stood between two tokens stays, or becomes a gap if there was something. -/
def Respaced (old new : List Char) : Prop :=
  new = old ∨ old ≠ [] ∧ Gap new

/--
A text has the lexemes of tokens of a source text from an offset on, with other
gaps between them.
-/
inductive Relays (source : List Char) : Nat → List Token → List Char → Prop where
  | done (offset : Nat) : Relays source offset [] []
  | token {offset : Nat} {token : Token} {tokens : List Token}
      {gap rest : List Char}
      (respaced : Respaced (source.extract offset token.span.start) gap)
      (others : Relays source token.span.stop tokens rest) :
      Relays source offset (token :: tokens)
        (gap ++ (source.extract token.span.start token.span.stop ++ rest))

variable {before other : Option Char}
  {behind rest consumed remaining text left gap chars source : List Char}
  {label : RuleLabel} {tokens written : List Token}
    {pieces : List (TokenKind × String)}

/-! ## Spacing is dropped -/

theorem cutFirst_blankChar {char : Char} (isBlank : char ∈ blankChars)
    (tail : List Char) :
    cutFirst markupRules (char :: tail) = some (.skip, [char], tail) := by
  rw [cutFirst_markupRules]
  simp only [blankChars, List.mem_cons, List.not_mem_nil, or_false] at isBlank
  rcases isBlank with rfl | rfl | rfl | rfl <;> rfl

/-- A comment is cut off up to the end of its line and skipped. -/
theorem cutFirst_comment {line : List Char} (inLine : '\n' ∉ line)
    (tail : List Char) :
    cutFirst markupRules ('/' :: '/' :: (line ++ '\n' :: tail)) =
      some (.skip, '/' :: '/' :: line, '\n' :: tail) := by
  have rules : markupRules = markupRules.take 2 ++
      ⟨.skip, .comment '/' ['/']⟩ :: markupRules.drop 3 := rfl
  have takes :
      (Matcher.comment '/' ['/']).Takes ('/' :: '/' :: line)
        ('/' :: '/' :: line) ('\n' :: tail) :=
    ⟨rfl, ⟨line, rfl, inLine⟩, rfl⟩
  have comment :
      Matcher.cut? (.comment '/' ['/']) ('/' :: '/' :: (line ++ '\n' :: tail)) =
        some ('/' :: '/' :: line, '\n' :: tail) :=
    takes.cut?
  rw [cutFirst_markupRules]
  change markupRules.findSome? (fun rule =>
    (rule.shape.cut? ('/' :: '/' :: (line ++ '\n' :: tail))).map fun taken =>
      (rule.label, taken)) = _
  rw [rules, List.findSome?_append, List.findSome?_cons, comment]
  rfl

theorem lexes_afterBlank {char : Char} (isBlank : char ∈ blankChars)
    (others : Lexes markupRules (some char) rest pieces) :
    Lexes markupRules before (char :: rest) pieces :=
  .skip (cutFirst_blankChar isBlank rest)
    (show char :: rest = [char] ++ rest from rfl)
    (List.cons_ne_nil _ _) rfl others

/-- The last character of a text with something before it, behind another
character. -/
theorem last_append (first second : List Char) :
    (first ++ second).getLast?.or before =
      second.getLast?.or (first.getLast?.or before) := by
  rw [List.getLast?_append, Option.or_assoc]

/-- Spacing makes no difference but for the character that comes to stand before
the next token. -/
theorem Spacing.lexes (spacing : Spacing gap)
    (others : Lexes markupRules (gap.getLast?.or before) rest pieces) :
    Lexes markupRules before (gap ++ rest) pieces := by
  induction spacing generalizing before with
  | nil => exact others
  | @blank char gap isBlank spacing induction =>
      rw [← List.singleton_append, last_append] at others
      exact lexes_afterBlank isBlank (induction others)
  | @comment line gap inLine spacing induction =>
      have parts : '/' :: '/' :: (line ++ '\n' :: gap) =
            ('/' :: '/' :: (line ++ ['\n'])) ++ gap := by
        simp
      rw [parts, last_append, ← List.cons_append, ← List.cons_append,
        List.getLast?_concat] at others
      have text : '/' :: '/' :: (line ++ '\n' :: gap) ++ rest =
          '/' :: '/' :: (line ++ '\n' :: (gap ++ rest)) := by
        simp
      rw [text]
      refine .skip (cutFirst_comment inLine (gap ++ rest)) ?_
        (List.cons_ne_nil '/' ('/' :: line)) rfl
        (lexes_afterBlank (by decide) (induction others))
      simp

/-- A blank stands at the end of spacing. -/
theorem Spacing.last (spacing : Spacing gap) (some : gap ≠ []) :
    ∃ blank ∈ blankChars, gap.getLast? = .some blank := by
  induction spacing with
  | nil => exact absurd rfl some
  | @blank char gap isBlank spacing induction =>
      cases gap with
      | nil => exact ⟨char, isBlank, rfl⟩
      | cons next gap =>
          obtain ⟨blank, member, last⟩ := induction (List.cons_ne_nil _ _)
          exact ⟨blank, member, by rw [List.getLast?_cons_cons, last]⟩
  | @comment line gap inLine spacing induction =>
      cases gap with
      | nil =>
          refine ⟨'\n', by decide, ?_⟩
          rw [← List.cons_append, ← List.cons_append, List.getLast?_concat]
      | cons next gap =>
          obtain ⟨blank, member, last⟩ := induction (List.cons_ne_nil _ _)
          refine ⟨blank, member, ?_⟩
          have parts : '/' :: '/' :: (line ++ '\n' :: next :: gap) =
              ('/' :: '/' :: (line ++ ['\n'])) ++ next :: gap := by
            simp
          rw [parts, List.getLast?_append, last, Option.some_or]

/-- No dot stands before what is behind some spacing. -/
theorem Spacing.undotted (spacing : Spacing gap) (some : gap ≠ []) :
    gap.getLast?.or before ≠ .some '.' := by
  obtain ⟨blank, isBlank, last⟩ := spacing.last some
  rw [last, Option.some_or]
  rintro ⟨⟩
  exact absurd isBlank (by decide)

theorem dot_notBlank {rest : List Char} :
    ¬ ('.' :: rest).head?.any (blankChars.contains ·) = true := by
  have plain : ('.' ∈ blankChars) = False := by decide
  simp [plain]

theorem Spacing.afterLine (spacing : Spacing ('\n' :: rest)) : Spacing rest := by
  cases spacing with
  | blank isBlank others => exact others

/-- The character before a token decides its kind only as far as it is a dot. -/
theorem RuleLabel.kind?_congr (same : before = some '.' ↔ other = some '.') :
    label.kind? text before = label.kind? text other := by
  cases label with
  | skip => rfl
  | fixed kind => rfl
  | byName =>
      have equal : (before == some '.') = (other == some '.') := by
        rw [Bool.eq_iff_iff, beq_iff_eq, beq_iff_eq, same]
      simp only [RuleLabel.kind?, kindOfName, equal]

/-! ## The first token and the gap before it -/

/-- Before the first token there is spacing; without a token, nothing of the
text is kept. -/
theorem Scans.uncons (scans : Scans markupRules behind rest tokens left)
    (atEnd : left = []) :
    (tokens = [] ∧ ∀ last, Lexes markupRules last rest []) ∨
    ∃ gap consumed remaining text label kind others,
      rest = gap ++ (consumed ++ remaining) ∧ Spacing gap ∧
      cutFirst markupRules (consumed ++ remaining) =
        some (label, text, remaining) ∧
      consumed ≠ [] ∧
      label.kind? text (behind ++ gap).getLast? = some kind ∧
      tokens = tokenBehind (behind ++ gap) consumed text kind :: others ∧
      Scans markupRules (behind ++ gap ++ consumed) remaining others [] := by
  induction scans with
  | stop behind left =>
      subst atEnd
      exact .inl ⟨rfl, fun last => .done last⟩
  | @step behind consumed remaining left text label tokens cut moves others
      induction =>
      subst atEnd
      cases kept : label.kind? text behind.getLast? with
      | some kind =>
          refine .inr ⟨[], consumed, remaining, text, label, kind, tokens, rfl,
            .nil, cut, moves, ?_⟩
          rw [List.append_nil]
          exact ⟨kept, rfl, others⟩
      | none =>
          have skips : label = .skip := by
            cases label with
            | skip => rfl
            | fixed kind => cases kept
            | byName => cases kept
          subst skips
          rcases induction rfl with ⟨rfl, lexes⟩ |
            ⟨gap, lexeme, later, found, sort, kind, further, rfl, spacing,
              cutLater, movesLater, keptLater, rfl, scans⟩
          · exact .inl ⟨rfl, fun last => .skip cut rfl moves rfl (lexes _)⟩
          · refine .inr ⟨consumed ++ gap, lexeme, later, found, sort, kind,
              further, ?_, ?_, cutLater, movesLater, ?_⟩
            · rw [List.append_assoc]
            · rcases gap_of_cutFirst cut kept with ⟨blank, isBlank, rfl⟩ |
                ⟨⟨line, rfl, inLine⟩, ends⟩
              · exact .blank isBlank spacing
              · -- The comment ends at a line end, which belongs to the gap
                -- because no token begins so.
                cases gap with
                | nil =>
                    obtain ⟨first, lexeme, rfl⟩ :=
                      List.exists_cons_of_ne_nil movesLater
                    obtain rfl : first = '\n' := by simpa using ends
                    rw [List.cons_append, cutFirst_blankChar (by decide)]
                      at cutLater
                    have skips : .skip = sort :=
                      congrArg Prod.fst (Option.some.inj cutLater)
                    subst skips
                    cases keptLater
                | cons first gap =>
                    obtain rfl : first = '\n' := by simpa using ends
                    exact .comment inLine spacing.afterLine
            · rw [← List.append_assoc]
              exact ⟨keptLater, rfl, scans⟩

/-! ## A text and the same tokens in another one -/

/--
A text of some tokens, behind some character, and another text with the same
lexemes: step by step a gap, a lexeme and what remains.
-/
inductive Relaid :
    Option Char → List Char → List (TokenKind × String) → List Char → Prop where
  | stop {before : Option Char} {rest gap : List Char}
      (dropped : ∀ last, Lexes markupRules last rest [])
      (respaced : Respaced rest gap) :
      Relaid before rest [] gap
  | token {before : Option Char}
      {gap newGap consumed remaining text chars : List Char} {label : RuleLabel}
      {pieces : List (TokenKind × String)} {kind : TokenKind}
      (spacing : Spacing gap)
      (cut : cutFirst markupRules (consumed ++ remaining) =
        some (label, text, remaining)) (moves : consumed ≠ [])
      (kept : label.kind? text (gap.getLast?.or before) = some kind)
      (respaced : Respaced gap newGap)
      (others : Relaid consumed.getLast? remaining pieces chars) :
      Relaid before (gap ++ (consumed ++ remaining))
        ((kind, String.ofList text) :: pieces) (newGap ++ (consumed ++ chars))

/-- A text has the lexemes of the tokens that are relayed. -/
theorem Scans.relaid (scans : Scans markupRules behind rest written [])
    {offset : Nat}
    (relays : Relays source offset (written ++ [endToken source]) chars)
    (parts : source = behind ++ rest) (here : offset = behind.length) :
    Relaid behind.getLast? rest (written.map Token.piece) chars := by
  subst parts here
  induction written generalizing behind rest chars with
  | nil =>
      cases relays with
      | @token _ _ _ gap chars respaced others =>
          cases others
          rcases scans.uncons rfl with ⟨-, dropped⟩ |
            ⟨_, _, _, _, _, _, _, _, _, _, _, _, found, _⟩
          · have all :
                (behind ++ rest).extract behind.length (behind ++ rest).length =
                  rest := by
              simp
            have none :
                (behind ++ rest).extract (behind ++ rest).length
                  (behind ++ rest).length = [] := by
              simp
            rw [endToken, all] at respaced
            rw [endToken, none, List.append_nil, List.append_nil]
            exact .stop dropped respaced
          · cases found
  | cons token written induction =>
      rcases scans.uncons rfl with ⟨found, -⟩ |
        ⟨gap, consumed, remaining, text, label, kind, others, rfl, spacing, cut,
          moves, kept, found, scans⟩
      · cases found
      · cases found
        cases relays with
        | @token _ _ _ newGap chars respaced relays =>
            have before :
                (behind ++ (gap ++ (consumed ++ remaining))).extract
                  behind.length (behind ++ gap).length = gap := by
              rw [List.length_append, extract_consumed]
            have lexeme :
                (behind ++ (gap ++ (consumed ++ remaining))).extract
                  (behind ++ gap).length
                  ((behind ++ gap).length + consumed.length) = consumed := by
              rw [← List.append_assoc, extract_consumed]
            have parts : behind ++ (gap ++ (consumed ++ remaining)) =
                behind ++ gap ++ consumed ++ remaining := by
              simp only [List.append_assoc]
            have stop : (behind ++ gap).length + consumed.length =
                (behind ++ gap ++ consumed).length := (List.length_append ..).symm
            simp only [tokenBehind, before] at respaced
            simp only [tokenBehind, stop, parts] at relays
            have further := induction scans relays
            rw [getLast?_behind moves] at further
            rw [List.getLast?_append] at kept
            simp only [tokenBehind, lexeme]
            exact .token spacing cut moves kept respaced further

/-! ## The other text lexes to the same tokens -/

namespace Relaid

/-- The other text begins with a blank or as the first one does. -/
theorem begins (relaid : Relaid before rest pieces chars) :
    BeginsAs chars rest := by
  cases relaid with
  | stop dropped respaced =>
      rcases respaced with rfl | ⟨-, gap⟩
      · exact .inr rfl
      · exact .inl gap.begins
  | @token _ gap newGap consumed remaining text chars label pieces kind spacing
      cut moves kept respaced others =>
      rcases respaced with rfl | ⟨-, gap⟩
      · obtain ⟨first, consumed, rfl⟩ := List.exists_cons_of_ne_nil moves
        right
        simp [List.head?_append]
      · left
        have begins := gap.begins
        cases newGap with
        | nil => cases begins
        | cons first newGap => exact begins

/-- The other text ends the token before it as well as the first one. -/
theorem endsAs (relaid : Relaid before rest pieces chars) : EndsAs chars rest := by
  refine ⟨relaid.begins, ?_⟩
  intro tail otherTail dotted alsoDotted undigited
  cases relaid with
  | stop dropped respaced =>
      rcases respaced with rfl | ⟨-, gap⟩
      · cases dotted.symm.trans alsoDotted
        exact undigited
      · have begins := gap.begins
        rw [alsoDotted] at begins
        exact absurd begins dot_notBlank
  | @token _ gap newGap consumed remaining text chars label pieces kind spacing
      cut moves kept respaced others =>
      obtain rfl : gap = [] := by
        cases spacing with
        | nil => rfl
        | blank isBlank spacing =>
            cases dotted
            exact absurd isBlank (by decide)
        | comment inLine spacing => cases dotted
      obtain rfl : newGap = [] := respaced.resolve_right fun new => new.1 rfl
      cases consumed with
      | nil => exact absurd rfl moves
      | cons first more =>
          cases dotted
          cases alsoDotted
          cases more with
          | cons next more => exact undigited
          | nil => exact others.begins.stops isDigit_blank undigited

/-- The other text lexes to the same tokens. -/
theorem lexes (relaid : Relaid before rest pieces chars)
    (same : other = some '.' ↔ before = some '.') :
    Lexes markupRules other chars pieces := by
  induction relaid generalizing other with
  | stop dropped respaced =>
      rcases respaced with rfl | ⟨-, gap⟩
      · exact dropped other
      · have ends : Lexes markupRules other (_ ++ []) [] :=
          gap.spacing.lexes (.done _)
        rwa [List.append_nil] at ends
  | @token before gap newGap consumed remaining text chars label pieces kind
      spacing cut moves kept respaced others induction =>
      have newSpacing : Spacing newGap := by
        rcases respaced with rfl | ⟨-, gap⟩
        · exact spacing
        · exact gap.spacing
      have alike : newGap.getLast?.or other = some '.' ↔
            gap.getLast?.or before = some '.' := by
        rcases respaced with rfl | ⟨some, new⟩
        · cases newGap with
          | nil => exact same
          | cons first newGap =>
              have some := List.cons_ne_nil first newGap
              exact iff_of_false (spacing.undotted some) (spacing.undotted some)
        · refine iff_of_false (new.spacing.undotted ?_) (spacing.undotted some)
          rintro rfl
          exact absurd new.begins (by decide)
      have notSkip : label ≠ .skip := by
        rintro rfl
        cases kept
      rw [← RuleLabel.kind?_congr alike] at kept
      exact newSpacing.lexes
        (.token kind (cutFirst_endsAs cut moves notSkip others.endsAs) rfl moves
          kept (induction Iff.rfl))

end Relaid

/--
Other gaps between the tokens of a source text leave a text with the same kinds
and values of tokens.
-/
theorem Relays.tokenize {source relaid : String}
    (relays : Relays source.toList 0 tokens relaid.toList)
    (lexed : LiveMarkup.tokenize markupRules source = .ok tokens) :
    ∃ others,
      LiveMarkup.tokenize markupRules relaid = .ok others ∧
      others.map Token.piece = tokens.map Token.piece := by
  rcases scans_of_tokenize markupRules source with ⟨written, scans, found⟩ |
    ⟨written, taken, char, left, scans, parts, stuck, failed⟩
  · rw [lexed] at found
    cases found
    obtain ⟨others, tokenized, same⟩ :=
      ((scans.relaid relays rfl rfl).lexes Iff.rfl).tokenize
    exact ⟨others, tokenized, by simp [same, endToken, Token.piece]⟩
  · rw [lexed] at failed
    cases failed

end LiveMarkup
