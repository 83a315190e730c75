import LiveMarkup.Proofs.Lexing.Positions
import LiveMarkup.Proofs.Lexing.Segmentation
import LiveMarkup.Proofs.Parsing.Totality
import LiveMarkup.Proofs.Printing.Texts

/-!
# Errors point into the source text

Whatever the source text is, it is parsed to a tree or to an error.  The tokens
of a text are a list that is read up to the token at its end, so what is shown
about calls on a token list holds of the parse of a text.  An error shows the
first character that begins no token, or the beginning of a token.
-/

namespace LiveMarkup

/-- An error shows a place of a source text. -/
inductive ParseError.PointsInto (source : String) : ParseError → Prop where
  /-- No rule matches at the place, and all before it is cut into tokens. -/
  | unmatched {char : Char} {place : Nat}
      (here : source.toList[place]? = some char)
      (before : ∃ tokens,
        tokenize markupRules (String.ofList (source.toList.take place)) =
        .ok tokens) (none : ∀ rule ∈ markupRules,
          (rule.shape.run ((Cursor.ofString source).moveTo place)).1 = none) :
      PointsInto source ⟨.unexpectedCharacter char,
        exactPosition source.toList place⟩
  /-- A token of the text begins at the place, perhaps the one at its end. -/
  | token {cause : Cause} {tokens : List Token} {token : Token}
      (kind : cause.kind ≠ .tokenize) (shallow : cause ≠ .nestedTooDeep)
      (lexed : tokenize markupRules source = .ok tokens)
      (member : token ∈ tokens)
      (within : token.span.start ≤ source.toList.length) :
      PointsInto source ⟨cause, exactPosition source.toList token.span.start⟩

/-- A cause that a parser gives for a token is none of the lexer, and none of
the depth of nesting. -/
theorem ParseError.Cause.Grammatical.apart {cause : ParseError.Cause}
    (grammatical : cause.Grammatical) :
    cause.kind ≠ .tokenize ∧ cause ≠ .nestedTooDeep := by
  cases cause with
  | unexpectedCharacter char => exact grammatical.elim
  | nestedTooDeep => exact grammatical.elim
  | _ => exact ⟨nofun, nofun⟩

/-- What parsing a token list takes from a place is there. -/
structure Parser.InRange (tokens : List Token) : Prop where
  /-- Reading begins at the first token. -/
  begins : (TokenStream.ofTokens tokens).StandsAt tokens 0
  /-- The next token is the one at the index. -/
  next : ∀ (index : Nat) (stream : TokenStream), stream.StandsAt tokens index →
    tokens[index]? = some stream.head
  /-- The end of what was read is that of the token before the index. -/
  before : ∀ (index : Nat) (stream : TokenStream),
      stream.StandsAt tokens (index + 1) →
      tokens[index]?.map (·.span.stop) = some stream.lastStop
  /-- A call on a stream of the list leads to another such stream, or to an
  error at a token. -/
  reads : ∀ site : Site,
      site.Proper tokens →
      Within tokens (site.call.Gives tokens) (site.call.limit site.stream)
        (site.call.parse site.stream)
  /-- The sign that is taken off an alias is there. -/
  aliases : ∀ token ∈ tokens, token.kind = .aliasRef →
    token.value.toList = '@' :: (withoutSign token.value).toList
  /-- The sign that is taken off a signal is there. -/
  signals : ∀ token ∈ tokens, token.kind = .signalName →
    token.value.toList = '#' :: (withoutSign token.value).toList

/-- What parsing a token list consumes. -/
structure Parser.Consumes (tokens : List Token) : Prop where
  /-- What a call needs is a call that may be made. -/
  proper : ∀ site other : Site,
      site.Proper tokens → site.Needs other → other.Proper tokens
  /-- When calls come back to a function, and so when a loop takes another turn,
  there are fewer tokens left. -/
  cycles : ∀ first last : Site,
      first.Proper tokens →
      Relation.TransGen Site.Needs first last →
      last.call.rank = first.call.rank →
      last.stream.upcoming.length < first.stream.upcoming.length
  /-- The number of tokens bounds the length of a chain of calls. -/
  chains : ∀ (first : Site) (others : List Site),
      first.Proper tokens →
      List.IsChain Site.Needs (first :: others) →
      others.length ≤ 7 * first.stream.upcoming.length + 6
  /-- The number of tokens bounds the depth that a call takes. -/
  depth : ∀ (site : Site) (depth : Nat), site.Proper tokens →
    7 * site.stream.upcoming.length + 6 < depth →
      site.call.run .none depth site.stream = site.call.parse site.stream

/-! ## Tokens of a text -/

variable {source behind rest left : List Char} {tokens : List Token}

/-- A name that is an alias or a signal begins with its sign. -/
theorem sign_of_kindOfName {text : List Char} {before : Option Char} :
    (kindOfName text before = .aliasRef → text = '@' :: text.drop 1) ∧
      (kindOfName text before = .signalName → text = '#' :: text.drop 1) := by
  refine ⟨eq_sign_of_aliasRef, fun spelled => ?_⟩
  have plain : text ∉ keywordKinds.map Prod.fst := by
    intro reserved
    obtain ⟨keyword, member, rfl⟩ := List.mem_map.mp reserved
    rw [(kindOfName_keyword member).2] at spelled
    have apart : ∀ keyword ∈ keywordKinds, keyword.2 ≠ .signalName := by decide
    exact apart keyword member spelled
  rw [kindOfName_plain plain] at spelled
  unfold kindOfFirst at spelled
  split at spelled
  · split at spelled
    · cases spelled
    · split at spelled
      · cases spelled
      · split at spelled
        · next sign => rw [eq_of_beq sign]; rfl
        · split at spelled
          · split at spelled <;> cases spelled
          · cases spelled
  · cases spelled

/-- A token of some characters has the kind that the label of a rule gives its
text. -/
theorem Scans.labelled (scans : Scans markupRules behind rest tokens left) :
    ∀ token ∈ tokens, ∃ rule ∈ markupRules, ∃ before,
      rule.label.kind? token.value.toList before = some token.kind := by
  induction scans with
  | stop behind left => exact nofun
  | @step behind consumed remaining left text label tokens cut moves others
      hypothesis =>
    intro token member
    rcases List.mem_append.mp member with first | later
    · obtain ⟨kind, kept, rfl⟩ :=
        Option.map_eq_some_iff.mp (Option.mem_toList.mp first)
      obtain ⟨rule, known, rfl, -⟩ := rule_of_cutFirst cut
      refine ⟨rule, known, behind.getLast?, ?_⟩
      simpa only [tokenBehind, String.toList_ofList] using kept
    · exact hypothesis token later

/-- The tokens that some characters scan to begin with a sign if they are
aliases or signals. -/
theorem Scans.signs (scans : Scans markupRules behind rest tokens left) :
    ∀ token ∈ tokens,
      (token.kind = .aliasRef →
       token.value.toList = '@' :: token.value.toList.drop 1) ∧
      (token.kind = .signalName →
       token.value.toList = '#' :: token.value.toList.drop 1) := by
  intro token member
  obtain ⟨rule, known, before, kept⟩ := scans.labelled token member
  have unfixed : ∀ rule ∈ markupRules,
      rule.label ≠ .fixed .aliasRef ∧ rule.label ≠ .fixed .signalName := by
    decide
  cases label : rule.label with
  | skip =>
    rw [label] at kept
    cases kept
  | fixed kind =>
    rw [label] at kept
    cases kept
    obtain ⟨noAlias, noSignal⟩ := unfixed rule known
    exact ⟨fun same => absurd (same ▸ label) noAlias,
      fun same => absurd (same ▸ label) noSignal⟩
  | byName =>
    rw [label] at kept
    have spelled : kindOfName token.value.toList before = token.kind :=
      Option.some.inj kept
    rw [← spelled]
    exact sign_of_kindOfName

/-- What is known of the tokens of a source text. -/
structure Tokenized (source : String) (tokens : List Token) : Prop where
  closed : ∃ pieces, tokens = pieces ++ [endToken source.toList]
  placed : ∀ token ∈ tokens, token.span.start ≤ source.toList.length ∧
    token.span.position = exactPosition source.toList token.span.start
  signs : ∀ token ∈ tokens,
      (token.kind = .aliasRef →
       token.value.toList = '@' :: token.value.toList.drop 1) ∧
      (token.kind = .signalName →
       token.value.toList = '#' :: token.value.toList.drop 1)

/-- A source text has tokens, or there is a first character that no rule matches. -/
theorem tokenized_or_unmatched (source : String) :
    (∃ tokens, tokenize markupRules source = .ok tokens ∧ Tokenized source tokens) ∨
      ∃ error, tokenize markupRules source = .error error ∧
        (ParseError.ofLexError error).PointsInto source := by
  rcases scans_of_tokenize markupRules source with ⟨pieces, scans, found⟩ |
    ⟨pieces, taken, char, left, scans, parts, stuck, failed⟩
  · refine .inl ⟨_, found, ⟨pieces, rfl⟩, fun token member => ?_,
      fun token member => ?_⟩
    · rcases List.mem_append.mp member with piece | last
      · have whole := scans.segmentation (List.append_nil source.toList).symm
        obtain ⟨-, starts, stops⟩ := whole.within token piece
        refine ⟨?_, scans.exactPositions token piece⟩
        simp only [List.length_nil, Nat.zero_add] at stops
        exact Nat.le_trans (Nat.le_of_lt starts) stops
      · rw [List.mem_singleton.mp last]
        exact ⟨Nat.le_refl _, rfl⟩
    · rcases List.mem_append.mp member with piece | last
      · exact scans.signs token piece
      · rw [List.mem_singleton.mp last]
        exact ⟨nofun, nofun⟩
  · refine .inr ⟨_, failed, ?_⟩
    have upTo : source.toList.take taken.length = taken := by
      rw [parts, List.take_left]
    have alone : Scans markupRules [] (String.ofList taken).toList pieces [] := by
      rw [String.toList_ofList]
      exact scans.cutShort parts
    have place : exactPosition source.toList taken.length =
          exactPosition taken taken.length := by
      rw [parts, exactPosition_append]
    have here : source.toList[taken.length]? = some char := by simp [parts]
    have points := ParseError.PointsInto.unmatched here ⟨_, upTo ▸ alone.tokenize⟩
      fun rule member => run_eq_none parts stuck member
    rw [place] at points
    exact points

namespace Parser

/-- A token list that comes from a source has its places within that source. -/
theorem InRange.of_tokenized {source : String} {tokens : List Token}
    (tokenized : Tokenized source tokens) : InRange tokens where
  begins := by
    obtain ⟨pieces, rfl⟩ := tokenized.closed
    exact TokenStream.standsAt_ofTokens rfl
  next _ _ stands := stands.head
  before _ _ stands := stands.stop_before
  reads site proper := site.call.parse_within proper.1 proper.2
  aliases token member same := by
    rw [withoutSign, String.toList_ofList]
    exact (tokenized.signs token member).1 same
  signals token member same := by
    rw [withoutSign, String.toList_ofList]
    exact (tokenized.signs token member).2 same

/-- Every parser of the grammar consumes tokens of the list it was given. -/
theorem consumes (tokens : List Token) : Consumes tokens where
  proper _ _ proper needs := (needs.below proper).1
  cycles _ _ proper chain same := (Site.below_of_chain proper chain).2.fewer same
  chains first _ proper needs := by
    have covers := Site.length_of_chain proper needs
    have small := first.call.rank_le
    unfold Call.enough at covers
    omega
  depth site depth proper covers := by
    have small := site.call.rank_le
    refine site.call.run_eq_parse proper.1 proper.2 ?_
    unfold Call.enough
    omega

/-- An outcome on the tokens of a text points into the text if it is an error. -/
theorem Within.pointsInto {α : Type} {source : String} {tokens : List Token}
    {gives : α → Prop} {limit : Nat}
    {outcome : Except ParseError (α × TokenStream)}
    (within : Within tokens gives limit outcome)
    (lexed : tokenize markupRules source = .ok tokens)
    (tokenized : Tokenized source tokens) {error : ParseError}
    (failed : outcome.map Prod.fst = .error error) :
    error.PointsInto source := by
  cases within with
  | read => cases failed
  | refused grammatical located =>
    cases failed
    obtain ⟨token, member, place⟩ := located
    obtain ⟨inside, exact⟩ := tokenized.placed token member
    obtain ⟨kind, shallow⟩ := grammatical.apart
    have points := ParseError.PointsInto.token kind shallow lexed member inside
    rw [← exact, place] at points
    exact points

/-- The function that reads a source text has the depth that it takes for the
tokens of the text. -/
theorem run_eq_parse {α : Type} (call : Call α)
    (given : ∀ tokens stream, call.Given tokens stream) {source : String}
    {tokens : List Token} (lexed : tokenize markupRules source = .ok tokens)
    (tokenized : Tokenized source tokens) :
    (Parser.run .none source fun depth => call.run .none (depth + 1)) =
      call.parse (.ofTokens tokens) := by
  have plain : tokens.map Converters.none.token = tokens := List.map_id tokens
  have stands := (InRange.of_tokenized tokenized).begins
  have length := stands.length
  have small := call.rank_le
  have covers : call.enough (.ofTokens tokens) < depthFor tokens.length + 1 := by
    unfold Call.enough depthFor
    omega
  unfold Parser.run
  rw [lexed]
  simp only [plain]
  exact call.run_eq_parse ⟨0, stands⟩ (given _ _) covers

/-- An error of a function that reads a source text points into the text. -/
theorem run_pointsInto {α : Type} (call : Call α)
    (given : ∀ tokens stream, call.Given tokens stream) {source : String}
    {error : ParseError}
    (failed :
      (Parser.run .none source fun depth => call.run .none (depth + 1)).map
        Prod.fst = .error error) : error.PointsInto source := by
  rcases tokenized_or_unmatched source with ⟨tokens, lexed, tokenized⟩ |
    ⟨lexError, lexed, points⟩
  · have stands := (InRange.of_tokenized tokenized).begins
    rw [run_eq_parse call given lexed tokenized] at failed
    exact (call.parse_within ⟨0, stands⟩ (given _ _)).pointsInto lexed
      tokenized failed
  · unfold Parser.run at failed
    rw [lexed] at failed
    cases failed
    exact points

end Parser

/-- The line that an offset is on begins at the offset or before. -/
theorem lineStart_le (cursor : Cursor) (offset : Nat) :
    (cursor.lineStarts.filter (· ≤ offset)).headD 0 ≤ offset := by
  cases passed : cursor.lineStarts.filter (· ≤ offset) with
  | nil => exact Nat.zero_le _
  | cons start others =>
    have member : start ∈ cursor.lineStarts.filter (· ≤ offset) := by
      rw [passed]
      exact List.mem_cons_self ..
    simpa using (List.mem_filter.mp member).2

/-- Parsing is total, and its errors point into the text.  Whatever the source
text is, an error of a document or of an expression is at the exact position of
a character of the text or of its end: that of the first character that no rule
matches, or that of the beginning of a token.  The tokens of a text, where they
are read and where signs are taken off, are in range; and each cycle of calls
takes tokens, so that their number bounds the calls.  No offset is before the
beginning of the line that its column is counted from. -/
theorem read_total (source : String) :
    (∀ error,
      Document.read .none source = .error error → error.PointsInto source) ∧
    (∀ error, Expr.read .none source = .error error → error.PointsInto source) ∧
    (∀ tokens,
      tokenize markupRules source = .ok tokens →
        Parser.InRange tokens ∧ Parser.Consumes tokens ∧
        Document.read .none source =
          (Parser.Call.document.parse (.ofTokens tokens)).map Prod.fst ∧
        Expr.read .none source =
          (Parser.Call.soleExpression.parse (.ofTokens tokens)).map Prod.fst) ∧
    ∀ (cursor : Cursor) (offset : Nat),
      (cursor.lineStarts.filter (· ≤ offset)).headD 0 ≤ offset := by
  have document : ∀ tokens stream, Parser.Call.document.Given tokens stream :=
    fun _ _ => trivial
  have expression :
      ∀ tokens stream, Parser.Call.soleExpression.Given tokens stream :=
    fun _ _ => trivial
  refine ⟨fun error failed => ?_, fun error failed => ?_,
    fun tokens lexed => ?_, lineStart_le⟩
  · exact Parser.run_pointsInto .document document failed
  · exact Parser.run_pointsInto .soleExpression expression failed
  · rcases tokenized_or_unmatched source with ⟨same, found, tokenized⟩ |
      ⟨lexError, unlexed, -⟩
    · rw [found] at lexed
      cases lexed
      refine ⟨.of_tokenized tokenized, Parser.consumes tokens, ?_, ?_⟩
      · exact congrArg (Except.map Prod.fst)
          (Parser.run_eq_parse .document document found tokenized)
      · exact congrArg (Except.map Prod.fst)
          (Parser.run_eq_parse .soleExpression expression found tokenized)
    · rw [unlexed] at lexed
      cases lexed

end LiveMarkup
