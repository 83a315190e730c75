import LiveMarkup.Proofs.Grammar.DocumentCompleteness

/-!
# The document parser is exact

Soundness and completeness together, for the token list of a source text: the
parser returns a document exactly if the grammar derives it from the tokens up
to the end of the input.  A document is therefore the only one its tokens
derive, with everything that was written in it.
-/

namespace LiveMarkup.Grammar

/-- Read a token list that is a document, without converters. -/
def readTokens (tokens : List Token) : Except ParseError Document :=
  (Parser.document .none (Parser.depthFor tokens.length) (.ofTokens tokens)).map
    Prod.fst

/-- A source text is read token list by token list. -/
theorem read_eq_readTokens {source : String} {tokens : List Token}
    (lexed : tokenize markupRules source = .ok tokens) :
    Document.read .none source = readTokens tokens := by
  have unconverted : tokens.map Converters.none.token = tokens := List.map_id tokens
  simp only [Document.read, Parser.run, lexed, unconverted, readTokens]

/-- The tokens of a text up to the end of the input, of which there may be
several. -/
def UpToEnd (written : List Token) (final : Token) (tokens : List Token) : Prop :=
  ∃ remaining, written = tokens ++ remaining ∧
    (remaining.headD final).kind = .endOfInput

/-- Tokens up to the end of input are all tokens, if none of them is the end
itself. -/
theorem upToEnd_iff_eq {written tokens : List Token} {final : Token}
    (ends : final.kind = .endOfInput)
    (single : ∀ token ∈ written, token.kind ≠ .endOfInput) :
    UpToEnd written final tokens ↔ tokens = written := by
  constructor
  · rintro ⟨remaining, rfl, atEnd⟩
    cases remaining with
    | nil => simp
    | cons token others =>
        exact absurd atEnd (single token (by simp))
  · rintro rfl
    exact ⟨[], by simp, ends⟩

/-- A document is returned exactly if it is derived. -/
theorem readTokens_eq_ok_iff {written : List Token} {final : Token}
    {document : Document} (ends : final.kind = .endOfInput) :
    readTokens (written ++ [final]) = .ok document ↔
      ∃ tokens,
        UpToEnd written final tokens ∧ DerivesDocument tokens document := by
  have stream_eq : (TokenStream.ofTokens (written ++ [final])) =
      { upcoming := written, final, lastStop := 0, aliases := [] } := by
    simp [TokenStream.ofTokens]
  constructor
  · intro read
    rw [readTokens, stream_eq] at read
    cases parsed : Parser.document .none
      (Parser.depthFor (written ++ [final]).length)
      { upcoming := written, final, lastStop := 0, aliases := [] } with
    | error error =>
        rw [parsed] at read
        cases read
    | ok result =>
        rw [parsed] at read
        cases read
        obtain ⟨tokens, upcoming, atEnd, derived⟩ := document_sound ends rfl parsed
        exact ⟨tokens, ⟨_, upcoming, atEnd⟩, derived⟩
  · rintro ⟨tokens, ⟨remaining, upcoming, atEnd⟩, derived⟩
    have enough :
        2 * tokens.length ≤ Parser.depthFor (written ++ [final]).length := by
      simp only [upcoming, Parser.depthFor, List.length_append]
      omega
    obtain ⟨rest, parsed⟩ :=
      derived.reads { upcoming := written, final, lastStop := 0, aliases := [] }
        enough rfl upcoming atEnd
    rw [readTokens, stream_eq, parsed]
    rfl

/-- Tokens derive at most one document. -/
theorem DerivesDocument.unique {tokens : List Token} {first second : Document}
    (firstDerived : DerivesDocument tokens first)
    (secondDerived : DerivesDocument tokens second) : first = second := by
  let final : Token := ⟨.endOfInput, "", ⟨0, 0, ⟨1, 1⟩⟩⟩
  have read {document : Document} (derived : DerivesDocument tokens document) :
      readTokens (tokens ++ [final]) = .ok document :=
    (readTokens_eq_ok_iff rfl).mpr ⟨tokens, ⟨[], by simp, rfl⟩, derived⟩
  have equal := (read firstDerived).symm.trans (read secondDerived)
  cases equal
  rfl

/--
The document parser accepts exactly its grammar and loses nothing.  For every
token list that ends in the end of the input it returns a document exactly if
the tokens before the end derive that document, and an error if they derive
none; the document is the only one they derive.  If the end of the input occurs
earlier too, what stands behind its first occurrence is not looked at.
-/
theorem document_exact {written : List Token} {final : Token}
    (ends : final.kind = .endOfInput) :
    (∀ document,
      readTokens (written ++ [final]) = .ok document ↔
        ∃ tokens,
          UpToEnd written final tokens ∧ DerivesDocument tokens document) ∧
    ((∀ token ∈ written, token.kind ≠ .endOfInput) →
     ∀ document,
       readTokens (written ++ [final]) = .ok document ↔
         DerivesDocument written document) ∧
    ((¬ ∃ tokens document, UpToEnd written final tokens ∧
        DerivesDocument tokens document) →
     ∃ error, readTokens (written ++ [final]) = .error error) ∧
    (∀ tokens first second,
      DerivesDocument tokens first → DerivesDocument tokens second →
      first = second) := by
  refine ⟨fun document => readTokens_eq_ok_iff ends, ?_, ?_,
    fun tokens first second => DerivesDocument.unique⟩
  · intro single document
    rw [readTokens_eq_ok_iff ends]
    constructor
    · rintro ⟨tokens, upToEnd, derived⟩
      rw [(upToEnd_iff_eq ends single).mp upToEnd] at derived
      exact derived
    · intro derived
      exact ⟨written, (upToEnd_iff_eq ends single).mpr rfl, derived⟩
  · intro underivable
    cases read : readTokens (written ++ [final]) with
    | error error => exact ⟨error, rfl⟩
    | ok document =>
        obtain ⟨tokens, upToEnd, derived⟩ := (readTokens_eq_ok_iff ends).mp read
        exact absurd ⟨tokens, document, upToEnd, derived⟩ underivable

/-- A token of a text that is a single line. -/
def word (kind : TokenKind) (value : String) (start stop : Nat) : Token :=
  ⟨kind, value, ⟨start, stop, ⟨1, start + 1⟩⟩⟩

/-- The entries `width: 3, #ready: "opened",`. -/
def boardEntries : List Token :=
  [word .name "width" 44 49, word .colon ":" 49 50, word .integer "3" 51 52,
    word .comma "," 52 53, word .signalName "#ready" 54 60, word .colon ":" 60 61,
    word .text "opened" 62 70, word .comma "," 70 71]

/-- The child `@title: Label { text := $board.title }`. -/
def boardChild : List Token :=
  [word .aliasRef "@title" 72 78, word .colon ":" 78 79,
    word .component "Label" 80 85, word .leftBrace "\x7b" 86 87,
    word .name "text" 88 92, word .bindAssign ":=" 93 95,
    word .globalRef "$board" 96 102, word .dot "." 102 103,
    word .name "title" 103 108, word .rightBrace "\x7d" 109 110]

/-- The loop `each $board.rows using Row { |index, row| Button { text: row } }`. -/
def boardLoop : List Token :=
  [word .each "each" 111 115, word .globalRef "$board" 116 122,
    word .dot "." 122 123, word .name "rows" 123 127,
    word .using "using" 128 133, word .component "Row" 134 137,
    word .leftBrace "\x7b" 138 139, word .pipe "|" 140 141,
    word .name "index" 141 146, word .comma "," 146 147,
    word .name "row" 148 151, word .pipe "|" 151 152,
    word .component "Button" 153 159, word .leftBrace "\x7b" 160 161,
    word .name "text" 162 166, word .colon ":" 166 167,
    word .name "row" 168 171, word .rightBrace "\x7d" 172 173,
    word .rightBrace "\x7d" 174 175]

/-- The document `import "theme" using "Board" @board: VBox { … }` of all of
these. -/
def boardTokens : List Token :=
  [word .importModule "import" 0 6, word .text "theme" 7 14] ++
    [word .using "using" 15 20, word .text "Board" 21 28] ++
    (word .aliasRef "@board" 29 35 :: word .colon ":" 35 36 ::
      word .component "VBox" 37 41 :: word .leftBrace "\x7b" 42 43 ::
      (boardEntries ++ (boardChild ++ (boardLoop ++ []))) ++
      [word .rightBrace "\x7d" 176 177])

/-- The place of a part of the text. -/
def boardSpan (start stop : Nat) : Span := ⟨start, stop, ⟨1, start + 1⟩⟩

/-- What the entries stand for. -/
def boardItems : List Item :=
  [.property ⟨"width", .once, .int 3 (boardSpan 51 52), boardSpan 44 52⟩,
    .signal ⟨"ready", "opened", boardSpan 54 70⟩]

/-- The value `$board.title`. -/
def boardTitle : Expr :=
  .reference (.property (.global "$board" (boardSpan 96 102)) "title"
    (boardSpan 96 108))

/-- What the child stands for. -/
def boardLabel : Component :=
  ⟨"Label", some "title", [⟨"text", .live, boardTitle, boardSpan 88 108⟩], [],
    [], [], boardSpan 80 110⟩

/-- The value `$board.rows`. -/
def boardRows : Expr :=
  .reference (.property (.global "$board" (boardSpan 116 122)) "rows"
    (boardSpan 116 127))

/-- The button of a row. -/
def boardButton : Component :=
  ⟨"Button", none,
    [⟨"text", .once, .reference (.local "row" (boardSpan 168 171)),
      boardSpan 162 171⟩], [], [], [], boardSpan 153 173⟩

/-- What the document stands for. -/
def boardDocument : Document where
  imports := [⟨"theme", false, boardSpan 0 6⟩]
  aliases := ["board", "title"]
  controller := some "Board"
  root :=
    { name := "VBox"
      aliasName := some "board"
      properties := [⟨"width", .once, .int 3 (boardSpan 51 52), boardSpan 44 52⟩]
      signals := [⟨"ready", "opened", boardSpan 54 70⟩]
      children := [boardLabel]
      loops :=
        [⟨boardRows, "Row", "index", "row", [boardButton], [],
          boardSpan 111 175⟩]
      span := boardSpan 37 177 }

/-- The entries of the board are derived. -/
theorem boardEntries_derived : DerivesKeyValues boardEntries boardItems := by
  have width : Derives 0 [word .integer "3" 51 52] (.int 3 (boardSpan 51 52)) :=
    .of_atom (.integer _ 3 rfl (by decide))
  have opened :
      Derives 0 [word .text "opened" 62 70]
        (.text "opened" (boardSpan 62 70)) :=
    .of_atom (.text _ rfl)
  have first := DerivesEntry.once
    (word .name "width" 44 49) (word .colon ":" 49 50) rfl rfl width
  have second := DerivesEntry.signal
    (word .signalName "#ready" 54 60) (word .colon ":" 60 61) rfl rfl opened
  exact .cons (word .comma "," 52 53) rfl first
    (.trailing (word .comma "," 70 71) rfl second)

/-- So is the label of the board. -/
theorem boardChild_derived : DerivesComponent boardChild ["title"] boardLabel := by
  have board := DerivesReference.global (word .globalRef "$board" 96 102) rfl
  have title := DerivesReference.property board
    (word .dot "." 102 103) (word .name "title" 103 108) rfl rfl
  have text := DerivesKeyValues.last (.live
    (word .name "text" 88 92) (word .bindAssign ":=" 93 95) rfl rfl
    (.of_atom (.reference title)))
  exact .aliased (word .aliasRef "@title" 72 78) (word .colon ":" 78 79)
    (word .component "Label" 80 85) (word .leftBrace "\x7b" 86 87)
    (word .rightBrace "\x7d" 109 110)
    rfl rfl rfl rfl rfl (.keyValues text .nil) ⟨by decide, by decide⟩

/-- And its loop with the button. -/
theorem boardLoop_derived :
    DerivesLoop boardLoop []
      ⟨boardRows, "Row", "index", "row", [boardButton], [], boardSpan 111 175⟩ := by
  have board := DerivesReference.global (word .globalRef "$board" 116 122) rfl
  have rows := DerivesReference.property board
    (word .dot "." 122 123) (word .name "rows" 123 127) rfl rfl
  have row := DerivesReference.local (word .name "row" 168 171) rfl
  have text := DerivesKeyValues.last (.once
    (word .name "text" 162 166) (word .colon ":" 166 167) rfl rfl
    (.of_atom (.reference row)))
  have button : DerivesComponent _ [] boardButton :=
    .plain (word .component "Button" 153 159) (word .leftBrace "\x7b" 160 161)
      (word .rightBrace "\x7d" 172 173) rfl rfl rfl
      (.keyValues text .nil) ⟨by decide, by decide⟩
  exact .each (word .each "each" 111 115) (word .using "using" 128 133)
    (word .component "Row" 134 137) (word .leftBrace "\x7b" 138 139)
    (word .pipe "|" 140 141) (word .name "index" 141 146)
    (word .comma "," 146 147) (word .name "row" 148 151)
    (word .pipe "|" 151 152) (word .rightBrace "\x7d" 174 175) rfl
    (.of_atom (.reference rows)) rfl rfl rfl rfl rfl rfl rfl rfl rfl
    (.component button .nil)

/-- The whole document is derived from its tokens. -/
theorem boardTokens_derived : DerivesDocument boardTokens boardDocument := by
  have imports := DerivesImports.cons
    (word .importModule "import" 0 6) (word .text "theme" 7 14) (.inl rfl) rfl .nil
  have controller := DerivesController.directive
    (word .using "using" 15 20) (word .text "Board" 21 28) rfl rfl
  have items := DerivesItems.keyValues boardEntries_derived
    (.component boardChild_derived (.each boardLoop_derived .nil))
  have root := DerivesComponent.aliased
    (word .aliasRef "@board" 29 35) (word .colon ":" 35 36)
    (word .component "VBox" 37 41) (word .leftBrace "\x7b" 42 43)
    (word .rightBrace "\x7d" 176 177)
    rfl rfl rfl rfl rfl items ⟨by decide, by decide⟩
  exact .document imports (by decide) controller root (by decide)

/-- A document with an import, a controller, aliases, an entry of each kind, a
child and a loop. -/
theorem document_exact_board :
    (word .endOfInput "" 177 177).kind = .endOfInput ∧
    (∀ token ∈ boardTokens, token.kind ≠ .endOfInput) ∧
    readTokens (boardTokens ++ [word .endOfInput "" 177 177]) =
      .ok boardDocument := by
  refine ⟨rfl, by decide, ?_⟩
  exact ((document_exact rfl).2.1 (by decide) _).mpr boardTokens_derived

end LiveMarkup.Grammar
