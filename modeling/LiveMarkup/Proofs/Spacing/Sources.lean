import Mathlib
import LiveMarkup.Proofs.Lexing.Gaps
import LiveMarkup.Proofs.Printing.RoundTrip
import LiveMarkup.Proofs.Spacing.Documents

/-!
# Spacing does not matter

Source texts whose tokens have the same kinds and values are read alike: as
documents and as expressions that differ in their places only, or not at all for
causes of one kind.  A source text with other gaps between its tokens is such a
text.
-/

namespace LiveMarkup

/-- Two readings that agree up to places: two values that correspond, or errors
of one kind. -/
def SameReading {α : Type} (same : α → α → Prop) :
    Except ParseError α → Except ParseError α → Prop
  | .ok first, .ok second => same first second
  | .error first, .error second => first.cause.kind = second.cause.kind
  | _, _ => False

variable {source relaid : String} {tokens others : List Token}

theorem Matching.reading {α : Type} {same : α → α → Prop}
    {first second : Except ParseError (α × TokenStream)}
    (outcomes : Matching same first second) :
    SameReading same (first.map Prod.fst) (second.map Prod.fst) := by
  cases outcomes with
  | read values streams => exact values
  | failed kind => exact kind

/-- Two token lists of the same kinds and values are the same stream up to
places. -/
theorem matches_ofTokens (same : tokens.map Token.piece = others.map Token.piece) :
    (TokenStream.ofTokens tokens).Matches (.ofTokens others) := by
  refine ⟨?_, ?_, rfl⟩
  · simp only [TokenStream.ofTokens, List.map_dropLast, same]
  · have final (list : List Token) : (TokenStream.ofTokens list).final.piece =
        (list.map Token.piece).getLast?.getD (.endOfInput, "") := by
      rw [TokenStream.ofTokens, List.getLast?_map]
      cases list.getLast? <;> rfl
    rw [final, final, same]

/-- A parser that mirrors itself reads two source texts of the same tokens alike. -/
theorem run_alike {α : Type} {same : α → α → Prop} {parser : Nat → Parser α}
    (mirrors : ∀ depth, Parser.Mirrors same (parser depth) (parser depth))
    (lexed : tokenize markupRules source = .ok tokens)
    (alsoLexed : tokenize markupRules relaid = .ok others)
    (pieces : others.map Token.piece = tokens.map Token.piece) :
    SameReading same ((Parser.run .none source parser).map Prod.fst)
      ((Parser.run .none relaid parser).map Prod.fst) := by
  have unconverted (list : List Token) :
      list.map Converters.none.token = list :=
    List.map_id list
  have length : tokens.length = others.length := by
    simpa using (congrArg List.length pieces).symm
  simp only [Parser.run, lexed, alsoLexed, unconverted, length]
  exact (mirrors _ _ _ (matches_ofTokens pieces.symm)).reading

theorem mirrors_soleExpression (depth : Nat) :
    Parser.Mirrors Expr.Alike (Parser.soleExpression .none depth)
      (Parser.soleExpression .none depth) := by
  rw [Parser.soleExpression, Parser.value, Converters.none_value_map]
  exact .bind (Parser.mirrors_expression depth) fun _ _ alike =>
    .peek fun _ _ _ _ =>
      .ifThen (fun _ => .pure alike) fun _ => .unexpected

/--
Other gaps between the tokens of a source text make no difference.  The text has
the same sequence of kinds and values of tokens, and both texts are read as the
same document and the same expression up to places, or fail with errors of one
kind.
-/
theorem relaid_reads_alike (lexed : tokenize markupRules source = .ok tokens)
    (relays : Relays source.toList 0 tokens relaid.toList) :
    (∃ others,
      tokenize markupRules relaid = .ok others ∧
      others.map Token.piece = tokens.map Token.piece) ∧
    SameReading (fun first second => first.bare = second.bare)
      (Document.read .none source) (Document.read .none relaid) ∧
    SameReading (fun first second => first.bare = second.bare)
      (Expr.read .none source) (Expr.read .none relaid) := by
  obtain ⟨others, alsoLexed, pieces⟩ := relays.tokenize lexed
  exact ⟨⟨others, alsoLexed, pieces⟩,
    run_alike Parser.mirrors_document lexed alsoLexed pieces,
    run_alike mirrors_soleExpression lexed alsoLexed pieces⟩

/-- A component in one line, with a comment behind it. -/
def tightSource : String := "Box \x7ba:1 +x\x7d//end"

/-- The same component in two lines, with another comment. -/
def looseSource : String := "Box\t\x7ba:1 // one\n +x\x7d\n"

/-- The tokens of the first text. -/
def tightTokens : List Token :=
  [⟨.component, "Box", ⟨0, 3, ⟨1, 1⟩⟩⟩, ⟨.leftBrace, "\x7b", ⟨4, 5, ⟨1, 5⟩⟩⟩,
    ⟨.name, "a", ⟨5, 6, ⟨1, 6⟩⟩⟩, ⟨.colon, ":", ⟨6, 7, ⟨1, 7⟩⟩⟩,
    ⟨.integer, "1", ⟨7, 8, ⟨1, 8⟩⟩⟩, ⟨.operator, "+", ⟨9, 10, ⟨1, 10⟩⟩⟩,
    ⟨.name, "x", ⟨10, 11, ⟨1, 11⟩⟩⟩, ⟨.rightBrace, "\x7d", ⟨11, 12, ⟨1, 12⟩⟩⟩,
    ⟨.endOfInput, "", ⟨17, 17, ⟨1, 18⟩⟩⟩]

theorem relaid_reads_alike_tight :
    tokenize markupRules tightSource = .ok tightTokens ∧
    Relays tightSource.toList 0 tightTokens looseSource.toList ∧
    (∃ others,
      tokenize markupRules looseSource = .ok others ∧
      others.map Token.piece = tightTokens.map Token.piece) ∧
    SameReading (fun first second => first.bare = second.bare)
      (Document.read .none tightSource) (Document.read .none looseSource) ∧
    SameReading (fun first second => first.bare = second.bare)
      (Expr.read .none tightSource) (Expr.read .none looseSource) := by
  have lexed : tokenize markupRules tightSource = .ok tightTokens := by cbv
  have blank (char : Char) (isBlank : char ∈ blankChars) : Gap [char] :=
    ⟨.blank isBlank .nil, by simpa using isBlank⟩
  have comment :
      Gap (' ' :: '/' :: '/' :: ([' ', 'o', 'n', 'e'] ++ '\n' :: [' '])) :=
    ⟨.blank (by decide) (.comment (by decide) (.blank (by decide) .nil)), by decide⟩
  have relays : Relays tightSource.toList 0 tightTokens looseSource.toList :=
    .token (.inl rfl) (.token (.inr ⟨by decide, blank '\t' (by decide)⟩)
      (.token (.inl rfl)
        (.token (.inl rfl)
          (.token (.inl rfl)
            (.token (.inr ⟨by decide, comment⟩)
              (.token (.inl rfl)
                (.token (.inl rfl)
                  (.token (.inr ⟨by decide, blank '\n' (by decide)⟩)
                    (.done 17)))))))))
  exact ⟨lexed, relays, relaid_reads_alike lexed relays⟩

end LiveMarkup
