import LiveMarkup.Token.Rule
import LiveMarkup.Text.Quoted

/-!
# Cutting a source text into tokens

At every offset the rules are tried in order, and the first that consumes at
least one character wins.  The token list ends with a token for the end of
input.
-/

namespace LiveMarkup

/-- A character that no rule accepts. -/
structure LexError where
  char : Char
  position : Position
deriving DecidableEq, Repr

/-- A position as it is written in messages. -/
def Position.text (position : Position) : String :=
  Nat.repr position.line ++ ":" ++ Nat.repr position.column

def LexError.message (error : LexError) : String :=
  "guml tokenize error at " ++ error.position.text ++ ": unexpected character "
    ++ Text.quotedChar error.char

/-- A text that a rule has matched: its label, the token text and the cursor
after it. -/
structure RuleMatch where
  label : RuleLabel
  text : List Char
  after : Cursor

/-- Try rules in order.  What a failed attempt learned about lines stays known;
the answer carries the cursor to go on with if no rule matches. -/
def firstMatch (start : Nat) : List Rule → Cursor → RuleMatch ⊕ Cursor
  | [], cursor => .inr cursor
  | rule :: rest, cursor =>
    match rule.shape.run cursor with
    | (some text, after) =>
      if start < after.index then .inl ⟨rule.label, text, after⟩
      else firstMatch start rest (after.moveTo start)
    | (none, after) => firstMatch start rest (after.moveTo start)

/-- The tokens from a cursor on, at most one for each of `bound` steps, put
before `collected` in reverse. -/
def scanTokens (rules : List Rule) :
    Nat → List Token → Cursor → Except LexError (List Token)
  | 0, collected, cursor => finish collected cursor
  | bound + 1, collected, cursor =>
    if cursor.atEnd then finish collected cursor
    else
      match firstMatch cursor.index rules cursor with
      | .inl found =>
        match found.label.kind? found.text (found.after.charBefore? cursor.index) with
        | none => scanTokens rules bound collected found.after
        | some kind =>
          let span :=
            ⟨cursor.index, found.after.index, found.after.position cursor.index⟩
          scanTokens rules bound
            (⟨kind, String.ofList found.text, span⟩ :: collected) found.after
      | .inr after =>
        .error ⟨(after.peek?).getD '\x00', after.position cursor.index⟩
where
  /-- Close the list with the token for the end of input. -/
  finish (collected : List Token) (cursor : Cursor) :
      Except LexError (List Token) :=
    let stop := cursor.source.size
    .ok ((⟨.endOfInput, "", ⟨stop, stop, cursor.position stop⟩⟩ ::
      collected).reverse)

/-- Cut a text into tokens by a list of rules. -/
def tokenize (rules : List Rule) (source : String) : Except LexError (List Token) :=
  let cursor := Cursor.ofString source
  scanTokens rules cursor.source.size [] cursor

/-- The operators, longer symbols before their beginnings. -/
def operatorSymbols : List String :=
  ["!=", "<=", ">=", "==", "||", "&&", "!", "<", ">", "+", "-", "*", "/", "%", "^"]

/-- The punctuation marks, longer ones before their beginnings. -/
def punctuation : List (String × TokenKind) :=
  [(",", .comma), (".", .dot), ("|", .pipe), (":=", .bindAssign), (":", .colon),
    ("(", .leftParen), ("[", .leftBracket), ("\x7b", .leftBrace),
    ("\x7d", .rightBrace), ("]", .rightBracket), (")", .rightParen)]

/-- The rules of the markup language. -/
def markupRules : List Rule :=
  [⟨.skip, .oneOf [' ', '\t']⟩, ⟨.skip, .oneOf ['\r', '\n']⟩,
    ⟨.skip, .comment '/' ['/']⟩, ⟨.fixed .text, .quotedText⟩,
    ⟨.fixed .float, .number true⟩, ⟨.fixed .integer, .number false⟩,
    ⟨.fixed .null, .keyword "null".toList⟩,
    ⟨.fixed .null, .keyword "Null".toList⟩,
    ⟨.fixed .boolean, .keyword "false".toList⟩,
    ⟨.fixed .boolean, .keyword "true".toList⟩] ++
    operatorSymbols.map
    (fun symbol => ⟨.fixed .operator, .literal symbol.toList⟩) ++
    punctuation.map (fun mark => ⟨.fixed mark.2, .literal mark.1.toList⟩) ++
    [⟨.byName, .identifier⟩]

end LiveMarkup
