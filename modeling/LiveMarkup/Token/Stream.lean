import LiveMarkup.ParseError

/-!
# Reading a token list

A token stream ends with a final token that reading never moves past.  The steps
of the parsers are functions from a stream to a value with the rest of the
stream, or to an error.
-/

namespace LiveMarkup

/-- The tokens still to be read, with what parsing needs to remember of the ones
before. -/
structure TokenStream where
  /-- The tokens before the final one. -/
  upcoming : List Token
  /-- The token at the end of the list. -/
  final : Token
  /-- The offset after the token read last. -/
  lastStop : Nat
  /-- The aliases declared so far, in source order. -/
  aliases : List String

/-- The stream of a token list. -/
def TokenStream.ofTokens (tokens : List Token) : TokenStream :=
  { upcoming := tokens.dropLast
    final := tokens.getLast?.getD ⟨.endOfInput, "", ⟨0, 0, ⟨1, 1⟩⟩⟩
    lastStop := 0
    aliases := [] }

/-- The next token. -/
def TokenStream.head (stream : TokenStream) : Token :=
  stream.upcoming.headD stream.final

/-- The stream after its next token.  The final token stays. -/
def TokenStream.tail (stream : TokenStream) : TokenStream :=
  match stream.upcoming with
  | [] => stream
  | token :: rest => { stream with upcoming := rest, lastStop := token.span.stop }

/-- A parser: a function from a token stream to a value and the rest of the
stream. -/
abbrev Parser (α : Type) := StateT TokenStream (Except ParseError) α

namespace Parser

/-- Look at the next token. -/
def peek : Parser Token := fun stream => .ok (stream.head, stream)

/-- Take the next token. -/
def next : Parser Token := fun stream => .ok (stream.head, stream.tail)

/-- The offset after the token taken last. -/
def lastStop : Parser Nat := fun stream => .ok (stream.lastStop, stream)

/-- Fail for a cause at a place. -/
def fail (cause : ParseError.Cause) (position : Position) : Parser α :=
  fun _ => .error ⟨cause, position⟩

/-- Fail at the next token for a cause that may name it. -/
def failHere (cause : Token → ParseError.Cause) : Parser α :=
  fun stream => .error ⟨cause stream.head, stream.head.span.position⟩

/-- Fail because something else was expected. -/
def unexpected (what : String) : Parser α :=
  failHere (.expected what)

/-- Take the next token, which must be of the given kind. -/
def expect (kind : TokenKind) : Parser Token := do
  if (← peek).kind == kind then next else unexpected kind.description

/-- Declare an alias. -/
def declareAlias (name : String) (position : Position) : Parser Unit :=
  fun stream =>
  if stream.aliases.contains name then .error ⟨.duplicateAlias name, position⟩
  else .ok ((), { stream with aliases := stream.aliases ++ [name] })

end Parser

end LiveMarkup
